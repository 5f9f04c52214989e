import PagedSearch.Sql.Pattern
import PagedSearch.Criteria.Selection
import Mathlib.Data.List.Infix

/-!
# Meaning of LIKE patterns

When a text is like a pattern, as a relation with one rule for each kind of
pattern character. The relation speaks of whole texts and knows nothing of how
patterns are made. Against it, an escaped text matches itself and nothing else
(`like_literal_append_iff`), and the pattern of an operator matches what the
operator finds (`like_pattern_iff`). `likes` decides the relation.
-/
namespace PagedSearch

namespace Sql

/-- A character that stands for itself in a pattern. -/
def IsOrdinary (c : Char) : Prop :=
  c ≠ anyRun ∧ c ≠ anyOne ∧ c ≠ escapeMark

/-- A whole text is like a pattern. -/
inductive Like : List Char → List Char → Prop where
  | done : Like [] []
  | run {pattern rest : List Char} (skipped : List Char) (later : Like pattern rest) :
      Like (anyRun :: pattern) (skipped ++ rest)
  | one {pattern rest : List Char} (c : Char) (later : Like pattern rest) :
      Like (anyOne :: pattern) (c :: rest)
  | escaped {pattern rest : List Char} (c : Char) (later : Like pattern rest) :
      Like (escapeMark :: c :: pattern) (c :: rest)
  | ordinary {pattern rest : List Char} (c : Char) (plain : IsOrdinary c)
      (later : Like pattern rest) : Like (c :: pattern) (c :: rest)

theorem like_nil_iff (text : List Char) : Like [] text ↔ text = [] :=
  ⟨fun h => by cases h; rfl, fun h => h ▸ .done⟩

/-- The four ways in which a pattern character is used up. -/
theorem like_cons_iff (c : Char) (pattern text : List Char) :
    Like (c :: pattern) text ↔
      (c = anyRun ∧ ∃ rest, rest <:+ text ∧ Like pattern rest) ∨
      (c = anyOne ∧ ∃ d rest, text = d :: rest ∧ Like pattern rest) ∨
      (c = escapeMark ∧ ∃ d later rest, pattern = d :: later ∧ text = d :: rest ∧
        Like later rest) ∨
      (IsOrdinary c ∧ ∃ rest, text = c :: rest ∧ Like pattern rest) := by
  constructor
  · intro h
    cases h with
    | run skipped later => exact .inl ⟨rfl, _, List.suffix_append _ _, later⟩
    | one d later => exact .inr (.inl ⟨rfl, d, _, rfl, later⟩)
    | escaped d later => exact .inr (.inr (.inl ⟨rfl, d, _, _, rfl, rfl, later⟩))
    | ordinary _ plain later => exact .inr (.inr (.inr ⟨plain, _, rfl, later⟩))
  · rintro (⟨rfl, rest, ⟨skipped, rfl⟩, later⟩ | ⟨rfl, d, rest, rfl, later⟩ |
      ⟨rfl, d, after, rest, rfl, rfl, later⟩ | ⟨plain, rest, rfl, later⟩)
    · exact .run skipped later
    · exact .one d later
    · exact .escaped d later
    · exact .ordinary c plain later

theorem like_run_iff (pattern text : List Char) :
    Like (anyRun :: pattern) text ↔ ∃ rest, rest <:+ text ∧ Like pattern rest := by
  simp [like_cons_iff, IsOrdinary, show anyRun ≠ anyOne by decide,
    show anyRun ≠ escapeMark by decide]

theorem like_one_iff (pattern text : List Char) :
    Like (anyOne :: pattern) text ↔ ∃ c rest, text = c :: rest ∧ Like pattern rest := by
  simp [like_cons_iff, IsOrdinary, show anyOne ≠ anyRun by decide,
    show anyOne ≠ escapeMark by decide]

theorem like_escaped_iff (c : Char) (pattern text : List Char) :
    Like (escapeMark :: c :: pattern) text ↔ ∃ rest, text = c :: rest ∧ Like pattern rest := by
  simp [like_cons_iff, IsOrdinary, show escapeMark ≠ anyRun by decide,
    show escapeMark ≠ anyOne by decide]

theorem like_ordinary_iff (c : Char) (plain : IsOrdinary c) (pattern text : List Char) :
    Like (c :: pattern) text ↔ ∃ rest, text = c :: rest ∧ Like pattern rest := by
  obtain ⟨notRun, notOne, notEscape⟩ := plain
  simp [like_cons_iff, IsOrdinary, notRun, notOne, notEscape]

/-- A mark at the end of a pattern has no character to escape, and nothing is like it. -/
theorem not_like_escape_end (text : List Char) : ¬ Like [escapeMark] text := by
  simp [like_cons_iff, IsOrdinary, show escapeMark ≠ anyRun by decide,
    show escapeMark ≠ anyOne by decide]

/-- An escaped text matches itself, whatever wildcards and marks it has. -/
theorem like_literal_append_iff (s pattern text : List Char) :
    Like (literalPattern s ++ pattern) text ↔ ∃ rest, text = s ++ rest ∧ Like pattern rest := by
  induction s generalizing text with
  | nil => simp [literalPattern]
  | cons c s ih =>
    have first : ∀ later, Like
        ((if c = anyRun ∨ c = anyOne ∨ c = escapeMark then [escapeMark, c] else [c]) ++ later)
        text ↔ ∃ rest, text = c :: rest ∧ Like later rest := by
      intro later
      split
      · exact like_escaped_iff c later text
      next plain =>
        simp only [not_or] at plain
        exact like_ordinary_iff c plain later text
    have split : literalPattern (c :: s) ++ pattern =
        (if c = anyRun ∨ c = anyOne ∨ c = escapeMark then [escapeMark, c] else [c]) ++
          (literalPattern s ++ pattern) := by
      simp [literalPattern]
    rw [split, first]
    simp only [ih]
    constructor
    · rintro ⟨_, rfl, rest, rfl, h⟩
      exact ⟨rest, rfl, h⟩
    · rintro ⟨rest, rfl, h⟩
      exact ⟨s ++ rest, rfl, rest, rfl, h⟩

theorem like_literal_iff (s text : List Char) : Like (literalPattern s) text ↔ text = s := by
  have h := like_literal_append_iff s [] text
  simpa [like_nil_iff] using h

theorem like_literal_run_iff (s text : List Char) :
    Like (literalPattern s ++ [anyRun]) text ↔ s <+: text := by
  rw [like_literal_append_iff]
  constructor
  · rintro ⟨rest, rfl, -⟩
    exact List.prefix_append s rest
  · rintro ⟨rest, rfl⟩
    exact ⟨rest, rfl, (like_run_iff [] rest).mpr ⟨[], List.nil_suffix, .done⟩⟩

/-- The pattern of an operator matches exactly the texts in which the operator finds the
upper-case form of the needle. -/
theorem like_pattern_iff (operator : Operator) (needle text : List Char) :
    Like (pattern operator needle) text ↔ operator.finds (Text.upper needle) text = true := by
  have somewhere : Like (anyRun :: (literalPattern (Text.upper needle) ++ [anyRun])) text ↔
      Text.hasRun (Text.upper needle) text = true := by
    rw [like_run_iff, Text.hasRun_iff]
    simp only [like_literal_run_iff]
    constructor
    · rintro ⟨_, ⟨before, rfl⟩, after, rfl⟩
      exact ⟨before, after, by simp⟩
    · rintro ⟨before, after, rfl⟩
      exact ⟨Text.upper needle ++ after, ⟨before, by simp⟩, after, rfl⟩
  cases operator with
  | startsWith =>
    rw [pattern, Operator.finds, like_literal_run_iff, List.isPrefixOf_iff_prefix]
  | endsWith =>
    rw [pattern, Operator.finds, like_run_iff, List.isSuffixOf_iff_suffix]
    simp only [like_literal_iff]
    constructor
    · rintro ⟨_, suffix, rfl⟩
      exact suffix
    · intro suffix
      exact ⟨_, suffix, rfl⟩
  | _ => exact somewhere

/-- Whether a text begins with a character and goes on in a given way. -/
def startsThen (c : Char) (goesOn : List Char → Bool) (text : List Char) : Bool :=
  text.head? == some c && goesOn text.tail

theorem startsThen_iff (c : Char) (goesOn : List Char → Bool) (text : List Char) :
    startsThen c goesOn text = true ↔ ∃ rest, text = c :: rest ∧ goesOn rest = true := by
  cases text with
  | nil => simp [startsThen]
  | cons d rest => simp [startsThen, and_assoc]

/-- Whether a whole text is like a pattern, by trying every end of the text behind a run. -/
def likes : List Char → List Char → Bool
  | [], text => text.isEmpty
  | '\\' :: c :: pattern, text => startsThen c (likes pattern) text
  | c :: pattern, text =>
    if c = anyRun then text.tails.any (likes pattern)
    else if c = anyOne then !text.isEmpty && likes pattern text.tail
    else c != escapeMark && startsThen c (likes pattern) text

theorem likes_iff : ∀ pattern text : List Char, likes pattern text = true ↔ Like pattern text
  | [], text => by simp [likes, like_nil_iff]
  | c :: pattern, text => by
    by_cases escape : c = escapeMark
    · subst escape
      match pattern with
      | [] =>
        have stuck : likes [escapeMark] text = false := by
          simp [likes, escapeMark, show '\\' ≠ anyRun by decide, show '\\' ≠ anyOne by decide]
        simp [stuck, not_like_escape_end]
      | d :: later =>
        have same := startsThen_iff d (likes later) text
        simp only [likes_iff later] at same
        exact same.trans (like_escaped_iff d later text).symm
    · have ih := likes_iff pattern
      rw [likes]
      split
      next run => simp [run, like_run_iff, ih]
      next notRun =>
        split
        next one =>
          rw [one, like_one_iff]
          cases text <;> simp [ih]
        next notOne =>
          rw [like_ordinary_iff c ⟨notRun, notOne, escape⟩]
          simp [escape, startsThen_iff, ih]
      exact fun _ _ same _ => absurd same escape

end Sql

end PagedSearch
