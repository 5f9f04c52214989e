import PagedSearch.Proofs.Sql.Like
import PagedSearch.Sql.Conjunction

/-!
# Needles in LIKE patterns

A pattern is a row of symbols: wildcards, and characters that stand for themselves,
each written with or without an escape mark. `symbols?` reads them, and reads nothing
from a pattern that ends in a mark with no character behind it; such a pattern matches
no text at all (`exists_like_iff`). The pattern of a client's needle reads as the
needle's characters, with wildcards around them only (`symbols?_pattern`), so it finds
the needle literally (`needle_found_literally`).
-/
namespace PagedSearch

namespace Sql

/-- What a place of a pattern stands for. -/
inductive Symbol where
  | anyRun | anyOne
  | literal (c : Char)
  deriving DecidableEq, Repr

/-- The symbol of a character that is not escaped and no escape mark. -/
def Symbol.plain (c : Char) : Symbol :=
  if c = Sql.anyRun then anyRun else if c = Sql.anyOne then anyOne else literal c

/-- The symbols of a pattern, none if it ends in a mark with no character to escape. -/
def symbols? : List Char → Option (List Symbol)
  | [] => some []
  | ['\\'] => none
  | '\\' :: c :: pattern => (symbols? pattern).map (.literal c :: ·)
  | c :: pattern => (symbols? pattern).map (.plain c :: ·)

theorem symbols?_escaped (c : Char) (pattern : List Char) :
    symbols? (escapeMark :: c :: pattern) = (symbols? pattern).map (.literal c :: ·) :=
  rfl

theorem symbols?_plain {c : Char} (bare : c ≠ escapeMark) (pattern : List Char) :
    symbols? (c :: pattern) = (symbols? pattern).map (.plain c :: ·) := by
  rw [symbols?.eq_def]
  split
  next empty => cases empty
  next mark => cases mark; exact absurd rfl bare
  next mark => cases mark; exact absurd rfl bare
  next same => cases same; rfl

/-- A pattern matches some text unless it ends in a mark with no character to escape. -/
theorem exists_like_iff : ∀ pattern : List Char,
    (∃ text, Like pattern text) ↔ (symbols? pattern).isSome = true
  | [] => ⟨fun _ => rfl, fun _ => ⟨[], .done⟩⟩
  | c :: pattern => by
    by_cases escape : c = escapeMark
    · subst escape
      match pattern with
      | [] => exact ⟨fun ⟨text, like⟩ => absurd like (not_like_escape_end text), nofun⟩
      | d :: later =>
        rw [symbols?_escaped, Option.isSome_map, ← exists_like_iff later]
        constructor
        · rintro ⟨text, like⟩
          obtain ⟨rest, -, behind⟩ := (like_escaped_iff d later text).mp like
          exact ⟨rest, behind⟩
        · rintro ⟨rest, like⟩
          exact ⟨d :: rest, .escaped d like⟩
    · rw [symbols?_plain escape, Option.isSome_map, ← exists_like_iff pattern]
      constructor
      · rintro ⟨text, like⟩
        rcases (like_cons_iff c pattern text).mp like with ⟨-, rest, -, behind⟩ |
          ⟨-, _, rest, -, behind⟩ | ⟨mark, -⟩ | ⟨-, rest, -, behind⟩
        · exact ⟨rest, behind⟩
        · exact ⟨rest, behind⟩
        · exact absurd mark escape
        · exact ⟨rest, behind⟩
      · rintro ⟨rest, like⟩
        by_cases run : c = anyRun
        · exact ⟨[] ++ rest, run ▸ .run [] like⟩
        · by_cases one : c = anyOne
          · exact ⟨' ' :: rest, one ▸ .one ' ' like⟩
          · exact ⟨c :: rest, .ordinary c ⟨run, one, escape⟩ like⟩

/-- An escaped text reads as its own characters, whatever wildcards and marks it has. -/
theorem symbols?_literalPattern_append (s pattern : List Char) :
    symbols? (literalPattern s ++ pattern) =
      (symbols? pattern).map (s.map Symbol.literal ++ ·) := by
  induction s with
  | nil => simp [literalPattern]
  | cons c s ih =>
    have behind : (symbols? (literalPattern s ++ pattern)).map (Symbol.literal c :: ·) =
        (symbols? pattern).map ((c :: s).map Symbol.literal ++ ·) := by
      rw [ih, Option.map_map]
      rfl
    rw [← behind]
    by_cases special : c = anyRun ∨ c = anyOne ∨ c = escapeMark
    · have written : literalPattern (c :: s) = escapeMark :: c :: literalPattern s := by
        simp [literalPattern, special]
      rw [written]
      exact symbols?_escaped c _
    · have written : literalPattern (c :: s) = c :: literalPattern s := by
        simp [literalPattern, special]
      simp only [not_or] at special
      have symbol : Symbol.plain c = .literal c := by
        rw [Symbol.plain, if_neg special.1, if_neg special.2.1]
      rw [written, List.cons_append, symbols?_plain special.2.2, symbol]

end Sql

namespace Operator

/-- The symbols that a pattern operator puts before and behind a needle. -/
def around (operator : Operator) : List Sql.Symbol × List Sql.Symbol :=
  match operator with
  | startsWith => ([], [.anyRun])
  | endsWith => ([.anyRun], [])
  | _ => ([.anyRun], [.anyRun])

/-- Where a pattern operator looks for a needle in a text. -/
def Locates (operator : Operator) (needle text : List Char) : Prop :=
  match operator with
  | startsWith => needle <+: text
  | endsWith => needle <:+ text
  | _ => needle <:+: text

theorem finds_iff (operator : Operator) (needle text : List Char) :
    operator.finds needle text = true ↔ operator.Locates needle text := by
  have somewhere : Text.hasRun needle text = true ↔ needle <:+: text := by
    rw [Text.hasRun_iff]
    constructor
    · rintro ⟨before, after, same⟩
      exact ⟨before, after, same.symm⟩
    · rintro ⟨before, after, same⟩
      exact ⟨before, after, same.symm⟩
  cases operator with
  | startsWith => exact List.isPrefixOf_iff_prefix
  | endsWith => exact List.isSuffixOf_iff_suffix
  | _ => exact somewhere

end Operator

namespace Sql

/-- The pattern of a needle reads as the needle's own characters, in upper case, with
wildcards around them and nowhere else. -/
theorem symbols?_pattern (operator : Operator) (needle : List Char) :
    symbols? (pattern operator needle) =
      some (operator.around.1 ++ (Text.upper needle).map .literal ++ operator.around.2) := by
  have run : symbols? [anyRun] = some [.anyRun] := by decide
  have closed := symbols?_literalPattern_append (Text.upper needle) [anyRun]
  have open_end := symbols?_literalPattern_append (Text.upper needle) []
  rw [run] at closed
  rw [List.append_nil] at open_end
  have led : ∀ pattern, symbols? (anyRun :: pattern) =
      (symbols? pattern).map (.anyRun :: ·) :=
    symbols?_plain (show anyRun ≠ escapeMark by decide)
  cases operator with
  | startsWith => exact closed
  | endsWith => exact (led _).trans (congrArg (Option.map _) open_end)
  | _ => exact (led _).trans (congrArg (Option.map _) closed)

/-- The test of a checked clause with a pattern operator matches its column with a pattern
of the client's needle. The pattern reads as the characters of the needle in upper case with
wildcards around them; no escape mark is left over at its end. Every text, in upper case, is
like it exactly if the needle in upper case is the beginning of the text, its end or a run
inside it, as the operator says. -/
theorem needle_found_literally (filter : Filter)
    (searches : filter.operator.searchesText = true) :
    ∃ written : String, Test.ofFilter filter = .like filter.field written ∧
      symbols? written.toList =
        some (filter.operator.around.1 ++
          (Text.upper filter.value.display.toList).map .literal ++ filter.operator.around.2) ∧
      ∀ text : String, Like written.toList (Text.upper text.toList) ↔
        filter.operator.Locates (Text.upper filter.value.display.toList)
          (Text.upper text.toList) := by
  refine ⟨String.ofList (pattern filter.operator filter.value.display.toList), ?_, ?_, ?_⟩
  · rw [Test.ofFilter, if_pos searches]
  · rw [String.toList_ofList]
    exact symbols?_pattern _ _
  · intro text
    rw [String.toList_ofList, like_pattern_iff, Operator.finds_iff]

/-- A needle that ends in an escape mark, and has both wildcards before it. The text has the
needle at its end in other case, and a text with other characters in the place of the
wildcards is not found. -/
theorem needle_found_literally_escape_end :
    Operator.endsWith.searchesText = true ∧ ∃ written : String,
      Test.ofFilter ⟨"label", .endsWith, .text, .text "a%_\\"⟩ = .like "label" written ∧
      Like written.toList (Text.upper "is A%_\\".toList) ∧
      ¬ Like written.toList (Text.upper "is abc\\".toList) := by
  obtain ⟨written, test, -, found⟩ :=
    needle_found_literally ⟨"label", .endsWith, .text, .text "a%_\\"⟩ rfl
  have there : Text.upper "a%_\\".toList <:+ Text.upper "is A%_\\".toList := by decide
  have missing : ¬ Text.upper "a%_\\".toList <:+ Text.upper "is abc\\".toList := by decide
  exact ⟨rfl, written, test, (found "is A%_\\").mpr there,
    fun like => missing ((found _).mp like)⟩

end Sql

end PagedSearch
