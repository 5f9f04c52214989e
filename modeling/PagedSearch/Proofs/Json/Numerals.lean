import PagedSearch.Json.Reader
import PagedSearch.Proofs.Number.Layout
import PagedSearch.Proofs.Text.Digits

/-!
# JSON numbers inside a text

What is read at the front of a text does not change when a comma or a closing
bracket follows (`takeNumeral?_append`). So a number whose text is read back when
it stands alone (`JsonNumber.ReadsBack`) is also read back inside an array or an
object (`ReadsBack.take?_append`).
-/
namespace PagedSearch

namespace JsonNumber

/-- The JSON text of the number, standing alone, is read as the number. -/
def ReadsBack (n : JsonNumber) : Prop :=
  Node.read? n.text = some (.number (some n))

/-- The JSON text of the number, standing alone, is read as this number. -/
def ReadsAs (n m : JsonNumber) : Prop :=
  Node.read? n.text = some (.number (some m))

end JsonNumber

namespace Node

/-- The text ends, or goes on with a comma or a closing bracket. -/
def Closes (rest : List Char) : Prop :=
  ∀ c ∈ rest.head?, c = ',' ∨ c = ']' ∨ c = '\x7d'

theorem closes_cons {c : Char} (mark : c = ',' ∨ c = ']' ∨ c = '\x7d') (rest : List Char) :
    Closes (c :: rest) := by
  intro d head
  rw [← Option.some.inj head]
  exact mark

/-- Only blanks are skipped. -/
theorem skipSpace_cons {c : Char} (solid : c ∉ [' ', '\n', '\t', '\r']) (s : List Char) :
    skipSpace (c :: s) = c :: s := by
  simp only [List.mem_cons, List.not_mem_nil, or_false, not_or] at solid
  exact List.dropWhile_cons_of_neg (by simp [solid])

theorem takeMinus_append {s : List Char} (taken : s ≠ []) (rest : List Char) :
    takeMinus (s ++ rest) = ((takeMinus s).1, (takeMinus s).2 ++ rest) := by
  cases s with
  | nil => exact absurd rfl taken
  | cons c s =>
    unfold takeMinus
    split <;> simp_all

theorem takeExponentSign_append {s : List Char} (taken : s ≠ []) (rest : List Char) :
    takeExponentSign (s ++ rest) =
      ((takeExponentSign s).1, (takeExponentSign s).2 ++ rest) := by
  cases s with
  | nil => exact absurd rfl taken
  | cons c s =>
    unfold takeExponentSign
    split <;> simp_all

section

variable {rest : List Char} (closes : Closes rest)

include closes

theorem Closes.endsDigits : Text.EndsDigits rest := by
  intro c head
  rcases closes c head with rfl | rfl | rfl <;> decide

/-- Digits are taken up to the same place with the rest behind them. -/
theorem takeDigits_append (s : List Char) :
    Text.takeDigits (s ++ rest) = ((Text.takeDigits s).1, (Text.takeDigits s).2 ++ rest) := by
  induction s with
  | nil => exact Text.takeDigits_digits (by simp) closes.endsDigits
  | cons c s ih =>
    simp only [Text.takeDigits, Prod.mk.injEq] at ih
    cases digit : c.isDigit with
    | true => simp [Text.takeDigits, digit, ih.1, ih.2]
    | false => simp [Text.takeDigits, digit]

theorem takeWholePart?_append {s digits after : List Char}
    (read : takeWholePart? s = some (digits, after)) :
    takeWholePart? (s ++ rest) = some (digits, after ++ rest) := by
  cases s with
  | nil => cases read
  | cons c s =>
    by_cases zero : c = '0'
    · subst zero
      cases read
      rfl
    · have plain : ∀ tail, takeWholePart? (c :: tail) =
          if (Text.takeDigits (c :: tail)).1 = [] then none
          else some (Text.takeDigits (c :: tail)) := by
        intro tail
        rw [takeWholePart?.eq_def]
        split
        next head => cases head; exact absurd rfl zero
        next => rfl
      rw [plain] at read
      rw [List.cons_append, plain, ← List.cons_append, takeDigits_append closes]
      split at read
      next => cases read
      next filled =>
        rw [if_neg filled]
        simp only [Option.some.inj read]

theorem takeFractionPart?_append {s after : List Char} {fraction : Option (List Char)}
    (read : takeFractionPart? s = some (fraction, after)) :
    takeFractionPart? (s ++ rest) = some (fraction, after ++ rest) := by
  have plain : ∀ {c : Char}, c ≠ '.' → ∀ tail,
      takeFractionPart? (c :: tail) = some (none, c :: tail) := by
    intro c other tail
    rw [takeFractionPart?.eq_def]
    split
    next head => cases head; exact absurd rfl other
    next => rfl
  cases s with
  | nil =>
    cases read
    cases rest with
    | nil => rfl
    | cons c rest =>
      exact plain (by rcases closes c rfl with rfl | rfl | rfl <;> decide) rest
  | cons c s =>
    by_cases point : c = '.'
    · subst point
      simp only [List.cons_append, takeFractionPart?, takeDigits_append closes] at read ⊢
      split at read
      next => cases read
      next filled =>
        cases read
        rw [if_neg filled]
    · rw [plain point] at read
      cases read
      exact plain point (s ++ rest)

theorem takeExponentPart?_append {s after : List Char} {exponent : Option Int}
    (read : takeExponentPart? s = some (exponent, after)) :
    takeExponentPart? (s ++ rest) = some (exponent, after ++ rest) := by
  cases s with
  | nil =>
    cases read
    cases rest with
    | nil => rfl
    | cons c rest =>
      rw [List.nil_append, takeExponentPart?,
        if_neg (by rcases closes c rfl with rfl | rfl | rfl <;> decide)]
  | cons c s =>
    by_cases letter : c = 'e' ∨ c = 'E'
    · have taken : s ≠ [] := by
        rintro rfl
        simp [takeExponentPart?, letter, takeExponentSign, Text.takeDigits] at read
      simp only [List.cons_append, takeExponentPart?, letter, if_true,
        takeExponentSign_append taken, takeDigits_append closes] at read ⊢
      split at read
      next => cases read
      next filled =>
        cases read
        rw [if_neg filled]
    · rw [takeExponentPart?, if_neg letter] at read
      cases read
      rw [List.cons_append, takeExponentPart?, if_neg letter]

/-- A numeral is read alike with a comma or a closing bracket behind it. -/
theorem takeNumeral?_append {s after : List Char} {numeral : Numeral}
    (read : takeNumeral? s = some (numeral, after)) :
    takeNumeral? (s ++ rest) = some (numeral, after ++ rest) := by
  have taken : s ≠ [] := by
    rintro rfl
    cases read
  simp only [takeNumeral?, Option.bind_eq_bind, Option.pure_def, Option.bind_eq_some_iff,
    Prod.exists] at read ⊢
  obtain ⟨whole, s₁, wholeRead, fraction, s₂, fractionRead, exponent, s₃, exponentRead, same⟩ :=
    read
  rw [Option.some.injEq, Prod.mk.injEq] at same
  obtain ⟨rfl, rfl⟩ := same
  rw [takeMinus_append taken]
  exact ⟨whole, _, takeWholePart?_append closes wholeRead, fraction, _,
    takeFractionPart?_append closes fractionRead, exponent, _,
    takeExponentPart?_append closes exponentRead, rfl⟩

end

/-! What stands behind a numeral is the end of the text. -/

theorem takeDigits_suffix (s : List Char) : (Text.takeDigits s).2 <:+ s :=
  List.dropWhile_suffix _

theorem takeMinus_suffix (s : List Char) : (takeMinus s).2 <:+ s := by
  unfold takeMinus
  split
  next => exact List.suffix_cons _ _
  next => exact List.suffix_rfl

theorem takeWholePart?_suffix {s digits after : List Char}
    (read : takeWholePart? s = some (digits, after)) : after <:+ s := by
  unfold takeWholePart? at read
  split at read
  next =>
    cases read
    exact List.suffix_cons _ _
  next =>
    dsimp only at read
    split at read
    next => cases read
    next =>
      cases read
      exact takeDigits_suffix s

theorem takeFractionPart?_suffix {s after : List Char} {fraction : Option (List Char)}
    (read : takeFractionPart? s = some (fraction, after)) : after <:+ s := by
  unfold takeFractionPart? at read
  split at read
  next rest =>
    dsimp only at read
    split at read
    next => cases read
    next =>
      cases read
      exact (takeDigits_suffix rest).trans (List.suffix_cons _ _)
  next =>
    cases read
    exact List.suffix_rfl

theorem takeExponentSign_suffix (s : List Char) : (takeExponentSign s).2 <:+ s := by
  unfold takeExponentSign
  split
  next => exact List.suffix_cons _ _
  next => exact List.suffix_cons _ _
  next => exact List.suffix_rfl

theorem takeExponentPart?_suffix {s after : List Char} {exponent : Option Int}
    (read : takeExponentPart? s = some (exponent, after)) : after <:+ s := by
  cases s with
  | nil =>
    cases read
    exact List.suffix_rfl
  | cons c s =>
    unfold takeExponentPart? at read
    dsimp only at read
    split at read
    next =>
      split at read
      next => cases read
      next =>
        cases read
        exact ((takeDigits_suffix _).trans (takeExponentSign_suffix s)).trans
          (List.suffix_cons _ _)
    next =>
      cases read
      exact List.suffix_rfl

theorem takeNumeral?_suffix {s after : List Char} {numeral : Numeral}
    (read : takeNumeral? s = some (numeral, after)) : after <:+ s := by
  simp only [takeNumeral?, Option.bind_eq_bind, Option.pure_def, Option.bind_eq_some_iff,
    Prod.exists] at read
  obtain ⟨whole, s₁, wholeRead, fraction, s₂, fractionRead, exponent, s₃, exponentRead, same⟩ :=
    read
  rw [Option.some.injEq, Prod.mk.injEq] at same
  obtain ⟨-, rfl⟩ := same
  exact (((takeExponentPart?_suffix exponentRead).trans
    (takeFractionPart?_suffix fractionRead)).trans
      (takeWholePart?_suffix wholeRead)).trans (takeMinus_suffix s)

end Node

namespace IsNumeral

variable {c : Char}

theorem skipSpace_cons (numeral : IsNumeral c) (s : List Char) :
    Node.skipSpace (c :: s) = c :: s := by
  have solid : ∀ d ∈ [' ', '\n', '\t', '\r'], ¬ IsNumeral d := by
    simp only [List.forall_mem_cons]
    exact ⟨by decide, by decide, by decide, by decide, by simp⟩
  exact Node.skipSpace_cons (fun space => solid c space numeral) s

/-- No other kind of value begins with a character of numbers. -/
theorem take?_cons (numeral : IsNumeral c) (fuel : Nat) (s : List Char) :
    Node.take? (fuel + 1) (c :: s) = (Node.takeNumeral? (c :: s)).map
      fun (numeral, rest) => (.number numeral.value?, rest) := by
  rw [Node.take?.eq_def]
  simp only [numeral.skipSpace_cons]
  split
  next head => cases head; exact absurd numeral (by decide)
  next head => cases head; exact absurd numeral (by decide)
  next head => cases head; exact absurd numeral (by decide)
  next =>
    rw [Node.takeScalar?.eq_def]
    split
    next head => cases head; exact absurd numeral (by decide)
    next head => cases head; exact absurd numeral (by decide)
    next head => cases head; exact absurd numeral (by decide)
    next => rfl

end IsNumeral

namespace JsonNumber

variable {n m : JsonNumber}

/-- What is read from the text of a number is a numeral. -/
theorem take?_text (n : JsonNumber) (fuel : Nat) (rest : List Char) :
    Node.take? (fuel + 1) (n.text ++ rest) = (Node.takeNumeral? (n.text ++ rest)).map
      fun (numeral, rest) => (.number numeral.value?, rest) := by
  have numerals := isNumeral_text n
  cases text : n.text with
  | nil => exact absurd text n.text_ne_nil
  | cons c s =>
    rw [text] at numerals
    exact (numerals c List.mem_cons_self).take?_cons fuel (s ++ rest)

theorem read?_text (n : JsonNumber) :
    Node.read? n.text = (Node.takeNumeral? n.text).bind fun (numeral, rest) =>
      if Node.skipSpace rest = [] then some (.number numeral.value?) else none := by
  have start := n.take?_text (2 * n.text.length) []
  rw [List.append_nil] at start
  rw [Node.read?, start]
  cases Node.takeNumeral? n.text <;> rfl

/-- The numeral that a number is read as alone. No blank of the text is left behind it,
as texts of numbers have none. -/
theorem ReadsAs.numeral (alone : n.ReadsAs m) :
    ∃ numeral, Node.takeNumeral? n.text = some (numeral, []) ∧ numeral.value? = some m := by
  rw [ReadsAs, read?_text] at alone
  obtain ⟨⟨numeral, after⟩, read, ended⟩ := Option.bind_eq_some_iff.mp alone
  have solid : Node.skipSpace after = after := by
    cases after with
    | nil => rfl
    | cons c after =>
      have member := (Node.takeNumeral?_suffix read).subset List.mem_cons_self
      exact (isNumeral_text n c member).skipSpace_cons after
  dsimp only at ended
  rw [solid] at ended
  split at ended
  next empty =>
    subst empty
    simp only [Option.some.injEq, Node.number.injEq] at ended
    exact ⟨numeral, read, ended⟩
  next => cases ended

theorem readsAs_of_numeral {numeral : Numeral}
    (read : Node.takeNumeral? n.text = some (numeral, [])) (value : numeral.value? = some m) :
    n.ReadsAs m := by
  rw [ReadsAs, read?_text, read, Option.bind_some]
  dsimp only
  rw [value]
  exact if_pos rfl

/-- What a number is read as alone can be computed from its numeral. -/
theorem readsAs_iff : n.ReadsAs m ↔
    (Node.takeNumeral? n.text).bind (fun read => if read.2 = [] then read.1.value? else none) =
      some m := by
  constructor
  · intro alone
    obtain ⟨numeral, read, value⟩ := alone.numeral
    rw [read, Option.bind_some, if_pos rfl, value]
  · intro computed
    obtain ⟨⟨numeral, after⟩, read, value⟩ := Option.bind_eq_some_iff.mp computed
    split at value
    next ended =>
      rw [show after = [] from ended] at read
      exact readsAs_of_numeral read value
    next => cases value

instance (n m : JsonNumber) : Decidable (n.ReadsAs m) :=
  decidable_of_iff _ readsAs_iff.symm

instance (n : JsonNumber) : Decidable n.ReadsBack :=
  inferInstanceAs (Decidable (n.ReadsAs n))

/-- A number is read alike in front of a comma or a closing bracket. -/
theorem ReadsAs.take?_append (alone : n.ReadsAs m) (fuel : Nat) {rest : List Char}
    (closes : Node.Closes rest) :
    Node.take? (fuel + 1) (n.text ++ rest) = some (.number (some m), rest) := by
  obtain ⟨numeral, read, value⟩ := alone.numeral
  simp only [take?_text, Node.takeNumeral?_append closes read, Option.map_some, value,
    List.nil_append]

end JsonNumber

end PagedSearch
