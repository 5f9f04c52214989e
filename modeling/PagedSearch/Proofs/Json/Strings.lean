import PagedSearch.Json.Printer
import PagedSearch.Json.Reader

/-!
# JSON strings read back

A string is read back from its escaped form, whatever stands behind its closing
quote (`takeString?_quote`). Each character gives one code back, by itself or out
of its escape (`takeCodes?_escapeChar`), and as no character is half of a surrogate
pair the codes are the characters again (`joinPairs?_map_toNat`).
-/
namespace PagedSearch

open Json (escapeChar hexDigit quote)

namespace Node

theorem hexValue?_hexDigit : ∀ n < 16, hexValue? (hexDigit n) = some n := by
  decide

/-- The four digits that stand for a control character. -/
theorem hexCode?_control {n : Nat} (control : n < 32) :
    hexCode? '0' '0' (hexDigit (n / 16)) (hexDigit (n % 16)) = some n := by
  have zero : hexValue? '0' = some 0 := by decide
  have high := hexValue?_hexDigit (n / 16) (by omega)
  have low := hexValue?_hexDigit (n % 16) (by omega)
  have sum : ((0 * 16 + 0) * 16 + n / 16) * 16 + n % 16 = n := by omega
  simp only [hexCode?, zero, high, low, Option.bind_eq_bind, Option.bind_some, Option.pure_def,
    sum]

/-- One more code in front of what is read. -/
def codeBefore (code : Nat) (read : Option (List Nat × List Char)) :
    Option (List Nat × List Char) :=
  read.map fun (codes, rest) => (code :: codes, rest)

/-- A character that needs no escape stands for itself. -/
theorem takeCodes?_plain {c : Char} (quote : c ≠ '"') (backslash : c ≠ '\\')
    (printable : ¬ c.toNat < 32) (rest : List Char) :
    takeCodes? (c :: rest) = codeBefore c.toNat (takeCodes? rest) := by
  rw [takeCodes?.eq_def]
  split
  next head => cases head
  next head => cases head; exact absurd rfl quote
  next head => cases head; exact absurd rfl backslash
  next head => cases head; exact absurd rfl backslash
  next head =>
    cases head
    rw [if_neg (by simp [printable, backslash])]
    cases takeCodes? rest <;> rfl

/-- A letter behind a backslash, other than the one before four digits. -/
theorem takeCodes?_letter {c : Char} {code : Nat} (letter : c ≠ 'u')
    (escape : escapeCode? c = some code) (rest : List Char) :
    takeCodes? ('\\' :: c :: rest) = codeBefore code (takeCodes? rest) := by
  rw [takeCodes?.eq_def]
  split
  next head => cases head
  next head => cases head
  next head => cases head; exact absurd rfl letter
  next head =>
    cases head
    rw [escape]
    cases takeCodes? rest <;> rfl
  next other head =>
    cases head
    exact (other c rest rfl rfl).elim

theorem takeCodes?_digits {a b c d : Char} {code : Nat} (digits : hexCode? a b c d = some code)
    (rest : List Char) :
    takeCodes? ('\\' :: 'u' :: a :: b :: c :: d :: rest) = codeBefore code (takeCodes? rest) := by
  rw [takeCodes?, digits]
  cases takeCodes? rest <;> rfl

/-- Every character is read back from its written form. -/
theorem takeCodes?_escapeChar (c : Char) (rest : List Char) :
    takeCodes? (escapeChar c ++ rest) = codeBefore c.toNat (takeCodes? rest) := by
  by_cases quote : c = '"'
  · subst quote
    exact takeCodes?_letter (by decide) (by decide) rest
  by_cases backslash : c = '\\'
  · subst backslash
    exact takeCodes?_letter (by decide) (by decide) rest
  by_cases newline : c = '\n'
  · subst newline
    exact takeCodes?_letter (by decide) (by decide) rest
  by_cases carriage : c = '\r'
  · subst carriage
    exact takeCodes?_letter (by decide) (by decide) rest
  by_cases tab : c = '\t'
  · subst tab
    exact takeCodes?_letter (by decide) (by decide) rest
  by_cases backspace : c = '\x08'
  · subst backspace
    exact takeCodes?_letter (by decide) (by decide) rest
  by_cases feed : c = '\x0c'
  · subst feed
    exact takeCodes?_letter (by decide) (by decide) rest
  simp only [escapeChar, quote, backslash, newline, carriage, tab, backspace, feed, if_false]
  split
  next control => exact takeCodes?_digits (hexCode?_control control) rest
  next printable => exact takeCodes?_plain quote backslash printable rest

/-- The codes of a string in its written form. -/
theorem takeCodes?_flatMap (s rest : List Char) :
    takeCodes? (s.flatMap escapeChar ++ '"' :: rest) = some (s.map Char.toNat, rest) := by
  induction s with
  | nil => rfl
  | cons c s ih =>
    rw [List.flatMap_cons, List.append_assoc, takeCodes?_escapeChar, ih]
    rfl

theorem isHalf_toNat (c : Char) : (isHighHalf c.toNat || isLowHalf c.toNat) = false := by
  have valid : c.toNat < 0xD800 ∨ 0xDFFF < c.toNat := by
    rcases c.valid with low | ⟨high, -⟩
    · exact .inl low
    · exact .inr high
  simp only [isHighHalf, isLowHalf]
  rcases valid with low | high <;> simp <;> omega

/-- The codes of characters join to the characters: none of them is half of a pair. -/
theorem joinPairs?_map_toNat (s : List Char) : joinPairs? (s.map Char.toNat) = some s := by
  induction s with
  | nil => rfl
  | cons c s ih =>
    have whole := isHalf_toNat c
    cases s with
    | nil => simp [joinPairs?, whole]
    | cons d s =>
      rw [Bool.or_eq_false_iff] at whole
      rw [List.map_cons, List.map_cons] at *
      simp [joinPairs?, whole.1, whole.2, ih]

/-- A string in its written form, up to its closing quote. -/
theorem takeString?_quote (s : String) (rest : List Char) :
    takeString? (s.toList.flatMap escapeChar ++ '"' :: rest) = some (some s, rest) := by
  simp [takeString?, takeCodes?_flatMap, joinPairs?_map_toNat]

end Node

end PagedSearch
