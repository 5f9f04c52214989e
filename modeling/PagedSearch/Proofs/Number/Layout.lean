import PagedSearch.Json.Number

/-!
# Characters of numbers

The JSON text of a number, whole or not, has no characters but digits, signs, the
point and the exponent letter (`JsonNumber.isNumeral_text`).
-/
namespace PagedSearch

/-- A character that numbers are written with. -/
inductive IsNumeral : Char → Prop where
  | digit {c : Char} (digit : c.isDigit = true) : IsNumeral c
  | minus : IsNumeral '-'
  | plus : IsNumeral '+'
  | point : IsNumeral '.'
  | exponent : IsNumeral 'e'

theorem isNumeral_iff {c : Char} :
    IsNumeral c ↔ c.isDigit = true ∨ c ∈ ['-', '+', '.', 'e'] := by
  constructor
  · intro numeral
    cases numeral with
    | digit digit => exact .inl digit
    | minus => exact .inr (by decide)
    | plus => exact .inr (by decide)
    | point => exact .inr (by decide)
    | exponent => exact .inr (by decide)
  · rintro (digit | mark)
    · exact .digit digit
    · simp only [List.mem_cons, List.not_mem_nil, or_false] at mark
      rcases mark with rfl | rfl | rfl | rfl
      · exact .minus
      · exact .plus
      · exact .point
      · exact .exponent

instance (c : Char) : Decidable (IsNumeral c) :=
  decidable_of_iff _ isNumeral_iff.symm

theorem isNumeral_of_mem_zeros {n : Nat} {c : Char} (member : c ∈ List.replicate n '0') :
    IsNumeral c := by
  rw [List.eq_of_mem_replicate member]
  exact .digit (by decide)

theorem isNumeral_of_mem_decimal {n : Nat} {c : Char} (member : c ∈ Text.decimal n) :
    IsNumeral c :=
  .digit (Text.isDigit_of_mem_decimal member)

namespace Shortest

theorem isDigit_of_mem_digitsOf {n : Nat} {step : Int} {c : Char}
    (member : c ∈ (digitsOf n step).digits) : c.isDigit = true := by
  have kept := (List.dropWhile_sublist _).subset (List.mem_reverse.mp member)
  exact Text.isDigit_of_mem_decimal (List.mem_reverse.mp kept)

theorem isDigit_of_mem_shortestDigits {tie : Tie} {magnitude : Nat} {c : Char}
    (member : c ∈ (shortestDigits tie magnitude).digits) : c.isDigit = true := by
  unfold shortestDigits at member
  dsimp only at member
  cases found : (List.range 17).findSome? (fun count : Nat =>
      let step := pointOf (unitsOfMagnitude magnitude) - (count + 1 : Nat)
      (onGrid? tie magnitude step).map fun n => digitsOf n step) with
  | none =>
    rw [found] at member
    cases member
  | some digits =>
    rw [found] at member
    obtain ⟨count, -, grid⟩ := List.exists_of_findSome?_eq_some found
    obtain ⟨n, -, rfl⟩ := Option.map_eq_some_iff.mp grid
    exact isDigit_of_mem_digitsOf member

end Shortest

namespace DecimalDigits

variable {d : DecimalDigits}

theorem isNumeral_of_mem_positional (digits : ∀ c ∈ d.digits, c.isDigit = true) :
    ∀ c ∈ d.positional ['.', '0'], IsNumeral c := by
  have written : ∀ c ∈ d.digits, IsNumeral c := fun c member => .digit (digits c member)
  unfold positional
  split
  next =>
    simp only [List.forall_mem_cons, List.forall_mem_append]
    exact ⟨.digit (by decide), .point, fun _ => isNumeral_of_mem_zeros, written⟩
  next =>
    dsimp only
    split
    next =>
      simp only [List.forall_mem_cons, List.forall_mem_append]
      exact ⟨⟨written, fun _ => isNumeral_of_mem_zeros⟩, .point, .digit (by decide),
        fun _ member => by cases member⟩
    next =>
      simp only [List.forall_mem_cons, List.forall_mem_append]
      exact ⟨fun c member => written c (List.mem_of_mem_take member), .point,
        fun c member => written c (List.mem_of_mem_drop member)⟩

theorem isNumeral_of_mem_scientific (digits : ∀ c ∈ d.digits, c.isDigit = true) :
    ∀ c ∈ d.scientific, IsNumeral c := by
  have written : ∀ c ∈ d.digits, IsNumeral c := fun c member => .digit (digits c member)
  have first : ∀ c ∈ d.digits.take 1, IsNumeral c :=
    fun c member => written c (List.mem_of_mem_take member)
  have others : ∀ c ∈ d.digits.drop 1, IsNumeral c :=
    fun c member => written c (List.mem_of_mem_drop member)
  have sign : IsNumeral (if d.point - 1 < 0 then '-' else '+') := by
    split
    next => exact .minus
    next => exact .plus
  unfold scientific
  simp only [List.forall_mem_cons, List.forall_mem_append]
  refine ⟨⟨first, ?_⟩, .exponent, sign, fun _ => isNumeral_of_mem_decimal⟩
  split
  next => exact fun _ member => by cases member
  next => exact List.forall_mem_cons.mpr ⟨.point, others⟩

theorem json_ne_nil (d : DecimalDigits) : d.json ≠ [] := by
  unfold json
  split
  next =>
    unfold positional
    split
    next => exact List.cons_ne_nil _ _
    next =>
      dsimp only
      split <;> simp
  next =>
    unfold scientific
    simp

end DecimalDigits

namespace JsonNumber

theorem isNumeral_text (n : JsonNumber) : ∀ c ∈ n.text, IsNumeral c := by
  cases n with
  | whole n =>
    change ∀ c ∈ Text.decimalInt n, IsNumeral c
    unfold Text.decimalInt
    split
    next => exact List.forall_mem_cons.mpr ⟨.minus, fun _ => isNumeral_of_mem_decimal⟩
    next => exact fun _ => isNumeral_of_mem_decimal
  | real x =>
    have size : ∀ c ∈ if x.magnitude = 0 then ['0', '.', '0']
        else (shortestDigits .even x.magnitude).json, IsNumeral c := by
      split
      next =>
        simp only [List.forall_mem_cons]
        exact ⟨.digit (by decide), .point, .digit (by decide), fun _ member => by cases member⟩
      next =>
        have digits : ∀ c ∈ (shortestDigits .even x.magnitude).digits, c.isDigit = true :=
          fun _ => Shortest.isDigit_of_mem_shortestDigits
        unfold DecimalDigits.json
        split
        next => exact DecimalDigits.isNumeral_of_mem_positional digits
        next => exact DecimalDigits.isNumeral_of_mem_scientific digits
    change ∀ c ∈ x.json, IsNumeral c
    unfold Binary64.json Binary64.signed
    split
    next => exact List.forall_mem_cons.mpr ⟨.minus, size⟩
    next => exact size

theorem text_ne_nil (n : JsonNumber) : n.text ≠ [] := by
  cases n with
  | whole n =>
    change Text.decimalInt n ≠ []
    unfold Text.decimalInt
    split
    next => exact List.cons_ne_nil _ _
    next => exact Text.decimal_ne_nil _
  | real x =>
    change x.json ≠ []
    unfold Binary64.json Binary64.signed
    split
    next => exact List.cons_ne_nil _ _
    next =>
      split
      next => exact List.cons_ne_nil _ _
      next => exact DecimalDigits.json_ne_nil _

end JsonNumber

end PagedSearch
