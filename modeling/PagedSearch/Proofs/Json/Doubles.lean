import PagedSearch.Proofs.Json.Scaled
import PagedSearch.Proofs.Json.WholeNumbers
import PagedSearch.Proofs.Number.ReadBack

/-!
# Doubles in JSON texts

A double is written with at most seventeen digits, so its numeral is a number of 64 bits
times a power of ten that the double is nearest to. What is read is near the double, but only
a numeral with few digits and a small power of ten is sure to be read back.
-/
namespace PagedSearch

open Text

namespace DecimalLiteral

/-- The coefficient of a literal before its power of ten. -/
def scaled (l : DecimalLiteral) : Numeral.Scaled :=
  ⟨l.coefficient, l.scale⟩

end DecimalLiteral

namespace Numeral

/-- The decimal literal of the same digits. -/
def literal (n : Numeral) : DecimalLiteral :=
  ⟨n.negative, n.whole, n.fraction.getD [], n.exponent.getD 0⟩

theorem next_digit (c : Char) (rest : List Char) (front : Nat) :
    front * 10 ^ (c :: rest).length + digitsValue (c :: rest) =
      (digitsValue [c] + 10 * front) * 10 ^ rest.length + digitsValue rest := by
  rw [← List.singleton_append, digitsValue_append, List.singleton_append, List.length_cons]
  ring

theorem le_of_fits {front back bound length : Nat} (fits : front * 10 ^ length + back ≤ bound) :
    front ≤ bound :=
  (Nat.le_mul_of_pos_right front (Nat.pow_pos (by decide))).trans
    ((Nat.le_add_right _ _).trans fits)

theorem takeWhole_of_fits {significand : Nat} {digits : List Char}
    (fits : significand * 10 ^ digits.length + digitsValue digits ≤ significandMax) :
    takeWhole significand digits =
      ⟨significand * 10 ^ digits.length + digitsValue digits, 0⟩ := by
  induction digits generalizing significand with
  | nil => simp [takeWhole, digitsValue]
  | cons c rest ih =>
    rw [next_digit] at fits ⊢
    rw [takeWhole, if_pos (le_of_fits fits), ih fits]

theorem takeFraction_of_fits {s : Scaled} {digits : List Char}
    (fits : s.significand * 10 ^ digits.length + digitsValue digits ≤ significandMax) :
    takeFraction s digits = ⟨s.significand * 10 ^ digits.length + digitsValue digits,
      s.exponent - digits.length⟩ := by
  induction digits generalizing s with
  | nil => simp [takeFraction, digitsValue]
  | cons c rest ih =>
    rw [next_digit] at fits ⊢
    have exponent : s.exponent - 1 - rest.length = s.exponent - (c :: rest).length := by
      rw [List.length_cons]
      omega
    rw [takeFraction, if_pos (le_of_fits fits), ih fits, exponent]

/-- No digit is left out of a number that fits 64 bits. -/
theorem scaled_of_fits {n : Numeral} (fits : n.literal.coefficient ≤ significandMax) :
    n.scaled = n.literal.scaled := by
  have all : digitsValue n.whole * 10 ^ (n.fraction.getD []).length +
      digitsValue (n.fraction.getD []) = n.literal.coefficient := (digitsValue_append _ _).symm
  have whole : takeWhole 0 n.whole = ⟨digitsValue n.whole, 0⟩ := by
    have inside : 0 * 10 ^ n.whole.length + digitsValue n.whole ≤ significandMax := by
      rw [Nat.zero_mul, Nat.zero_add]
      exact le_of_fits (all.trans_le fits)
    rw [takeWhole_of_fits inside, Nat.zero_mul, Nat.zero_add]
  rw [scaled, whole, takeFraction_of_fits (all.trans_le fits), all]
  simp only [DecimalLiteral.scaled, DecimalLiteral.scale, literal, Scaled.mk.injEq, true_and]
  omega

/-- A numeral with a fraction or an exponent is a double. -/
theorem value?_of_real {n : Numeral} (shown : n.fraction ≠ none ∨ n.exponent ≠ none) :
    n.value? = n.real?.map .real := by
  have whole : ¬ (n.fraction = none ∧ n.exponent = none) := by
    rintro ⟨noFraction, noExponent⟩
    exact shown.elim (· noFraction) (· noExponent)
  rw [value?, if_neg fun h => whole ⟨h.1, h.2.1⟩, if_neg fun h => whole ⟨h.1, h.2.1⟩]

end Numeral

namespace Node

open DecimalLiteral (SpellsSign SpellsFraction SpellsExponent Unsigned unsigned_of_digits)

theorem takeExponentSign_append_digits {sign digits : List Char} {negative : Bool}
    (inSign : SpellsSign sign negative) (unsigned : Unsigned digits) :
    takeExponentSign (sign ++ digits) = (negative, digits) := by
  cases inSign with
  | none =>
    rw [List.nil_append, takeExponentSign.eq_def]
    split
    next => exact absurd rfl (unsigned '+' rfl).2
    next => exact absurd rfl (unsigned '-' rfl).1
    next => rfl
  | plus => rfl
  | minus => rfl

theorem takeFractionPart?_of_spells {point fraction rest : List Char}
    (behindPoint : SpellsFraction point fraction) (filled : point ≠ [] → fraction ≠ [])
    (ends : EndsDigits rest) (other : ∀ c ∈ rest.head?, c ≠ '.') :
    takeFractionPart? (point ++ rest) =
      some (if point = [] then none else some fraction, rest) := by
  cases behindPoint with
  | none =>
    rw [List.nil_append, takeFractionPart?.eq_def]
    split
    next => exact absurd rfl (other '.' rfl)
    next => rfl
  | point digit =>
    have some_digit := filled (List.cons_ne_nil _ _)
    simp [takeFractionPart?, takeDigits_digits digit ends, some_digit]

theorem takeExponentPart?_of_spells {power : List Char} {exponent : Int}
    (atPower : SpellsExponent power exponent) :
    takeExponentPart? power = some (if power = [] then none else some exponent, []) := by
  cases atPower with
  | none => rfl
  | letter letter inSign digit filled =>
    have unsigned := @unsigned_of_digits _ [] digit filled
    have all := takeDigits_digits digit (show EndsDigits [] from nofun)
    rw [List.append_nil] at unsigned all
    simp [takeExponentPart?, letter, takeExponentSign_append_digits inSign unsigned, all, filled]

/-- The text of digits in a JSON layout is one numeral of the same literal. -/
theorem takeNumeral?_of_laidOut {d : DecimalDigits} {spare : Nat} {s : List Char}
    {l : DecimalLiteral} (laid : d.LaidOut spare True s l) (leading : d.digits.head? ≠ some '0')
    (negative : Bool) :
    ∃ n : Numeral, takeNumeral? (if negative then '-' :: s else s) = some (n, []) ∧
      n.literal = { l with negative } ∧ (n.fraction ≠ none ∨ n.exponent ≠ none) := by
  obtain @⟨whole, fraction, point, power, exponent, _, _, digit, nonempty, head, behindPoint,
    filled, atPower, shown, -, -, -⟩ := laid
  have first : whole = ['0'] ∨ whole.head? ≠ some '0' := head.imp_right fun same => by rwa [same]
  have ends := behindPoint.endsDigits_append atPower.head.1
  refine ⟨⟨negative, whole, if point = [] then none else some fraction,
    if power = [] then none else some exponent⟩, ?read, ?literal, ?real⟩
  case read =>
    simp only [takeNumeral?, takeMinus_signed negative (unsigned_of_digits digit nonempty),
      takeWholePart?_digits digit nonempty first ends,
      takeFractionPart?_of_spells behindPoint filled atPower.head.1 atPower.head.2,
      takeExponentPart?_of_spells atPower, Option.bind_eq_bind, Option.bind_some, Option.pure_def]
  case literal =>
    have fractionDigits : (if point = [] then none else some fraction).getD [] = fraction := by
      cases behindPoint <;> rfl
    have exponentSize : (if power = [] then none else some exponent).getD 0 = exponent := by
      cases atPower <;> rfl
    rw [Numeral.literal, fractionDigits, exponentSize]
  case real =>
    exact (shown trivial).imp (fun point => by simp [point]) fun power => by simp [power]

end Node

namespace Binary64

/-- The double that the JSON text of a double is read as. -/
def reread? (x : Binary64) : Option Binary64 :=
  match (Node.takeNumeral? x.json).bind fun read =>
    if read.2 = [] then read.1.value? else none with
  | some (.real y) => some y
  | _ => none

theorem reread?_eq_some_iff {x y : Binary64} :
    x.reread? = some y ↔ (JsonNumber.real x).ReadsAs (.real y) := by
  rw [JsonNumber.readsAs_iff, reread?, show (JsonNumber.real x).text = x.json from rfl]
  split
  next read => rw [read, Option.some.injEq, Option.some.injEq, JsonNumber.real.injEq]
  next other => exact ⟨nofun, fun read => absurd read (other y)⟩

/-- At the end of the doubles a result could be rounded beyond them. It is computed that it is
not. -/
theorem reread?_last : ∀ negative, ∀ k < 4, ∀ finite : magnitudeBound - (k + 1) < magnitudeBound,
    (do let l ← DecimalLiteral.read? (json ⟨negative, magnitudeBound - (k + 1), finite⟩)
        let y ← reread? ⟨negative, magnitudeBound - (k + 1), finite⟩
        return decide (Near l.scaled.roundings ⟨negative, magnitudeBound - (k + 1), finite⟩ y)) =
      some true := by
  decide +kernel

/-- A double above zero is written as one numeral of 64 bits, which it is nearest to. -/
theorem exists_numeral {x : Binary64} (pos : 0 < x.magnitude) :
    ∃ n : Numeral, Node.takeNumeral? x.json = some (n, []) ∧
      DecimalLiteral.Spells x.json n.literal ∧ (n.fraction ≠ none ∨ n.exponent ≠ none) ∧
      n.negative = x.negative ∧ n.literal.coefficient ≤ Numeral.significandMax ∧
      IsNearest x.magnitude (n.literal.value * unitsPerOne) := by
  have digits : ∀ c ∈ (shortestDigits .even x.magnitude).digits, c.isDigit = true :=
    fun _ => Shortest.isDigit_of_mem_shortestDigits
  have filled := shortestDigits_ne_nil .even pos
  obtain ⟨short, leading⟩ := shortestDigits_digits .even pos
  have nearest := shortestDigits_nearest .even pos
  have text : x.json = if x.negative then '-' :: (shortestDigits .even x.magnitude).json
      else (shortestDigits .even x.magnitude).json := by
    rw [json, signed, if_neg pos.ne']
  generalize shortestDigits .even x.magnitude = d at *
  obtain ⟨l, laid⟩ := DecimalDigits.laidOut_json digits filled
  obtain ⟨n, taken, literal, shown⟩ := Node.takeNumeral?_of_laidOut laid leading x.negative
  obtain ⟨more, spare, coefficient, -⟩ := laid.coefficient
  have few : l.coefficient ≤ Numeral.significandMax :=
    calc l.coefficient = digitsValue d.digits * 10 ^ more := coefficient
      _ ≤ 10 ^ d.digits.length * 10 ^ more :=
        Nat.mul_le_mul_right _ (digitsValue_lt digits).le
      _ = 10 ^ (d.digits.length + more) := (Nat.pow_add _ _ _).symm
      _ ≤ 10 ^ 18 := Nat.pow_le_pow_right (by decide) (by omega)
      _ ≤ Numeral.significandMax := by decide
  rw [text]
  refine ⟨n, taken, ?_, shown, ?_, ?_, ?_⟩
  · rw [literal]
    exact laid.spellsUnsigned.signed x.negative
  · exact congrArg DecimalLiteral.negative literal
  · rw [literal]
    exact few
  · rw [literal]
    exact laid.value ▸ nearest

/-- What the JSON text of a double is read as is a double of its sign, at most as many places
away as results were rounded on the way. -/
theorem exists_reread? (x : Binary64) :
    ∃ y, x.reread? = some y ∧
      ∀ l, DecimalLiteral.Spells x.json l → x.Near l.scaled.roundings y := by
  rcases Nat.eq_zero_or_pos x.magnitude with zero | pos
  · have back : ∀ negative, reread? (.zero negative) = some (.zero negative) := by decide +kernel
    have same : x = .zero x.negative := eq_iff.mpr ⟨rfl, zero⟩
    generalize x.negative = negative at same
    subst same
    exact ⟨_, back _, fun l _ => ⟨rfl, Nat.le_add_right _ _, Nat.le_add_right _ _⟩⟩
  rcases Nat.lt_or_ge (x.magnitude + 4) magnitudeBound with room | last
  · obtain ⟨n, taken, spelled, shown, sign, bits, nearest⟩ := exists_numeral pos
    have scaled := Numeral.scaled_of_fits bits
    have filled : 0 < n.literal.scaled.significand := by
      rw [Nat.pos_iff_ne_zero]
      intro nothing
      refine nearest.ne_zero pos ?_
      rw [DecimalLiteral.value, show n.literal.coefficient = 0 from nothing, Nat.cast_zero,
        zero_mul]
    obtain ⟨y, read, near⟩ := Numeral.Scaled.exists_real? filled bits nearest pos room
    refine ⟨y, ?_, fun l again => spelled.unique again ▸ near⟩
    rw [reread?_eq_some_iff]
    refine JsonNumber.readsAs_of_numeral taken ?_
    rw [Numeral.value?_of_real shown, Numeral.real?, scaled]
    rw [if_neg filled.ne', sign]
    exact congrArg (Option.map JsonNumber.real) read
  · obtain ⟨k, few, place⟩ : ∃ k < 4, x.magnitude = magnitudeBound - (k + 1) := by
      have finite := x.finite
      exact ⟨magnitudeBound - 1 - x.magnitude, by omega, by omega⟩
    have finite : magnitudeBound - (k + 1) < magnitudeBound := place ▸ x.finite
    have computed := reread?_last x.negative k few finite
    have same : x = ⟨x.negative, magnitudeBound - (k + 1), finite⟩ := eq_iff.mpr ⟨rfl, place⟩
    rw [← same] at computed
    simp only [Option.bind_eq_bind, Option.bind_eq_some_iff, Option.pure_def, Option.some.injEq,
      decide_eq_true_eq] at computed
    obtain ⟨l, spelled, y, read, near⟩ := computed
    refine ⟨y, read, fun other again => ?_⟩
    rwa [(DecimalLiteral.read?_eq_some_iff.mp spelled).unique again] at near

/-- The double that the JSON text of a double is read as. There always is one. -/
def reread (x : Binary64) : Binary64 :=
  x.reread?.getD x

theorem readsAs_reread (x : Binary64) : (JsonNumber.real x).ReadsAs (.real x.reread) := by
  obtain ⟨y, read, -⟩ := x.exists_reread?
  rw [reread, read, Option.getD_some]
  exact reread?_eq_some_iff.mp read

theorem near_reread {x : Binary64} {l : DecimalLiteral}
    (spelled : DecimalLiteral.Spells x.json l) : x.Near l.scaled.roundings x.reread := by
  obtain ⟨y, read, near⟩ := x.exists_reread?
  rw [reread, read, Option.getD_some]
  exact near l spelled

/-- A double is read as itself if its digits are a number of 53 bits and its power of ten is a
double. -/
theorem reread_of_few {x : Binary64} {l : DecimalLiteral}
    (spelled : DecimalLiteral.Spells x.json l) (few : l.coefficient ≤ 2 ^ 53)
    (small : l.scale.natAbs ≤ 22) : x.reread = x := by
  have near := near_reread spelled
  have inside : -308 ≤ l.scale := by omega
  have none : l.scaled.roundings = 0 := by
    rw [Numeral.Scaled.roundings, DecimalLiteral.scaled, wholeRoundings, if_pos few,
      if_pos inside, tenRoundings, if_pos small]
  rw [none] at near
  exact near.eq_of_zero

end Binary64

end PagedSearch
