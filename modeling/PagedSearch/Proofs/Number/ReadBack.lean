import PagedSearch.Json.Number
import PagedSearch.Proofs.Number.Grammar
import PagedSearch.Proofs.Number.Layout
import PagedSearch.Proofs.Number.Shortest

/-!
# Texts of numbers read back

Every layout of digits spells the exact decimal number of the digits: positional with
zeros before or behind them, or scientific (`DecimalDigits.LaidOut.denotes`). A double is
nearest to the number it is written with, so it is read back from its texts; a whole number
is read as the double nearest to it, however many digits it has (`JsonNumber.literal_text`).
-/
namespace PagedSearch

open Text

namespace DecimalLiteral

/-- The text spells a number without a sign, which has this exact value. -/
def DenotesUnsigned (s : List Char) (value : ℚ) : Prop :=
  ∃ whole fraction exponent, SpellsUnsigned s whole fraction exponent ∧
    (⟨false, whole, fraction, exponent⟩ : DecimalLiteral).value = value

/-- The text spells a number with this sign, true for minus, and this exact value without it. -/
def Denotes (s : List Char) (negative : Bool) (value : ℚ) : Prop :=
  ∃ l, Spells s l ∧ l.negative = negative ∧ l.value = value

theorem SpellsUnsigned.signed {size whole fraction : List Char} {exponent : Int}
    (ofSize : SpellsUnsigned size whole fraction exponent) (negative : Bool) :
    Spells (if negative then '-' :: size else size) ⟨negative, whole, fraction, exponent⟩ := by
  cases negative with
  | false => exact .signed .none ofSize
  | true => exact .signed .minus ofSize

theorem DenotesUnsigned.signed {size : List Char} {value : ℚ}
    (denoted : DenotesUnsigned size value) (negative : Bool) :
    Denotes (if negative then '-' :: size else size) negative value := by
  obtain ⟨whole, fraction, exponent, ofSize, rfl⟩ := denoted
  exact ⟨_, ofSize.signed negative, rfl, rfl⟩

/-- What a text is read as depends on the number it denotes only. -/
theorem Denotes.read?_eq_some_iff {s : List Char} {negative : Bool} {value : ℚ}
    (denoted : Denotes s negative value) {x : Binary64} :
    Binary64.read? s = some x ↔
      x.negative = negative ∧ IsNearest x.magnitude (value * unitsPerOne) := by
  obtain ⟨l, spelled, rfl, rfl⟩ := denoted
  rw [Binary64.read?_eq_some_iff]
  constructor
  · rintro ⟨other, again, nearest⟩
    rwa [spelled.unique again]
  · exact fun nearest => ⟨l, spelled, nearest⟩

end DecimalLiteral

theorem DecimalLiteral.denotes_decimal (n : Nat) : DenotesUnsigned (decimal n) n := by
  have ofSize := SpellsUnsigned.parts (fun _ => isDigit_of_mem_decimal) .none .none
    fun empty => decimal_ne_nil n empty.1
  rw [List.append_nil, List.append_nil] at ofSize
  refine ⟨_, _, _, ofSize, ?_⟩
  simp [DecimalLiteral.value, DecimalLiteral.coefficient, DecimalLiteral.scale,
    digitsValue_decimal]

/-- An exponent as the scientific layout writes it. -/
theorem DecimalLiteral.spellsExponent_signed (exponent : Int) :
    SpellsExponent ('e' :: (if exponent < 0 then '-' else '+') :: decimal exponent.natAbs)
      exponent := by
  have digit : ∀ c ∈ decimal exponent.natAbs, c.isDigit = true := fun _ => isDigit_of_mem_decimal
  have filled := decimal_ne_nil exponent.natAbs
  by_cases negative : exponent < 0
  · have spelled := SpellsExponent.letter (.inl rfl) .minus digit filled
    rw [digitsValue_decimal, if_pos rfl, show -(exponent.natAbs : Int) = exponent by omega]
      at spelled
    rwa [if_pos negative]
  · have spelled := SpellsExponent.letter (.inl rfl) .plus digit filled
    rw [digitsValue_decimal, if_neg nofun, show (exponent.natAbs : Int) = exponent by omega]
      at spelled
    rwa [if_neg negative]

namespace DecimalDigits

open DecimalLiteral

variable {d : DecimalDigits}

/-- A text that spells the digits, with zeros before them and at most `spare` zeros behind them,
and a scale that leaves as many places behind the point. Its whole part is zero alone or begins
as the digits do, digits follow its point, and if it is `real` then it has a point or an
exponent. -/
inductive LaidOut (d : DecimalDigits) (spare : Nat) (real : Prop) :
    List Char → DecimalLiteral → Prop where
  | parts (whole fraction : List Char) {point power : List Char} {exponent : Int}
      (zeros more : Nat) (digit : ∀ c ∈ whole, c.isDigit = true) (nonempty : whole ≠ [])
      (leading : whole = ['0'] ∨ whole.head? = d.digits.head?)
      (behindPoint : SpellsFraction point fraction) (filled : point ≠ [] → fraction ≠ [])
      (atPower : SpellsExponent power exponent) (shown : real → point ≠ [] ∨ power ≠ [])
      (spread : whole ++ fraction =
        List.replicate zeros '0' ++ d.digits ++ List.replicate more '0')
      (scale : exponent - fraction.length + more = d.point - d.digits.length)
      (short : more ≤ spare) :
      LaidOut d spare real (whole ++ (point ++ power)) ⟨false, whole, fraction, exponent⟩

namespace LaidOut

variable {spare : Nat} {real : Prop} {s : List Char} {l : DecimalLiteral}

theorem coefficient (laid : LaidOut d spare real s l) :
    ∃ more ≤ spare, l.coefficient = digitsValue d.digits * 10 ^ more ∧
      l.scale + more = d.point - d.digits.length := by
  obtain ⟨whole, fraction, zeros, more, -, -, -, -, -, -, -, spread, scale, short⟩ := laid
  refine ⟨more, short, ?_, scale⟩
  rw [DecimalLiteral.coefficient, spread, digitsValue_append, digitsValue_append,
    digitsValue_zeros, digitsValue_zeros, List.length_replicate, Nat.zero_mul, Nat.zero_add,
    Nat.add_zero]

theorem value (laid : LaidOut d spare real s l) : l.value = d.value := by
  obtain ⟨more, -, coefficient, scale⟩ := laid.coefficient
  rw [DecimalLiteral.value, coefficient, DecimalDigits.value, ← scale, zpow_add₀ (by norm_num),
    zpow_natCast]
  push_cast
  ring

theorem spellsUnsigned (laid : LaidOut d spare real s l) :
    SpellsUnsigned s l.whole l.fraction l.exponent := by
  obtain ⟨whole, fraction, _, _, digit, nonempty, -, behindPoint, -, atPower, -, -, -, -⟩ := laid
  exact .parts digit behindPoint atPower fun empty => nonempty empty.1

theorem denotes (laid : LaidOut d spare real s l) : DenotesUnsigned s d.value :=
  ⟨_, _, _, laid.spellsUnsigned, laid.value⟩

theorem mono {more : Nat} (laid : LaidOut d spare real s l) (enough : spare ≤ more) :
    LaidOut d more real s l := by
  obtain ⟨whole, fraction, zeros, others, digit, nonempty, leading, behindPoint, filled, atPower,
    shown, spread, scale, short⟩ := laid
  exact .parts whole fraction zeros others digit nonempty leading behindPoint filled atPower
    shown spread scale (short.trans enough)

end LaidOut

section

variable (digits : ∀ c ∈ d.digits, c.isDigit = true) (filled : d.digits ≠ [])

include digits filled

/-- Digits before and behind a place. -/
theorem digits_split (place : Nat) :
    (∀ c ∈ d.digits.take place, c.isDigit = true) ∧
      (∀ c ∈ d.digits.drop place, c.isDigit = true) ∧
      (0 < place → d.digits.take place ≠ [] ∧
        (d.digits.take place).head? = d.digits.head?) := by
  refine ⟨fun c member => digits c (List.mem_of_mem_take member),
    fun c member => digits c (List.mem_of_mem_drop member), fun pos => ?_⟩
  rw [List.head?_take, if_neg pos.ne']
  exact ⟨fun empty => filled ((List.take_eq_nil_iff.mp empty).resolve_left pos.ne'), rfl⟩

theorem laidOut_below (below : d.point ≤ 0) (spare : Nat) (real : Prop) :
    ∃ l, LaidOut d spare real
      ('0' :: '.' :: (List.replicate (-d.point).toNat '0' ++ d.digits)) l := by
  have fraction : ∀ c ∈ List.replicate (-d.point).toNat '0' ++ d.digits, c.isDigit = true :=
    List.forall_mem_append.mpr ⟨isDigit_of_mem_zeros, digits⟩
  rw [← List.append_nil (List.replicate _ _ ++ _)]
  refine ⟨_, .parts ['0'] _ ((-d.point).toNat + 1) 0 ?digit ?nonempty (.inl rfl)
    (.point fraction) ?filled .none ?shown ?spread ?scale (Nat.zero_le _)⟩
  case digit => exact List.forall_mem_singleton.mpr rfl
  case nonempty => exact List.cons_ne_nil _ _
  case filled => exact fun _ => List.append_ne_nil_of_right_ne_nil _ filled
  case shown => exact fun _ => .inl (List.cons_ne_nil _ _)
  case spread =>
    rw [List.replicate_succ]
    simp
  case scale =>
    rw [List.length_append, List.length_replicate]
    omega

theorem laidOut_behind (behind : d.digits.length ≤ d.point.toNat) (above : 0 < d.point)
    {tail : List Char} {more : Nat} {real : Prop}
    (behindPoint : SpellsFraction tail (List.replicate more '0'))
    (zeros : tail ≠ [] → List.replicate more '0' ≠ []) (shown : real → tail ≠ []) :
    ∃ l, LaidOut d (d.point.toNat - d.digits.length + more) real
      (d.digits ++ List.replicate (d.point.toNat - d.digits.length) '0' ++ tail) l := by
  have whole : ∀ c ∈ d.digits ++ List.replicate (d.point.toNat - d.digits.length) '0',
      c.isDigit = true := List.forall_mem_append.mpr ⟨digits, isDigit_of_mem_zeros⟩
  rw [← List.append_nil tail]
  refine ⟨_, .parts _ _ 0 (d.point.toNat - d.digits.length + more) whole ?nonempty ?leading
    behindPoint zeros .none (.inl ∘ shown) ?spread ?scale (Nat.le_refl _)⟩
  case nonempty => exact List.append_ne_nil_of_left_ne_nil filled _
  case leading => exact .inr (List.head?_append_of_ne_nil _ filled)
  case spread =>
    rw [List.replicate_add]
    simp
  case scale =>
    rw [List.length_replicate]
    omega

theorem laidOut_among (among : d.point.toNat < d.digits.length) (above : 0 < d.point)
    (spare : Nat) (real : Prop) :
    ∃ l, LaidOut d spare real
      (d.digits.take d.point.toNat ++ '.' :: d.digits.drop d.point.toNat) l := by
  obtain ⟨before, behind, first⟩ := digits_split digits filled d.point.toNat
  obtain ⟨nonempty, leading⟩ := first (by omega)
  rw [← List.append_nil (List.drop _ _)]
  refine ⟨_, .parts _ _ 0 0 before nonempty (.inr leading) (.point behind) ?filled .none ?shown
    ?spread ?scale (Nat.zero_le _)⟩
  case filled => exact fun _ => List.drop_eq_nil_iff.not.mpr (by omega)
  case shown => exact fun _ => .inl (List.cons_ne_nil _ _)
  case spread => simp
  case scale =>
    rw [List.length_drop]
    omega

/-- Digits in positional notation, with nothing or a fraction of zeros behind a whole number. -/
theorem laidOut_positional {tail : List Char} {more : Nat} {real : Prop}
    (behindPoint : SpellsFraction tail (List.replicate more '0'))
    (zeros : tail ≠ [] → List.replicate more '0' ≠ []) (shown : real → tail ≠ []) :
    ∃ l, LaidOut d (d.point.toNat - d.digits.length + more) real (d.positional tail) l := by
  unfold positional
  split
  next below => exact laidOut_below digits filled below _ _
  next above =>
    dsimp only
    split
    next behind => exact laidOut_behind digits filled behind (by omega) behindPoint zeros shown
    next among => exact laidOut_among digits filled (by omega) (by omega) _ _

theorem laidOut_scientific (spare : Nat) (real : Prop) :
    ∃ l, LaidOut d spare real d.scientific l := by
  have length := List.length_pos_of_ne_nil filled
  obtain ⟨before, behind, first⟩ := digits_split digits filled 1
  obtain ⟨nonempty, leading⟩ := first one_pos
  unfold scientific
  dsimp only
  rw [List.append_assoc]
  refine ⟨_, .parts _ (d.digits.drop 1) 0 0 before nonempty (.inr leading) ?behindPoint ?filled
    (spellsExponent_signed (d.point - 1)) ?shown ?spread ?scale (Nat.zero_le _)⟩
  case behindPoint =>
    split
    next one =>
      rw [one]
      exact .none
    next => exact .point behind
  case filled => exact fun point one => point (if_pos one)
  case shown => exact fun _ => .inr (List.cons_ne_nil _ _)
  case spread =>
    rw [List.take_append_drop]
    simp
  case scale =>
    rw [List.length_drop]
    omega

theorem laidOut_json : ∃ l, LaidOut d (16 - d.digits.length + 1) True d.json l := by
  have point : SpellsFraction ['.', '0'] (List.replicate 1 '0') :=
    .point (List.forall_mem_singleton.mpr rfl)
  unfold json
  split
  next window =>
    obtain ⟨l, laid⟩ := @laidOut_positional d digits filled _ 1 True point nofun nofun
    exact ⟨l, laid.mono (by omega)⟩
  next => exact laidOut_scientific digits filled _ _

theorem denotes_json : DenotesUnsigned d.json d.value := by
  obtain ⟨l, laid⟩ := laidOut_json digits filled
  exact laid.denotes

theorem denotes_plain : DenotesUnsigned (d.positional []) d.value := by
  obtain ⟨l, laid⟩ := @laidOut_positional d digits filled [] 0 False .none nofun nofun
  exact laid.denotes

end

end DecimalDigits

namespace Binary64

open DecimalLiteral

theorem denotes_zero : DenotesUnsigned ['0', '.', '0'] 0 := by
  have digit : ∀ c ∈ ['0'], c.isDigit = true := List.forall_mem_singleton.mpr rfl
  have ofSize := SpellsUnsigned.parts digit (.point digit) .none nofun
  refine ⟨['0'], ['0'], 0, ofSize, ?_⟩
  rw [DecimalLiteral.value, show DecimalLiteral.coefficient ⟨false, ['0'], ['0'], 0⟩ = 0 from rfl]
  simp

/-- In a layout that keeps the value of digits, and with a text of zero for both zeros, a double
is written as a number of its sign that it is nearest to. -/
theorem denotes_layout {layout : DecimalDigits → List Char} {zero : List Char}
    (keeps : ∀ d : DecimalDigits, (∀ c ∈ d.digits, c.isDigit = true) → d.digits ≠ [] →
      DenotesUnsigned (layout d) d.value)
    (nothing : DenotesUnsigned zero 0) (tie : Tie) (x : Binary64) :
    ∃ value, Denotes (x.signed (if x.magnitude = 0 then zero
        else layout (shortestDigits tie x.magnitude))) x.negative value ∧
      IsNearest x.magnitude (value * unitsPerOne) := by
  by_cases empty : x.magnitude = 0
  · refine ⟨0, ?_, ?_⟩
    · rw [if_pos empty]
      exact nothing.signed x.negative
    · rw [empty, zero_mul]
      exact (isNearest_zero_iff le_rfl).mpr (by norm_num)
  · have pos := Nat.pos_of_ne_zero empty
    have denoted := keeps _ (fun _ => Shortest.isDigit_of_mem_shortestDigits)
      (shortestDigits_ne_nil tie pos)
    refine ⟨_, ?_, shortestDigits_nearest tie pos⟩
    rw [if_neg empty]
    exact denoted.signed x.negative

/-- The JSON text of a double denotes a number of its sign that it is nearest to. -/
theorem denotes_json (x : Binary64) :
    ∃ value, Denotes x.json x.negative value ∧ IsNearest x.magnitude (value * unitsPerOne) :=
  denotes_layout (fun _ => DecimalDigits.denotes_json) denotes_zero .even x

theorem denotes_plain (x : Binary64) :
    ∃ value, Denotes x.plain x.negative value ∧ IsNearest x.magnitude (value * unitsPerOne) :=
  denotes_layout (fun _ => DecimalDigits.denotes_plain) (denotes_decimal 0) .up x

/-- Every double is read back from its JSON text, with its sign if it is a zero. -/
theorem read?_json (x : Binary64) : Binary64.read? x.json = some x := by
  obtain ⟨value, denoted, nearest⟩ := x.denotes_json
  exact denoted.read?_eq_some_iff.mpr ⟨rfl, nearest⟩

/-- So it is from its text for people. -/
theorem read?_plain (x : Binary64) : Binary64.read? x.plain = some x := by
  obtain ⟨value, denoted, nearest⟩ := x.denotes_plain
  exact denoted.read?_eq_some_iff.mpr ⟨rfl, nearest⟩

end Binary64

namespace DecimalLiteral

theorem denotes_decimalInt (n : Int) : Denotes (decimalInt n) (n < 0) n.natAbs := by
  simpa [decimalInt] using (denotes_decimal n.natAbs).signed (n < 0)

end DecimalLiteral

/-- The text of a whole number is read as the double nearest to the number, if there is one. -/
theorem Binary64.read?_decimalInt (n : Int) :
    Binary64.read? (decimalInt n) = Binary64.ofInt? n := by
  refine Option.ext fun x => ?_
  rw [(DecimalLiteral.denotes_decimalInt n).read?_eq_some_iff, Binary64.ofInt?,
    Binary64.ofNat?_eq_some_iff]

namespace JsonNumber

theorem exists_spells_text (n : JsonNumber) : ∃ l, DecimalLiteral.Spells n.text l := by
  cases n with
  | whole n =>
    obtain ⟨l, spelled, -⟩ := DecimalLiteral.denotes_decimalInt n
    exact ⟨l, spelled⟩
  | real x =>
    obtain ⟨-, ⟨l, spelled, -⟩, -⟩ := x.denotes_json
    exact ⟨l, spelled⟩

/-- The text of a number is read as the double nearest to the number, if there is one: for a
double, as itself. -/
theorem literal_text (n : JsonNumber) : Binary64.read? n.text = n.toBinary64? := by
  cases n with
  | whole n => exact Binary64.read?_decimalInt n
  | real x => exact x.read?_json

end JsonNumber

end PagedSearch
