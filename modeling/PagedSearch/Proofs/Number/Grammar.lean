import PagedSearch.Proofs.Number.Literal

/-!
# Grammar of decimal literals

Which texts spell a decimal literal, as relations that say nothing of how a text is read:
a sign or none, digits with a point or none among them, and an exponent or none. The
reader decides these relations (`DecimalLiteral.read?_eq_some_iff`), so a text is read as
the double of its sign that is nearest to the number it spells
(`Binary64.read?_eq_some_iff`).
-/
namespace PagedSearch

open Text

namespace DecimalLiteral

/-- A sign or none, true for minus. -/
inductive SpellsSign : List Char → Bool → Prop where
  | none : SpellsSign [] false
  | plus : SpellsSign ['+'] false
  | minus : SpellsSign ['-'] true

/-- A point with the digits behind it, or nothing at all. -/
inductive SpellsFraction : List Char → List Char → Prop where
  | none : SpellsFraction [] []
  | point {digits : List Char} (digit : ∀ c ∈ digits, c.isDigit = true) :
      SpellsFraction ('.' :: digits) digits

/-- A letter with a number behind it, or nothing at all. -/
inductive SpellsExponent : List Char → Int → Prop where
  | none : SpellsExponent [] 0
  | letter {mark : Char} {sign digits : List Char} {negative : Bool}
      (letter : mark = 'e' ∨ mark = 'E') (inSign : SpellsSign sign negative)
      (digit : ∀ c ∈ digits, c.isDigit = true) (filled : digits ≠ []) :
      SpellsExponent (mark :: (sign ++ digits))
        (if negative then -(digitsValue digits : Int) else digitsValue digits)

/-- A literal without a sign, from its digits before and behind the point and its exponent. -/
inductive SpellsUnsigned : List Char → List Char → List Char → Int → Prop where
  | parts {whole point fraction power : List Char} {exponent : Int}
      (digit : ∀ c ∈ whole, c.isDigit = true) (behindPoint : SpellsFraction point fraction)
      (atPower : SpellsExponent power exponent) (filled : ¬ (whole = [] ∧ fraction = [])) :
      SpellsUnsigned (whole ++ (point ++ power)) whole fraction exponent

/-- The whole text of a literal. -/
inductive Spells : List Char → DecimalLiteral → Prop where
  | signed {sign size whole fraction : List Char} {negative : Bool} {exponent : Int}
      (inSign : SpellsSign sign negative) (ofSize : SpellsUnsigned size whole fraction exponent) :
      Spells (sign ++ size) ⟨negative, whole, fraction, exponent⟩

theorem SpellsFraction.digit {point fraction : List Char}
    (behindPoint : SpellsFraction point fraction) : ∀ c ∈ fraction, c.isDigit = true := by
  cases behindPoint with
  | none => nofun
  | point digit => exact digit

theorem Spells.hasDigits {text : List Char} {l : DecimalLiteral} (spelled : Spells text l) :
    l.HasDigits := by
  obtain ⟨-, digit, behindPoint, -, -⟩ := spelled
  exact List.forall_mem_append.mpr ⟨digit, behindPoint.digit⟩

/-! Each part is read as it is spelled, up to what cannot belong to it. -/

/-- No sign stands at the front of the text. -/
def Unsigned (s : List Char) : Prop :=
  ∀ c ∈ s.head?, c ≠ '-' ∧ c ≠ '+'

theorem takeSign_of_unsigned {s : List Char} (unsigned : Unsigned s) :
    takeSign s = (false, s) := by
  unfold takeSign
  split
  next => exact absurd rfl (unsigned '-' rfl).1
  next => exact absurd rfl (unsigned '+' rfl).2
  next => rfl

theorem SpellsSign.takeSign_append {sign rest : List Char} {negative : Bool}
    (inSign : SpellsSign sign negative) (unsigned : Unsigned rest) :
    takeSign (sign ++ rest) = (negative, rest) := by
  cases inSign with
  | none => exact takeSign_of_unsigned unsigned
  | plus => rfl
  | minus => rfl

theorem unsigned_of_digits {digits rest : List Char} (digit : ∀ c ∈ digits, c.isDigit = true)
    (filled : digits ≠ []) : Unsigned (digits ++ rest) := by
  cases digits with
  | nil => exact absurd rfl filled
  | cons first digits =>
    rintro c ⟨⟩
    have isDigit := digit first List.mem_cons_self
    exact ⟨fun minus => absurd (minus ▸ isDigit) (by decide),
      fun plus => absurd (plus ▸ isDigit) (by decide)⟩

theorem SpellsUnsigned.unsigned {size whole fraction : List Char} {exponent : Int}
    (ofSize : SpellsUnsigned size whole fraction exponent) : Unsigned size := by
  obtain ⟨digit, behindPoint, -, filled⟩ := ofSize
  by_cases empty : whole = []
  · cases behindPoint with
    | none => exact absurd ⟨empty, rfl⟩ filled
    | point =>
      rw [empty]
      rintro c ⟨⟩
      decide
  · exact unsigned_of_digits digit empty

theorem spells_takeSign (s : List Char) :
    ∃ sign, SpellsSign sign (takeSign s).1 ∧ s = sign ++ (takeSign s).2 := by
  unfold takeSign
  split
  next => exact ⟨['-'], .minus, rfl⟩
  next => exact ⟨['+'], .plus, rfl⟩
  next => exact ⟨[], .none, rfl⟩

/-- The letter ends the digits before it, and is no point. -/
theorem SpellsExponent.head {power : List Char} {exponent : Int}
    (atPower : SpellsExponent power exponent) :
    EndsDigits power ∧ ∀ c ∈ power.head?, c ≠ '.' := by
  cases atPower with
  | none => exact ⟨nofun, nofun⟩
  | letter letter =>
    rcases letter with rfl | rfl
    · exact ⟨endsDigits_cons (by decide) _, by rintro c ⟨⟩; decide⟩
    · exact ⟨endsDigits_cons (by decide) _, by rintro c ⟨⟩; decide⟩

theorem SpellsFraction.takeFraction_append {point fraction rest : List Char}
    (behindPoint : SpellsFraction point fraction) (ends : EndsDigits rest)
    (other : ∀ c ∈ rest.head?, c ≠ '.') :
    takeFraction (point ++ rest) = (fraction, rest) := by
  cases behindPoint with
  | none =>
    rw [List.nil_append]
    unfold takeFraction
    split
    next => exact absurd rfl (other '.' rfl)
    next => rfl
  | point digit => exact takeDigits_digits digit ends

theorem spells_takeFraction (s : List Char) :
    ∃ point, SpellsFraction point (takeFraction s).1 ∧ s = point ++ (takeFraction s).2 := by
  unfold takeFraction
  split
  next rest =>
    refine ⟨'.' :: (takeDigits rest).1, .point (isDigit_of_mem_takeDigits rest), ?_⟩
    rw [List.cons_append, takeDigits_append]
  next => exact ⟨[], .none, rfl⟩

theorem readExponent?_eq_some_iff {s : List Char} {exponent : Int} :
    readExponent? s = some exponent ↔ SpellsExponent s exponent := by
  constructor
  · intro read
    unfold readExponent? at read
    split at read
    next =>
      cases read
      exact .none
    next mark rest =>
      split at read
      next letter =>
        obtain ⟨sign, inSign, parts⟩ := spells_takeSign rest
        dsimp only at read
        split at read
        next digits =>
          have digit := List.all_eq_true.mp digits.2
          rw [parts, ← Option.some.inj read]
          exact .letter letter inSign digit digits.1
        next => cases read
      next => cases read
  · intro spelled
    cases spelled with
    | none => rfl
    | letter letter inSign digit filled =>
      have unsigned := @unsigned_of_digits _ [] digit filled
      rw [List.append_nil] at unsigned
      simp only [readExponent?, if_pos letter, inSign.takeSign_append unsigned]
      rw [if_pos ⟨filled, List.all_eq_true.mpr digit⟩]

theorem SpellsFraction.endsDigits_append {point fraction rest : List Char}
    (behindPoint : SpellsFraction point fraction) (ends : EndsDigits rest) :
    EndsDigits (point ++ rest) := by
  cases behindPoint with
  | none => exact ends
  | point => exact endsDigits_cons (by decide) _

/-- A text is read as a literal exactly if it spells that literal. -/
theorem read?_eq_some_iff {s : List Char} {l : DecimalLiteral} :
    read? s = some l ↔ Spells s l := by
  constructor
  · intro read
    unfold read? at read
    dsimp only at read
    obtain ⟨sign, inSign, signed⟩ := spells_takeSign s
    obtain ⟨point, behindPoint, fraction⟩ := spells_takeFraction (takeDigits (takeSign s).2).2
    split at read
    next => cases read
    next filled =>
      obtain ⟨exponent, atPower, rfl⟩ := Option.map_eq_some_iff.mp read
      have spelled := Spells.signed inSign (.parts (isDigit_of_mem_takeDigits _) behindPoint
        (readExponent?_eq_some_iff.mp atPower) filled)
      rwa [← fraction, takeDigits_append, ← signed] at spelled
  · rintro ⟨inSign, ofSize⟩
    have unsigned := ofSize.unsigned
    obtain ⟨digit, behindPoint, atPower, filled⟩ := ofSize
    have ends := behindPoint.endsDigits_append atPower.head.1
    unfold read?
    simp only [inSign.takeSign_append unsigned, takeDigits_digits digit ends,
      behindPoint.takeFraction_append atPower.head.1 atPower.head.2, if_neg filled,
      readExponent?_eq_some_iff.mpr atPower, Option.map_some]

theorem Spells.unique {s : List Char} {l other : DecimalLiteral} (spelled : Spells s l)
    (again : Spells s other) : l = other :=
  Option.some.inj ((read?_eq_some_iff.mpr spelled).symm.trans (read?_eq_some_iff.mpr again))

/-- Behind its sign a literal begins with a digit or a point. -/
theorem read?_head {sign : List Char} {negative : Bool} (inSign : SpellsSign sign negative)
    {c : Char} (noDigit : c.isDigit = false) (other : c ∉ ['.', '-', '+']) (rest : List Char) :
    read? (sign ++ c :: rest) = none := by
  simp only [List.mem_cons, List.not_mem_nil, or_false, not_or] at other
  have unsigned : Unsigned (c :: rest) := by
    rintro _ ⟨⟩
    exact other.2
  have noFraction : takeFraction (c :: rest) = ([], c :: rest) := by
    rw [takeFraction.eq_def]
    split
    next head => cases head; exact absurd rfl other.1
    next => rfl
  simp [read?, inSign.takeSign_append unsigned, takeDigits, noDigit, noFraction]

end DecimalLiteral

/-- A text is read as a double if it spells a literal whose nearest double is finite. -/
theorem Binary64.read?_eq_some_iff {s : List Char} {x : Binary64} :
    Binary64.read? s = some x ↔ ∃ l, DecimalLiteral.Spells s l ∧ x.negative = l.negative ∧
      IsNearest x.magnitude (l.value * unitsPerOne) := by
  simp only [Binary64.read?, Option.bind_eq_bind, Option.bind_eq_some_iff]
  refine exists_congr fun l => ?_
  rw [DecimalLiteral.read?_eq_some_iff]
  exact and_congr_right fun spelled => DecimalLiteral.toBinary64?_eq_some_iff spelled.hasDigits

end PagedSearch
