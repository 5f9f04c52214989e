import PagedSearch.Proofs.Filter.Compilation
import PagedSearch.Proofs.Text.Words
import PagedSearch.Settings

/-!
# Settings from the environment

What a deployment makes of the environment variable that chooses its representation. A text
chooses the representation whose word it is alike to, and a text that is alike to neither word is
an error that shows the whole text (`Representation.named_eq_ok_iff`,
`Representation.named_eq_error_iff`). That is what is documented, and it is kept for every content
that is a text (`documented_iff`). Bytes that are no UTF-8 text are not reported: they count as
an unset variable and choose the default (`environment_outcomes`), even where they begin with the
word of the other representation (`environment_drops_bytes`).
-/
namespace PagedSearch

open Text

namespace Representation

variable {raw : String}

theorem find?_named_eq_some_iff {representation : Representation} :
    ([condition, criteria].find? fun other => sameWord other.word.toList (trim raw.toList)) =
      some representation ↔ Alike raw.toList representation.word.toList := by
  have solid : ∀ x : Representation, trim x.word.toList = x.word.toList := by
    intro x
    cases x <;> decide
  have known : ∀ x : Representation,
      ([condition, criteria].find? fun y => sameWord y.word.toList x.word.toList) = some x := by
    intro x
    cases x <;> decide
  exact find?_eq_some_iff_alike solid known

theorem named_eq_ok_iff {representation : Representation} :
    named raw = .ok representation ↔ Alike raw.toList representation.word.toList := by
  rw [← find?_named_eq_some_iff, named]
  cases [condition, criteria].find? fun other =>
    sameWord other.word.toList (trim raw.toList) <;> simp

theorem named_eq_error_iff {unknown : UnknownRepresentation} :
    named raw = .error unknown ↔
      (∀ representation : Representation, ¬ Alike raw.toList representation.word.toList) ∧
        unknown = ⟨raw⟩ := by
  unfold named
  cases found : [condition, criteria].find? fun other =>
    sameWord other.word.toList (trim raw.toList) with
  | some representation =>
    simp only [reduceCtorEq, false_iff, not_and]
    exact fun unnamed => absurd (find?_named_eq_some_iff.mp found) (unnamed representation)
  | none =>
    have unnamed : ∀ representation : Representation,
        ¬ Alike raw.toList representation.word.toList := by
      intro representation alike
      rw [find?_named_eq_some_iff.mpr alike] at found
      cases found
    simp [unnamed, eq_comm]

end Representation

namespace Settings

theorem fromUTF8?_eq_some_iff {bytes : ByteArray} {raw : String} :
    String.fromUTF8? bytes = some raw ↔ raw.toUTF8 = bytes := by
  unfold String.fromUTF8?
  split
  next valid =>
    rw [Option.some.injEq, ← String.toByteArray_inj, eq_comm]
    rfl
  next invalid =>
    simp only [reduceCtorEq, false_iff]
    rintro rfl
    exact invalid raw.isValidUTF8

theorem fromUTF8?_eq_none_iff {bytes : ByteArray} :
    String.fromUTF8? bytes = none ↔ ∀ raw : String, raw.toUTF8 ≠ bytes := by
  rw [Option.eq_none_iff_forall_ne_some]
  exact forall_congr' fun raw => not_congr fromUTF8?_eq_some_iff

theorem ofEnvironment_text (raw : String) :
    ofEnvironment (some raw.toUTF8) = (Representation.named raw).map Settings.mk := by
  have text : (some raw.toUTF8).bind String.fromUTF8? = some raw :=
    fromUTF8?_eq_some_iff.mpr rfl
  rw [ofEnvironment, text]
  dsimp only
  cases Representation.named raw <;> rfl

theorem ofEnvironment_bytes {bytes : ByteArray} (noText : ∀ raw : String, raw.toUTF8 ≠ bytes) :
    ofEnvironment (some bytes) = .ok {} := by
  have unread : (some bytes).bind String.fromUTF8? = none := fromUTF8?_eq_none_iff.mpr noText
  rw [ofEnvironment, unread]

/-- What a content of the variable is documented to lead to: the default where it is unset, the
representation that it names, and an error where it is set to anything else. -/
inductive Documented : Option ByteArray → Except UnknownRepresentation Settings → Prop where
  | unset : Documented none (.ok ⟨.condition⟩)
  | named {raw : String} {representation : Representation}
      (alike : Alike raw.toList representation.word.toList) :
      Documented (some raw.toUTF8) (.ok ⟨representation⟩)
  | unknown {bytes : ByteArray} {shown : UnknownRepresentation}
      (unnamed : ∀ (raw : String) (representation : Representation), raw.toUTF8 = bytes →
        ¬ Alike raw.toList representation.word.toList) :
      Documented (some bytes) (.error shown)

theorem Documented.exists_text {bytes : ByteArray} {settings : Settings}
    (documented : Documented (some bytes) (.ok settings)) : ∃ raw : String, raw.toUTF8 = bytes := by
  cases documented with
  | named alike => exact ⟨_, rfl⟩

theorem documented_text (raw : String) :
    Documented (some raw.toUTF8) (ofEnvironment (some raw.toUTF8)) := by
  rw [ofEnvironment_text]
  cases outcome : Representation.named raw with
  | ok representation => exact .named (Representation.named_eq_ok_iff.mp outcome)
  | error unknown =>
    obtain ⟨unnamed, -⟩ := Representation.named_eq_error_iff.mp outcome
    refine .unknown fun other representation same => ?_
    obtain rfl : other = raw := String.toByteArray_inj.mp same
    exact unnamed representation

/-- The one thing that is not as documented is a content that is no text. -/
theorem documented_iff (content : Option ByteArray) :
    Documented content (ofEnvironment content) ↔
      content = none ∨ ∃ raw : String, content = some raw.toUTF8 := by
  constructor
  · intro documented
    cases content with
    | none => exact .inl rfl
    | some bytes =>
      by_cases text : ∃ raw : String, raw.toUTF8 = bytes
      · obtain ⟨raw, rfl⟩ := text
        exact .inr ⟨raw, rfl⟩
      · rw [ofEnvironment_bytes (not_exists.mp text)] at documented
        exact absurd documented.exists_text text
  · rintro (rfl | ⟨raw, rfl⟩)
    · exact .unset
    · exact documented_text raw

/-- A content of the variable leads to what is documented exactly if the variable is unset or its
content is a text. A text leads to the representation whose word it is alike to, and to an error
that shows the whole text exactly if it is alike to no word. Bytes that are no text lead to the
default. -/
theorem environment_outcomes (content : Option ByteArray) :
    (Documented content (ofEnvironment content) ↔
      content = none ∨ ∃ raw : String, content = some raw.toUTF8) ∧
    (content = none → ofEnvironment content = .ok ⟨.condition⟩) ∧
    (∀ raw : String, content = some raw.toUTF8 →
      (∀ settings : Settings, ofEnvironment content = .ok settings ↔
        Alike raw.toList settings.representation.word.toList) ∧
      ∀ unknown : UnknownRepresentation, ofEnvironment content = .error unknown ↔
        (∀ representation : Representation, ¬ Alike raw.toList representation.word.toList) ∧
          unknown = ⟨raw⟩) ∧
    ((∃ bytes, content = some bytes ∧ ∀ raw : String, raw.toUTF8 ≠ bytes) →
      ofEnvironment content = .ok ⟨.condition⟩) := by
  refine ⟨documented_iff content, ?unset, ?text, ?bytes⟩
  case unset =>
    rintro rfl
    rfl
  case text =>
    rintro raw rfl
    refine ⟨fun settings => ?_, fun unknown => ?_⟩
    · rw [ofEnvironment_text, map_eq_ok_iff, ← Representation.named_eq_ok_iff]
      constructor
      · rintro ⟨representation, named, rfl⟩
        exact named
      · exact fun named => ⟨settings.representation, named, rfl⟩
    · rw [ofEnvironment_text, map_eq_error_iff, Representation.named_eq_error_iff]
  case bytes =>
    rintro ⟨bytes, rfl, noText⟩
    exact ofEnvironment_bytes noText

/-- A word in another case with a line break behind it, and a word that is close to one. -/
theorem environment_outcomes_spellings :
    ofEnvironment (some " Criteria\n".toUTF8) = .ok ⟨.criteria⟩ ∧
    ofEnvironment (some "critera".toUTF8) = .error ⟨"critera"⟩ ∧
    ofEnvironment (some ⟨#[0xFF]⟩) = .ok ⟨.condition⟩ := by
  refine ⟨?named, ?unknown, ?bytes⟩
  case named =>
    obtain ⟨-, -, text, -⟩ := environment_outcomes (some " Criteria\n".toUTF8)
    obtain ⟨chosen, -⟩ := text _ rfl
    exact (chosen _).mpr (alike_iff.mpr (by decide +kernel))
  case unknown =>
    obtain ⟨-, -, text, -⟩ := environment_outcomes (some "critera".toUTF8)
    obtain ⟨-, unknown⟩ := text _ rfl
    refine (unknown _).mpr ⟨?_, rfl⟩
    intro representation
    rw [alike_iff]
    cases representation <;> decide +kernel
  case bytes =>
    obtain ⟨-, -, -, bytes⟩ := environment_outcomes (some ⟨#[0xFF]⟩)
    exact bytes ⟨_, rfl, fromUTF8?_eq_none_iff.mp (by decide +kernel)⟩

/-- The word of the other representation with one byte behind it, a blank in a code that is not
UTF-8. The variable is set, to no word of a representation, and the deployment runs with the
default where an error is documented. -/
theorem environment_drops_bytes :
    ofEnvironment (some ⟨#[0x63, 0x72, 0x69, 0x74, 0x65, 0x72, 0x69, 0x61, 0xA0]⟩) =
      .ok ⟨.condition⟩ ∧
    ¬ Documented (some ⟨#[0x63, 0x72, 0x69, 0x74, 0x65, 0x72, 0x69, 0x61, 0xA0]⟩)
      (ofEnvironment (some ⟨#[0x63, 0x72, 0x69, 0x74, 0x65, 0x72, 0x69, 0x61, 0xA0]⟩)) := by
  have noText : ∀ raw : String,
      raw.toUTF8 ≠ ⟨#[0x63, 0x72, 0x69, 0x74, 0x65, 0x72, 0x69, 0x61, 0xA0]⟩ :=
    fromUTF8?_eq_none_iff.mp (by decide +kernel)
  have outcome := ofEnvironment_bytes noText
  refine ⟨outcome, fun documented => ?_⟩
  rw [outcome] at documented
  obtain ⟨raw, text⟩ := documented.exists_text
  exact noText raw text

end Settings

end PagedSearch
