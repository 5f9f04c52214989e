import PagedSearch.Json.Record
import PagedSearch.Proofs.Json.RoundTrip
import PagedSearch.Proofs.Json.WholeNumbers

/-!
# Records read back

A `WireForm` is a way to write the values of a type as JSON and to read them, in which
every value comes back from its syntax. Then it also comes back from its text
(`read?_write`), and a text that was read and written once no longer changes
(`reprint?_of_reprint?`). Forms of numbers, texts and words are put together to forms of
lists and records. A record leaves out its absent fields, and the reader finds every
other field under its own name (`fields?_record`).
-/
namespace PagedSearch

open Node (ofValue ofItemValues ofMemberValues)

namespace Json

/-- Every number inside the value is read back when it stands alone. -/
def Readable (j : Json) : Prop :=
  ∀ n ∈ j.numbers, n.ReadsBack

theorem readable_text (s : String) : (text s).Readable := by
  rintro n ⟨⟩

theorem readable_whole {n : Int} (low : Int64.minValue.toInt ≤ n) (high : n < UInt64.size) :
    (whole n).Readable := by
  intro m member
  rw [List.mem_singleton.mp member]
  exact JsonNumber.readsBack_whole low high

theorem readable_array {items : List Json} (every : ∀ item ∈ items, item.Readable) :
    (array items).Readable := by
  induction items with
  | nil => rintro n ⟨⟩
  | cons item items ih =>
    obtain ⟨first, others⟩ := List.forall_mem_cons.mp every
    intro n member
    rcases List.mem_append.mp member with head | tail
    · exact first n head
    · exact ih others n tail

theorem readable_object {members : List (String × Json)}
    (every : ∀ member ∈ members, member.2.Readable) : (object members).Readable := by
  induction members with
  | nil => rintro n ⟨⟩
  | cons entry members ih =>
    obtain ⟨first, others⟩ := List.forall_mem_cons.mp every
    intro n member
    rcases List.mem_append.mp member with head | tail
    · exact first n head
    · exact ih others n tail

/-- The members of the fields that are present. -/
def present (fields : List (String × Option Json)) : List (String × Json) :=
  fields.flatMap fun field => (field.2.map (field.1, ·)).toList

/-- The object of a record. -/
def record (fields : List (String × Option Json)) : Json :=
  object (present fields)

theorem present_cons (name : String) (value : Option Json) (fields : List (String × Option Json)) :
    present ((name, value) :: fields) = (value.map (name, ·)).toList ++ present fields :=
  List.flatMap_cons

theorem mem_present_iff {fields : List (String × Option Json)} {name : String} {value : Json} :
    (name, value) ∈ present fields ↔ (name, some value) ∈ fields := by
  simp only [present, List.mem_flatMap, Option.mem_toList, Option.map_eq_some_iff, Prod.mk.injEq]
  constructor
  · rintro ⟨⟨first, stored⟩, member, _, rfl, rfl, rfl⟩
    exact member
  · intro member
    exact ⟨_, member, value, rfl, rfl, rfl⟩

theorem readable_record {fields : List (String × Option Json)}
    (every : ∀ field ∈ fields, ∀ value ∈ field.2, value.Readable) : (record fields).Readable := by
  apply readable_object
  rintro ⟨name, value⟩ member
  exact every (name, some value) (mem_present_iff.mp member) value rfl

end Json

namespace Node

open Json (present present_cons record)

/-- The first field has its name if it is present, and every other name is looked for behind
it. -/
theorem lookup_present_cons (name first : String) (value : Option Json)
    (fields : List (String × Option Json)) :
    (ofMemberValues (present ((first, value) :: fields))).lookup (some name) =
      (if name = first then value.map ofValue else none).or
        ((ofMemberValues (present fields)).lookup (some name)) := by
  rw [present_cons]
  cases value with
  | none => simp
  | some value =>
    change ((some first, ofValue value) :: ofMemberValues (present fields)).lookup (some name) = _
    by_cases same : name = first
    · simp [same]
    · have differs : (some name == some first) = false := by simpa using same
      rw [List.lookup_cons, differs, if_neg same, Option.none_or]

theorem lookup_present_none {fields : List (String × Option Json)} {name : String}
    (other : name ∉ fields.map Prod.fst) :
    (ofMemberValues (present fields)).lookup (some name) = none := by
  induction fields with
  | nil => rfl
  | cons field fields ih =>
    rw [List.map_cons, List.mem_cons, not_or] at other
    rw [lookup_present_cons, if_neg other.1, ih other.2, Option.or_none]

/-- With names that all differ, every name is found at its own field. -/
theorem lookup_present {fields : List (String × Option Json)}
    (distinct : (fields.map Prod.fst).Nodup) {field : String × Option Json}
    (member : field ∈ fields) :
    (ofMemberValues (present fields)).lookup (some field.1) = field.2.map ofValue := by
  induction fields with
  | nil => cases member
  | cons first fields ih =>
    obtain ⟨fresh, others⟩ := List.nodup_cons.mp distinct
    rw [lookup_present_cons]
    rcases List.mem_cons.mp member with rfl | later
    · rw [if_pos rfl, lookup_present_none fresh, Option.or_none]
    · have differs : field.1 ≠ first.1 := by
        intro same
        exact fresh (same ▸ List.mem_map_of_mem later)
      rw [if_neg differs, Option.none_or, ih others later]

/-- No name is written more often than the fields have it. -/
theorem countName_present_le (name : String) (fields : List (String × Option Json)) :
    countName name (ofMemberValues (present fields)) ≤ (fields.map Prod.fst).count name := by
  induction fields with
  | nil => exact Nat.le_refl 0
  | cons field fields ih =>
    obtain ⟨first, value⟩ := field
    rw [present_cons, List.map_cons, List.count_cons]
    cases value with
    | none => exact Nat.le_trans ih (Nat.le_add_right _ _)
    | some value =>
      change countName name ((some first, ofValue value) :: ofMemberValues (present fields)) ≤ _
      have letters : (some first == some name) = (first == name) := rfl
      rw [countName, List.countP_cons, letters]
      exact Nat.add_le_add_right ih _

theorem all_named (members : List (String × Json)) :
    (ofMemberValues members).all (·.1.isSome) = true := by
  induction members with
  | nil => rfl
  | cons entry members ih => simpa [ofMemberValues] using ih

theorem int64?_whole (n : Int64) : int64? (ofValue (.whole n.toInt)) = some n := by
  have bounds : Int64.minValue.toInt ≤ n.toInt ∧ n.toInt ≤ Int64.maxValue.toInt :=
    ⟨n.minValue_le_toInt, n.toInt_le⟩
  simp only [Json.whole, ofValue, int64?, if_pos bounds, Int64.ofInt_toInt]

theorem uint64?_whole (n : UInt64) : uint64? (ofValue (.whole n.toNat)) = some n := by
  have bounds : (0 : Int) ≤ n.toNat ∧ (n.toNat : Int) < UInt64.size := by
    have below := n.toNat_lt_size
    omega
  simp only [Json.whole, ofValue, uint64?, if_pos bounds, Int.toNat_natCast, UInt64.ofNat_toNat]

/-- The reader of a record finds the fields that were written, and no others. -/
theorem fields?_record (fields : List (String × Option Json))
    (distinct : (fields.map Prod.fst).Nodup) (required : Nat) :
    (ofValue (record fields)).fields? (fields.map Prod.fst) required =
      some (fields.map fun field => field.2.map ofValue) := by
  have once : (fields.map Prod.fst).all
      (countName · (ofMemberValues (present fields)) ≤ 1) = true := by
    simp only [List.all_eq_true, decide_eq_true_eq]
    intro name _
    exact Nat.le_trans (countName_present_le name fields)
      (List.nodup_iff_count.mp distinct name)
  simp only [record, ofValue, fields?, all_named, once, Bool.and_self, if_true, List.map_map,
    Option.some.injEq]
  exact List.map_congr_left fun field member => lookup_present distinct member

end Node

/-- A way to write the values of a type as JSON and to read them. Every value comes back
from its syntax, all numbers in it come back from their texts, and null is no value. -/
structure WireForm (α : Type) where
  toJson : α → Json
  ofNode? : Node → Option α
  readable : ∀ value, (toJson value).Readable
  back : ∀ value, ofNode? (ofValue (toJson value)) = some value
  solid : ofNode? .null = none

namespace WireForm

variable {α : Type} (form : WireForm α)

/-- The JSON text of a value. -/
def write (value : α) : String :=
  (form.toJson value).render

/-- The value that a JSON text spells. -/
def read? (s : String) : Option α := do
  form.ofNode? (← Node.read? s.toList)

/-- The text that is written for what was read. -/
def reprint? (s : String) : Option String :=
  (form.read? s).map form.write

/-- Every value comes back from its text. -/
theorem read?_write (value : α) : form.read? (form.write value) = some value := by
  have syntaxRead := Node.read?_print (form.readable value)
  simp only [read?, write, Json.render, String.toList_ofList, syntaxRead, Option.bind_eq_bind,
    Option.bind_some, form.back]

/-- A text that was written for something read is read and written as itself. -/
theorem reprint?_of_reprint? {s written : String} (once : form.reprint? s = some written) :
    form.reprint? written = some written := by
  obtain ⟨value, -, rfl⟩ := Option.map_eq_some_iff.mp once
  rw [reprint?, read?_write, Option.map_some]

theorem readable_map (value : Option α) : ∀ json ∈ value.map form.toJson, json.Readable := by
  intro json member
  obtain ⟨value, -, rfl⟩ := Option.map_eq_some_iff.mp member
  exact form.readable value

/-- A field that may be absent comes back as it was, present or absent. -/
theorem optional?_map (value : Option α) :
    Node.optional? form.ofNode? ((value.map form.toJson).map ofValue) = some value := by
  cases value with
  | none => rfl
  | some value =>
    have back := form.back value
    simp only [Option.map_some]
    rw [Node.optional?.eq_def]
    split
    next head => cases head
    next head =>
      rw [Option.some.inj head, form.solid] at back
      cases back
    next node _ head => rw [← Option.some.inj head, back, Option.map_some]

theorem list?_map (values : List α) :
    Node.list? form.ofNode? (ofValue (.array (values.map form.toJson))) = some values := by
  simp only [ofValue, Node.list?]
  induction values with
  | nil => rfl
  | cons value values ih =>
    simp only [List.map_cons, ofItemValues, List.mapM_cons, form.back, ih, Option.bind_eq_bind,
      Option.bind_some, Option.pure_def]

/-- Values in a list. -/
def list : WireForm (List α) where
  toJson values := .array (values.map form.toJson)
  ofNode? := Node.list? form.ofNode?
  readable values := Json.readable_array fun item member => by
    obtain ⟨value, -, rfl⟩ := List.mem_map.mp member
    exact form.readable value
  back := form.list?_map
  solid := rfl

/-- Strings. -/
def text : WireForm String where
  toJson := .text
  ofNode? := Node.text?
  readable := Json.readable_text
  back _ := rfl
  solid := rfl

/-- Signed 64-bit numbers. -/
def int64 : WireForm Int64 where
  toJson n := .whole n.toInt
  ofNode? := Node.int64?
  readable n := Json.readable_whole n.minValue_le_toInt <| by
    have below : n.toInt < 2 ^ 63 := n.toInt_lt
    have above : UInt64.size = 2 ^ 64 := rfl
    omega
  back := Node.int64?_whole
  solid := rfl

/-- Unsigned 64-bit numbers. -/
def uint64 : WireForm UInt64 where
  toJson n := .whole n.toNat
  ofNode? := Node.uint64?
  readable n := Json.readable_whole
    (Int.le_trans (by decide) (Int.natCast_nonneg n.toNat))
    (Int.ofNat_lt.mpr n.toNat_lt_size)
  back := Node.uint64?_whole
  solid := rfl

/-- The words of an enumeration. -/
def word (spelling : α → String) (named? : String → Option α)
    (known : ∀ value, named? (spelling value) = some value) : WireForm α where
  toJson value := .text (spelling value)
  ofNode? node := do named? (← node.word?)
  readable value := Json.readable_text (spelling value)
  back := known
  solid := rfl

end WireForm

end PagedSearch
