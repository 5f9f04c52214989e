import PagedSearch.Catalog
import PagedSearch.Value.Stored

/-!
# Fields of documents

What a document holds in a declared field, read as the declared type
(`Catalog.held?`). Such a value always has the declared type, so any two values
of one field are comparable (`compare?_eq_order`). Values of one type are in a
total preorder: numbers by size, with both zeros in one place, dates and instants
by time, and texts by code points.
-/
namespace PagedSearch

namespace Value

theorem type_of_ofStored? {stored : Json} {type : FieldType} {value : Value}
    (h : ofStored? stored type = some value) : value.type = type := by
  unfold ofStored? at h
  split at h
  · cases h
  · cases h
  · cases h
  · exact type_of_read? h
  · cases h
    rfl
  · obtain ⟨x, -, rfl⟩ := Option.map_eq_some_iff.mp h
    rfl
  · cases h

theorem type_of_bind_ofStored? {stored : Option Json} {type : FieldType} {value : Value}
    (held : stored.bind (ofStored? · type) = some value) : value.type = type := by
  obtain ⟨_, -, read⟩ := Option.bind_eq_some_iff.mp held
  exact type_of_ofStored? read

/-- The place of a value among the values of its type, for the types that count. -/
def place : Value → Int
  | text _ => 0
  | number x => x.place
  | date d => d.place
  | instant t => t.place

/-- The letters of a text; other values have none. -/
def letters : Value → String
  | text s => s
  | _ => ""

/-- Order by place, and texts by their letters. -/
def order (a b : Value) : Ordering :=
  (compare a.place b.place).then (compare a.letters b.letters)

instance : Std.TransCmp order :=
  inferInstanceAs (Std.TransCmp (compareLex (compareOn place) (compareOn letters)))

/-- Two values of one type are comparable, and their order is the order of places and
letters. -/
theorem compare?_eq_order {a b : Value} (same : a.type = b.type) :
    a.compare? b = some (order a b) := by
  cases a <;> cases b <;> cases same
  · simp [compare?, order, place, letters]
  · simp [compare?, order, place, letters, Binary64.compare]
  · simp [compare?, order, place, letters, Date.compare]
  · simp [compare?, order, place, letters, Instant.compare]

end Value

namespace Catalog

/-- What a document holds in a declared field, none if nothing there reads as its type. -/
def held? (catalog : Catalog) (entity field : String) (document : Json) : Option Value :=
  (catalog.typeOf? entity field).bind fun type =>
    (document.get? field).bind (Value.ofStored? · type)

theorem held?_of_declared {catalog : Catalog} {entity field : String} {type : FieldType}
    (declared : catalog.typeOf? entity field = some type) (document : Json) :
    catalog.held? entity field document =
      (document.get? field).bind (Value.ofStored? · type) := by
  rw [held?, declared, Option.bind_some]

/-- A held value has the declared type. -/
theorem type_of_held? {catalog : Catalog} {entity field : String} {document : Json}
    {type : FieldType} {value : Value} (declared : catalog.typeOf? entity field = some type)
    (holds : catalog.held? entity field document = some value) : value.type = type := by
  rw [held?_of_declared declared] at holds
  exact Value.type_of_bind_ofStored? holds

end Catalog

end PagedSearch
