import PagedSearch.FieldType

/-!
# Schemas

An entity declares the type of each of its fields, and a registry holds the
entities of a deployment. A later declaration of a name replaces the earlier
one, for a field its type and for an entity all of its fields. Names are
compared exactly.

Compilation asks a `Catalog`, which is any source of field types. A registry is
one, and so is a single entity, which answers for its own name alone.
-/
namespace PagedSearch

/-- A table in which every name has at most one value. -/
structure NameTable (α : Type) where
  entries : List (String × α)
  deriving Repr

namespace NameTable

variable {α : Type}

def empty : NameTable α :=
  ⟨[]⟩

/-- The value of a name. -/
def get? (table : NameTable α) (name : String) : Option α :=
  table.entries.lookup name

/-- The table with a value for a name, in place of an earlier one. -/
def insert (table : NameTable α) (name : String) (value : α) : NameTable α :=
  ⟨table.entries.filter (·.1 != name) ++ [(name, value)]⟩

@[simp] theorem get?_empty (name : String) : (empty : NameTable α).get? name = none := rfl

private theorem lookup_entry (key name : String) (value : α) (entries : List (String × α)) :
    ((key, value) :: entries).lookup name = if name = key then some value else entries.lookup name := by
  by_cases h : name = key
  · simp [h]
  · have differs : (name == key) = false := by simpa using h
    rw [List.lookup_cons, differs, if_neg h]

private theorem lookup_append_single (entries : List (String × α)) (name other : String) (value : α) :
    (entries ++ [(name, value)]).lookup other =
      (entries.lookup other).or (if other = name then some value else none) := by
  induction entries with
  | nil => simp [lookup_entry]
  | cons entry entries ih =>
    obtain ⟨key, stored⟩ := entry
    rw [List.cons_append, lookup_entry, lookup_entry, ih]
    split <;> simp

private theorem lookup_filter (entries : List (String × α)) (name other : String) :
    (entries.filter (·.1 != name)).lookup other =
      if other = name then none else entries.lookup other := by
  induction entries with
  | nil => simp
  | cons entry entries ih =>
    obtain ⟨key, stored⟩ := entry
    by_cases hk : key = name
    · rw [List.filter_cons_of_neg (by simp [hk]), ih, lookup_entry, hk]
      split <;> rfl
    · rw [List.filter_cons_of_pos (by simp [hk]), lookup_entry, lookup_entry, ih]
      split <;> simp_all

theorem get?_insert (table : NameTable α) (name other : String) (value : α) :
    (table.insert name value).get? other = if other = name then some value else table.get? other := by
  rw [get?, insert, lookup_append_single, lookup_filter]
  by_cases h : other = name <;> simp [h, get?]

end NameTable

/-- The declared fields of one entity. -/
structure Entity where
  name : String
  fields : NameTable FieldType
  deriving Repr

namespace Entity

/-- An entity without fields. -/
def new (name : String) : Entity :=
  ⟨name, .empty⟩

/-- The entity with a declared field. -/
def declare (entity : Entity) (field : String) (type : FieldType) : Entity :=
  { entity with fields := entity.fields.insert field type }

/-- The entity of a run of declarations. -/
def ofDeclarations (name : String) (declarations : List (String × FieldType)) : Entity :=
  declarations.foldl (fun entity (field, type) => entity.declare field type) (new name)

/-- The declared type of a field. -/
def get? (entity : Entity) (field : String) : Option FieldType :=
  entity.fields.get? field

end Entity

/-- The entities of a deployment by name. -/
structure Registry where
  entities : NameTable Entity
  deriving Repr

namespace Registry

def empty : Registry :=
  ⟨.empty⟩

/-- The registry with an entity, in place of an earlier one of the same name. -/
def register (registry : Registry) (entity : Entity) : Registry :=
  ⟨registry.entities.insert entity.name entity⟩

/-- The registry of a run of entities. -/
def ofEntities (entities : List Entity) : Registry :=
  entities.foldl register empty

/-- The entity of a name. -/
def get? (registry : Registry) (name : String) : Option Entity :=
  registry.entities.get? name

end Registry

/-- What answers for the types of fields: the type of a field of an entity, none if it is
not declared. -/
structure Catalog where
  typeOf? : (entity field : String) → Option FieldType

namespace Catalog

/-- The catalog of the entities in a registry. -/
def registry (entities : Registry) : Catalog where
  typeOf? name field := (entities.get? name).bind (·.get? field)

/-- The catalog of one entity. -/
def entity (schema : Entity) : Catalog where
  typeOf? name field := if name = schema.name then schema.get? field else none

end Catalog

end PagedSearch
