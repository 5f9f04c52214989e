import PagedSearch.Proofs.Filter.Compilation
import PagedSearch.Plan
import PagedSearch.Criteria.Basic

/-!
# Look-ups after declarations

A name stands for what was declared under it last (`IsLast`). This holds of any table
after any run of insertions (`get?_insertAll_iff`), and so of the fields of an entity and
of the entities of a registry. Every registration keeps an entity under its own name
(`Registry.Named`), so a registered entity, taken alone, answers for this name as the
registry does. Planning asks for the fields of one entity only (`plan_congr_catalog`), so
the two also plan alike (`registered_lookups`).
-/
namespace PagedSearch

variable {α β : Type}

/-- The value is the one that stands last under the name. -/
def IsLast (name : String) (value : α) (pairs : List (String × α)) : Prop :=
  ∃ before after, pairs = before ++ (name, value) :: after ∧ ∀ pair ∈ after, pair.1 ≠ name

namespace IsLast

variable {name : String} {value other : α} {pairs : List (String × α)}

theorem mem (last : IsLast name value pairs) : (name, value) ∈ pairs := by
  obtain ⟨before, after, rfl, -⟩ := last
  simp

theorem not_nil : ¬ IsLast name value [] := by
  rintro ⟨before, after, split, -⟩
  simp at split

/-- A pair at the front is the last one of its name only if no other follows. -/
theorem cons_iff (pair : String × α) :
    IsLast name value (pair :: pairs) ↔
      IsLast name value pairs ∨ pair = (name, value) ∧ ∀ later ∈ pairs, later.1 ≠ name := by
  constructor
  · rintro ⟨before, after, split, unnamed⟩
    cases before with
    | nil =>
      obtain ⟨rfl, rfl⟩ := List.cons.inj split
      exact .inr ⟨rfl, unnamed⟩
    | cons first before =>
      obtain ⟨rfl, rfl⟩ := List.cons.inj split
      exact .inl ⟨before, after, rfl, unnamed⟩
  · rintro (⟨before, after, rfl, unnamed⟩ | ⟨rfl, unnamed⟩)
    · exact ⟨pair :: before, after, rfl, unnamed⟩
    · exact ⟨[], pairs, rfl, unnamed⟩

/-- Whatever is declared under a name, one declaration of it is the last. -/
theorem exists_of_mem (member : (name, value) ∈ pairs) : ∃ last, IsLast name last pairs := by
  induction pairs generalizing value with
  | nil => cases member
  | cons pair pairs ih =>
    by_cases named : ∃ later ∈ pairs, later.1 = name
    · obtain ⟨⟨_, found⟩, later, rfl⟩ := named
      obtain ⟨last, is_last⟩ := ih later
      exact ⟨last, (cons_iff pair).mpr (.inl is_last)⟩
    · have unnamed : ∀ later ∈ pairs, later.1 ≠ name :=
        fun later later_mem same => named ⟨later, later_mem, same⟩
      rcases List.mem_cons.mp member with rfl | later
      · exact ⟨value, (cons_iff _).mpr (.inr ⟨rfl, unnamed⟩)⟩
      · exact absurd rfl (unnamed _ later)

/-- Only pairs of the name count. -/
theorem filter_iff :
    IsLast name value (pairs.filter (·.1 == name)) ↔ IsLast name value pairs := by
  induction pairs with
  | nil => rfl
  | cons pair pairs ih =>
    by_cases named : pair.1 = name
    · rw [List.filter_cons_of_pos (by simpa using named), cons_iff, cons_iff, ih]
      simp
    · have other : pair ≠ (name, value) := by
        rintro rfl
        exact named rfl
      rw [List.filter_cons_of_neg (by simpa using named), ih, cons_iff]
      simp [other]

/-- What stood before a later declaration of the name is forgotten. -/
theorem append_iff_of_mem (earlier : List (String × α)) (member : (name, other) ∈ pairs) :
    IsLast name value (earlier ++ pairs) ↔ IsLast name value pairs := by
  induction earlier with
  | nil => rfl
  | cons pair earlier ih =>
    have hidden : ¬ ∀ later ∈ earlier ++ pairs, later.1 ≠ name :=
      fun unnamed => unnamed _ (List.mem_append_right earlier member) rfl
    rw [List.cons_append, cons_iff, ih]
    exact or_iff_left fun front => hidden front.2

/-- Values that are made from the values of other pairs. -/
theorem map_iff (make : String → α → β) {made : β} :
    IsLast name made (pairs.map fun pair => (pair.1, make pair.1 pair.2)) ↔
      ∃ value, IsLast name value pairs ∧ make name value = made := by
  induction pairs with
  | nil => simp [not_nil]
  | cons pair pairs ih =>
    obtain ⟨key, stored⟩ := pair
    simp only [List.map_cons, cons_iff, ih, List.forall_mem_map, Prod.mk.injEq]
    constructor
    · rintro (⟨value, last, rfl⟩ | ⟨⟨rfl, rfl⟩, unnamed⟩)
      · exact ⟨value, .inl last, rfl⟩
      · exact ⟨stored, .inr ⟨⟨rfl, rfl⟩, unnamed⟩, rfl⟩
    · rintro ⟨value, last | ⟨⟨rfl, rfl⟩, unnamed⟩, rfl⟩
      · exact .inl ⟨value, last, rfl⟩
      · exact .inr ⟨⟨rfl, rfl⟩, unnamed⟩

end IsLast

namespace NameTable

/-- The table after a run of insertions. -/
def insertAll (table : NameTable α) (pairs : List (String × α)) : NameTable α :=
  pairs.foldl (fun table pair => table.insert pair.1 pair.2) table

/-- A name has the value that was inserted under it last, and else the one it had. -/
theorem get?_insertAll_iff (table : NameTable α) (pairs : List (String × α)) (name : String)
    (value : α) :
    (table.insertAll pairs).get? name = some value ↔
      IsLast name value pairs ∨
        (∀ pair ∈ pairs, pair.1 ≠ name) ∧ table.get? name = some value := by
  induction pairs generalizing table with
  | nil => simp [insertAll, IsLast.not_nil]
  | cons pair pairs ih =>
    obtain ⟨key, stored⟩ := pair
    change ((table.insert key stored).insertAll pairs).get? name = some value ↔ _
    rw [ih, get?_insert, IsLast.cons_iff, List.forall_mem_cons, or_assoc]
    by_cases named : name = key
    · subst named
      simp [and_comm]
    · have other : (key, stored) ≠ (name, value) := by
        rintro ⟨⟩
        exact named rfl
      simp [named, other, Ne.symm named]

theorem get?_empty_insertAll_iff (pairs : List (String × α)) (name : String) (value : α) :
    (empty.insertAll pairs).get? name = some value ↔ IsLast name value pairs := by
  simp [get?_insertAll_iff]

end NameTable

namespace Entity

theorem foldl_declare (declarations : List (String × FieldType)) (entity : Entity) :
    declarations.foldl (fun entity (field, type) => entity.declare field type) entity =
      ⟨entity.name, entity.fields.insertAll declarations⟩ := by
  induction declarations generalizing entity with
  | nil => rfl
  | cons declaration declarations ih => exact ih (entity.declare declaration.1 declaration.2)

/-- A run of declarations keeps the name and inserts every field in its turn. -/
theorem ofDeclarations_eq (name : String) (declarations : List (String × FieldType)) :
    ofDeclarations name declarations = ⟨name, NameTable.empty.insertAll declarations⟩ :=
  foldl_declare declarations (new name)

theorem get?_ofDeclarations_iff (name : String) (declarations : List (String × FieldType))
    (field : String) (type : FieldType) :
    (ofDeclarations name declarations).get? field = some type ↔
      IsLast field type declarations := by
  rw [ofDeclarations_eq]
  exact NameTable.get?_empty_insertAll_iff declarations field type

end Entity

namespace Registry

/-- Every entity is kept under its own name. -/
def Named (registry : Registry) : Prop :=
  ∀ name entity, registry.get? name = some entity → entity.name = name

theorem named_empty : empty.Named := by
  intro name entity found
  cases found

theorem Named.register {registry : Registry} (named : registry.Named) (entity : Entity) :
    (registry.register entity).Named := by
  intro name other found
  change (registry.entities.insert entity.name entity).get? name = some other at found
  rw [NameTable.get?_insert] at found
  split at found
  next same =>
    cases found
    exact same.symm
  next => exact named name other found

theorem Named.foldl_register {registry : Registry} (named : registry.Named)
    (entities : List Entity) : (entities.foldl Registry.register registry).Named := by
  induction entities generalizing registry with
  | nil => exact named
  | cons entity entities ih => exact ih (named.register entity)

theorem named_ofEntities (entities : List Entity) : (ofEntities entities).Named :=
  named_empty.foldl_register entities

theorem foldl_register (entities : List Entity) (registry : Registry) :
    entities.foldl register registry =
      ⟨registry.entities.insertAll (entities.map fun entity => (entity.name, entity))⟩ := by
  induction entities generalizing registry with
  | nil => rfl
  | cons entity entities ih => exact ih (registry.register entity)

/-- The registry of a run of schemas, each a name with its declarations. -/
def ofSchemas (schemas : List (String × List (String × FieldType))) : Registry :=
  ofEntities (schemas.map fun schema => Entity.ofDeclarations schema.1 schema.2)

/-- A name stands for the last schema that was registered under it. -/
theorem get?_ofSchemas_iff (schemas : List (String × List (String × FieldType)))
    (name : String) (entity : Entity) :
    (ofSchemas schemas).get? name = some entity ↔
      ∃ declarations, IsLast name declarations schemas ∧
        Entity.ofDeclarations name declarations = entity := by
  have pairs : (schemas.map fun schema => Entity.ofDeclarations schema.1 schema.2).map
        (fun entity => (entity.name, entity)) =
      schemas.map fun schema => (schema.1, Entity.ofDeclarations schema.1 schema.2) := by
    simp [Entity.ofDeclarations_eq]
  rw [ofSchemas, ofEntities, foldl_register, pairs, ← IsLast.map_iff Entity.ofDeclarations]
  exact NameTable.get?_empty_insertAll_iff _ name entity

end Registry

namespace Catalog

theorem typeOf?_registry_iff (schemas : List (String × List (String × FieldType)))
    (entity field : String) (type : FieldType) :
    (registry (Registry.ofSchemas schemas)).typeOf? entity field = some type ↔
      ∃ declarations, IsLast entity declarations schemas ∧ IsLast field type declarations := by
  change ((Registry.ofSchemas schemas).get? entity).bind (·.get? field) = some type ↔ _
  simp only [Option.bind_eq_some_iff, Registry.get?_ofSchemas_iff]
  constructor
  · rintro ⟨_, ⟨declarations, last, rfl⟩, found⟩
    exact ⟨declarations, last, (Entity.get?_ofDeclarations_iff _ _ _ _).mp found⟩
  · rintro ⟨declarations, last, declared⟩
    exact ⟨_, ⟨declarations, last, rfl⟩, (Entity.get?_ofDeclarations_iff _ _ _ _).mpr declared⟩

/-- Runs of schemas with the same last schema of an entity answer alike for it. -/
theorem typeOf?_registry_congr {schemas others : List (String × List (String × FieldType))}
    {entity : String}
    (same : ∀ declarations,
      IsLast entity declarations schemas ↔ IsLast entity declarations others) (field : String) :
    (registry (Registry.ofSchemas schemas)).typeOf? entity field =
      (registry (Registry.ofSchemas others)).typeOf? entity field := by
  ext type
  simp only [typeOf?_registry_iff, same]

/-- A registered entity alone answers for its name as the registry does. -/
theorem typeOf?_entity_eq {entities : Registry} {name : String} {schema : Entity}
    (named : entities.Named) (found : entities.get? name = some schema) (field : String) :
    (entity schema).typeOf? name field = (registry entities).typeOf? name field := by
  change (if name = schema.name then schema.get? field else none) =
    (entities.get? name).bind (·.get? field)
  rw [if_pos (named name schema found).symm, found, Option.bind_some]

end Catalog

section Planning

variable {first second : Catalog} {entity : String}
  (same : ∀ field, first.typeOf? entity field = second.typeOf? entity field)

include same in
theorem Clause.check_congr_catalog :
    Clause.check first entity = Clause.check second entity := by
  funext clause
  rw [Clause.check, Clause.check, same]

include same in
theorem SortKey.declared_congr_catalog :
    SortKey.declared first entity = SortKey.declared second entity := by
  funext key
  rw [SortKey.declared, SortKey.declared, same]

include same in
/-- Catalogs that agree on the fields of an entity plan its requests alike. -/
theorem Builder.plan_congr_catalog {P : Type} (builder : Builder P) (request : Request) :
    builder.plan first entity request = builder.plan second entity request := by
  have filters : builder.compile first entity = builder.compile second entity := by
    funext clauses
    rw [compile_eq_map, compile_eq_map, Clause.checkAll, Clause.checkAll,
      Clause.check_congr_catalog same]
  rw [plan, plan, SortKey.declared_congr_catalog same, filters]

end Planning

namespace Catalog

/-- Let any run of schemas be registered, and take any entity. A field of it has the type of
its last declaration in the last schema of the entity, and no type if that schema does not
declare it. Schemas that were registered earlier under the name are forgotten, and schemas of
other names do not count. The schema found under the name has that name. Taken alone, it
answers for the entity as the registry does and for no other, and every request for the
entity is planned or rejected alike. -/
theorem registered_lookups (schemas : List (String × List (String × FieldType)))
    (entity : String) :
    (∀ field type, (registry (Registry.ofSchemas schemas)).typeOf? entity field = some type ↔
      ∃ declarations, IsLast entity declarations schemas ∧ IsLast field type declarations) ∧
    (∀ field, (registry (Registry.ofSchemas schemas)).typeOf? entity field = none ↔
      ∀ declarations, IsLast entity declarations schemas →
        ∀ type, (field, type) ∉ declarations) ∧
    (∀ earlier, entity ∈ schemas.map Prod.fst →
      ∀ field, (registry (Registry.ofSchemas (earlier ++ schemas))).typeOf? entity field =
        (registry (Registry.ofSchemas schemas)).typeOf? entity field) ∧
    (∀ others, others.filter (·.1 == entity) = schemas.filter (·.1 == entity) →
      ∀ field, (registry (Registry.ofSchemas others)).typeOf? entity field =
        (registry (Registry.ofSchemas schemas)).typeOf? entity field) ∧
    ∀ schema, (Registry.ofSchemas schemas).get? entity = some schema →
      schema.name = entity ∧
      (∀ field, (Catalog.entity schema).typeOf? entity field =
        (registry (Registry.ofSchemas schemas)).typeOf? entity field) ∧
      (∀ other field, other ≠ entity → (Catalog.entity schema).typeOf? other field = none) ∧
      ∀ (P : Type) (builder : Builder P) (request : Request),
        builder.plan (Catalog.entity schema) entity request =
          builder.plan (registry (Registry.ofSchemas schemas)) entity request := by
  have answers := typeOf?_registry_iff schemas entity
  refine ⟨answers, ?undeclared, ?earlier, ?others, ?alone⟩
  case undeclared =>
    intro field
    rw [Option.eq_none_iff_forall_ne_some]
    constructor
    · intro unanswered declarations last type member
      obtain ⟨found, declared⟩ := IsLast.exists_of_mem member
      exact unanswered found ((answers field found).mpr ⟨declarations, last, declared⟩)
    · intro undeclared type answered
      obtain ⟨declarations, last, declared⟩ := (answers field type).mp answered
      exact undeclared declarations last type declared.mem
  case earlier =>
    intro earlier registered
    obtain ⟨⟨_, _⟩, member, rfl⟩ := List.mem_map.mp registered
    exact typeOf?_registry_congr fun _ => IsLast.append_iff_of_mem earlier member
  case others =>
    intro others alike
    apply typeOf?_registry_congr
    intro declarations
    rw [← IsLast.filter_iff, alike, IsLast.filter_iff]
  case alone =>
    intro schema found
    have named := Registry.named_ofEntities
      (schemas.map fun schema => Entity.ofDeclarations schema.1 schema.2)
    have name := named entity schema found
    have agrees := typeOf?_entity_eq named found
    refine ⟨name, agrees, ?_, fun P builder request =>
      builder.plan_congr_catalog agrees request⟩
    intro other field different
    exact if_neg fun same => different (same.trans name)

/-- A schema that is registered twice, and one whose name differs in a letter's case. The
second `item` has lost its label, and its mark has the type of the last declaration. -/
theorem registered_lookups_replaced :
    ∃ schema, (Registry.ofSchemas [("item", [("label", .text)]), ("Item", [("label", .date)]),
        ("item", [("mark", .date), ("mark", .number)])]).get? "item" = some schema ∧
      (Catalog.entity schema).typeOf? "item" "mark" = some .number ∧
      (Catalog.entity schema).typeOf? "item" "label" = none ∧
      (Catalog.entity schema).typeOf? "Item" "label" = none ∧
      Criteria.builder.plan (Catalog.entity schema) "item"
          ⟨none, none, none, some ["label"], none⟩ =
        .error (.unknownField "item" "label") := by
  have last : IsLast "item" [("mark", .date), ("mark", .number)]
      [("item", [("label", FieldType.text)]), ("Item", [("label", .date)]),
        ("item", [("mark", .date), ("mark", .number)])] :=
    ⟨[("item", [("label", .text)]), ("Item", [("label", .date)])], [], rfl, by simp⟩
  have mark : IsLast "mark" FieldType.number [("mark", .date), ("mark", .number)] :=
    ⟨[("mark", .date)], [], rfl, by simp⟩
  obtain ⟨answers, -, forgotten, -, alone⟩ := registered_lookups
    [("item", [("label", .text)]), ("Item", [("label", .date)]),
      ("item", [("mark", .date), ("mark", .number)])] "item"
  have found := (Registry.get?_ofSchemas_iff _ "item" _).mpr ⟨_, last, rfl⟩
  obtain ⟨-, same, others, planned⟩ := alone _ found
  refine ⟨_, found, ?_, ?_, others "Item" "label" (by decide), ?_⟩
  · rw [same]
    exact (answers "mark" .number).mpr ⟨_, last, mark⟩
  · rw [same]
    decide
  · rw [planned]
    decide +kernel

end Catalog

end PagedSearch
