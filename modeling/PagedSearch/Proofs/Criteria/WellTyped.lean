import PagedSearch.Collection.Order
import PagedSearch.Proofs.Criteria.Comparisons
import PagedSearch.Proofs.Criteria.Conjunction
import PagedSearch.Proofs.Value.Decimals

/-!
# Well-typed criteria

Three places of the evaluation have an answer for values that do not fit together: a
pattern that does not meet two texts, a comparison of two values without an order, and the
order of two sort values without one. The evaluators here give no answer there and are
otherwise the same (`holds_eq_getD`, `selects_eq_getD`, `orderByType_eq_getD`).

Criteria are well typed if each of their comparisons suits the schema. Checked clauses do,
and joining keeps it (`wellTyped_conjunction`). What a document holds is read as the type of
the expected value, so well-typed criteria are evaluated to the end on every document
(`WellTyped.selects?_eq`). The sort keys of a plan have their declared types, and values of
one type have an order (`compiled_well_typed`).
-/
namespace PagedSearch

/-- An operator and a value suit a declared field: the value is of the field's type, the type
supports the operator, and a number is below the first power of two beyond all doubles. -/
structure Catalog.Suits (catalog : Catalog) (entity field : String) (operator : Operator)
    (value : Value) : Prop where
  declared : catalog.typeOf? entity field = some value.type
  allowed : value.type.allows operator = true
  finite : ∀ x, value = .number x → x.size < 2 ^ 1024

theorem Filter.Sound.suits {catalog : Catalog} {entity : String} {filter : Filter}
    (sound : filter.Sound catalog entity) :
    catalog.Suits entity filter.field filter.operator filter.value where
  declared := sound.typed ▸ sound.declared
  allowed := sound.typed ▸ sound.allowed
  finite x _ := x.size_lt

theorem FieldType.eq_text_of_allows {type : FieldType} {operator : Operator}
    (allowed : type.allows operator = true) (searches : operator.searchesText = true) :
    type = .text := by
  simpa [allows, searches] using allowed

theorem Value.exists_text {value : Value} (text : value.type = .text) :
    ∃ s, value = .text s := by
  cases value <;> cases text
  exact ⟨_, rfl⟩

namespace Operator

/-- As `holds`, without an answer for a pattern that does not meet two texts and for values
without an order. -/
def holds? (operator : Operator) (stored expected : Value) : Option Bool :=
  if operator.searchesText then
    match stored, expected with
    | .text s, .text needle =>
      some (operator.finds (Text.upper needle.toList) (Text.upper s.toList))
    | _, _ => none
  else (stored.compare? expected).map operator.admits

theorem holds_eq_getD (operator : Operator) (stored expected : Value) :
    operator.holds stored expected = (operator.holds? stored expected).getD false := by
  unfold holds holds?
  split
  next => cases stored <;> cases expected <;> rfl
  next => cases stored.compare? expected <;> rfl

/-- Between values of one type that supports the operator there is always an answer. -/
theorem holds?_eq {operator : Operator} {stored expected : Value}
    (same : stored.type = expected.type) (allowed : expected.type.allows operator = true) :
    operator.holds? stored expected = some (operator.holds stored expected) := by
  have answered : ∃ answer, operator.holds? stored expected = some answer := by
    unfold holds?
    by_cases searches : operator.searchesText = true
    · have text := FieldType.eq_text_of_allows allowed searches
      obtain ⟨needle, rfl⟩ := Value.exists_text text
      obtain ⟨s, rfl⟩ := Value.exists_text (same.trans text)
      exact ⟨_, if_pos searches⟩
    · rw [if_neg searches, Value.compare?_eq_order same]
      exact ⟨_, rfl⟩
  obtain ⟨answer, found⟩ := answered
  rw [holds_eq_getD, found, Option.getD_some]

end Operator

namespace Criteria

/-- As `selects`, without an answer as soon as one of the comparisons looked at has none. The
right side of a conjunction is looked at if the left one holds. -/
def selects? : Criteria → Json → Option Bool
  | both left right, document =>
    (left.selects? document).bind fun found =>
      if found then right.selects? document else some false
  | compare field operator expected, document =>
    match document.reading? field expected.type with
    | some stored => operator.holds? stored expected
    | none => some false

theorem selects_eq_getD (criteria : Criteria) (document : Json) :
    criteria.selects document = (criteria.selects? document).getD false := by
  induction criteria with
  | compare field operator expected =>
    unfold selects selects? Json.reading?
    cases (document.get? field).bind (Value.ofStored? · expected.type) with
    | none => rfl
    | some stored => exact operator.holds_eq_getD stored expected
  | both left right leftIH rightIH =>
    rw [selects, selects?, leftIH, rightIH]
    cases left.selects? document with
    | none => rfl
    | some found => cases found <;> rfl

variable {catalog : Catalog} {entity : String}

/-- Every comparison in the tree suits the schema. -/
inductive WellTyped (catalog : Catalog) (entity : String) : Criteria → Prop where
  | compare {field : String} {operator : Operator} {value : Value}
      (suits : catalog.Suits entity field operator value) :
      WellTyped catalog entity (compare field operator value)
  | both {left right : Criteria} (leftTyped : WellTyped catalog entity left)
      (rightTyped : WellTyped catalog entity right) : WellTyped catalog entity (both left right)

theorem wellTyped_ofFilter {filter : Filter} (sound : filter.Sound catalog entity) :
    WellTyped catalog entity (ofFilter filter) :=
  .compare sound.suits

/-- Joining checked clauses from left to right keeps a tree well typed. -/
theorem wellTyped_foldl {others : List Filter} {joined : Criteria}
    (typed : WellTyped catalog entity joined)
    (sound : ∀ filter ∈ others, filter.Sound catalog entity) :
    WellTyped catalog entity
      (others.foldl (fun joined next => builder.both joined (builder.clause next)) joined) := by
  induction others generalizing joined with
  | nil => exact typed
  | cons next others ih =>
    obtain ⟨head, tail⟩ := List.forall_mem_cons.mp sound
    exact ih (typed.both (wellTyped_ofFilter head)) tail

theorem wellTyped_conjunction {filters : List Filter} {criteria : Criteria}
    (sound : ∀ filter ∈ filters, filter.Sound catalog entity)
    (built : builder.conjunction filters = some criteria) : WellTyped catalog entity criteria := by
  cases filters with
  | nil => cases built
  | cons first others =>
    obtain ⟨head, tail⟩ := List.forall_mem_cons.mp sound
    rw [← Option.some.inj built]
    exact wellTyped_foldl (wellTyped_ofFilter head) tail

theorem WellTyped.suits {criteria : Criteria} (typed : WellTyped catalog entity criteria)
    {field : String} {operator : Operator} {value : Value}
    (leaf : Criteria.compare field operator value ∈ criteria.comparisons) :
    catalog.Suits entity field operator value := by
  induction typed with
  | compare suits =>
    cases List.mem_singleton.mp leaf
    exact suits
  | both _ _ leftIH rightIH => exact (List.mem_append.mp leaf).elim leftIH rightIH

/-- Well-typed criteria are evaluated to the end, whatever the document. -/
theorem WellTyped.selects?_eq {criteria : Criteria} (typed : WellTyped catalog entity criteria)
    (document : Json) : criteria.selects? document = some (criteria.selects document) := by
  have answered : ∃ answer, criteria.selects? document = some answer := by
    induction typed with
    | @compare field operator value suits =>
      unfold selects?
      cases held : document.reading? field value.type with
      | none => exact ⟨_, rfl⟩
      | some stored => exact ⟨_, Operator.holds?_eq (Json.type_of_reading? held) suits.allowed⟩
    | both _ _ leftIH rightIH =>
      obtain ⟨found, left_found⟩ := leftIH
      unfold selects?
      rw [left_found, Option.bind_some]
      cases found with
      | false => exact ⟨_, rfl⟩
      | true => exact rightIH
  obtain ⟨answer, found⟩ := answered
  rw [selects_eq_getD, found, Option.getD_some]

end Criteria

namespace Collection

/-- As `orderByType`, without an answer for two readable values without an order. -/
def orderByType? (type : FieldType) (a b : Option Json) : Option Ordering :=
  match a.bind (Value.ofStored? · type), b.bind (Value.ofStored? · type) with
  | some x, some y => x.compare? y
  | x, y => some (compare x.isSome y.isSome)

theorem orderByType_eq_getD (type : FieldType) (a b : Option Json) :
    orderByType type a b = (orderByType? type a b).getD .eq := by
  unfold orderByType orderByType?
  cases a.bind (Value.ofStored? · type) <;> cases b.bind (Value.ofStored? · type) <;> rfl

/-- Values read as one type have an order. -/
theorem orderByType?_eq (type : FieldType) (a b : Option Json) :
    orderByType? type a b = some (orderByType type a b) := by
  have answered : ∃ order, orderByType? type a b = some order := by
    unfold orderByType?
    split
    next x y left right =>
      have same : x.type = y.type :=
        (Value.type_of_bind_ofStored? left).trans (Value.type_of_bind_ofStored? right).symm
      exact ⟨_, Value.compare?_eq_order same⟩
    next => exact ⟨_, rfl⟩
  obtain ⟨order, found⟩ := answered
  rw [orderByType_eq_getD, found, Option.getD_some]

end Collection

namespace Clause

/-- A number in a checked clause is the finite double nearest to the clause's literal. -/
theorem check_number {catalog : Catalog} {entity : String} {clause : Clause} {filter : Filter}
    (checked : clause.check catalog entity = .ok filter) {x : Binary64}
    (number : filter.value = .number x) :
    ∃ l, DecimalLiteral.Spells (Text.trim clause.value.toList) l ∧ l.RoundsTo x := by
  obtain ⟨type, value, -, -, read, rfl⟩ :=
    (check_eq_ok_iff catalog entity clause filter).mp checked
  obtain rfl : value = .number x := number
  obtain rfl : FieldType.number = type := Value.type_of_read? read
  obtain ⟨l, y, spelled, rounds, same⟩ := Value.read?_decimal_eq_some_iff.mp read
  cases same
  exact ⟨l, spelled, rounds⟩

end Clause

namespace Builder

variable {P : Type}

/-- The keys of a plan have the declared types of their fields. -/
theorem typeOf?_of_planned (builder : Builder P) (catalog : Catalog) (entity : String)
    (request : Request) (plan : Plan P)
    (planned : builder.plan catalog entity request = .ok plan) :
    ∀ key ∈ plan.window.order, ∃ type, key.type = some type ∧
      catalog.typeOf? entity key.field = some type := by
  obtain ⟨declared, -⟩ := (plan_eq_ok_iff builder catalog entity request plan).mp planned
  rw [window_of_planned builder catalog entity request plan planned, Window.order_typed,
    List.forall_mem_map]
  intro field member
  obtain ⟨type, type_eq⟩ := Option.isSome_iff_exists.mp (declared field member)
  exact ⟨type, type_eq, type_eq⟩

end Builder

namespace Criteria

/-- What compiles is well typed. Every storage is given clauses whose value is of the declared
type of the field and whose operator that type supports, and a number in them is finite: it is
the double nearest to a literal in range. The same holds of every comparison in compiled
criteria. So a pattern meets two texts in every document that can be read, two values always
have an order, and the evaluation comes to an answer of its own. The sort keys of a plan have
declared types, and what two documents hold in them always has an order as well. -/
theorem compiled_well_typed (catalog : Catalog) (entity : String) :
    (∀ (P : Type) (builder : Builder P) (clauses : Option (List Clause)) (predicate : Option P),
      builder.compile catalog entity clauses = .ok predicate →
      ∃ filters, predicate = builder.conjunction filters ∧
        List.Forall₂ (fun clause filter => Clause.check catalog entity clause = .ok filter ∧
          filter.type = filter.value.type ∧
          catalog.Suits entity filter.field filter.operator filter.value ∧
          ∀ x, filter.value = .number x →
            ∃ l, DecimalLiteral.Spells (Text.trim clause.value.toList) l ∧ l.RoundsTo x)
          (clauses.getD []) filters) ∧
    (∀ (clauses : Option (List Clause)) (criteria : Criteria),
      builder.compile catalog entity clauses = .ok (some criteria) →
      (∀ field operator value, compare field operator value ∈ criteria.comparisons →
        catalog.Suits entity field operator value ∧
        ∀ document stored, Json.reading? document field value.type = some stored →
          (operator.searchesText = true →
            (∃ s, stored = .text s) ∧ ∃ needle, value = .text needle) ∧
          ∃ order, stored.compare? value = some order) ∧
      ∀ document, criteria.selects? document = some (criteria.selects document)) ∧
    (∀ (P : Type) (builder : Builder P) (request : Request) (plan : Plan P),
      builder.plan catalog entity request = .ok plan →
      ∀ key ∈ plan.window.order, ∃ type, key.type = some type ∧
        catalog.typeOf? entity key.field = some type ∧
        ∀ a b : Json,
          Collection.orderByType? type (a.get? key.field) (b.get? key.field) =
            some (Collection.orderByType type (a.get? key.field) (b.get? key.field))) := by
  refine ⟨?given, ?evaluated, ?sorted⟩
  case given =>
    intro P builder clauses predicate compiled
    obtain ⟨filters, checked, built⟩ := Builder.checked_of_compiled compiled
    refine ⟨filters, built.symm, checked.imp fun clause filter passes => ?_⟩
    have sound := Clause.check_sound catalog entity clause filter passes
    exact ⟨passes, sound.typed.symm, sound.suits, fun x => Clause.check_number passes⟩
  case evaluated =>
    intro clauses criteria compiled
    obtain ⟨filters, checked, built⟩ := Builder.checked_of_compiled compiled
    have typed := wellTyped_conjunction (Clause.sound_of_checked checked) built
    refine ⟨fun field operator value leaf => ⟨typed.suits leaf, ?_⟩, typed.selects?_eq⟩
    intro document stored held
    have same := Json.type_of_reading? held
    refine ⟨fun searches => ?_, _, Value.compare?_eq_order same⟩
    have text := FieldType.eq_text_of_allows (typed.suits leaf).allowed searches
    exact ⟨Value.exists_text (same.trans text), Value.exists_text text⟩
  case sorted =>
    intro P builder request plan planned key member
    obtain ⟨type, typed, declared⟩ :=
      builder.typeOf?_of_planned catalog entity request plan planned key member
    exact ⟨type, typed, declared, fun a b => Collection.orderByType?_eq type _ _⟩

/-- A pattern on texts and a threshold for numbers come to an answer on every document, which a
pattern on numbers would not. -/
theorem compiled_well_typed_threshold :
    ∃ criteria, builder.compile
        (.entity (((Entity.new "item").declare "label" .text).declare "size" .number)) "item"
        (some [⟨"label", "a", "like"⟩, ⟨"size", " 5e-1 ", "GT"⟩]) = .ok (some criteria) ∧
      (∀ document, criteria.selects? document = some (criteria.selects document)) ∧
      criteria.selects? (.object [("label", .whole 10), ("size", .text "2000")]) = some false ∧
      (compare "size" .contains (.number (.zero false))).selects?
        (.object [("size", .whole 0)]) = none := by
  have checks : builder.compile
      (.entity (((Entity.new "item").declare "label" .text).declare "size" .number)) "item"
      (some [⟨"label", "a", "like"⟩, ⟨"size", " 5e-1 ", "GT"⟩]) =
        .ok (some (.both (.compare "label" .contains (.text "a"))
          (.compare "size" .greater (.number ⟨false, 1022 * binade, by decide⟩)))) := by
    decide +kernel
  obtain ⟨-, evaluated, -⟩ := compiled_well_typed
    (.entity (((Entity.new "item").declare "label" .text).declare "size" .number)) "item"
  obtain ⟨-, answered⟩ := evaluated _ _ checks
  refine ⟨_, checks, answered, ?_, by decide +kernel⟩
  rw [answered]
  decide +kernel

end Criteria

end PagedSearch
