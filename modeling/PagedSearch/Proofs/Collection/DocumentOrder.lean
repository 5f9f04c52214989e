import PagedSearch.Proofs.Collection.Sorting
import PagedSearch.Proofs.Request.Planning
import PagedSearch.Proofs.Value.Field
import PagedSearch.Collection.Page

/-!
# Documents in order

The order of a plan is stated here on key tuples: what a document holds in the sort
fields, read as their declared types. A key that holds nothing is below every
value, tuples are ordered by their first keys that differ, and a descending order
turns every key round (`notAfter`, `sameTuple`). The comparison of documents
decides exactly that (`isLE_orderByKeys_iff`, `orderByKeys_eq_eq_iff`). It is a total
preorder on all documents (`orderByKeys_transCmp`), since each key is compared by
places and letters of values of one type. So sorting is correct and stable for
every collection, and a fetched page is a cut of the sorted documents
(`ordered_by_declared_types`).
-/
namespace PagedSearch

namespace Value

/-- Whether a key is below another. One that holds nothing is below all that hold a value. -/
def keyBelow : Option Value → Option Value → Bool
  | none, some _ => true
  | some x, some y => x.compare? y == some .lt
  | _, none => false

/-- Whether two keys are in one place of the order. -/
def sameKey : Option Value → Option Value → Bool
  | none, none => true
  | some x, some y => x.compare? y == some .eq
  | _, _ => false

/-- The order of keys as a comparison of their places and letters. -/
def keyOrder (a b : Option Value) : Ordering :=
  (compare (a.map place) (b.map place)).then (compare (a.map letters) (b.map letters))

@[simp] theorem keyOrder_none_none : keyOrder none none = .eq :=
  rfl

@[simp] theorem keyOrder_none_some (y : Value) : keyOrder none (some y) = .lt :=
  rfl

@[simp] theorem keyOrder_some_none (x : Value) : keyOrder (some x) none = .gt :=
  rfl

theorem keyOrder_some_some (x y : Value) : keyOrder (some x) (some y) = order x y :=
  rfl

section OneType

variable {a b : Option Value} (same : ∀ x ∈ a, ∀ y ∈ b, x.type = y.type)

include same in
theorem keyOrder_eq_lt_iff : keyOrder a b = .lt ↔ keyBelow a b = true := by
  cases a with
  | none => cases b <;> simp [keyBelow]
  | some x =>
    cases b with
    | none => simp [keyBelow]
    | some y =>
      rw [keyOrder_some_some, keyBelow, compare?_eq_order (same x rfl y rfl)]
      simp

include same in
theorem keyOrder_eq_eq_iff : keyOrder a b = .eq ↔ sameKey a b = true := by
  cases a with
  | none => cases b <;> simp [sameKey]
  | some x =>
    cases b with
    | none => simp [sameKey]
    | some y =>
      rw [keyOrder_some_some, sameKey, compare?_eq_order (same x rfl y rfl)]
      simp

end OneType

instance : Std.TransCmp keyOrder :=
  inferInstanceAs (Std.TransCmp (compareLex (compareOn (Option.map place))
    (compareOn (Option.map letters))))

end Value

namespace Direction

/-- Whether a key goes before another in an order of this direction. -/
def precedes (direction : Direction) (a b : Option Value) : Bool :=
  match direction with
  | ascending => Value.keyBelow a b
  | descending => Value.keyBelow b a

end Direction

namespace Collection

/-- Whether a key tuple is not after another, the first keys that differ deciding. -/
def notAfter (direction : Direction) : List (Option Value) → List (Option Value) → Bool
  | a :: as, b :: bs => direction.precedes a b || (Value.sameKey a b && notAfter direction as bs)
  | _, _ => true

/-- Whether all keys of two tuples are in one place. -/
def sameTuple : List (Option Value) → List (Option Value) → Bool
  | a :: as, b :: bs => Value.sameKey a b && sameTuple as bs
  | _, _ => true

/-- What a document holds in the given fields. -/
def keyTuple (catalog : Catalog) (entity : String) (fields : List String) (document : Json) :
    List (Option Value) :=
  fields.map fun field => catalog.held? entity field document

/-- The sort keys of the given fields with their declared types. -/
def declaredKeys (catalog : Catalog) (entity : String) (direction : Direction)
    (fields : List String) : List SortKey :=
  fields.map fun field => ⟨field, direction, catalog.typeOf? entity field⟩

theorem orderByType_eq_keyOrder (type : FieldType) (a b : Option Json) :
    orderByType type a b =
      Value.keyOrder (a.bind (Value.ofStored? · type)) (b.bind (Value.ofStored? · type)) := by
  unfold orderByType
  cases left : a.bind (Value.ofStored? · type) with
  | none => cases b.bind (Value.ofStored? · type) <;> rfl
  | some x =>
    cases right : b.bind (Value.ofStored? · type) with
    | none => rfl
    | some y =>
      have same : x.type = y.type :=
        (Value.type_of_bind_ofStored? left).trans (Value.type_of_bind_ofStored? right).symm
      rw [Value.keyOrder_some_some]
      simp [Value.compare?_eq_order same]

section Declared

variable (catalog : Catalog) (entity : String) (direction : Direction)

/-- A key of a declared field compares what two documents hold in it, a descending key the
other way round. -/
theorem orderByKey_declared (field : String)
    (declared : (catalog.typeOf? entity field).isSome = true) (a b : Json) :
    orderByKey ⟨field, direction, catalog.typeOf? entity field⟩ a b =
      match direction with
      | .ascending =>
        Value.keyOrder (catalog.held? entity field a) (catalog.held? entity field b)
      | .descending =>
        Value.keyOrder (catalog.held? entity field b) (catalog.held? entity field a) := by
  obtain ⟨type, type_eq⟩ := Option.isSome_iff_exists.mp declared
  rw [Catalog.held?_of_declared type_eq, Catalog.held?_of_declared type_eq, type_eq, orderByKey]
  dsimp only
  rw [orderByType_eq_keyOrder]
  cases direction with
  | ascending => rfl
  | descending => exact Std.OrientedCmp.eq_swap.symm

/-- What two documents hold in a field has one type. -/
theorem held?_one_type (field : String)
    (declared : (catalog.typeOf? entity field).isSome = true) (a b : Json) :
    ∀ x ∈ catalog.held? entity field a, ∀ y ∈ catalog.held? entity field b, x.type = y.type := by
  obtain ⟨type, type_eq⟩ := Option.isSome_iff_exists.mp declared
  intro x left y right
  rw [Catalog.type_of_held? type_eq left, Catalog.type_of_held? type_eq right]

theorem orderByKey_eq_lt_iff (field : String)
    (declared : (catalog.typeOf? entity field).isSome = true) (a b : Json) :
    orderByKey ⟨field, direction, catalog.typeOf? entity field⟩ a b = .lt ↔
      direction.precedes (catalog.held? entity field a) (catalog.held? entity field b) = true := by
  rw [orderByKey_declared catalog entity direction field declared]
  cases direction with
  | ascending => exact Value.keyOrder_eq_lt_iff (held?_one_type catalog entity field declared a b)
  | descending => exact Value.keyOrder_eq_lt_iff (held?_one_type catalog entity field declared b a)

theorem orderByKey_eq_eq_iff (field : String)
    (declared : (catalog.typeOf? entity field).isSome = true) (a b : Json) :
    orderByKey ⟨field, direction, catalog.typeOf? entity field⟩ a b = .eq ↔
      Value.sameKey (catalog.held? entity field a) (catalog.held? entity field b) = true := by
  have turned : Value.keyOrder (catalog.held? entity field b) (catalog.held? entity field a) = .eq ↔
      Value.keyOrder (catalog.held? entity field a) (catalog.held? entity field b) = .eq :=
    Std.OrientedCmp.eq_comm
  rw [orderByKey_declared catalog entity direction field declared,
    ← Value.keyOrder_eq_eq_iff (held?_one_type catalog entity field declared a b)]
  cases direction with
  | ascending => rfl
  | descending => exact turned

theorem orderByKey_transCmp (field : String)
    (declared : (catalog.typeOf? entity field).isSome = true) :
    Std.TransCmp (orderByKey ⟨field, direction, catalog.typeOf? entity field⟩) := by
  have ascending : Std.TransCmp fun a b =>
      Value.keyOrder (catalog.held? entity field a) (catalog.held? entity field b) :=
    { eq_swap := Std.OrientedCmp.eq_swap
      isLE_trans := Std.TransCmp.isLE_trans }
  have order : orderByKey ⟨field, direction, catalog.typeOf? entity field⟩ = _ :=
    funext fun a => funext fun b => orderByKey_declared catalog entity direction field declared a b
  rw [order]
  cases direction with
  | ascending => exact ascending
  | descending => exact Std.TransCmp.opposite

variable (fields : List String)
  (declared : ∀ field ∈ fields, (catalog.typeOf? entity field).isSome = true)

include declared in
/-- The comparison of documents decides the order of key tuples. -/
theorem isLE_orderByKeys_iff (a b : Json) :
    (orderByKeys (declaredKeys catalog entity direction fields) a b).isLE = true ↔
      notAfter direction (keyTuple catalog entity fields a) (keyTuple catalog entity fields b) =
        true := by
  induction fields with
  | nil => exact ⟨fun _ => rfl, fun _ => rfl⟩
  | cons field fields ih =>
    obtain ⟨head, tail⟩ := List.forall_mem_cons.mp declared
    change ((orderByKey ⟨field, direction, catalog.typeOf? entity field⟩ a b).then
      (orderByKeys (declaredKeys catalog entity direction fields) a b)).isLE = true ↔
        (direction.precedes (catalog.held? entity field a) (catalog.held? entity field b) ||
          (Value.sameKey (catalog.held? entity field a) (catalog.held? entity field b) &&
            notAfter direction (keyTuple catalog entity fields a)
              (keyTuple catalog entity fields b))) = true
    rw [Ordering.isLE_then_iff_or, orderByKey_eq_lt_iff catalog entity direction field head,
      orderByKey_eq_eq_iff catalog entity direction field head, ih tail, Bool.or_eq_true,
      Bool.and_eq_true]

include declared in
theorem orderByKeys_eq_eq_iff (a b : Json) :
    orderByKeys (declaredKeys catalog entity direction fields) a b = .eq ↔
      sameTuple (keyTuple catalog entity fields a) (keyTuple catalog entity fields b) = true := by
  induction fields with
  | nil => exact ⟨fun _ => rfl, fun _ => rfl⟩
  | cons field fields ih =>
    obtain ⟨head, tail⟩ := List.forall_mem_cons.mp declared
    change (orderByKey ⟨field, direction, catalog.typeOf? entity field⟩ a b).then
      (orderByKeys (declaredKeys catalog entity direction fields) a b) = .eq ↔
        (Value.sameKey (catalog.held? entity field a) (catalog.held? entity field b) &&
          sameTuple (keyTuple catalog entity fields a) (keyTuple catalog entity fields b)) = true
    rw [Ordering.then_eq_eq, orderByKey_eq_eq_iff catalog entity direction field head, ih tail,
      Bool.and_eq_true]

include declared in
/-- Documents are in a total preorder by any number of declared keys. -/
theorem orderByKeys_transCmp :
    Std.TransCmp (orderByKeys (declaredKeys catalog entity direction fields)) := by
  induction fields with
  | nil =>
    exact
      { eq_swap := rfl
        isLE_trans := fun _ _ => rfl }
  | cons field fields ih =>
    obtain ⟨head, tail⟩ := List.forall_mem_cons.mp declared
    have first := orderByKey_transCmp catalog entity direction field head
    have others := ih tail
    exact inferInstanceAs (Std.TransCmp (compareLex
      (orderByKey ⟨field, direction, catalog.typeOf? entity field⟩)
      (orderByKeys (declaredKeys catalog entity direction fields))))

end Declared

end Collection

namespace Plan

/-- Sorting by no keys changes nothing, so every plan sorts. -/
theorem ordered_eq_sorted (plan : Plan Criteria) (documents : List Json) :
    plan.ordered documents =
      Collection.sorted (Collection.orderByKeys plan.window.order) (plan.selected documents) := by
  unfold ordered
  dsimp only
  split
  next unsorted =>
    have kept := Collection.sorted_filter (Collection.orderByKeys []) (fun _ => true)
      (fun _ _ _ _ => by simp [Collection.orderByKeys]) (plan.selected documents)
    rw [unsorted]
    simpa using kept.symm
  next => rfl

/-- The fetched page, `plan.page`, is exactly `plan.ordered` cut by the window: it skips the
documents of the pages before it, at most as many as a window can skip, and takes one page of the
others. These ordered documents are the selected ones, each as often as it was given. None goes
before one whose key tuple it is after, in the direction of the request, and documents with one
tuple stay in their given order, as all do without sort fields. -/
theorem ordered_by_declared_types (catalog : Catalog) (entity : String) (request : Request)
    (documents : List Json) (plan : Plan Criteria)
    (planned : Criteria.builder.plan catalog entity request = .ok plan) :
    (plan.ordered documents).Perm (plan.selected documents) ∧
      (plan.ordered documents).Pairwise (fun x y =>
        Collection.notAfter (Direction.ofToken request.direction)
          (Collection.keyTuple catalog entity request.sortFields x)
          (Collection.keyTuple catalog entity request.sortFields y) = true) ∧
      (∀ document, (plan.ordered documents).filter (fun other =>
          Collection.sameTuple (Collection.keyTuple catalog entity request.sortFields document)
            (Collection.keyTuple catalog entity request.sortFields other)) =
        (plan.selected documents).filter fun other =>
          Collection.sameTuple (Collection.keyTuple catalog entity request.sortFields document)
            (Collection.keyTuple catalog entity request.sortFields other)) ∧
      (request.sortFields = [] → plan.ordered documents = plan.selected documents) ∧
      (plan.page documents).1 =
        ((plan.ordered documents).drop
          (min (plan.window.index.toNat * plan.window.size.toNat) Window.maxSkip)).take
            plan.window.size.toNat := by
  obtain ⟨declared, -⟩ := (Builder.plan_eq_ok_iff _ catalog entity request plan).mp planned
  have order : plan.window.order = Collection.declaredKeys catalog entity
      (Direction.ofToken request.direction) request.sortFields := by
    rw [Builder.window_of_planned _ catalog entity request plan planned, Window.order_typed]
    rfl
  have preorder := Collection.orderByKeys_transCmp catalog entity
    (Direction.ofToken request.direction) request.sortFields declared
  refine ⟨plan.ordered_perm documents, ?sorted, ?stable, ?unsorted, ?fetched⟩
  case sorted =>
    rw [ordered_eq_sorted, order]
    refine (Collection.sorted_pairwise _ (plan.selected documents)).imp ?_
    intro x y below
    exact (Collection.isLE_orderByKeys_iff catalog entity _ _ declared x y).mp below
  case stable =>
    intro document
    rw [ordered_eq_sorted, order]
    apply Collection.sorted_filter
    intro x y left right below
    have x_same := (Collection.orderByKeys_eq_eq_iff catalog entity
      (Direction.ofToken request.direction) _ declared document x).mpr left
    have y_same := (Collection.orderByKeys_eq_eq_iff catalog entity
      (Direction.ofToken request.direction) _ declared document y).mpr right
    have x_back := Std.OrientedCmp.eq_symm x_same
    rw [Std.TransCmp.eq_trans x_back y_same] at below
    cases below
  case unsorted =>
    intro unsorted
    have no_keys : plan.window.order = [] := by
      rw [order, unsorted]
      rfl
    exact if_pos no_keys
  case fetched =>
    rw [← Window.skip_toNat]
    rfl

/-- A descending order: two documents with one label keep their order, one without a label comes
last, and the page of one document has the first of them. -/
theorem ordered_by_declared_types_descending :
    ∃ plan, Criteria.builder.plan (.entity ((Entity.new "item").declare "label" .text)) "item"
        ⟨none, none, some "desc", some ["label"], none⟩ = .ok plan ∧
      (plan.ordered [.null, .object [("label", .text "b"), ("mark", .bool true)],
          .object [("label", .text "a")], .object [("label", .text "b")]]).Pairwise (fun x y =>
        Collection.notAfter .descending
          (Collection.keyTuple (.entity ((Entity.new "item").declare "label" .text)) "item"
            ["label"] x)
          (Collection.keyTuple (.entity ((Entity.new "item").declare "label" .text)) "item"
            ["label"] y) = true) ∧
      plan.ordered [.null, .object [("label", .text "b"), ("mark", .bool true)],
          .object [("label", .text "a")], .object [("label", .text "b")]] =
        [.object [("label", .text "b"), ("mark", .bool true)], .object [("label", .text "b")],
          .object [("label", .text "a")], .null] ∧
      (plan.page [.null, .object [("label", .text "b"), ("mark", .bool true)],
          .object [("label", .text "a")], .object [("label", .text "b")]]).1 =
        [.object [("label", .text "b"), ("mark", .bool true)]] := by
  have planned : Criteria.builder.plan (.entity ((Entity.new "item").declare "label" .text)) "item"
      ⟨none, none, some "desc", some ["label"], none⟩ =
        .ok ⟨⟨some 0, some 1, some "DESC", some ["label"], none⟩,
          ⟨0, 1, [⟨"label", .descending, some .text⟩]⟩, none⟩ := by
    decide +kernel
  have descending : Direction.ofToken (some "desc") = .descending := by decide +kernel
  obtain ⟨-, sorted, -, -, fetched⟩ := ordered_by_declared_types
    (.entity ((Entity.new "item").declare "label" .text)) "item" _
    [.null, .object [("label", .text "b"), ("mark", .bool true)],
      .object [("label", .text "a")], .object [("label", .text "b")]] _ planned
  dsimp only at sorted
  rw [descending] at sorted
  exact ⟨_, planned, sorted, rfl, fetched.trans rfl⟩

end Plan

end PagedSearch
