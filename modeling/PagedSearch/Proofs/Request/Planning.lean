import PagedSearch.Proofs.Filter.Compilation
import PagedSearch.Plan

/-!
# Planning requests

Repair settles in one step (`repair_repair`) and keeps sort fields and filters, so
the window of a request is that of its repaired form. Planning then adds two
things: the declared type of every sort field and the predicate. `plan_eq_ok_iff`
says all of it: which requests are planned, and every part of the plan.

The window's numbers are the repaired ones as plain numbers (`index_toNat`,
`size_toNat`), and what it skips is their product up to the cap (`skip_toNat`).
-/
namespace PagedSearch

namespace Request

theorem repairedPage_nonneg (page : Option Int64) : 0 ≤ repairedPage page := by
  unfold repairedPage
  split
  next index =>
    split
    next positive => exact Int64.le_of_lt positive
    next => decide
  · decide

theorem repairedSize_pos (size : Option Int64) : 0 < repairedSize size := by
  unfold repairedSize
  split
  next size =>
    split
    next above => exact Int64.lt_trans (by decide) above
    next => decide
  · decide

@[simp] theorem repairedPage_repairedPage (page : Option Int64) :
    repairedPage (some (repairedPage page)) = repairedPage page := by
  rcases page with _ | index
  · rfl
  · by_cases positive : 0 < index <;> simp [repairedPage, positive]

@[simp] theorem repairedSize_repairedSize (size : Option Int64) :
    repairedSize (some (repairedSize size)) = repairedSize size := by
  rcases size with _ | size
  · rfl
  · by_cases above : 1 < size <;> simp [repairedSize, above]

@[simp] theorem sortFields_repair (r : Request) : r.repair.sortFields = r.sortFields := by
  change (if r.sortFields = [] then none else r.sort).getD [] = r.sortFields
  split
  next unsorted => exact unsorted.symm
  next => rfl

/-- Repair keeps the direction of a sorted request, and an unsorted one has none. -/
@[simp] theorem direction?_repair (r : Request) : r.repair.direction? = r.direction? := by
  unfold direction?
  rw [sortFields_repair]
  split
  next => rfl
  next sorted =>
    have word : r.repair.direction = some (Direction.ofToken r.direction).word := by
      simp [repair, direction?, sorted]
    rw [word, Direction.ofToken_word]

@[simp] theorem repair_repair (r : Request) : r.repair.repair = r.repair := by
  have sort : (if r.repair.sortFields = [] then none else r.repair.sort) = r.repair.sort := by
    rw [sortFields_repair]
    split
    next unsorted => simp [repair, unsorted]
    next => rfl
  rw [repair, sort, direction?_repair]
  simp [repair]

end Request

namespace Window

/-- The keys of the order before the schema was asked. -/
theorem order_ofRequest (r : Request) :
    (ofRequest r).order =
      r.sortFields.map fun field => ⟨field, Direction.ofToken r.direction, none⟩ := by
  change r.repair.sortFields.map _ = _
  rw [Request.sortFields_repair]
  by_cases unsorted : r.sortFields = []
  · rw [unsorted]
    rfl
  · have word : r.repair.direction = some (Direction.ofToken r.direction).word := by
      simp [Request.repair, Request.direction?, unsorted]
    rw [word, Direction.ofToken_word]

theorem ofRequest_repair (r : Request) : ofRequest r.repair = ofRequest r := by
  unfold ofRequest
  rw [Request.repair_repair]

theorem unsigned?_of_nonneg {n : Int64} (nonneg : 0 ≤ n) : unsigned? n = some n.toUInt64 :=
  if_pos nonneg

theorem toUInt64_pos {n : Int64} (positive : 0 < n) : 0 < n.toUInt64 := by
  rw [UInt64.lt_iff_toNat_lt, Int64.toNat_toUInt64_of_le (Int64.le_of_lt positive)]
  exact (Int64.toNatClampNeg_pos_iff n).mpr positive

theorem index_toNat (r : Request) :
    (ofRequest r).index.toNat = (Request.repairedPage r.page).toNatClampNeg := by
  have nonneg := Request.repairedPage_nonneg r.page
  have index : (ofRequest r).index = (Request.repairedPage r.page).toUInt64 := by
    simp [ofRequest, Request.repair, unsigned?_of_nonneg nonneg]
  rw [index, Int64.toNat_toUInt64_of_le nonneg]

theorem size_toNat (r : Request) :
    (ofRequest r).size.toNat = (Request.repairedSize r.size).toNatClampNeg := by
  have nonneg := Int64.le_of_lt (Request.repairedSize_pos r.size)
  have size : (ofRequest r).size = (Request.repairedSize r.size).toUInt64 := by
    simp [ofRequest, Request.repair, unsigned?_of_nonneg nonneg]
  rw [size, Int64.toNat_toUInt64_of_le nonneg]

theorem size_toNat_pos (r : Request) : 0 < (ofRequest r).size.toNat := by
  rw [size_toNat, Int64.toNatClampNeg_pos_iff]
  exact Request.repairedSize_pos r.size

theorem saturatingProduct_toNat (a b : UInt64) :
    (saturatingProduct a b).toNat = min (a.toNat * b.toNat) (UInt64.size - 1) := by
  unfold saturatingProduct
  split
  next fits =>
    rw [UInt64.toNat_mul, Nat.mod_eq_of_lt fits]
    omega
  next beyond =>
    have largest : (UInt64.ofNat (UInt64.size - 1)).toNat = UInt64.size - 1 := rfl
    omega

/-- The number of rows to skip is exact up to the cap. A product that is cut to its type is
above the cap in any case. -/
theorem skip_toNat (w : Window) : w.skip.toNat = min (w.index.toNat * w.size.toNat) maxSkip := by
  have product := saturatingProduct_toNat w.index w.size
  have cap : (UInt64.ofNat maxSkip).toNat = maxSkip := rfl
  have wider : maxSkip < UInt64.size - 1 := by decide
  unfold skip
  dsimp only
  split <;> omega

end Window

namespace SortKey

/-- A sort key with the declared type of its field, if there is one. -/
def typed (catalog : Catalog) (entity : String) (key : SortKey) : SortKey :=
  { key with type := catalog.typeOf? entity key.field }

theorem declared_eq_ok_iff (catalog : Catalog) (entity : String) (key result : SortKey) :
    key.declared catalog entity = .ok result ↔
      (catalog.typeOf? entity key.field).isSome = true ∧ result = key.typed catalog entity := by
  unfold declared typed
  cases catalog.typeOf? entity key.field with
  | none => simp
  | some type => simp [eq_comm]

theorem mapM_declared_eq_ok_iff (catalog : Catalog) (entity : String)
    (keys order : List SortKey) :
    keys.mapM (declared catalog entity) = .ok order ↔
      (∀ key ∈ keys, (catalog.typeOf? entity key.field).isSome = true) ∧
        order = keys.map (typed catalog entity) := by
  rw [mapM_eq_ok_iff]
  simp only [declared_eq_ok_iff]
  induction keys generalizing order with
  | nil => simp
  | cons key keys ih =>
    rw [List.forall₂_cons_left_iff]
    simp only [ih, List.forall_mem_cons, List.map_cons]
    constructor
    · rintro ⟨_, _, ⟨first, rfl⟩, ⟨others, rfl⟩, rfl⟩
      exact ⟨⟨first, others⟩, rfl⟩
    · rintro ⟨⟨first, others⟩, rfl⟩
      exact ⟨_, _, ⟨first, rfl⟩, ⟨others, rfl⟩, rfl⟩

end SortKey

namespace Window

/-- The window of a request with the declared types of its sort fields. -/
def typed (catalog : Catalog) (entity : String) (request : Request) : Window :=
  { ofRequest request with
    order := (ofRequest request).order.map (SortKey.typed catalog entity) }

theorem order_typed (catalog : Catalog) (entity : String) (request : Request) :
    (typed catalog entity request).order = request.sortFields.map fun field =>
      ⟨field, Direction.ofToken request.direction, catalog.typeOf? entity field⟩ := by
  rw [typed, order_ofRequest, List.map_map]
  rfl

end Window

namespace Builder

variable {P : Type}

/-- A request is planned exactly if its sort fields are declared and its filters compile;
the plan is then the repaired request, its window with types, and the predicate. -/
theorem plan_eq_ok_iff (builder : Builder P) (catalog : Catalog) (entity : String)
    (request : Request) (plan : Plan P) :
    builder.plan catalog entity request = .ok plan ↔
      (∀ field ∈ request.sortFields, (catalog.typeOf? entity field).isSome = true) ∧
      ∃ predicate, builder.compile catalog entity request.filters = .ok predicate ∧
        plan = ⟨request.repair, Window.typed catalog entity request, predicate⟩ := by
  have declared : (∀ key ∈ (Window.ofRequest request).order,
        (catalog.typeOf? entity key.field).isSome = true) ↔
      ∀ field ∈ request.sortFields, (catalog.typeOf? entity field).isSome = true := by
    simp [Window.order_ofRequest]
  have sorts := SortKey.mapM_declared_eq_ok_iff catalog entity (Window.ofRequest request).order
  rw [← declared]
  unfold Builder.plan
  dsimp only
  rw [Window.ofRequest_repair, show request.repair.filters = request.filters from rfl]
  cases order : (Window.ofRequest request).order.mapM (SortKey.declared catalog entity) with
  | error reason =>
    simp only [bind, Except.bind, reduceCtorEq, false_iff, not_and]
    intro all
    rw [(sorts _).mpr ⟨all, rfl⟩] at order
    cases order
  | ok keys =>
    obtain ⟨all, rfl⟩ := (sorts keys).mp order
    simp only [bind, Except.bind, pure, Except.pure]
    cases builder.compile catalog entity request.filters with
    | error reason => simp
    | ok predicate =>
      simp only [Except.ok.injEq, exists_eq_left', Window.typed]
      exact ⟨fun h => ⟨all, h.symm⟩, fun h => h.2.symm⟩

/-- A planned request has checked clauses, and the plan's predicate is their conjunction. -/
theorem predicate_of_planned (builder : Builder P) (catalog : Catalog) (entity : String)
    (request : Request) (plan : Plan P)
    (planned : builder.plan catalog entity request = .ok plan) :
    ∃ filters, Clause.checkAll catalog entity request.filters = .ok filters ∧
      plan.predicate = builder.conjunction filters := by
  obtain ⟨-, predicate, compiled, rfl⟩ :=
    (plan_eq_ok_iff builder catalog entity request plan).mp planned
  rw [compile_eq_map] at compiled
  cases checked : Clause.checkAll catalog entity request.filters with
  | error reason =>
    rw [checked] at compiled
    cases compiled
  | ok filters =>
    rw [checked] at compiled
    exact ⟨filters, rfl, (Except.ok.inj compiled).symm⟩

/-- What one storage plans is planned for every other one, with the same request and window. -/
theorem plan_of_planned {Q : Type} (builder : Builder P) (other : Builder Q) (catalog : Catalog)
    (entity : String) (request : Request) (plan : Plan P)
    (planned : builder.plan catalog entity request = .ok plan) :
    ∃ predicate, other.plan catalog entity request =
      .ok ⟨plan.request, plan.window, predicate⟩ := by
  obtain ⟨filters, checked, -⟩ :=
    predicate_of_planned builder catalog entity request plan planned
  obtain ⟨declared, predicate, -, rfl⟩ :=
    (plan_eq_ok_iff builder catalog entity request plan).mp planned
  have compiled : other.compile catalog entity request.filters =
      .ok (other.conjunction filters) := by
    rw [compile_eq_map, checked, Except.map]
  exact ⟨_, (plan_eq_ok_iff other catalog entity request _).mpr ⟨declared, _, compiled, rfl⟩⟩

/-- A plan echoes the repaired request. -/
theorem request_of_planned (builder : Builder P) (catalog : Catalog) (entity : String)
    (request : Request) (plan : Plan P)
    (planned : builder.plan catalog entity request = .ok plan) :
    plan.request = request.repair := by
  obtain ⟨-, predicate, -, rfl⟩ :=
    (plan_eq_ok_iff builder catalog entity request plan).mp planned
  rfl

theorem window_of_planned (builder : Builder P) (catalog : Catalog) (entity : String)
    (request : Request) (plan : Plan P)
    (planned : builder.plan catalog entity request = .ok plan) :
    plan.window = Window.typed catalog entity request := by
  obtain ⟨-, predicate, -, rfl⟩ :=
    (plan_eq_ok_iff builder catalog entity request plan).mp planned
  rfl

end Builder

end PagedSearch
