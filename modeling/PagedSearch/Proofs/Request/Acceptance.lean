import PagedSearch.Deployment
import PagedSearch.Proofs.Filter.Fold
import PagedSearch.Proofs.Request.Planning

/-!
# Accepted and rejected requests

A request is planned as a whole or rejected as a whole (`plan_whole`). It is
rejected exactly for `Request.rejection?`: the first sort field that is not
declared, and if all are, the first bad clause. A rejection is about a sort field
or a clause of the request itself. An accepted request is planned with all its
clauses and all its sort fields. None of this depends on the representation of
predicates (`Builder.plan_eq_error_iff`, `Deployment.plan_eq_ok_iff`).
-/
namespace PagedSearch

namespace Catalog

/-- The first of some fields that an entity does not declare. -/
def firstUndeclared? (catalog : Catalog) (entity : String) (fields : List String) :
    Option String :=
  fields.find? fun field => (catalog.typeOf? entity field).isNone

theorem firstUndeclared?_isSome_iff (catalog : Catalog) (entity : String) (fields : List String) :
    (catalog.firstUndeclared? entity fields).isSome = true ↔
      ∃ field ∈ fields, catalog.typeOf? entity field = none := by
  simp [firstUndeclared?]

end Catalog

namespace SortKey

theorem failure?_declared (catalog : Catalog) (entity : String) (key : SortKey) :
    failure? (key.declared catalog entity) =
      if (catalog.typeOf? entity key.field).isNone then some (.unknownField entity key.field)
      else none := by
  unfold declared
  cases catalog.typeOf? entity key.field <;> rfl

/-- Sort keys are rejected for the first field that is not declared. -/
theorem mapM_declared_eq_error_iff (catalog : Catalog) (entity : String) (keys : List SortKey)
    (rejection : Rejection) :
    keys.mapM (declared catalog entity) = .error rejection ↔
      (catalog.firstUndeclared? entity (keys.map SortKey.field)).map (.unknownField entity) =
        some rejection := by
  rw [mapM_eq_error_iff]
  simp only [failure?_declared]
  induction keys with
  | nil => simp [Catalog.firstUndeclared?]
  | cons key keys ih =>
    rw [List.findSome?_cons, List.map_cons, Catalog.firstUndeclared?, List.find?_cons]
    cases undeclared : (catalog.typeOf? entity key.field).isNone with
    | true => simp
    | false => simpa [Catalog.firstUndeclared?] using ih

end SortKey

namespace Clause

/-- A rejection of a clause names its field, and repeats its value as the client wrote it. -/
theorem of_check_eq_error {catalog : Catalog} {entity : String} {clause : Clause}
    {rejection : Rejection} (rejected : clause.check catalog entity = .error rejection) :
    rejection.field = clause.field ∧
      ∀ field raw expected, rejection = .invalidValue field raw expected → raw = clause.value := by
  unfold check Value.read at rejected
  cases declared : catalog.typeOf? entity clause.field with
  | none =>
    simp only [declared, Except.error.injEq] at rejected
    subst rejected
    simp [Rejection.field]
  | some type =>
    by_cases allowed : type.allows (Operator.ofToken (some clause.operator)) = true
    · cases read : Value.read? clause.value type with
      | none =>
        simp only [declared, allowed, read, if_true, Except.error.injEq] at rejected
        subst rejected
        simp [Rejection.field, eq_comm]
      | some value => simp [declared, allowed, read] at rejected
    · simp only [declared, if_neg allowed, Except.error.injEq] at rejected
      subst rejected
      simp [Rejection.field]

end Clause

namespace Request

/-- Why a request is rejected: its first undeclared sort field, else its first bad clause. -/
def rejection? (catalog : Catalog) (entity : String) (request : Request) : Option Rejection :=
  ((catalog.firstUndeclared? entity request.sortFields).map (.unknownField entity)).or
    (Clause.firstRejection? catalog entity request.filters)

theorem rejection?_isSome_iff (catalog : Catalog) (entity : String) (request : Request) :
    (request.rejection? catalog entity).isSome = true ↔
      (∃ field ∈ request.sortFields, catalog.typeOf? entity field = none) ∨
      (∃ clause ∈ request.filters.getD [], ∃ rejection,
        clause.check catalog entity = .error rejection) := by
  rw [rejection?, Option.isSome_or, Option.isSome_map, Bool.or_eq_true,
    Catalog.firstUndeclared?_isSome_iff, Clause.firstRejection?_isSome_iff]

/-- A rejection comes from an undeclared sort field or from a clause. -/
theorem of_rejection?_eq_some {catalog : Catalog} {entity : String} {request : Request}
    {rejection : Rejection} (rejected : request.rejection? catalog entity = some rejection) :
    (∃ field ∈ request.sortFields, rejection = .unknownField entity field) ∨
      ∃ clause ∈ request.filters.getD [], clause.check catalog entity = .error rejection := by
  rcases Option.or_eq_some_iff.mp rejected with undeclared | ⟨-, bad⟩
  · obtain ⟨field, found, rfl⟩ := Option.map_eq_some_iff.mp undeclared
    exact .inl ⟨field, List.mem_of_find?_eq_some found, rfl⟩
  · obtain ⟨clause, member, fails⟩ := List.exists_of_findSome?_eq_some bad
    exact .inr ⟨clause, member, (failure?_eq_some_iff _ _).mp fails⟩

end Request

namespace Builder

variable {P : Type}

/-- Which requests are rejected, and why, is the same for every storage. -/
theorem plan_eq_error_iff (builder : Builder P) (catalog : Catalog) (entity : String)
    (request : Request) (rejection : Rejection) :
    builder.plan catalog entity request = .error rejection ↔
      request.rejection? catalog entity = some rejection := by
  have fields : (Window.ofRequest request).order.map SortKey.field = request.sortFields := by
    rw [Window.order_ofRequest, List.map_map]
    exact List.map_id _
  have sorts := SortKey.mapM_declared_eq_error_iff catalog entity (Window.ofRequest request).order
  rw [fields] at sorts
  unfold Builder.plan Request.rejection?
  dsimp only
  rw [Window.ofRequest_repair, show request.repair.filters = request.filters from rfl]
  cases order : (Window.ofRequest request).order.mapM (SortKey.declared catalog entity) with
  | error first =>
    rw [(sorts first).mp order]
    simp [bind, Except.bind]
  | ok keys =>
    have declared : (catalog.firstUndeclared? entity request.sortFields).map
        (Rejection.unknownField entity) = none := by
      refine Option.eq_none_iff_forall_ne_some.mpr fun reason found => ?_
      rw [(sorts reason).mpr found] at order
      cases order
    rw [declared, Option.none_or, ← compile_eq_error_iff builder]
    cases builder.compile catalog entity request.filters <;>
      simp [bind, Except.bind, pure, Except.pure]

theorem conjunction_eq_none_iff (builder : Builder P) (filters : List Filter) :
    builder.conjunction filters = none ↔ filters = [] := by
  cases filters <;> simp [conjunction]

/-- Only a list without clauses has no predicate. -/
theorem compile_eq_none_iff (builder : Builder P) (catalog : Catalog) (entity : String)
    (clauses : Option (List Clause)) :
    builder.compile catalog entity clauses = .ok none ↔ clauses.getD [] = [] := by
  rw [compile_eq_map, map_eq_ok_iff]
  simp only [conjunction_eq_none_iff, exists_eq_right]
  rw [Clause.checkAll, mapM_eq_ok_iff, List.forall₂_nil_right_iff]

/-- A plan whose predicate is wrapped has the wrapped predicate of the filters. -/
theorem plan_wrapped_eq_ok_iff {Q : Type} (builder : Builder P) (wrap : P → Q)
    (catalog : Catalog) (entity : String) (request : Request) (plan : Plan Q) :
    (builder.plan catalog entity request).map (·.convert fun p => some (wrap p)) = .ok plan ↔
      (∀ field ∈ request.sortFields, (catalog.typeOf? entity field).isSome = true) ∧
      ∃ predicate,
        (builder.compile catalog entity request.filters).map (·.map wrap) = .ok predicate ∧
        plan = ⟨request.repair, Window.typed catalog entity request, predicate⟩ := by
  simp only [map_eq_ok_iff, plan_eq_ok_iff]
  constructor
  · rintro ⟨_, ⟨sorts, predicate, compiled, rfl⟩, rfl⟩
    exact ⟨sorts, _, ⟨predicate, compiled, rfl⟩, by cases predicate <;> rfl⟩
  · rintro ⟨sorts, _, ⟨predicate, compiled, rfl⟩, rfl⟩
    exact ⟨_, ⟨sorts, predicate, compiled, rfl⟩, by cases predicate <;> rfl⟩

end Builder

/-- The request and the window of a plan, which no storage has a say in. -/
def Plan.frame {P : Type} (plan : Plan P) : Request × Window :=
  (plan.request, plan.window)

namespace Deployment

/-- A deployment rejects what every storage rejects, for the same reason. -/
theorem plan_eq_error_iff (deployment : Deployment) (entity : String) (request : Request)
    (rejection : Rejection) :
    deployment.plan entity request = .error rejection ↔
      request.rejection? deployment.catalog entity = some rejection := by
  unfold plan
  cases deployment.settings.representation <;>
    rw [map_eq_error_iff, Builder.plan_eq_error_iff]

/-- The plan of an accepted request: the repaired request, its window with the declared
types, and the predicate of its filters. -/
theorem plan_eq_ok_iff (deployment : Deployment) (entity : String) (request : Request)
    (plan : Plan Selector) :
    deployment.plan entity request = .ok plan ↔
      (∀ field ∈ request.sortFields, (deployment.catalog.typeOf? entity field).isSome = true) ∧
      ∃ predicate, deployment.compile entity request.filters = .ok predicate ∧
        plan = ⟨request.repair, Window.typed deployment.catalog entity request, predicate⟩ := by
  unfold Deployment.plan Deployment.compile
  cases deployment.settings.representation with
  | condition => exact Sql.Conjunction.builder.plan_wrapped_eq_ok_iff Selector.conjunction _ _ _ _
  | criteria => exact Criteria.builder.plan_wrapped_eq_ok_iff Selector.criteria _ _ _ _

theorem compile_eq_none_iff (deployment : Deployment) (entity : String)
    (clauses : Option (List Clause)) :
    deployment.compile entity clauses = .ok none ↔ clauses.getD [] = [] := by
  unfold compile
  cases deployment.settings.representation <;>
    simp only [map_eq_ok_iff, Option.map_eq_none_iff, exists_eq_right,
      Builder.compile_eq_none_iff]

/-- A deployment that differs in its settings alone plans the same requests alike, up to the
representation of the predicate. -/
theorem plan_settings (deployment : Deployment) (settings : Settings) (entity : String)
    (request : Request) :
    ({ deployment with settings }.plan entity request).map Plan.frame =
      (deployment.plan entity request).map Plan.frame := by
  cases here : deployment.plan entity request with
  | error rejection =>
    rw [plan_eq_error_iff] at here
    rw [(plan_eq_error_iff { deployment with settings } entity request rejection).mpr here]
  | ok plan =>
    cases there : { deployment with settings }.plan entity request with
    | error rejection =>
      rw [plan_eq_error_iff] at there
      rw [(plan_eq_error_iff deployment entity request rejection).mpr there] at here
      cases here
    | ok other =>
      obtain ⟨-, _, -, rfl⟩ := (plan_eq_ok_iff _ _ _ _).mp here
      obtain ⟨-, _, -, rfl⟩ := (plan_eq_ok_iff _ _ _ _).mp there
      rfl

/-- A request is planned or rejected as a whole. It is rejected if and only if a sort field of
the repaired request is not declared or a clause fails its check: for the first undeclared sort
field, if there is one, and else for the first bad clause. The rejection is about a sort field
or a clause of the request, and repeats a bad value as it was written. A plan has the repaired
request, the request's window with nothing but the declared types added, and the predicate of
all filters, which is missing only if there are none. Except for the form of the predicate, the
outcome is the same in either representation. -/
theorem plan_whole (deployment : Deployment) (entity : String) (request : Request) :
    ((∃ rejection, deployment.plan entity request = .error rejection) ↔
      (∃ field ∈ request.repair.sortFields, deployment.catalog.typeOf? entity field = none) ∨
      (∃ clause ∈ request.repair.filters.getD [], ∃ rejection,
        clause.check deployment.catalog entity = .error rejection)) ∧
    (∀ rejection, deployment.plan entity request = .error rejection ↔
      match deployment.catalog.firstUndeclared? entity request.repair.sortFields with
      | some field => rejection = .unknownField entity field
      | none =>
        Clause.firstRejection? deployment.catalog entity request.repair.filters =
          some rejection) ∧
    (∀ rejection, deployment.plan entity request = .error rejection →
      (rejection.field ∈ request.sortFields ∨
        rejection.field ∈ (request.filters.getD []).map Clause.field) ∧
      ∀ field raw expected, rejection = .invalidValue field raw expected →
        ∃ clause ∈ request.filters.getD [],
          clause.check deployment.catalog entity = .error rejection ∧
          clause.field = field ∧ clause.value = raw) ∧
    (∀ plan, deployment.plan entity request = .ok plan →
      plan.request = request.repair ∧
      plan.window = { Window.ofRequest request with
        order := (Window.ofRequest request).order.map fun key =>
          { key with type := deployment.catalog.typeOf? entity key.field } } ∧
      (∀ key ∈ plan.window.order, key.type.isSome = true) ∧
      deployment.compile entity request.filters = .ok plan.predicate ∧
      (plan.predicate = none ↔ request.filters.getD [] = [])) ∧
    (∀ settings, ({ deployment with settings }.plan entity request).map Plan.frame =
      (deployment.plan entity request).map Plan.frame) := by
  have filters : request.repair.filters = request.filters := rfl
  rw [Request.sortFields_repair, filters]
  refine ⟨?rejects, ?first, ?names, ?plans, fun settings => plan_settings _ _ _ _⟩
  case rejects =>
    simp only [plan_eq_error_iff, ← Option.isSome_iff_exists, Request.rejection?_isSome_iff]
  case first =>
    intro rejection
    rw [plan_eq_error_iff, Request.rejection?]
    cases deployment.catalog.firstUndeclared? entity request.sortFields <;> simp [eq_comm]
  case names =>
    intro rejection rejected
    rcases Request.of_rejection?_eq_some ((plan_eq_error_iff _ _ _ _).mp rejected) with
      ⟨field, member, rfl⟩ | ⟨clause, member, bad⟩
    · exact ⟨.inl member, fun _ _ _ other => by cases other⟩
    · obtain ⟨named, raw⟩ := Clause.of_check_eq_error bad
      refine ⟨.inr (named ▸ List.mem_map_of_mem member), ?_⟩
      intro field value expected invalid
      refine ⟨clause, member, bad, ?_, (raw field value expected invalid).symm⟩
      rw [← named, invalid]
      rfl
  case plans =>
    intro plan planned
    obtain ⟨sorts, predicate, compiled, rfl⟩ := (plan_eq_ok_iff _ _ _ _).mp planned
    refine ⟨rfl, rfl, ?_, compiled, ?_⟩
    · simpa [Window.order_typed] using sorts
    · rw [← compile_eq_none_iff deployment entity request.filters, compiled, Except.ok.injEq]

/-- A bad sort field goes before a bad clause, wherever the two stand. -/
theorem plan_whole_two_faults :
    (Deployment.mk (.entity ((Entity.new "item").declare "label" .text)) ⟨.criteria⟩).plan "item"
        ⟨none, none, none, some ["label", "height"], some [⟨"weight", "1", "GT"⟩]⟩ =
      .error (.unknownField "item" "height") :=
  ((plan_whole _ "item"
    ⟨none, none, none, some ["label", "height"], some [⟨"weight", "1", "GT"⟩]⟩).2.1 _).mpr rfl

end Deployment

end PagedSearch
