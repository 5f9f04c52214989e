import PagedSearch.Filter.Builder
import Mathlib.Data.List.Forall2

/-!
# Compiling clauses

Compilation checks and joins one clause after another. That comes to the same as
checking all of them first and then joining the checked ones from left to right
(`compile_eq_map`). The check does not depend on the storage, so a list is
accepted or rejected without regard to what is built, and a checked clause keeps
the declared type of its field, an operator of that type and a value of it
(`Filter.Sound`). Storages whose predicates correspond clause by clause have
corresponding predicates for every list (`conjunction_map`).
-/
namespace PagedSearch

/-- A traversal that may fail succeeds exactly if it succeeds on every element in turn. -/
theorem mapM_eq_ok_iff {ε α β : Type} (step : α → Except ε β) (xs : List α) (ys : List β) :
    xs.mapM step = .ok ys ↔ List.Forall₂ (fun x y => step x = .ok y) xs ys := by
  induction xs generalizing ys with
  | nil =>
    rw [List.forall₂_nil_left_iff]
    exact ⟨fun h => (Except.ok.inj h).symm, fun h => by rw [h]; rfl⟩
  | cons x xs ih =>
    rw [List.mapM_cons, List.forall₂_cons_left_iff]
    simp only [← ih]
    cases head : step x with
    | error reason => simp [bind, Except.bind]
    | ok y =>
      cases tail : xs.mapM step with
      | error reason => simp [bind, Except.bind]
      | ok rest =>
        simp only [bind, Except.bind, pure, Except.pure, Except.ok.injEq]
        constructor
        · intro h
          exact ⟨y, rest, rfl, rfl, h.symm⟩
        · intro h
          obtain ⟨_, _, rfl, rfl, rfl⟩ := h
          rfl

theorem map_eq_ok_iff {ε α β : Type} (f : α → β) (outcome : Except ε α) (y : β) :
    outcome.map f = .ok y ↔ ∃ x, outcome = .ok x ∧ f x = y := by
  cases outcome <;> simp [Except.map]

theorem map_eq_error_iff {ε α β : Type} (f : α → β) (outcome : Except ε α) (reason : ε) :
    outcome.map f = .error reason ↔ outcome = .error reason := by
  cases outcome <;> simp [Except.map]

namespace Clause

/-- The operator that a clause stands for. -/
def meaning (clause : Clause) : Operator :=
  Operator.ofToken (some clause.operator)

/-- A clause passes the check exactly with a declared field, an operator of the field's
type and a literal of it. The checked form adds nothing and loses nothing but spelling. -/
theorem check_eq_ok_iff (catalog : Catalog) (entity : String) (clause : Clause)
    (filter : Filter) :
    clause.check catalog entity = .ok filter ↔
      ∃ type value, catalog.typeOf? entity clause.field = some type ∧
        type.allows clause.meaning = true ∧ Value.read? clause.value type = some value ∧
        filter = ⟨clause.field, clause.meaning, type, value⟩ := by
  unfold check Value.read meaning
  cases declared : catalog.typeOf? entity clause.field with
  | none => simp
  | some type =>
    by_cases allowed : type.allows (Operator.ofToken (some clause.operator)) = true
    · cases value : Value.read? clause.value type with
      | none => simp [allowed, value]
      | some v =>
        simp only [allowed, value, if_true, Except.ok.injEq, Option.some.injEq]
        constructor
        · rintro rfl
          exact ⟨type, v, rfl, allowed, value, rfl⟩
        · rintro ⟨_, w, rfl, -, read, rfl⟩
          have same : v = w := Option.some.inj (value.symm.trans read)
          rw [same]
    · simp [allowed]

/-- The checked clauses of a list, or the rejection of the first bad one. -/
def checkAll (catalog : Catalog) (entity : String) (clauses : Option (List Clause)) :
    Except Rejection (List Filter) :=
  (clauses.getD []).mapM (check catalog entity)

end Clause

/-- What every checked clause of an entity satisfies. -/
structure Filter.Sound (catalog : Catalog) (entity : String) (filter : Filter) : Prop where
  declared : catalog.typeOf? entity filter.field = some filter.type
  allowed : filter.type.allows filter.operator = true
  typed : filter.value.type = filter.type

namespace Clause

theorem check_sound (catalog : Catalog) (entity : String) (clause : Clause) (filter : Filter)
    (checked : clause.check catalog entity = .ok filter) : filter.Sound catalog entity := by
  obtain ⟨type, value, declared, allowed, read, rfl⟩ :=
    (check_eq_ok_iff catalog entity clause filter).mp checked
  exact ⟨declared, allowed, Value.type_of_read? read⟩

theorem sound_of_checked {catalog : Catalog} {entity : String} {clauses : List Clause}
    {filters : List Filter}
    (checked : List.Forall₂ (fun clause filter => check catalog entity clause = .ok filter)
      clauses filters) :
    ∀ filter ∈ filters, filter.Sound catalog entity := by
  intro filter member
  induction checked with
  | nil => cases member
  | @cons clause first _ _ head _ ih =>
    rcases List.mem_cons.mp member with rfl | later
    · exact check_sound catalog entity clause filter head
    · exact ih later

theorem checkAll_sound (catalog : Catalog) (entity : String) (clauses : Option (List Clause))
    (filters : List Filter) (checked : checkAll catalog entity clauses = .ok filters) :
    ∀ filter ∈ filters, filter.Sound catalog entity :=
  sound_of_checked ((mapM_eq_ok_iff _ _ _).mp checked)

/-- What a checked clause shares with its clause, the checked list shares with the list. -/
theorem checkAll_map {β : Type} (catalog : Catalog) (entity : String)
    (clauses : Option (List Clause)) (filters : List Filter)
    (checked : checkAll catalog entity clauses = .ok filters) (given : Clause → β)
    (kept : Filter → β)
    (agree : ∀ clause filter, check catalog entity clause = .ok filter →
      kept filter = given clause) :
    filters.map kept = (clauses.getD []).map given := by
  have pointwise := (mapM_eq_ok_iff _ _ _).mp checked
  have images : List.Forall₂ (· = ·) ((clauses.getD []).map given) (filters.map kept) := by
    rw [List.forall₂_map_left_iff, List.forall₂_map_right_iff]
    exact pointwise.imp fun clause filter head => (agree clause filter head).symm
  rw [List.forall₂_eq_eq_eq] at images
  exact images.symm

end Clause

namespace Builder

variable {P Q : Type}

/-- The checked clauses joined from left to right, none if there are none. -/
def conjunction (builder : Builder P) : List Filter → Option P
  | [] => none
  | first :: others =>
    some <| others.foldl (fun joined next => builder.both joined (builder.clause next))
      (builder.clause first)

/-- Joining checked clauses to what is built so far. -/
def joinAll (builder : Builder P) (built : Option P) (filters : List Filter) : Option P :=
  filters.foldl (fun built filter => some (builder.join built filter)) built

theorem joinAll_some (builder : Builder P) (joined : P) (filters : List Filter) :
    builder.joinAll (some joined) filters =
      some (filters.foldl (fun joined next => builder.both joined (builder.clause next))
        joined) := by
  induction filters generalizing joined with
  | nil => rfl
  | cons next filters ih => exact ih (builder.both joined (builder.clause next))

theorem joinAll_none (builder : Builder P) (filters : List Filter) :
    builder.joinAll none filters = builder.conjunction filters := by
  cases filters with
  | nil => rfl
  | cons first others => exact joinAll_some builder (builder.clause first) others

/-- From anything built so far, the rest of a list is checked as a whole and then joined. -/
theorem compileOnto_eq_map (builder : Builder P) (catalog : Catalog) (entity : String)
    (built : Option P) (clauses : List Clause) :
    builder.compileOnto catalog entity built clauses =
      (clauses.mapM (Clause.check catalog entity)).map (builder.joinAll built) := by
  induction clauses generalizing built with
  | nil => rfl
  | cons clause clauses ih =>
    rw [List.mapM_cons, compileOnto]
    cases clause.check catalog entity with
    | error reason => rfl
    | ok filter =>
      change builder.compileOnto catalog entity (some (builder.join built filter)) clauses = _
      rw [ih]
      cases clauses.mapM (Clause.check catalog entity) <;> rfl

/-- Whatever is built, the list is rejected for its first bad clause, and else its checked
clauses are joined from left to right. -/
theorem compile_eq_map (builder : Builder P) (catalog : Catalog) (entity : String)
    (clauses : Option (List Clause)) :
    builder.compile catalog entity clauses =
      (Clause.checkAll catalog entity clauses).map builder.conjunction := by
  rw [compile, compileOnto_eq_map, Clause.checkAll]
  cases (clauses.getD []).mapM (Clause.check catalog entity) with
  | error reason => rfl
  | ok filters => exact congrArg Except.ok (joinAll_none builder filters)

/-- What compiles is the conjunction of the checked clauses in their order. -/
theorem checked_of_compiled {builder : Builder P} {catalog : Catalog} {entity : String}
    {clauses : Option (List Clause)} {predicate : Option P}
    (compiled : builder.compile catalog entity clauses = .ok predicate) :
    ∃ filters, List.Forall₂ (fun clause filter => Clause.check catalog entity clause = .ok filter)
      (clauses.getD []) filters ∧ builder.conjunction filters = predicate := by
  rw [compile_eq_map, map_eq_ok_iff] at compiled
  obtain ⟨filters, checked, built⟩ := compiled
  exact ⟨filters, (mapM_eq_ok_iff _ _ _).mp checked, built⟩

/-- A map that carries the clauses of one storage to those of another, and conjunctions
to conjunctions, carries every compiled predicate. Only the clauses of the list count. -/
theorem conjunction_map (source : Builder P) (target : Builder Q) (carry : P → Q)
    (filters : List Filter)
    (clause : ∀ filter ∈ filters, carry (source.clause filter) = target.clause filter)
    (both : ∀ left right, carry (source.both left right) = target.both (carry left) (carry right)) :
    (source.conjunction filters).map carry = target.conjunction filters := by
  cases filters with
  | nil => rfl
  | cons first others =>
    have fold : ∀ (rest : List Filter) (joined : P),
        (∀ filter ∈ rest, carry (source.clause filter) = target.clause filter) →
        carry (rest.foldl (fun joined next => source.both joined (source.clause next)) joined) =
          rest.foldl (fun joined next => target.both joined (target.clause next))
            (carry joined) := by
      intro rest
      induction rest with
      | nil =>
        intro joined _
        rfl
      | cons next rest ih =>
        intro joined same
        obtain ⟨head, tail⟩ := List.forall_mem_cons.mp same
        rw [List.foldl_cons, List.foldl_cons, ih _ tail, both, head]
    obtain ⟨head, tail⟩ := List.forall_mem_cons.mp clause
    simp only [conjunction, Option.map_some]
    rw [fold others _ tail, head]

end Builder

end PagedSearch
