import PagedSearch.Criteria.Basic
import PagedSearch.Proofs.Filter.Compilation

/-!
# The fold of clauses

Compilation goes through the clauses once, checks each in its turn, and stops at
the first bad one. For every storage this has two outcomes (`compile_fold`): the
rejection of the first bad clause of the list, or all checked clauses joined from
left to right, none left out, repeated or moved. What the storage builds has no
say in the first outcome, and any map that carries its clauses and conjunctions
to those of another storage carries the second one too (`compile_map`).
-/
namespace PagedSearch

/-- The reason of a failed step. -/
def failure? {ε α : Type} : Except ε α → Option ε
  | .error reason => some reason
  | .ok _ => none

theorem failure?_eq_some_iff {ε α : Type} (outcome : Except ε α) (reason : ε) :
    failure? outcome = some reason ↔ outcome = .error reason := by
  cases outcome <;> simp [failure?]

/-- A traversal fails with the reason of the first element that fails. -/
theorem mapM_eq_error_iff {ε α β : Type} (step : α → Except ε β) (xs : List α) (reason : ε) :
    xs.mapM step = .error reason ↔ xs.findSome? (fun x => failure? (step x)) = some reason := by
  induction xs with
  | nil => simp [pure, Except.pure]
  | cons x xs ih =>
    rw [List.mapM_cons, List.findSome?_cons]
    cases head : step x with
    | error first => simp [failure?, bind, Except.bind]
    | ok y =>
      change _ ↔ xs.findSome? (fun x => failure? (step x)) = some reason
      rw [← ih]
      cases xs.mapM step <;> simp [bind, Except.bind, pure, Except.pure]

namespace Clause

/-- Why a clause is rejected, none for a clause that passes the check. -/
def rejection? (catalog : Catalog) (entity : String) (clause : Clause) : Option Rejection :=
  failure? (clause.check catalog entity)

/-- The rejection of the first bad clause of a list. -/
def firstRejection? (catalog : Catalog) (entity : String) (clauses : Option (List Clause)) :
    Option Rejection :=
  (clauses.getD []).findSome? (rejection? catalog entity)

theorem checkAll_eq_error_iff (catalog : Catalog) (entity : String)
    (clauses : Option (List Clause)) (rejection : Rejection) :
    checkAll catalog entity clauses = .error rejection ↔
      firstRejection? catalog entity clauses = some rejection :=
  mapM_eq_error_iff (check catalog entity) (clauses.getD []) rejection

theorem firstRejection?_isSome_iff (catalog : Catalog) (entity : String)
    (clauses : Option (List Clause)) :
    (firstRejection? catalog entity clauses).isSome = true ↔
      ∃ clause ∈ clauses.getD [], ∃ rejection, clause.check catalog entity = .error rejection := by
  rw [firstRejection?, List.findSome?_isSome_iff]
  simp only [rejection?, Option.isSome_iff_exists, failure?_eq_some_iff]

end Clause

namespace Builder

variable {P Q : Type}

theorem compile_eq_error_iff (builder : Builder P) (catalog : Catalog) (entity : String)
    (clauses : Option (List Clause)) (rejection : Rejection) :
    builder.compile catalog entity clauses = .error rejection ↔
      Clause.firstRejection? catalog entity clauses = some rejection := by
  rw [compile_eq_map, map_eq_error_iff, Clause.checkAll_eq_error_iff]

theorem compile_of_checked (builder : Builder P) (catalog : Catalog) (entity : String)
    (clauses : Option (List Clause)) (filters : List Filter)
    (checked : List.Forall₂ (fun clause filter => Clause.check catalog entity clause = .ok filter)
      (clauses.getD []) filters) :
    builder.compile catalog entity clauses = .ok (builder.conjunction filters) := by
  have all : Clause.checkAll catalog entity clauses = .ok filters :=
    (mapM_eq_ok_iff _ _ _).mpr checked
  rw [compile_eq_map, all, Except.map]

/-- A map that carries one storage's clauses and conjunctions to another's carries its
compiled predicates. -/
theorem compile_map (source : Builder P) (target : Builder Q) (carry : P → Q)
    (clause : ∀ filter, carry (source.clause filter) = target.clause filter)
    (both : ∀ left right, carry (source.both left right) = target.both (carry left) (carry right))
    (catalog : Catalog) (entity : String) (clauses : Option (List Clause)) :
    (source.compile catalog entity clauses).map (Option.map carry) =
      target.compile catalog entity clauses := by
  rw [compile_eq_map, compile_eq_map]
  cases Clause.checkAll catalog entity clauses with
  | error reason => rfl
  | ok filters =>
    exact congrArg Except.ok
      (conjunction_map source target carry filters (fun filter _ => clause filter) both)

/-- The predicate of a list of clauses, for every storage: a list with a bad clause has the
rejection of the first one, a missing or empty list has no predicate, and clauses that all
pass are joined from left to right in their order. Maps between storages keep all of it. -/
theorem compile_fold (builder : Builder P) (catalog : Catalog) (entity : String)
    (clauses : Option (List Clause)) :
    (∀ rejection, builder.compile catalog entity clauses = .error rejection ↔
      Clause.firstRejection? catalog entity clauses = some rejection) ∧
    ((∃ rejection, builder.compile catalog entity clauses = .error rejection) ↔
      ∃ clause ∈ clauses.getD [], ∃ rejection, clause.check catalog entity = .error rejection) ∧
    (clauses.getD [] = [] → builder.compile catalog entity clauses = .ok none) ∧
    (∀ first others,
      List.Forall₂ (fun clause filter => Clause.check catalog entity clause = .ok filter)
        (clauses.getD []) (first :: others) →
      builder.compile catalog entity clauses =
        .ok (some (others.foldl (fun joined next => builder.both joined (builder.clause next))
          (builder.clause first)))) ∧
    (∀ (Q : Type) (target : Builder Q) (carry : P → Q),
      (∀ filter, carry (builder.clause filter) = target.clause filter) →
      (∀ left right,
        carry (builder.both left right) = target.both (carry left) (carry right)) →
      (builder.compile catalog entity clauses).map (Option.map carry) =
        target.compile catalog entity clauses) := by
  refine ⟨compile_eq_error_iff builder catalog entity clauses, ?_, ?_, ?_, ?_⟩
  · simp only [compile_eq_error_iff, ← Clause.firstRejection?_isSome_iff,
      Option.isSome_iff_exists]
  · intro empty
    exact compile_of_checked builder catalog entity clauses [] (by rw [empty]; exact .nil)
  · intro first others checked
    exact compile_of_checked builder catalog entity clauses (first :: others) checked
  · intro Q target carry clause both
    exact compile_map builder target carry clause both catalog entity clauses

/-- Three clauses as criteria, deep on the left, and their number by a map to numbers. -/
theorem compile_fold_three :
    Criteria.builder.compile (.entity ((Entity.new "item").declare "label" .text)) "item"
        (some [⟨"label", "a", "GT"⟩, ⟨"label", "%", " like "⟩, ⟨"label", "z", "let"⟩]) =
      .ok (some (.both (.both (.compare "label" .greater (.text "a"))
        (.compare "label" .contains (.text "%"))) (.compare "label" .lessOrEqual (.text "z")))) ∧
    Builder.compile ⟨fun _ => 1, (· + ·)⟩ (.entity ((Entity.new "item").declare "label" .text))
        "item" (some [⟨"label", "a", "GT"⟩, ⟨"label", "%", " like "⟩, ⟨"label", "z", "let"⟩]) =
      .ok (some 3) ∧
    Criteria.builder.compile (.entity (Entity.new "item")) "item" (some []) = .ok none := by
  obtain ⟨-, -, -, joins, carries⟩ :=
    compile_fold Criteria.builder (.entity ((Entity.new "item").declare "label" .text)) "item"
      (some [⟨"label", "a", "GT"⟩, ⟨"label", "%", " like "⟩, ⟨"label", "z", "let"⟩])
  have joined := joins ⟨"label", .greater, .text, .text "a"⟩
    [⟨"label", .contains, .text, .text "%"⟩, ⟨"label", .lessOrEqual, .text, .text "z"⟩]
    (.cons (by decide) (.cons (by decide) (.cons (by decide) .nil)))
  refine ⟨joined, ?_, ?_⟩
  · rw [← carries Nat ⟨fun _ => 1, (· + ·)⟩ Criteria.comparisonCount (fun _ => rfl)
      (fun _ _ => rfl), joined]
    rfl
  · exact (compile_fold Criteria.builder (.entity (Entity.new "item")) "item" (some [])).2.2.1 rfl

end Builder

end PagedSearch
