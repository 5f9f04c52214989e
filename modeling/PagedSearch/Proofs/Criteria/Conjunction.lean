import PagedSearch.Criteria.Selection
import PagedSearch.Proofs.Request.Acceptance

/-!
# Compiled criteria are conjunctions

A tree of criteria selects a document exactly if each of its comparisons does, and its
count is the number of them (`selects_iff_comparisons`, `comparisonCount_eq_length`). The
comparisons of a compiled tree are those of its clauses in their order. So a list of
clauses means that all of them hold, each taken alone (`selects_iff_holds`), and it does
not matter how they are ordered or how often one is given. More clauses select fewer
documents (`compiled_conjunction`).
-/
namespace PagedSearch

namespace Criteria

/-- The comparisons of a tree from left to right, each as a tree of its own. -/
def comparisons : Criteria → List Criteria
  | compare field operator value => [compare field operator value]
  | both left right => left.comparisons ++ right.comparisons

theorem selects_iff_comparisons (criteria : Criteria) (document : Json) :
    criteria.selects document = true ↔
      ∀ comparison ∈ criteria.comparisons, comparison.selects document = true := by
  induction criteria with
  | compare field operator value => simp [comparisons]
  | both left right leftIH rightIH =>
    rw [selects, Bool.and_eq_true, leftIH, rightIH, comparisons, List.forall_mem_append]

theorem comparisonCount_eq_length (criteria : Criteria) :
    criteria.comparisonCount = criteria.comparisons.length := by
  induction criteria with
  | compare field operator value => rfl
  | both left right leftIH rightIH =>
    rw [comparisonCount, leftIH, rightIH, comparisons, List.length_append]

theorem comparisons_foldl (others : List Filter) (joined : Criteria) :
    (others.foldl (fun joined next => builder.both joined (builder.clause next))
        joined).comparisons =
      joined.comparisons ++ others.map ofFilter := by
  induction others generalizing joined with
  | nil => exact (List.append_nil _).symm
  | cons next others ih =>
    rw [List.foldl_cons, ih, List.map_cons]
    exact List.append_assoc joined.comparisons [ofFilter next] (others.map ofFilter)

/-- No checked clause is left out, repeated or moved. -/
theorem comparisons_conjunction {filters : List Filter} {criteria : Criteria}
    (built : builder.conjunction filters = some criteria) :
    criteria.comparisons = filters.map ofFilter := by
  cases filters with
  | nil => cases built
  | cons first others =>
    rw [← Option.some.inj built, comparisons_foldl]
    rfl

end Criteria

namespace Clause

/-- A clause passes its check, so it can be compiled. -/
def Compiles (catalog : Catalog) (entity : String) (clause : Clause) : Prop :=
  ∃ criteria, Criteria.builder.compile catalog entity (some [clause]) = .ok (some criteria)

/-- The criteria of a clause alone select a document. -/
def Holds (catalog : Catalog) (entity : String) (document : Json) (clause : Clause) : Prop :=
  ∃ criteria, Criteria.builder.compile catalog entity (some [clause]) = .ok (some criteria) ∧
    criteria.selects document = true

theorem compile_single_iff (catalog : Catalog) (entity : String) (clause : Clause)
    (criteria : Criteria) :
    Criteria.builder.compile catalog entity (some [clause]) = .ok (some criteria) ↔
      ∃ filter, clause.check catalog entity = .ok filter ∧ Criteria.ofFilter filter = criteria := by
  rw [Builder.compile_eq_map, map_eq_ok_iff]
  simp only [checkAll, Option.getD_some, mapM_eq_ok_iff, List.forall₂_cons_left_iff,
    List.forall₂_nil_left_iff]
  constructor
  · rintro ⟨_, ⟨filter, _, checked, rfl, rfl⟩, built⟩
    exact ⟨filter, checked, Option.some.inj built⟩
  · rintro ⟨filter, checked, rfl⟩
    exact ⟨[filter], ⟨filter, [], checked, rfl, rfl⟩, rfl⟩

theorem compiles_iff (catalog : Catalog) (entity : String) (clause : Clause) :
    clause.Compiles catalog entity ↔ ∃ filter, clause.check catalog entity = .ok filter := by
  simp [Compiles, compile_single_iff]

theorem holds_iff (catalog : Catalog) (entity : String) (document : Json) (clause : Clause) :
    clause.Holds catalog entity document ↔ ∃ filter, clause.check catalog entity = .ok filter ∧
      (Criteria.ofFilter filter).selects document = true := by
  simp [Holds, compile_single_iff]

end Clause

/-- What holds of all results holds of the result of every element. -/
theorem forall_mem_iff_of_forall₂ {ε α β : Type} {step : α → Except ε β} {xs : List α}
    {ys : List β} (results : List.Forall₂ (fun x y => step x = .ok y) xs ys) (p : β → Prop) :
    (∀ y ∈ ys, p y) ↔ ∀ x ∈ xs, ∃ y, step x = .ok y ∧ p y := by
  induction results with
  | nil => simp
  | cons head _ ih => rw [List.forall_mem_cons, List.forall_mem_cons, ih]; simp [head]

namespace Criteria

/-- A list of clauses compiles to criteria exactly if it is not empty and each of its clauses
compiles. -/
theorem compile_eq_some_iff (catalog : Catalog) (entity : String) (clauses : List Clause) :
    (∃ criteria, builder.compile catalog entity (some clauses) = .ok (some criteria)) ↔
      clauses ≠ [] ∧ ∀ clause ∈ clauses, clause.Compiles catalog entity := by
  simp only [Clause.compiles_iff]
  constructor
  · rintro ⟨criteria, compiled⟩
    obtain ⟨filters, results, built⟩ := Builder.checked_of_compiled compiled
    have every := (forall_mem_iff_of_forall₂ results fun _ => True).mp fun _ _ => trivial
    refine ⟨?_, fun clause member => ?_⟩
    · rintro rfl
      rw [List.forall₂_nil_left_iff.mp results] at built
      cases built
    · obtain ⟨filter, passes, -⟩ := every clause member
      exact ⟨filter, passes⟩
  · rintro ⟨filled, every⟩
    cases compiled : builder.compile catalog entity (some clauses) with
    | error rejection =>
      have first := (Builder.compile_eq_error_iff _ _ _ _ _).mp compiled
      have bad := (Clause.firstRejection?_isSome_iff catalog entity (some clauses)).mp
        (Option.isSome_of_eq_some first)
      obtain ⟨clause, member, reason, fails⟩ := bad
      obtain ⟨filter, passes⟩ := every clause member
      rw [passes] at fails
      cases fails
    | ok predicate =>
      cases predicate with
      | none => exact absurd ((Builder.compile_eq_none_iff _ _ _ _).mp compiled) filled
      | some criteria => exact ⟨criteria, rfl⟩

/-- Compiled criteria select the documents for which every clause holds. -/
theorem selects_iff_holds {catalog : Catalog} {entity : String} {clauses : List Clause}
    {criteria : Criteria}
    (compiled : builder.compile catalog entity (some clauses) = .ok (some criteria))
    (document : Json) :
    criteria.selects document = true ↔
      ∀ clause ∈ clauses, clause.Holds catalog entity document := by
  obtain ⟨filters, results, built⟩ := Builder.checked_of_compiled compiled
  rw [selects_iff_comparisons, comparisons_conjunction built, List.forall_mem_map,
    forall_mem_iff_of_forall₂ results]
  simp only [Clause.holds_iff, Option.getD_some]

theorem comparisonCount_compiled {catalog : Catalog} {entity : String} {clauses : List Clause}
    {criteria : Criteria}
    (compiled : builder.compile catalog entity (some clauses) = .ok (some criteria)) :
    criteria.comparisonCount = clauses.length := by
  obtain ⟨filters, results, built⟩ := Builder.checked_of_compiled compiled
  rw [comparisonCount_eq_length, comparisons_conjunction built, List.length_map]
  exact results.length_eq.symm

/-- Among lists that compile, one with more clauses selects fewer documents. -/
theorem selects_of_subset {catalog : Catalog} {entity : String} {clauses others : List Clause}
    {criteria other : Criteria}
    (compiled : builder.compile catalog entity (some clauses) = .ok (some criteria))
    (otherCompiled : builder.compile catalog entity (some others) = .ok (some other))
    (fewer : clauses ⊆ others) {document : Json} (selected : other.selects document = true) :
    criteria.selects document = true := by
  rw [selects_iff_holds compiled]
  intro clause member
  exact (selects_iff_holds otherCompiled document).mp selected clause (fewer member)

/-- Compiled criteria mean that every clause holds, where a clause alone means what it
compiles to, and they count the clauses. A list of the same clauses in another order, or with
some of them given more than once, compiles and selects the same documents. A list with
further clauses that compile also compiles, and selects no other documents. -/
theorem compiled_conjunction (catalog : Catalog) (entity : String) (clauses : List Clause)
    (criteria : Criteria)
    (compiled : builder.compile catalog entity (some clauses) = .ok (some criteria)) :
    (∀ clause ∈ clauses, clause.Compiles catalog entity) ∧
    (∀ document, criteria.selects document = true ↔
      ∀ clause ∈ clauses, clause.Holds catalog entity document) ∧
    criteria.comparisonCount = clauses.length ∧
    (∀ others : List Clause, (∀ clause, clause ∈ others ↔ clause ∈ clauses) →
      ∃ other, builder.compile catalog entity (some others) = .ok (some other) ∧
        ∀ document, other.selects document = criteria.selects document) ∧
    (∀ others : List Clause, clauses ⊆ others →
      (∀ clause ∈ others, clause.Compiles catalog entity) →
      ∃ other, builder.compile catalog entity (some others) = .ok (some other) ∧
        ∀ document, other.selects document = true → criteria.selects document = true) := by
  obtain ⟨filled, every⟩ := (compile_eq_some_iff catalog entity clauses).mp ⟨criteria, compiled⟩
  have compiles : ∀ others : List Clause, clauses ⊆ others →
      (∀ clause ∈ others, clause.Compiles catalog entity) →
      ∃ other, builder.compile catalog entity (some others) = .ok (some other) := by
    intro others fewer good
    refine (compile_eq_some_iff catalog entity others).mpr ⟨?_, good⟩
    rintro rfl
    exact filled (List.subset_nil.mp fewer)
  refine ⟨every, selects_iff_holds compiled, comparisonCount_compiled compiled, ?same, ?more⟩
  case same =>
    intro others alike
    have fewer : clauses ⊆ others := fun clause => (alike clause).mpr
    have more : others ⊆ clauses := fun clause => (alike clause).mp
    obtain ⟨other, otherCompiled⟩ := compiles others fewer fun clause member =>
      every clause (more member)
    refine ⟨other, otherCompiled, fun document => ?_⟩
    rw [Bool.eq_iff_iff]
    exact ⟨selects_of_subset compiled otherCompiled fewer,
      selects_of_subset otherCompiled compiled more⟩
  case more =>
    intro others fewer good
    obtain ⟨other, otherCompiled⟩ := compiles others fewer good
    exact ⟨other, otherCompiled, fun _ => selects_of_subset compiled otherCompiled fewer⟩

/-- Two clauses, and the same clauses turned round with one of them given again. -/
theorem compiled_conjunction_repeated :
    ∃ criteria other,
      builder.compile (.entity ((Entity.new "item").declare "label" .text)) "item"
        (some [⟨"label", "a", "GT"⟩, ⟨"label", "z", "like"⟩]) = .ok (some criteria) ∧
      criteria.comparisonCount = 2 ∧
      builder.compile (.entity ((Entity.new "item").declare "label" .text)) "item"
        (some [⟨"label", "z", "like"⟩, ⟨"label", "a", "GT"⟩, ⟨"label", "z", "like"⟩]) =
          .ok (some other) ∧
      (∀ document, other.selects document = criteria.selects document) ∧
      criteria.selects (.object [("label", .text "fizz")]) = true ∧
      criteria.selects (.object [("label", .text "fuss")]) = false := by
  have compiled : builder.compile (.entity ((Entity.new "item").declare "label" .text)) "item"
      (some [⟨"label", "a", "GT"⟩, ⟨"label", "z", "like"⟩]) =
        .ok (some (.both (.compare "label" .greater (.text "a"))
          (.compare "label" .contains (.text "z")))) := by
    decide +kernel
  obtain ⟨-, -, count, same, -⟩ := compiled_conjunction _ _ _ _ compiled
  obtain ⟨other, otherCompiled, agrees⟩ := same
    [⟨"label", "z", "like"⟩, ⟨"label", "a", "GT"⟩, ⟨"label", "z", "like"⟩] (by simp [or_comm])
  exact ⟨_, other, compiled, count, otherCompiled, agrees, by decide +kernel, by decide +kernel⟩

end Criteria

end PagedSearch
