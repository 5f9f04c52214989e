import PagedSearch.Collection.Page
import PagedSearch.Proofs.Request.Acceptance

/-!
# Converted plans

The predicate of a plan has the representation of its deployment, and a storage
asks for the one it understands. Converting a plan to that representation gives
the storage's own predicate of the filters. Converting it to the other one leaves
the plan without a predicate, although the request has filters, and a plan without
a predicate selects everything (`converted_predicates`). So a conversion that does
not fit the deployment widens the query instead of failing
(`convert_selects_rejected`).
-/
namespace PagedSearch

/-- The conjunction of checked clauses in a representation. -/
def Selector.ofFilters (representation : Representation) (filters : List Filter) :
    Option Selector :=
  match representation with
  | .condition => (Sql.Conjunction.builder.conjunction filters).map conjunction
  | .criteria => (Criteria.builder.conjunction filters).map criteria

namespace Deployment

theorem compile_eq_map (deployment : Deployment) (entity : String)
    (clauses : Option (List Clause)) :
    deployment.compile entity clauses =
      (Clause.checkAll deployment.catalog entity clauses).map
        (Selector.ofFilters deployment.settings.representation) := by
  unfold compile
  cases deployment.settings.representation <;>
    (dsimp only; rw [Builder.compile_eq_map]
     cases Clause.checkAll deployment.catalog entity clauses <;> rfl)

/-- The checked clauses behind the predicate of an accepted request that has filters. -/
theorem filters_of_planned {deployment : Deployment} {entity : String} {request : Request}
    {plan : Plan Selector} (planned : deployment.plan entity request = .ok plan)
    (filtered : request.filters.getD [] ≠ []) :
    ∃ first others,
      List.Forall₂ (fun clause filter => Clause.check deployment.catalog entity clause = .ok filter)
        (request.filters.getD []) (first :: others) ∧
      plan.predicate =
        Selector.ofFilters deployment.settings.representation (first :: others) := by
  obtain ⟨-, predicate, compiled, rfl⟩ := (plan_eq_ok_iff _ _ _ _).mp planned
  rw [compile_eq_map, map_eq_ok_iff] at compiled
  obtain ⟨filters, checked, rfl⟩ := compiled
  have pointwise := (mapM_eq_ok_iff _ _ _).mp checked
  cases filters with
  | nil => exact absurd (List.forall₂_nil_right_iff.mp pointwise) filtered
  | cons first others => exact ⟨first, others, pointwise, rfl⟩

/-- What becomes of the filters of an accepted request when its plan is converted. The
deployment's own representation keeps them; with the other one they are left out, and the
plan selects every document. -/
theorem converted_predicates (deployment : Deployment) (entity : String) (request : Request)
    (plan : Plan Selector) (planned : deployment.plan entity request = .ok plan)
    (filtered : request.filters.getD [] ≠ []) :
    ∃ condition criteria,
      Sql.Conjunction.builder.compile deployment.catalog entity request.filters =
        .ok (some condition) ∧
      Criteria.builder.compile deployment.catalog entity request.filters = .ok (some criteria) ∧
      (plan.convert Selector.conjunction?).predicate =
        (if deployment.settings.representation = .condition then some condition else none) ∧
      (plan.convert Selector.criteria?).predicate =
        (if deployment.settings.representation = .criteria then some criteria else none) ∧
      ∀ documents, (plan.convert Selector.criteria?).selected documents =
        if deployment.settings.representation = .criteria then documents.filter criteria.selects
        else documents := by
  obtain ⟨first, others, checked, predicate⟩ := filters_of_planned planned filtered
  refine ⟨_, _, Sql.Conjunction.builder.compile_of_checked _ _ _ _ checked,
    Criteria.builder.compile_of_checked _ _ _ _ checked, ?_⟩
  simp only [Plan.selected, Plan.convert, predicate]
  cases deployment.settings.representation with
  | condition => exact ⟨rfl, rfl, fun _ => rfl⟩
  | criteria => exact ⟨rfl, rfl, fun _ => rfl⟩

/-- A plan in the form of criteria, which keeps its clause as criteria alone. -/
theorem converted_predicates_criteria :
    ∃ plan,
      (Deployment.mk (.entity ((Entity.new "item").declare "label" .text)) ⟨.criteria⟩).plan
          "item" ⟨none, none, none, none, some [⟨"label", "a", "EQ"⟩]⟩ = .ok plan ∧
      (plan.convert Selector.conjunction?).predicate = none ∧
      (plan.convert Selector.criteria?).predicate =
        some (.compare "label" .equal (.text "a")) := by
  refine ⟨_, rfl, ?_⟩
  obtain ⟨condition, criteria, -, compiled, asCondition, asCriteria, -⟩ :=
    converted_predicates
      (Deployment.mk (.entity ((Entity.new "item").declare "label" .text)) ⟨.criteria⟩) "item"
      ⟨none, none, none, none, some [⟨"label", "a", "EQ"⟩]⟩ _ rfl (by decide)
  refine ⟨asCondition, asCriteria.trans ?_⟩
  have only : Except.ok (some (Criteria.compare "label" .equal (.text "a"))) =
      (Except.ok (some criteria) : Except Rejection (Option Criteria)) := compiled
  rw [Except.ok.injEq, Option.some.injEq] at only
  rw [only]
  rfl

/-- A deployment with conditions, a plan with one clause, and a document that the clause
rejects: as criteria the plan has no predicate, and its page holds the document. -/
theorem convert_selects_rejected :
    ∃ plan criteria,
      (Deployment.mk (.entity ((Entity.new "item").declare "label" .text)) ⟨.condition⟩).plan
          "item" ⟨none, none, none, none, some [⟨"label", "a", "EQ"⟩]⟩ = .ok plan ∧
      Criteria.builder.compile (.entity ((Entity.new "item").declare "label" .text)) "item"
          (some [⟨"label", "a", "EQ"⟩]) = .ok (some criteria) ∧
      criteria.selects (.object [("label", .text "b")]) = false ∧
      (plan.convert Selector.criteria?).predicate = none ∧
      ((plan.convert Selector.criteria?).page [.object [("label", .text "b")]]).1 =
        [.object [("label", .text "b")]] :=
  ⟨_, _, rfl, rfl, by decide, rfl, rfl⟩

end Deployment

end PagedSearch
