import PagedSearch.Proofs.Collection.Paging
import PagedSearch.Proofs.Request.Acceptance

/-!
# Replayed requests

A page echoes the repaired request. Planning looks at nothing else of a request
(`plan_repair`), and repair settles in one step, so the echoed request is planned as the
first one was and fetches the same page (`plan_replayed`). It also leads to the same
other pages: a client that turns pages may change the page of either request.
-/
namespace PagedSearch

namespace Request

/-- Turning to another page and repair do not get in each other's way. -/
theorem repair_atPage_repair (request : Request) (index : Nat) :
    (request.repair.atPage index).repair = (request.atPage index).repair := by
  have settled : (request.repair.atPage index).repair =
      { request.repair.repair with page := (request.atPage index).repair.page } := rfl
  rw [settled, repair_repair]
  rfl

end Request

namespace Builder

variable {P : Type}

/-- A plan depends on the repaired request alone. -/
theorem plan_repair (builder : Builder P) (catalog : Catalog) (entity : String)
    (request : Request) :
    builder.plan catalog entity request.repair = builder.plan catalog entity request := by
  unfold plan
  rw [Request.repair_repair]

theorem plan_congr (builder : Builder P) (catalog : Catalog) (entity : String)
    {request other : Request} (alike : request.repair = other.repair) :
    builder.plan catalog entity request = builder.plan catalog entity other := by
  rw [← plan_repair builder catalog entity request, alike, plan_repair]

end Builder

namespace Request

theorem fetch_congr (catalog : Catalog) (entity : String) (documents : List Json)
    {request other : Request} (alike : request.repair = other.repair) :
    request.fetch catalog entity documents = other.fetch catalog entity documents := by
  rw [fetch, fetch, Builder.plan_congr Criteria.builder catalog entity alike]

end Request

namespace Builder

variable {P : Type}

/-- The request of a plan, planned again, gives the same plan. On every collection it
fetches the page that the first request fetched, with the same summary, whose request it is
itself; and from then on both requests lead to the same other pages. -/
theorem plan_replayed (builder : Builder P) (catalog : Catalog) (entity : String)
    (request : Request) (plan : Plan P)
    (planned : builder.plan catalog entity request = .ok plan) :
    builder.plan catalog entity plan.request = .ok plan ∧
    ∀ documents, ∃ page summary,
      request.fetch catalog entity documents = .ok (page, summary) ∧
      summary.request = plan.request ∧
      summary.request.fetch catalog entity documents = .ok (page, summary) ∧
      ∀ index, (summary.request.atPage index).fetch catalog entity documents =
        (request.atPage index).fetch catalog entity documents := by
  have repaired := request_of_planned builder catalog entity request plan planned
  have settled : plan.request.repair = request.repair := by
    rw [repaired, Request.repair_repair]
  refine ⟨(plan_congr builder catalog entity settled).trans planned, ?_⟩
  intro documents
  obtain ⟨predicate, selected⟩ :=
    plan_of_planned builder Criteria.builder catalog entity request plan planned
  have fetched : request.fetch catalog entity documents =
      .ok (Plan.page ⟨plan.request, plan.window, predicate⟩ documents) := by
    rw [Request.fetch, selected, Except.map]
  refine ⟨_, _, fetched, rfl, ?_, ?_⟩
  · exact (Request.fetch_congr catalog entity documents settled).trans fetched
  · intro index
    apply Request.fetch_congr
    change (plan.request.atPage index).repair = (request.atPage index).repair
    rw [repaired, Request.repair_atPage_repair]

/-- A negative page, no size, a direction in mixed case and an operator in blanks: the
request of the plan differs from the one that was sent, and is planned alike. -/
theorem plan_replayed_malformed :
    ∃ plan, Sql.Conjunction.builder.plan (.entity ((Entity.new "item").declare "label" .text))
        "item" ⟨some (-3), none, some " dEsC", some ["label"], some [⟨"label", "a", " gt "⟩]⟩ =
          .ok plan ∧
      plan.request =
        ⟨some 0, some 1, some "DESC", some ["label"], some [⟨"label", "a", " gt "⟩]⟩ ∧
      Sql.Conjunction.builder.plan (.entity ((Entity.new "item").declare "label" .text)) "item"
        plan.request = .ok plan := by
  have planned : Sql.Conjunction.builder.plan
      (.entity ((Entity.new "item").declare "label" .text)) "item"
      ⟨some (-3), none, some " dEsC", some ["label"], some [⟨"label", "a", " gt "⟩]⟩ =
        .ok ⟨⟨some 0, some 1, some "DESC", some ["label"], some [⟨"label", "a", " gt "⟩]⟩,
          ⟨0, 1, [⟨"label", .descending, some .text⟩]⟩,
          some ⟨[.compare "label" .greater (.text "a")]⟩⟩ := by
    decide +kernel
  exact ⟨_, planned, rfl, (plan_replayed _ _ _ _ _ planned).1⟩

end Builder

end PagedSearch
