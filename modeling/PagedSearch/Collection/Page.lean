import PagedSearch.Collection.Order
import PagedSearch.Collection.Sorting
import PagedSearch.Criteria.Selection
import PagedSearch.Plan
import PagedSearch.Summary

/-!
# Pages of a collection

A plan with criteria is carried out on a list of documents: the documents that
satisfy the criteria are put in order and the window is cut out of them. The
order is stable, so documents with equal keys keep their places, and without
sort keys all do.
-/
namespace PagedSearch

namespace Plan

/-- The documents that a plan selects, in their given order. -/
def selected (plan : Plan Criteria) (documents : List Json) : List Json :=
  match plan.predicate with
  | some criteria => documents.filter criteria.selects
  | none => documents

/-- The documents that a plan selects, in the plan's order. -/
def ordered (plan : Plan Criteria) (documents : List Json) : List Json :=
  let selected := plan.selected documents
  if plan.window.order = [] then selected
  else Collection.sorted (Collection.orderByKeys plan.window.order) selected

/-- Ordering keeps every selected document as often as it occurs. -/
theorem ordered_perm (plan : Plan Criteria) (documents : List Json) :
    (plan.ordered documents).Perm (plan.selected documents) := by
  unfold ordered
  dsimp only
  split
  next => exact .refl _
  next => exact Collection.sorted_perm _ _

/-- The documents of the planned page and the page's summary. -/
def page (plan : Plan Criteria) (documents : List Json) : List Json × Summary :=
  let ordered := plan.ordered documents
  ((ordered.drop plan.window.skip.toNat).take plan.window.take.toNat,
    Summary.ofTotal (UInt64.ofNat ordered.length) plan.request)

end Plan

end PagedSearch
