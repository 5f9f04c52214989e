/-!
# Stable sorting

Sorting by insertion. Each element in turn goes behind all sorted elements that
it is not less than, so elements that compare equal keep their order.
-/
namespace PagedSearch

namespace Collection

variable {α : Type}

/-- Puts an element into a list that is sorted from the greatest down: behind the elements
that are greater than it. -/
def insertDown (compare : α → α → Ordering) (x : α) : List α → List α
  | [] => [x]
  | y :: ys => if compare x y = .lt then y :: insertDown compare x ys else x :: y :: ys

/-- The elements in ascending order. -/
def sorted (compare : α → α → Ordering) (xs : List α) : List α :=
  (xs.foldl (fun down x => insertDown compare x down) []).reverse

theorem insertDown_perm (compare : α → α → Ordering) (x : α) (ys : List α) :
    (insertDown compare x ys).Perm (x :: ys) := by
  induction ys with
  | nil => exact .refl _
  | cons y ys ih =>
    unfold insertDown
    split
    · exact (ih.cons y).trans (.swap x y ys)
    · exact .refl _

private theorem foldl_insertDown_perm (compare : α → α → Ordering) (xs down : List α) :
    (xs.foldl (fun down x => insertDown compare x down) down).Perm (xs ++ down) := by
  induction xs generalizing down with
  | nil => exact .refl _
  | cons x xs ih =>
    refine (ih _).trans (((insertDown_perm compare x down).append_left xs).trans ?_)
    exact List.perm_middle

/-- Sorting keeps every element as often as it occurs. -/
theorem sorted_perm (compare : α → α → Ordering) (xs : List α) :
    (sorted compare xs).Perm xs := by
  refine (List.reverse_perm _).trans ?_
  simpa using foldl_insertDown_perm compare xs []

end Collection

end PagedSearch
