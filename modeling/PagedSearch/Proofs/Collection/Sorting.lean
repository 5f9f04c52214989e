import PagedSearch.Collection.Sorting

/-!
# Sorting is correct and stable

For a comparison that is a total preorder, the sorted list has nothing greater in
front of anything (`sorted_pairwise`). Elements that compare equal keep their order
(`sorted_filter`): any choice of elements, none of which is less than another, is
found in the sorted list as it is found in the given one. Both follow from what one
insertion keeps.
-/
namespace PagedSearch

namespace Collection

variable {α : Type} (compare : α → α → Ordering)

/-- An insertion keeps a list that runs from the greatest down. -/
theorem insertDown_pairwise [Std.TransCmp compare] (x : α) (ys : List α)
    (down : ys.Pairwise fun a b => (compare b a).isLE = true) :
    (insertDown compare x ys).Pairwise fun a b => (compare b a).isLE = true := by
  induction ys with
  | nil => exact List.pairwise_singleton _ x
  | cons y ys ih =>
    obtain ⟨head, tail⟩ := List.pairwise_cons.mp down
    unfold insertDown
    split
    next below =>
      rw [List.pairwise_cons]
      refine ⟨?_, ih tail⟩
      intro z member
      rcases List.mem_cons.mp ((insertDown_perm compare x ys).mem_iff.mp member) with rfl | later
      · rw [below]
        rfl
      · exact head z later
    next not_below =>
      have above : (compare y x).isLE = true := by
        have turned : compare y x = (compare x y).swap := Std.OrientedCmp.eq_swap
        rw [turned]
        cases order : compare x y with
        | lt => exact absurd order not_below
        | eq => rfl
        | gt => rfl
      rw [List.pairwise_cons]
      refine ⟨?_, down⟩
      intro z member
      rcases List.mem_cons.mp member with rfl | later
      · exact above
      · exact Std.TransCmp.isLE_trans (head z later) above

theorem foldl_insertDown_pairwise [Std.TransCmp compare] (xs down : List α)
    (descends : down.Pairwise fun a b => (compare b a).isLE = true) :
    (xs.foldl (fun down x => insertDown compare x down) down).Pairwise
      fun a b => (compare b a).isLE = true := by
  induction xs generalizing down with
  | nil => exact descends
  | cons x xs ih => exact ih _ (insertDown_pairwise compare x down descends)

/-- Nothing in the sorted list is greater than anything behind it. -/
theorem sorted_pairwise [Std.TransCmp compare] (xs : List α) :
    (sorted compare xs).Pairwise fun a b => (compare a b).isLE = true := by
  rw [sorted, List.pairwise_reverse]
  exact foldl_insertDown_pairwise compare xs [] List.Pairwise.nil

section Congruence

variable {compare} {other : α → α → Ordering}

theorem insertDown_congr {x : α} {ys : List α} (alike : ∀ y ∈ ys, compare x y = other x y) :
    insertDown compare x ys = insertDown other x ys := by
  induction ys with
  | nil => rfl
  | cons y ys ih =>
    obtain ⟨head, tail⟩ := List.forall_mem_cons.mp alike
    rw [insertDown, insertDown, head, ih tail]

theorem foldl_insertDown_congr {xs down : List α}
    (alike : ∀ x ∈ xs, ∀ y ∈ xs ++ down, compare x y = other x y) :
    xs.foldl (fun down x => insertDown compare x down) down =
      xs.foldl (fun down x => insertDown other x down) down := by
  induction xs generalizing down with
  | nil => rfl
  | cons x xs ih =>
    have inserted : insertDown compare x down = insertDown other x down :=
      insertDown_congr fun y member =>
        alike x List.mem_cons_self y (List.mem_append_right _ member)
    rw [List.foldl_cons, List.foldl_cons, inserted]
    refine ih fun z later y member => alike z (List.mem_cons_of_mem x later) y ?_
    rcases List.mem_append.mp member with front | behind
    · exact List.mem_append_left _ (List.mem_cons_of_mem x front)
    · rcases List.mem_cons.mp ((insertDown_perm other x down).mem_iff.mp behind) with rfl | old
      · exact List.mem_append_left _ List.mem_cons_self
      · exact List.mem_append_right _ old

/-- Comparisons that agree on the elements of a list sort it alike. -/
theorem sorted_congr {xs : List α} (alike : ∀ x ∈ xs, ∀ y ∈ xs, compare x y = other x y) :
    sorted compare xs = sorted other xs := by
  rw [sorted, sorted, foldl_insertDown_congr]
  rwa [List.append_nil]

end Congruence

section Choice

variable (chosen : α → Bool)
  (alike : ∀ a b, chosen a = true → chosen b = true → compare a b ≠ .lt)

include alike in
/-- A chosen element goes in front of all chosen ones. The elements that it passes are
greater, so none of them is chosen. -/
theorem filter_insertDown (x : α) (ys : List α) :
    (insertDown compare x ys).filter chosen = [x].filter chosen ++ ys.filter chosen := by
  induction ys with
  | nil => simp [insertDown]
  | cons y ys ih =>
    unfold insertDown
    split
    next below =>
      rw [List.filter_cons, ih]
      cases first : chosen x with
      | false => simp [first, List.filter_cons]
      | true =>
        have passed : chosen y = false := by
          cases second : chosen y with
          | false => rfl
          | true => exact absurd below (alike x y first second)
        simp [first, passed]
    next =>
      rw [← List.filter_append]
      rfl

include alike in
theorem filter_foldl_insertDown (xs down : List α) :
    (xs.foldl (fun down x => insertDown compare x down) down).filter chosen =
      (xs.filter chosen).reverse ++ down.filter chosen := by
  induction xs generalizing down with
  | nil => rfl
  | cons x xs ih =>
    rw [List.foldl_cons, ih, filter_insertDown compare chosen alike, ← List.append_assoc]
    cases first : chosen x <;> simp [first]

include alike in
/-- Elements of which none is less than another keep their order. -/
theorem sorted_filter (xs : List α) : (sorted compare xs).filter chosen = xs.filter chosen := by
  rw [sorted, List.filter_reverse, filter_foldl_insertDown compare chosen alike]
  simp

end Choice

end Collection

end PagedSearch
