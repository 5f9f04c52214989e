import PagedSearch.Proofs.Request.Planning
import PagedSearch.Collection.Page
import Mathlib.Algebra.Group.Nat.Defs
import Mathlib.Order.Bounds.Basic

/-!
# Pages tile the result

The pages of a list are its slices of one size. Slices in turn give the list back
(`flatMap_slice`), and the number of pages in a summary is the least number of slices
that reach its end (`pagesFor_isLeast`). A request at page `index` fetches slice
`index` of the ordered documents (`fetch_atPage`): its capped skip can differ from
the plain product only behind the end of any list shorter than the cap. So the
pages of a request lose and repeat nothing (`pages_tile`).
-/
namespace PagedSearch

namespace Collection

variable {α : Type}

/-- Slice `index` of a list cut into slices of one size. -/
def slice (size index : Nat) (xs : List α) : List α :=
  (xs.drop (index * size)).take size

theorem length_slice (size index : Nat) (xs : List α) :
    (slice size index xs).length = min size (xs.length - index * size) := by
  rw [slice, List.length_take, List.length_drop]

/-- The first slices in turn are a beginning of the list. -/
theorem flatMap_slice (size count : Nat) (xs : List α) :
    ((List.range count).flatMap fun index => slice size index xs) = xs.take (count * size) := by
  induction count with
  | zero => simp
  | succ count ih =>
    have bound : (count + 1) * size = count * size + size := Nat.succ_mul count size
    rw [List.range_succ, List.flatMap_append, ih, bound, List.take_add]
    simp [slice]

section Reaching

variable {total size pages index : Nat}

/-- A slice before the last one ends within the list. -/
theorem before_end (least : IsLeast {n | total ≤ n * size} pages) (before : index < pages) :
    index * size < total := by
  by_contra beyond
  have reached : pages ≤ index := least.2 (Nat.le_of_not_lt beyond)
  omega

theorem behind_end (least : IsLeast {n | total ≤ n * size} pages) (behind : pages ≤ index) :
    total ≤ index * size :=
  Nat.le_trans least.1 (Nat.mul_le_mul_right size behind)

end Reaching

end Collection

namespace Request

/-- The request for another page, with nothing else changed. -/
def atPage (request : Request) (index : Nat) : Request :=
  { request with page := some (Int64.ofNat index) }

/-- The most rows on a page of the request after repair. -/
def rowsPerPage (request : Request) : Nat :=
  (repairedSize request.size).toNatClampNeg

/-- Plans a request and fetches its page from a collection. -/
def fetch (request : Request) (catalog : Catalog) (entity : String) (documents : List Json) :
    Except Rejection (List Json × Summary) :=
  (Criteria.builder.plan catalog entity request).map fun plan => plan.page documents

theorem rowsPerPage_pos (request : Request) : 0 < request.rowsPerPage := by
  rw [rowsPerPage, Int64.toNatClampNeg_pos_iff]
  exact repairedSize_pos request.size

end Request

namespace Summary

/-- The counted pages are the fewest that hold all rows. -/
theorem pagesFor_isLeast (total size : Nat) (positive : 0 < size) :
    IsLeast {n | total ≤ n * size} (pagesFor total size) := by
  have division : (total + (size - 1)) / size * size + (total + (size - 1)) % size =
      total + (size - 1) := Nat.div_add_mod' _ _
  have remainder : (total + (size - 1)) % size < size := Nat.mod_lt _ positive
  constructor
  · change total ≤ (total + (size - 1)) / size * size
    omega
  · intro count reached
    have enough : total ≤ count * size := reached
    have bound : (count + 1) * size = count * size + size := Nat.succ_mul count size
    have below : pagesFor total size < count + 1 := by
      apply Nat.div_lt_of_lt_mul
      rw [Nat.mul_comm]
      omega
    omega

/-- Every request, repaired or not, counts pages by the size of its window. A size of one
is read off the request by one and put there by repair in the other. -/
theorem countedSize_eq (request : Request) :
    countedSize request = (Window.ofRequest request).size := by
  have positive := Request.repairedSize_pos request.size
  have repaired : (Window.ofRequest request).size =
      (Request.repairedSize request.size).toUInt64 := by
    simp [Window.ofRequest, Request.repair,
      Window.unsigned?_of_nonneg (Int64.le_of_lt positive)]
  rw [repaired]
  unfold countedSize Request.repairedSize
  cases request.size with
  | none => rfl
  | some size =>
    by_cases above : 1 < size
    · have positive : 0 < size := Int64.lt_trans (by decide) above
      have unsigned := Window.unsigned?_of_nonneg (Int64.le_of_lt positive)
      simp [unsigned, Window.toUInt64_pos positive, above]
    · by_cases nonneg : 0 ≤ size
      · have small : size = 0 ∨ size = 1 := by
          simp only [Int64.lt_iff_toInt_lt, Int64.le_iff_toInt_le, ← Int64.toInt_inj] at *
          have zero : (0 : Int64).toInt = 0 := rfl
          have one : (1 : Int64).toInt = 1 := rfl
          omega
        rcases small with rfl | rfl <;> rfl
      · have refused : Window.unsigned? size = none := if_neg nonneg
        simp only [Option.bind_some, refused, if_neg above]
        rfl

theorem pagesFor_le (total size : Nat) (positive : 0 < size) : pagesFor total size ≤ total :=
  (pagesFor_isLeast total size positive).2 (Nat.le_mul_of_pos_right total positive)

/-- No count of pages leaves the type of the count of rows. -/
theorem pages_ofTotal (total : UInt64) (request : Request) :
    (ofTotal total request).pages.toNat =
      pagesFor total.toNat (Window.ofRequest request).size.toNat := by
  have few := pagesFor_le total.toNat _ (Window.size_toNat_pos request)
  rw [ofTotal, countedSize_eq]
  exact UInt64.toNat_ofNat_of_lt' (Nat.lt_of_le_of_lt few total.toNat_lt)

/-- The two counts of a summary are exact for every result that a collection can give. -/
theorem ofTotal_repair (total : Nat) (request : Request) (short : total < 2 ^ 63) :
    (ofTotal (UInt64.ofNat total) request.repair).elements.toNat = total ∧
      (ofTotal (UInt64.ofNat total) request.repair).pages.toNat =
        pagesFor total request.rowsPerPage := by
  have wide : 2 ^ 63 < UInt64.size := by decide
  have elements : (UInt64.ofNat total).toNat = total := UInt64.toNat_ofNat_of_lt' (by omega)
  refine ⟨elements, ?_⟩
  rw [pages_ofTotal, elements, Window.ofRequest_repair, Window.size_toNat]
  rfl

end Summary

namespace Window

theorem index_atPage (request : Request) (index : Nat) (small : index < 2 ^ 63) :
    (ofRequest (request.atPage index)).index.toNat = index := by
  have exact_index : (Int64.ofNat index).toNatClampNeg = index :=
    Int64.toNatClampNeg_ofNat_of_lt small
  rw [index_toNat]
  change (Request.repairedPage (some (Int64.ofNat index))).toNatClampNeg = index
  unfold Request.repairedPage
  dsimp only
  split
  next => exact exact_index
  next not_positive =>
    rw [← Int64.toNatClampNeg_pos_iff, exact_index] at not_positive
    have first : index = 0 := by omega
    rw [first]
    rfl

end Window

namespace Plan

theorem length_selected_le (plan : Plan Criteria) (documents : List Json) :
    (plan.selected documents).length ≤ documents.length := by
  unfold selected
  split
  next criteria => exact List.length_filter_le _ documents
  next => exact Nat.le_refl _

/-- Below the cap a page is the slice at its index, and its summary counts the whole result. -/
theorem page_eq (plan : Plan Criteria) (documents : List Json)
    (short : documents.length < 2 ^ 63) :
    plan.page documents =
      (Collection.slice plan.window.size.toNat plan.window.index.toNat (plan.ordered documents),
        Summary.ofTotal (UInt64.ofNat (plan.selected documents).length) plan.request) := by
  have total := (plan.ordered_perm documents).length_eq
  have fewer := plan.length_selected_le documents
  have skipped : (plan.ordered documents).drop plan.window.skip.toNat =
      (plan.ordered documents).drop (plan.window.index.toNat * plan.window.size.toNat) := by
    rw [Window.skip_toNat]
    rcases Nat.le_total (plan.window.index.toNat * plan.window.size.toNat) Window.maxSkip with
      below | capped
    · rw [Nat.min_eq_left below]
    · have cap : Window.maxSkip = 2 ^ 63 - 1 := rfl
      have nothing (skip : Nat) (behind : Window.maxSkip ≤ skip) :
          (plan.ordered documents).drop skip = [] := List.drop_eq_nil_of_le (by omega)
      rw [Nat.min_eq_right capped, nothing _ (Nat.le_refl _), nothing _ capped]
  rw [page, Collection.slice, ← total, ← skipped]
  rfl

end Plan

namespace Request

/-- A planned request is planned for every page, with one predicate and one order. -/
theorem plan_atPage (catalog : Catalog) (entity : String) (request : Request)
    (plan : Plan Criteria)
    (planned : Criteria.builder.plan catalog entity request = .ok plan) (index : Nat) :
    ∃ other, Criteria.builder.plan catalog entity (request.atPage index) = .ok other ∧
      other.request = (request.atPage index).repair ∧
      other.window = Window.typed catalog entity (request.atPage index) ∧
      other.ordered = plan.ordered := by
  obtain ⟨declared, predicate, compiled, rfl⟩ :=
    (Builder.plan_eq_ok_iff _ catalog entity request plan).mp planned
  refine ⟨⟨(request.atPage index).repair, Window.typed catalog entity (request.atPage index),
    predicate⟩, ?_, rfl, rfl, ?_⟩
  · exact (Builder.plan_eq_ok_iff _ catalog entity (request.atPage index) _).mpr
      ⟨declared, predicate, compiled, rfl⟩
  · have order : (Window.typed catalog entity (request.atPage index)).order =
        (Window.typed catalog entity request).order := by
      rw [Window.order_typed, Window.order_typed]
      rfl
    funext documents
    simp only [Plan.ordered, order]
    rfl

/-- The run at page `index`: its slice of the ordered documents, and the counts of the
whole result. -/
theorem fetch_atPage (catalog : Catalog) (entity : String) (request : Request)
    (documents : List Json) (plan : Plan Criteria)
    (planned : Criteria.builder.plan catalog entity request = .ok plan)
    (short : documents.length < 2 ^ 63) (index : Nat) (small : index < 2 ^ 63) :
    (request.atPage index).fetch catalog entity documents =
      .ok (Collection.slice request.rowsPerPage index (plan.ordered documents),
        Summary.ofTotal (UInt64.ofNat (plan.selected documents).length)
          (request.atPage index).repair) := by
  obtain ⟨other, other_planned, echoed, window, ordered⟩ :=
    plan_atPage catalog entity request plan planned index
  have index_eq : other.window.index.toNat = index := by
    rw [window]
    exact Window.index_atPage request index small
  have size_eq : other.window.size.toNat = request.rowsPerPage := by
    rw [window]
    exact Window.size_toNat (request.atPage index)
  have total : (other.selected documents).length = (plan.selected documents).length := by
    rw [← (other.ordered_perm documents).length_eq, ← (plan.ordered_perm documents).length_eq,
      ordered]
  rw [fetch, other_planned, Except.map, other.page_eq documents short, index_eq, size_eq, total,
    echoed, ordered]

/-- Let `pages` be the least number of pages that hold all selected documents. The runs of
a planned request at the page indexes below it give the ordered documents, each once. All
of these pages are full but perhaps the last, which is not empty; every later page is
empty; and every run reports the same two counts. -/
theorem pages_tile (catalog : Catalog) (entity : String) (request : Request)
    (documents : List Json) (plan : Plan Criteria)
    (planned : Criteria.builder.plan catalog entity request = .ok plan)
    (short : documents.length < 2 ^ 63) (pages : Nat)
    (least : IsLeast {n | (plan.selected documents).length ≤ n * request.rowsPerPage} pages) :
    (∃ runs, (List.range pages).mapM
          (fun index => (request.atPage index).fetch catalog entity documents) = .ok runs ∧
        runs.flatMap Prod.fst = plan.ordered documents) ∧
      (plan.ordered documents).Perm (plan.selected documents) ∧
      ∀ index < 2 ^ 63, ∃ page summary,
        (request.atPage index).fetch catalog entity documents = .ok (page, summary) ∧
        (index + 1 < pages → page.length = request.rowsPerPage) ∧
        (index + 1 = pages → page ≠ [] ∧ page.length ≤ request.rowsPerPage) ∧
        (pages ≤ index → page = []) ∧
        summary.elements.toNat = (plan.selected documents).length ∧
        summary.pages.toNat = pages := by
  have positive := request.rowsPerPage_pos
  have length := (plan.ordered_perm documents).length_eq
  have counted := (Summary.pagesFor_isLeast _ _ positive).unique least
  have few : pages ≤ documents.length :=
    Nat.le_trans (least.2 (Nat.le_mul_of_pos_right _ positive)) (plan.length_selected_le documents)
  have fetched := fetch_atPage catalog entity request documents plan planned short
  refine ⟨⟨(List.range pages).map fun index =>
    (Collection.slice request.rowsPerPage index (plan.ordered documents),
      Summary.ofTotal (UInt64.ofNat (plan.selected documents).length)
        (request.atPage index).repair), ?_, ?_⟩, plan.ordered_perm documents, ?_⟩
  · rw [mapM_eq_ok_iff, List.forall₂_map_right_iff, List.forall₂_same]
    intro index member
    have before := List.mem_range.mp member
    exact fetched index (by omega)
  · rw [List.flatMap_map, Collection.flatMap_slice]
    exact List.take_of_length_le (length ▸ least.1)
  · intro index small
    obtain ⟨elements, total⟩ := Summary.ofTotal_repair (plan.selected documents).length
      (request.atPage index) (Nat.lt_of_le_of_lt (plan.length_selected_le documents) short)
    refine ⟨_, _, fetched index small, ?_, ?_, ?_, elements, total.trans counted⟩
    · intro before
      have within := Collection.before_end least before
      have bound : (index + 1) * request.rowsPerPage =
          index * request.rowsPerPage + request.rowsPerPage := Nat.succ_mul _ _
      rw [Collection.length_slice, length]
      omega
    · intro last
      have within := Collection.before_end least (show index < pages by omega)
      have held := Collection.length_slice request.rowsPerPage index (plan.ordered documents)
      constructor
      · apply List.ne_nil_of_length_pos
        omega
      · omega
    · intro behind
      have beyond := Collection.behind_end least behind
      apply List.eq_nil_of_length_eq_zero
      rw [Collection.length_slice, length]
      omega

/-- Three documents in pages of two, filtered and from the last label down. -/
theorem pages_tile_three :
    ∃ plan, Criteria.builder.plan (.entity ((Entity.new "item").declare "label" .text)) "item"
        ⟨some 7, some 2, some "desc", some ["label"], some [⟨"label", "x", "NE"⟩]⟩ = .ok plan ∧
      IsLeast {n | 3 ≤ n * 2} 2 ∧
      ∃ runs, (List.range 2).mapM (fun index =>
          (atPage ⟨some 7, some 2, some "desc", some ["label"], some [⟨"label", "x", "NE"⟩]⟩
            index).fetch (.entity ((Entity.new "item").declare "label" .text)) "item"
            [.object [("label", .text "a")], .object [("label", .text "x")],
              .object [("label", .text "c")], .object [("label", .text "b")]]) = .ok runs ∧
        runs.flatMap Prod.fst =
          [.object [("label", .text "c")], .object [("label", .text "b")],
            .object [("label", .text "a")]] := by
  have planned : Criteria.builder.plan (.entity ((Entity.new "item").declare "label" .text)) "item"
      ⟨some 7, some 2, some "desc", some ["label"], some [⟨"label", "x", "NE"⟩]⟩ =
        .ok ⟨⟨some 7, some 2, some "DESC", some ["label"], some [⟨"label", "x", "NE"⟩]⟩,
          ⟨7, 2, [⟨"label", .descending, some .text⟩]⟩,
          some (.compare "label" .notEqual (.text "x"))⟩ := by
    decide +kernel
  have least : IsLeast {n | 3 ≤ n * 2} 2 := by
    refine ⟨by decide, ?_⟩
    intro n reached
    have enough : 3 ≤ n * 2 := reached
    omega
  obtain ⟨⟨runs, fetched, tiled⟩, -⟩ := pages_tile
    (.entity ((Entity.new "item").declare "label" .text)) "item" _
    [.object [("label", .text "a")], .object [("label", .text "x")],
      .object [("label", .text "c")], .object [("label", .text "b")]] _ planned (by decide) 2
    least
  refine ⟨_, planned, least, runs, fetched, tiled.trans ?_⟩
  rfl

end Request

end PagedSearch
