import PagedSearch.Proofs.Request.Planning
import PagedSearch.Proofs.Text.Words

/-!
# Repaired requests

What a request looks like that needs no repair: its page and size are there and in range, and it
has either no sort fields and no direction, or sort fields and one of the two direction words
(`Request.Repaired`). Every repaired request is of this form, and repair leaves requests of this
form as they are, so it is idempotent (`repair_eq_self_iff`). On other requests it changes the
parts at fault alone. None of the changes can be seen in what the request asks for: direction and
window are those of the request as it was sent (`repair_keeps`).
-/
namespace PagedSearch

open Text

namespace Direction

theorem word_injective {first second : Direction} (same : first.word = second.word) :
    first = second := by
  rw [← ofToken_word first, same, ofToken_word]

theorem ofToken_eq_descending_iff {token : Option String} :
    ofToken token = descending ↔
      ∃ raw, token = some raw ∧ Alike raw.toList descending.word.toList := by
  have solid : trim descending.word.toList = descending.word.toList := by decide
  cases token with
  | none => simp [ofToken]
  | some raw =>
    simp only [ofToken, Option.some.injEq, exists_eq_left', alike_iff, solid, sameWord_iff]
    split
    next same => simp [same]
    next differs => simp [differs]

end Direction

namespace Request

/-- A request with nothing to repair. -/
structure Repaired (r : Request) : Prop where
  page : ∃ index, r.page = some index ∧ 0 ≤ index
  size : ∃ size, r.size = some size ∧ 1 ≤ size
  order : r.sort = none ∧ r.direction = none ∨
    ∃ fields direction, r.sort = some fields ∧ fields ≠ [] ∧
      r.direction = some (Direction.word direction)

/-- A number that is raised to a bound, if it is below the bound or missing. -/
def raised (low : Int64) (given : Option Int64) : Int64 :=
  match given with
  | some n => if low < n then n else low
  | none => low

theorem repairedPage_eq_raised (page : Option Int64) : repairedPage page = raised 0 page := by
  cases page <;> rfl

theorem repairedSize_eq_raised (size : Option Int64) : repairedSize size = raised 1 size := by
  cases size <;> rfl

section Raised

variable {low n : Int64} {given : Option Int64}

theorem raised_of_lt (above : low < n) : raised low (some n) = n :=
  if_pos above

theorem raised_of_le (reached : low ≤ n) : raised low (some n) = n := by
  by_cases above : low < n
  · exact raised_of_lt above
  · rw [raised, if_neg above]
    exact Int64.le_antisymm reached (Int64.not_lt.mp above)

theorem raised_eq_or : given = some (raised low given) ∨ raised low given = low := by
  cases given with
  | none => exact .inr rfl
  | some n =>
    by_cases above : low < n
    · exact .inl (congrArg some (raised_of_lt above).symm)
    · exact .inr (if_neg above)

theorem le_raised : low ≤ raised low given := by
  cases given with
  | none => exact Int64.le_refl low
  | some n =>
    by_cases above : low < n
    · rw [raised_of_lt above]
      exact Int64.le_of_lt above
    · rw [raised, if_neg above]
      exact Int64.le_refl low

end Raised

theorem sort_of_sorted {r : Request} (sorted : r.sortFields ≠ []) :
    r.sort = some r.sortFields := by
  unfold sortFields at sorted ⊢
  cases fields : r.sort with
  | none =>
    rw [fields] at sorted
    exact absurd rfl sorted
  | some fields => rfl

theorem repair_of_unsorted {r : Request} (unsorted : r.sortFields = []) :
    r.repair.sort = none ∧ r.repair.direction = none := by
  simp [repair, direction?, unsorted]

theorem repair_of_sorted {r : Request} (sorted : r.sortFields ≠ []) :
    r.repair.sort = r.sort ∧ r.repair.direction = some (Direction.ofToken r.direction).word := by
  simp [repair, direction?, sorted]

theorem repaired_repair (r : Request) : r.repair.Repaired where
  page := ⟨_, rfl, repairedPage_nonneg r.page⟩
  size := ⟨_, rfl, by rw [repairedSize_eq_raised]; exact le_raised⟩
  order := by
    by_cases sorted : r.sortFields = []
    · exact .inl (repair_of_unsorted sorted)
    · obtain ⟨sort, direction⟩ := repair_of_sorted sorted
      exact .inr ⟨r.sortFields, _, sort.trans (sort_of_sorted sorted), sorted, direction⟩

theorem repair_of_repaired {r : Request} (repaired : r.Repaired) : r.repair = r := by
  obtain ⟨⟨index, page, nonneg⟩, ⟨size, sized, one_le⟩, order⟩ := repaired
  have ordered : r.repair.sort = r.sort ∧ r.repair.direction = r.direction := by
    rcases order with ⟨sort, direction⟩ | ⟨fields, direction, sort, filled, word⟩
    · have unsorted : r.sortFields = [] := by rw [sortFields, sort, Option.getD_none]
      rw [sort, direction]
      exact repair_of_unsorted unsorted
    · have sorted : r.sortFields ≠ [] := by rwa [sortFields, sort, Option.getD_some]
      obtain ⟨kept, worded⟩ := repair_of_sorted sorted
      rw [worded, word, Direction.ofToken_word]
      exact ⟨kept, rfl⟩
  calc r.repair
    _ = ⟨some (repairedPage r.page), some (repairedSize r.size), r.repair.direction,
          r.repair.sort, r.filters⟩ := rfl
    _ = ⟨r.page, r.size, r.direction, r.sort, r.filters⟩ := by
      rw [ordered.1, ordered.2, page, sized, repairedPage_eq_raised, raised_of_le nonneg,
        repairedSize_eq_raised, raised_of_le one_le]
    _ = r := rfl

/-- Repair leaves a request as it is exactly if there is nothing to repair. -/
theorem repair_eq_self_iff (r : Request) : r.repair = r ↔ r.Repaired :=
  ⟨fun same => same ▸ repaired_repair r, repair_of_repaired⟩

theorem repair_direction_isSome_iff (r : Request) :
    (∃ word, r.repair.direction = some word) ↔
      ∃ fields, r.repair.sort = some fields ∧ fields ≠ [] := by
  by_cases sorted : r.sortFields = []
  · obtain ⟨sort, direction⟩ := repair_of_unsorted sorted
    simp [sort, direction]
  · obtain ⟨sort, direction⟩ := repair_of_sorted sorted
    simp [sort, direction, sort_of_sorted sorted, sorted]

theorem direction?_eq_some_iff (r : Request) (direction : Direction) :
    r.direction? = some direction ↔
      r.sortFields ≠ [] ∧ Direction.ofToken r.direction = direction := by
  unfold direction?
  split
  next unsorted => simp [unsorted]
  next sorted => simp [sorted]

theorem repair_direction_eq_iff (r : Request) (direction : Direction) :
    r.repair.direction = some direction.word ↔ r.direction? = some direction := by
  rw [repair, Option.map_eq_some_iff]
  constructor
  · rintro ⟨given, found, word⟩
    rw [found, Direction.word_injective word]
  · exact fun found => ⟨direction, found, rfl⟩

/-- Repair changes nothing that is in order. What it gives is repaired for good, and so is every
request that it does not change. The filters are kept, and so are sort fields, positive pages and
sizes above one; every other page becomes 0 and every other size 1. There is a direction, one of
the two words, exactly if there are sort fields, and it is the descending one if the direction
that was sent is alike to that word. The repaired request has the direction and the window of the
request itself, and every key of the window has that direction. -/
theorem repair_keeps (r : Request) :
    r.repair.repair = r.repair ∧ (r.repair = r ↔ r.Repaired) ∧
    r.repair.filters = r.filters ∧
    (r.sortFields ≠ [] → r.repair.sort = r.sort) ∧
    (∃ index, r.repair.page = some index ∧ 0 ≤ index ∧
      (∀ given, r.page = some given → 0 < given → index = given) ∧
      (r.page = some index ∨ index = 0)) ∧
    (∃ size, r.repair.size = some size ∧ 1 ≤ size ∧
      (∀ given, r.size = some given → 1 < given → size = given) ∧
      (r.size = some size ∨ size = 1)) ∧
    ((∃ word, r.repair.direction = some word) ↔
      ∃ fields, r.repair.sort = some fields ∧ fields ≠ []) ∧
    (∀ word, r.repair.direction = some word → word = "ASC" ∨ word = "DESC") ∧
    (r.repair.direction = some "DESC" ↔ r.sortFields ≠ [] ∧
      ∃ raw, r.direction = some raw ∧ Alike raw.toList "DESC".toList) ∧
    r.repair.direction? = r.direction? ∧
    Window.ofRequest r.repair = Window.ofRequest r ∧
    ∀ key ∈ (Window.ofRequest r).order, r.direction? = some key.direction := by
  refine ⟨repair_repair r, repair_eq_self_iff r, rfl, fun sorted => (repair_of_sorted sorted).1,
    ?page, ?size, repair_direction_isSome_iff r, ?words, ?descending, direction?_repair r,
    Window.ofRequest_repair r, ?keys⟩
  case page =>
    refine ⟨raised 0 r.page, congrArg some (repairedPage_eq_raised r.page), le_raised, ?_,
      raised_eq_or⟩
    intro given sent positive
    rw [sent, raised_of_lt positive]
  case size =>
    refine ⟨raised 1 r.size, congrArg some (repairedSize_eq_raised r.size), le_raised, ?_,
      raised_eq_or⟩
    intro given sent above
    rw [sent, raised_of_lt above]
  case words =>
    intro word present
    obtain ⟨direction, -, rfl⟩ := Option.map_eq_some_iff.mp present
    cases direction with
    | ascending => exact .inl rfl
    | descending => exact .inr rfl
  case descending =>
    change r.repair.direction = some Direction.descending.word ↔ _
    rw [repair_direction_eq_iff, direction?_eq_some_iff, Direction.ofToken_eq_descending_iff]
    rfl
  case keys =>
    intro key member
    rw [Window.order_ofRequest, List.mem_map] at member
    obtain ⟨field, given, rfl⟩ := member
    exact if_neg (List.ne_nil_of_mem given)

/-- A negative page, the largest size, a direction in another case with blanks around it, and a
sort field that is given twice. -/
theorem repair_keeps_malformed :
    ∃ r : Request, r = ⟨some (-1), some 9223372036854775807, some " dESC\n",
        some ["label", "label"], some []⟩ ∧
      r.repair.size = some 9223372036854775807 ∧
      r.repair.sort = some ["label", "label"] ∧
      r.repair.direction = some "DESC" ∧
      (Window.ofRequest r.repair).order = (Window.ofRequest r).order ∧
      ¬ r.Repaired := by
  obtain ⟨-, unchanged, -, sort, -, ⟨size, sized, -, kept, -⟩, -, -, descending, -, window, -⟩ :=
    repair_keeps ⟨some (-1), some 9223372036854775807, some " dESC\n", some ["label", "label"],
      some []⟩
  refine ⟨_, rfl, ?_, sort (by decide), descending.mpr ⟨by decide, _, rfl, ?_⟩,
    congrArg Window.order window, fun repaired => ?_⟩
  · rw [sized, kept _ rfl (by decide)]
  · exact alike_iff.mpr (by decide +kernel)
  · exact absurd (unchanged.mpr repaired) (by decide +kernel)

end Request

end PagedSearch
