import PagedSearch.Database
import PagedSearch.Proofs.Collection.Paging

/-!
# One number of pages

Pages are counted in two places. A collection rounds the quotient up
(`Summary.pagesFor`); a database adds one to it for a remainder
(`Database.pageCount`) and stops where a page holds nothing. The page size too is
taken from two places, the request and the window of its plan. Every request leads
to one positive size (`countedSize_eq`), the two counts are one number
(`pageCount_toNat`) that is never more than the rows, and so a page of a database
and a page of a collection with as many rows have one summary.
-/
namespace PagedSearch

namespace Summary

/-- The quotient rounded up is the quotient, and one more for a remainder. -/
theorem pagesFor_eq (total size : Nat) (positive : 0 < size) :
    pagesFor total size = total / size + (if total % size = 0 then 0 else 1) := by
  have parts : total + (size - 1) = total % size + (size - 1) + total / size * size := by
    have division := Nat.div_add_mod' total size
    omega
  have remainder : total % size < size := Nat.mod_lt total positive
  rw [pagesFor, parts, Nat.add_mul_div_right _ _ positive, Nat.add_comm]
  congr 1
  split
  next exact_fit => exact Nat.div_eq_of_lt (by omega)
  next rest => exact Nat.div_eq_of_lt_le (by omega) (by omega)

end Summary

namespace Database

/-- What stops the count of pages: a page size of zero, or a sum past the largest number. -/
inductive CountFailure where
  | emptyPage
  | overflow
  deriving DecidableEq, Repr

/-- The count of pages with all that can stop it. -/
def checkedPageCount (rows size : UInt64) : Except CountFailure UInt64 :=
  if size = 0 then .error .emptyPage
  else
    let full := rows.toNat / size.toNat
    let rest := if rows % size = 0 then 0 else 1
    if full + rest < UInt64.size then .ok (pageCount rows size) else .error .overflow

section Counting

variable {rows size : UInt64}

/-- The sum of a page count, before it is cut to its type, is the rounded quotient. -/
theorem quotient_add_rest (positive : 0 < size.toNat) :
    rows.toNat / size.toNat + (if rows % size = 0 then 0 else 1) =
      Summary.pagesFor rows.toNat size.toNat := by
  have rest : rows % size = 0 ↔ rows.toNat % size.toNat = 0 := by
    rw [← UInt64.toNat_inj, UInt64.toNat_mod]
    rfl
  rw [Summary.pagesFor_eq _ _ positive]
  simp only [rest]

/-- The sum is never more than the number of rows: where there is a remainder, the size
is two or more. So it stays in its type. -/
theorem quotient_add_rest_lt (positive : 0 < size.toNat) :
    rows.toNat / size.toNat + (if rows % size = 0 then 0 else 1) < UInt64.size := by
  rw [quotient_add_rest positive]
  exact Nat.lt_of_le_of_lt (Summary.pagesFor_le _ _ positive) rows.toNat_lt

theorem pageCount_toNat (positive : 0 < size.toNat) :
    (pageCount rows size).toNat = Summary.pagesFor rows.toNat size.toNat := by
  have rest : (if rows % size = 0 then (0 : UInt64) else 1).toNat =
      if rows % size = 0 then 0 else 1 := by
    split <;> rfl
  rw [← quotient_add_rest positive, pageCount, UInt64.toNat_add, UInt64.toNat_div, rest]
  exact Nat.mod_eq_of_lt (quotient_add_rest_lt positive)

theorem ne_zero_of_toNat_pos (positive : 0 < size.toNat) : size ≠ 0 := by
  intro zero
  rw [zero] at positive
  exact absurd positive (by decide)

theorem checkedPageCount_eq (positive : 0 < size.toNat) :
    checkedPageCount rows size = .ok (pageCount rows size) := by
  rw [checkedPageCount, if_neg (ne_zero_of_toNat_pos positive)]
  exact if_pos (quotient_add_rest_lt positive)

end Counting

/-- Counted by the size of the window of a request, the pages of a database are the pages
of a summary. -/
theorem pageCount_ofTotal (total : UInt64) (request : Request) :
    pageCount total (Window.ofRequest request).size = (Summary.ofTotal total request).pages := by
  rw [← UInt64.toNat_inj, pageCount_toNat (Window.size_toNat_pos request), Summary.pages_ofTotal]

theorem checkedPageCount_ofTotal (total : UInt64) (request : Request) :
    checkedPageCount total (Window.ofRequest request).size =
      .ok (Summary.ofTotal total request).pages := by
  rw [checkedPageCount_eq (Window.size_toNat_pos request), pageCount_ofTotal]

end Database

namespace Plan

/-- The page of a collection is summed up by the number of selected documents. -/
theorem summary_page (plan : Plan Criteria) (documents : List Json) :
    (plan.page documents).2 =
      Summary.ofTotal (UInt64.ofNat (plan.selected documents).length) plan.request := by
  rw [← (plan.ordered_perm documents).length_eq]
  rfl

/-- The page of a database is summed up by the number of counted rows, if the window of
the plan is as large as its request says. -/
theorem page_of_answers {Row : Type} (database : Database Row) (dialect : Sql.Dialect)
    (table : Sql.Table) (plan : Plan Sql.Conjunction)
    (size : plan.window.size = (Window.ofRequest plan.request).size)
    (count : Option UInt64) (rows : List Row)
    (counted : database.count ((plan.query table).countStatement dialect) = .ok count)
    (read : database.rows ((plan.query table).statement dialect) = .ok rows) :
    (database.page dialect table plan).outcome =
      .ok (rows, Summary.ofTotal (count.getD 0) plan.request) := by
  have pages : Database.pageCount (count.getD 0) plan.window.size =
      (Summary.ofTotal (count.getD 0) plan.request).pages := by
    rw [size]
    exact Database.pageCount_ofTotal _ _
  rw [Database.page]
  dsimp only
  rw [counted, read]
  dsimp only
  rw [pages]
  rfl

end Plan

/-- The request and the window of a plan have one page size. -/
theorem Builder.size_of_planned {P : Type} (builder : Builder P) (catalog : Catalog)
    (entity : String) (request : Request) (plan : Plan P)
    (planned : builder.plan catalog entity request = .ok plan) :
    plan.window.size = (Window.ofRequest request).size ∧
      (Window.ofRequest plan.request).size = (Window.ofRequest request).size := by
  rw [window_of_planned builder catalog entity request plan planned,
    request_of_planned builder catalog entity request plan planned, Window.ofRequest_repair]
  exact ⟨rfl, rfl⟩

/-- Let `total` be any number of rows and `request` any request. The summary counts the
fewest pages of the window's size that hold them, and nothing stops that count. If the
request has a plan, then its pages are not empty, a collection has a plan too, and
whenever the database counts as many rows as the collection selects documents, the pages
of the two have one summary. -/
theorem page_counts_agree (total : UInt64) (request : Request) :
    IsLeast {n | total.toNat ≤ n * (Window.ofRequest request).size.toNat}
        (Summary.ofTotal total request).pages.toNat ∧
      Database.checkedPageCount total (Summary.countedSize request) =
        .ok (Summary.ofTotal total request).pages ∧
      ∀ (catalog : Catalog) (entity : String) (plan : Plan Sql.Conjunction),
        Sql.Conjunction.builder.plan catalog entity request = .ok plan →
        plan.window.size ≠ 0 ∧
        Database.checkedPageCount total plan.window.size =
          .ok (Summary.ofTotal total request).pages ∧
        ∃ documentPlan, Criteria.builder.plan catalog entity request = .ok documentPlan ∧
          ∀ (Row : Type) (database : Database Row) (dialect : Sql.Dialect) (table : Sql.Table)
            (count : Option UInt64) (rows : List Row) (documents : List Json),
            database.count ((plan.query table).countStatement dialect) = .ok count →
            database.rows ((plan.query table).statement dialect) = .ok rows →
            count.getD 0 = total →
            (documentPlan.selected documents).length = total.toNat →
            (database.page dialect table plan).outcome =
              .ok (rows, (documentPlan.page documents).2) := by
  have positive := Window.size_toNat_pos request
  have unstopped := Database.checkedPageCount_ofTotal total request
  refine ⟨?_, ?_, ?_⟩
  · rw [Summary.pages_ofTotal]
    exact Summary.pagesFor_isLeast _ _ positive
  · rw [Summary.countedSize_eq]
    exact unstopped
  · intro catalog entity plan planned
    obtain ⟨size, echoed⟩ := Builder.size_of_planned _ catalog entity request plan planned
    obtain ⟨predicate, document_planned⟩ :=
      Builder.plan_of_planned _ Criteria.builder catalog entity request plan planned
    refine ⟨?_, ?_, _, document_planned, ?_⟩
    · rw [size]
      exact Database.ne_zero_of_toNat_pos positive
    · rw [size]
      exact unstopped
    · intro Row database dialect table count rows documents counted read answered selected
      have total_eq : UInt64.ofNat total.toNat = total := UInt64.ofNat_toNat
      rw [Plan.page_of_answers database dialect table plan (size.trans echoed.symm) count rows
        counted read, Plan.summary_page, answered, selected, total_eq]

/-- Three rows in pages of two, asked for with a negative page and a direction that orders
nothing. -/
theorem page_counts_agree_three :
    ∃ plan, Sql.Conjunction.builder.plan
        (.entity ((Entity.new "item").declare "label" .text)) "item"
        ⟨some (-4), some 2, some "desc", none, some [⟨"label", "x", "NE"⟩]⟩ = .ok plan ∧
      (Database.page ⟨fun _ => .ok (some 3), fun _ => .ok ["first", "second"]⟩ .sqlite
          ⟨"item", []⟩ plan).outcome =
        .ok (["first", "second"],
          ⟨2, 3, ⟨some 0, some 2, none, none, some [⟨"label", "x", "NE"⟩]⟩⟩) := by
  have planned : Sql.Conjunction.builder.plan
      (.entity ((Entity.new "item").declare "label" .text)) "item"
      ⟨some (-4), some 2, some "desc", none, some [⟨"label", "x", "NE"⟩]⟩ =
        .ok ⟨⟨some 0, some 2, none, none, some [⟨"label", "x", "NE"⟩]⟩, ⟨0, 2, []⟩,
          some ⟨[.compare "label" .notEqual (.text "x")]⟩⟩ := by
    decide +kernel
  have document_planned : Criteria.builder.plan
      (.entity ((Entity.new "item").declare "label" .text)) "item"
      ⟨some (-4), some 2, some "desc", none, some [⟨"label", "x", "NE"⟩]⟩ =
        .ok ⟨⟨some 0, some 2, none, none, some [⟨"label", "x", "NE"⟩]⟩, ⟨0, 2, []⟩,
          some (.compare "label" .notEqual (.text "x"))⟩ := by
    decide +kernel
  obtain ⟨-, -, plans⟩ := page_counts_agree 3
    ⟨some (-4), some 2, some "desc", none, some [⟨"label", "x", "NE"⟩]⟩
  obtain ⟨-, -, documentPlan, found, agree⟩ := plans _ _ _ planned
  rw [document_planned] at found
  cases found
  refine ⟨_, planned, (agree String ⟨fun _ => .ok (some 3), fun _ => .ok ["first", "second"]⟩
    .sqlite ⟨"item", []⟩ (some 3) ["first", "second"]
    [.object [("label", .text "a")], .object [("label", .text "x")],
      .object [("label", .text "c")], .object [("label", .text "b")]] rfl rfl rfl ?_).trans ?_⟩
  · decide
  · decide +kernel

end PagedSearch
