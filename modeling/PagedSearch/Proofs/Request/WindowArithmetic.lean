import PagedSearch.Proofs.Sql.BoundValues
import Mathlib.Algebra.Group.Nat.Defs
import Mathlib.Logic.ExistsUnique

/-!
# The arithmetic of windows

A request has signed numbers, a window unsigned ones. Repair leaves no number below zero,
so the window of a request has the very numbers of the repaired request, and both are
signed 64-bit numbers still. What a window skips is cut down twice, to its type and to
`maxSkip`; since the first cut is the wider one, the two together are one cut of the exact
product (`skip_toNat`). From this, the windows of one size follow each other row by row as
far as rows can be skipped (`skip_next`, `covers_iff`), and every number that a database is
given for a request is a signed one (`count_le_of_sent`). `paging_fits_signed` holds all of
it together.
-/
namespace PagedSearch

namespace Sql

theorem Test.param_ofFilter_ne_count (filter : Filter) (n : UInt64) :
    (ofFilter filter).param ≠ .count n := by
  unfold ofFilter
  split
  next => simp [param]
  next => cases filter.value <;> simp [param, Param.ofValue]

end Sql

namespace Window

/-- The window after this one. -/
def next (w : Window) : Window :=
  { w with index := w.index + 1 }

/-- A row, counted from zero, is on the page of the window. -/
def Covers (w : Window) (row : Nat) : Prop :=
  w.skip.toNat ≤ row ∧ row < w.skip.toNat + w.take.toNat

/-- The numbers of a request's window are those of the repaired request. -/
theorem numbers_of_repair (request : Request) :
    ∃ page size : Int64,
      request.repair.page = some page ∧ request.repair.size = some size ∧
      ((ofRequest request).index.toNat : Int) = page.toInt ∧
      ((ofRequest request).size.toNat : Int) = size.toInt := by
  have page := Request.repairedPage_nonneg request.page
  have size := Int64.le_of_lt (Request.repairedSize_pos request.size)
  refine ⟨_, _, rfl, rfl, ?_, ?_⟩
  · rw [index_toNat, Int64.cast_toNatClampNeg _ page]
  · rw [size_toNat, Int64.cast_toNatClampNeg _ size]

theorem index_le (request : Request) : (ofRequest request).index.toNat ≤ maxSkip := by
  rw [index_toNat]
  exact Nat.le_sub_one_of_lt (Int64.toNatClampNeg_lt _)

theorem size_le (request : Request) : (ofRequest request).size.toNat ≤ maxSkip := by
  rw [size_toNat]
  exact Nat.le_sub_one_of_lt (Int64.toNatClampNeg_lt _)

theorem skip_le (w : Window) : w.skip.toNat ≤ maxSkip := by
  rw [skip_toNat]
  exact Nat.min_le_right _ _

/-- The next window starts where this one ends, or at the cap. -/
theorem skip_next (w : Window) (last : w.index.toNat + 1 < 2 ^ 64) :
    w.next.skip.toNat = min (w.skip.toNat + w.take.toNat) maxSkip := by
  have index : w.next.index.toNat = w.index.toNat + 1 := by
    rw [next, UInt64.toNat_add]
    exact Nat.mod_eq_of_lt last
  have product : w.next.index.toNat * w.next.size.toNat =
      w.index.toNat * w.size.toNat + w.size.toNat := by
    rw [index, Nat.succ_mul]
    rfl
  rw [skip_toNat, product, skip_toNat, take]
  omega

/-- Below the cap, the page of a row is the quotient of its number by the size. -/
theorem covers_iff (w : Window) (row : Nat) (positive : 0 < w.size.toNat)
    (below : row < maxSkip) : w.Covers row ↔ w.index.toNat = row / w.size.toNat := by
  have exact : w.Covers row ↔
      w.index.toNat * w.size.toNat ≤ row ∧ row < w.index.toNat * w.size.toNat + w.size.toNat := by
    rw [Covers, skip_toNat, take]
    omega
  rw [exact, eq_comm, Nat.div_eq_iff positive]
  omega

/-- Windows of one size neither overlap nor leave out a row that can be skipped to. -/
theorem existsUnique_covers (size : UInt64) (order : List SortKey) (row : Nat)
    (positive : 0 < size.toNat) (below : row < maxSkip) :
    ∃! index : UInt64, Covers ⟨index, size, order⟩ row := by
  have fits : row / size.toNat < UInt64.size := by
    have quotient : row / size.toNat ≤ row := Nat.div_le_self _ _
    have cap : maxSkip < UInt64.size := by decide
    omega
  have page := fun index => covers_iff ⟨index, size, order⟩ row positive below
  have number := UInt64.toNat_ofNat_of_lt' fits
  refine ⟨UInt64.ofNat (row / size.toNat), (page _).mpr number, ?_⟩
  intro index covers
  exact UInt64.toNat_inj.mp (((page index).mp covers).trans number.symm)

end Window

namespace Sql

/-- The numbers that a planned request has the database bind are signed ones: its statements
have the size of the page and the rows before it as their only whole numbers. -/
theorem count_le_of_sent {Row : Type} (database : Database Row) (dialect : Dialect)
    (table : Table) (catalog : Catalog) (entity : String) (request : Request)
    (plan : Plan Conjunction)
    (planned : Conjunction.builder.plan catalog entity request = .ok plan)
    (statement : Statement) (sent : statement ∈ (database.page dialect table plan).sent)
    (n : UInt64) (bound : .count n ∈ statement.params) : n.toNat ≤ Window.maxSkip := by
  obtain ⟨filters, -, condition⟩ :=
    Builder.predicate_of_planned _ catalog entity request plan planned
  have tests : .count n ∉ (plan.query table).tests.map Test.param := by
    rw [Query.tests_of_conjunction (plan.query table) filters condition]
    simp [Test.param_ofFilter_ne_count]
  have either : statement = (plan.query table).countStatement dialect ∨
      statement = (plan.query table).statement dialect := by
    unfold Database.page at sent
    dsimp only at sent
    split at sent
    next => exact .inl (List.mem_singleton.mp sent)
    next =>
      split at sent <;> simpa using sent
  rcases either with rfl | rfl
  · rw [Query.params_countStatement] at bound
    exact absurd bound tests
  · rw [Query.params_statement dialect (plan.query table) plan.window rfl] at bound
    have count : n = plan.window.take ∨ n = plan.window.skip := by
      rcases List.mem_append.mp bound with test | bounds
      · exact absurd test tests
      · simpa using bounds
    have window := Builder.window_of_planned _ catalog entity request plan planned
    rcases count with rfl | rfl
    · rw [window]
      exact Window.size_le request
    · exact Window.skip_le plan.window

end Sql

namespace Window

/-- Paging stays within signed 64-bit numbers. The window of any request has the numbers of
the repaired request. Any window at all skips the exact product of its numbers, cut at the
largest signed one; so limit and offset, the only whole numbers among the parameters of a
planned request, are signed ones. Windows of one size follow each other without a gap or a
shared row up to the cap. -/
theorem paging_fits_signed :
    (∀ request : Request, ∃ page size : Int64,
      request.repair.page = some page ∧ request.repair.size = some size ∧
      ((ofRequest request).index.toNat : Int) = page.toInt ∧
      ((ofRequest request).size.toNat : Int) = size.toInt ∧
      (ofRequest request).index.toNat ≤ 2 ^ 63 - 1 ∧
      1 ≤ (ofRequest request).size.toNat ∧ (ofRequest request).size.toNat ≤ 2 ^ 63 - 1) ∧
    (∀ w : Window, w.skip.toNat = min (w.index.toNat * w.size.toNat) (2 ^ 63 - 1)) ∧
    (∀ (Row : Type) (database : Database Row) (dialect : Sql.Dialect) (table : Sql.Table)
      (catalog : Catalog) (entity : String) (request : Request) (plan : Plan Sql.Conjunction),
      Sql.Conjunction.builder.plan catalog entity request = .ok plan →
        [.count plan.window.take, .count plan.window.skip] <:+
          ((plan.query table).statement dialect).params ∧
        ∀ statement ∈ (database.page dialect table plan).sent,
          ∀ n, .count n ∈ statement.params → n.toNat ≤ 2 ^ 63 - 1) ∧
    (∀ w : Window, w.index.toNat + 1 < 2 ^ 64 →
      w.next.skip.toNat = min (w.skip.toNat + w.take.toNat) (2 ^ 63 - 1)) ∧
    ∀ (size : UInt64) (order : List SortKey) (row : Nat),
      0 < size.toNat → row < 2 ^ 63 - 1 → ∃! index : UInt64, Covers ⟨index, size, order⟩ row := by
  refine ⟨?requests, skip_toNat, ?parameters, skip_next, existsUnique_covers⟩
  case requests =>
    intro request
    obtain ⟨page, size, paged, sized, index_eq, size_eq⟩ := numbers_of_repair request
    exact ⟨page, size, paged, sized, index_eq, size_eq, index_le request,
      size_toNat_pos request, size_le request⟩
  case parameters =>
    intro Row database dialect table catalog entity request plan planned
    constructor
    · rw [Sql.Query.params_statement dialect (plan.query table) plan.window rfl]
      exact List.suffix_append _ _
    · intro statement sent n bound
      exact Sql.count_le_of_sent database dialect table catalog entity request plan planned
        statement sent n bound

/-- A page behind the cap, and the page after it. -/
theorem paging_fits_signed_at_cap :
    ∃ plan : Plan Sql.Conjunction,
      Sql.Conjunction.builder.plan (.entity (Entity.new "item")) "item"
        ⟨some 4611686018427387904, some 3, none, none, none⟩ = .ok plan ∧
      [.count 3, .count 9223372036854775807] <:+
        ((plan.query ⟨"item", []⟩).statement .postgres).params ∧
      plan.window.next.skip.toNat = 2 ^ 63 - 1 ∧
      ∃! index : UInt64, Covers ⟨index, 3, []⟩ 9223372036854775806 := by
  have planned : Sql.Conjunction.builder.plan (.entity (Entity.new "item")) "item"
      ⟨some 4611686018427387904, some 3, none, none, none⟩ =
        .ok ⟨⟨some 4611686018427387904, some 3, none, none, none⟩,
          ⟨4611686018427387904, 3, []⟩, none⟩ := by
    decide +kernel
  obtain ⟨-, -, parameters, next, pages⟩ := paging_fits_signed
  obtain ⟨bounds, -⟩ := parameters Unit ⟨fun _ => .ok none, fun _ => .ok []⟩ .postgres
    ⟨"item", []⟩ _ _ _ _ planned
  have skipped : (⟨4611686018427387904, 3, []⟩ : Window).skip = 9223372036854775807 := by
    decide +kernel
  refine ⟨_, planned, ?_, ?_, pages 3 [] _ (by decide) (by decide)⟩
  · rw [skipped] at bounds
    exact bounds
  · rw [next _ (by decide), skipped]
    decide

end Window

end PagedSearch
