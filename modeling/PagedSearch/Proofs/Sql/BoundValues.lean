import PagedSearch.Proofs.Request.Planning
import PagedSearch.Database

/-!
# Client values are bound

The text of a statement is a function of its outline: its fixed texts and the
places of its bound values, without the values (`sql_congr`). The outline of a
test depends on the column and the operator of its clause only
(`outline_ofFilter`), and every test binds one value (`params_fragments`). So two
requests that differ in their values, page and size are read by the same text
(`planned_values_bound`), and its parameters are one for each clause in turn, then
the bounds of the page.
-/
namespace PagedSearch

namespace Sql

namespace Fragment

/-- What of a piece can be seen in the text: a fixed text, or that a value is bound. -/
def outline : Fragment → Option (List Char)
  | text s => some s
  | bound _ => none

end Fragment

namespace Statement

/-- The statement without its values. -/
def outline (statement : Statement) : List (Option (List Char)) :=
  statement.map Fragment.outline

@[simp] theorem outline_append (first second : Statement) :
    outline (first ++ second) = outline first ++ outline second :=
  List.map_append

/-- Placeholders are numbered by place, so the text does not see the values. -/
theorem textFrom_congr (dialect : Dialect) (number : Nat) (first second : Statement)
    (same : first.outline = second.outline) :
    textFrom dialect number first = textFrom dialect number second := by
  induction first generalizing second number with
  | nil =>
    have none_left : second = [] := List.map_eq_nil_iff.mp same.symm
    rw [none_left]
  | cons piece rest ih =>
    cases second with
    | nil => cases same
    | cons other others =>
      obtain ⟨head, tail⟩ := List.cons.inj same
      cases piece with
      | text s =>
        cases other with
        | text t =>
          have texts : s = t := Option.some.inj head
          rw [textFrom, textFrom, texts, ih number others tail]
        | bound p => cases head
      | bound p =>
        cases other with
        | text t => cases head
        | bound q => rw [textFrom, textFrom, ih (number + 1) others tail]

theorem sql_congr (dialect : Dialect) (first second : Statement)
    (same : first.outline = second.outline) : first.sql dialect = second.sql dialect := by
  rw [sql, sql, textFrom_congr dialect 1 first second same]

@[simp] theorem params_append (first second : Statement) :
    params (first ++ second) = params first ++ params second := by
  induction first with
  | nil => rfl
  | cons piece rest ih =>
    cases piece with
    | text s => exact ih
    | bound p => exact congrArg (p :: ·) ih

end Statement

namespace Test

/-- The value that a test binds. -/
def param : Test → Param
  | compare _ _ value => value
  | like _ pattern => .text pattern

theorem params_fragments (dialect : Dialect) (test : Test) :
    (test.fragments dialect).params = [test.param] := by
  cases test <;> rfl

/-- Tests of one column by one operator have one outline, whatever they look for. -/
theorem outline_ofFilter (dialect : Dialect) (first second : Filter)
    (field : first.field = second.field) (operator : first.operator = second.operator) :
    ((ofFilter first).fragments dialect).outline =
      ((ofFilter second).fragments dialect).outline := by
  unfold ofFilter
  rw [field, operator]
  split <;> rfl

end Test

namespace Conjunction

/-- A conjunction holds one test for each checked clause, in their order. -/
theorem conjunction_eq (first : Filter) (others : List Filter) :
    builder.conjunction (first :: others) = some ⟨(first :: others).map Test.ofFilter⟩ := by
  have fold : ∀ (rest : List Filter) (joined : Conjunction),
      rest.foldl (fun joined next => builder.both joined (builder.clause next)) joined =
        ⟨joined.tests ++ rest.map Test.ofFilter⟩ := by
    intro rest
    induction rest with
    | nil =>
      intro joined
      simp
    | cons next rest ih =>
      intro joined
      rw [List.foldl_cons, ih]
      simp [builder]
  rw [Builder.conjunction, fold]
  rfl

theorem joined_cons_cons (between : String) (part next : Statement) (parts : List Statement) :
    joined between (part :: next :: parts) =
      part ++ .text between.toList :: joined between (next :: parts) :=
  rfl

/-- The outline of joined parts sees the parts by their outlines only. -/
theorem outline_joined (between : String) (parts : List Statement) :
    (joined between parts).outline =
      List.intercalate [some between.toList] (parts.map Statement.outline) := by
  induction parts with
  | nil => rfl
  | cons part parts ih =>
    cases parts with
    | nil => simp [joined]
    | cons next parts =>
      rw [joined_cons_cons, Statement.outline_append, List.map_cons, List.map_cons,
        List.intercalate_cons_cons, ← List.map_cons, ← ih, List.append_assoc]
      rfl

theorem params_joined (between : String) (parts : List Statement) :
    (joined between parts).params = parts.flatMap Statement.params := by
  induction parts with
  | nil => rfl
  | cons part parts ih =>
    cases parts with
    | nil => simp [joined]
    | cons next parts =>
      rw [joined_cons_cons, Statement.params_append, List.flatMap_cons, ← ih]
      rfl

/-- A conjunction binds one value for each test. -/
theorem params_fragments (dialect : Dialect) (conjunction : Conjunction) :
    (conjunction.fragments dialect).params = conjunction.tests.map Test.param := by
  rw [fragments, params_joined, List.flatMap_map, List.map_eq_flatMap]
  simp only [Test.params_fragments]

end Conjunction

namespace Query

/-- The tests that the rows of a query have to pass. -/
def tests (query : Query) : List Test :=
  match query.condition with
  | some condition => condition.tests
  | none => []

theorem params_whereFragments (dialect : Dialect) (query : Query) :
    (query.whereFragments dialect).params = query.tests.map Test.param := by
  unfold whereFragments tests
  cases query.condition with
  | none => rfl
  | some conjunction => exact Conjunction.params_fragments dialect conjunction

/-- The values of a query: those of its tests, then the bounds of its window. -/
theorem params_statement (dialect : Dialect) (query : Query) (window : Window)
    (bounded : query.bounds = some window) :
    (query.statement dialect).params =
      query.tests.map Test.param ++ [.count window.take, .count window.skip] := by
  have order : (query.orderFragments dialect).params = [] := by
    unfold orderFragments
    split <;> rfl
  have bounds : query.boundFragments.params = [.count window.take, .count window.skip] := by
    rw [boundFragments, bounded]
    rfl
  rw [statement, Statement.params_append, Statement.params_append, Statement.params_append,
    params_whereFragments, order, bounds]
  simp [head, Statement.params]

/-- The rows are counted without a window, so only the values of the tests are bound. -/
theorem params_countStatement (dialect : Dialect) (query : Query) :
    (query.countStatement dialect).params = query.tests.map Test.param := by
  rw [countStatement, Statement.params, Statement.params_append, Statement.params_append,
    params_whereFragments]
  simp [head, Statement.params]

/-- The outline of a query is made of its table, the outline of its condition, its order and
whether it is bounded. -/
theorem outline_statement_congr (dialect : Dialect) (first second : Query)
    (table : first.table = second.table)
    (condition : (first.whereFragments dialect).outline = (second.whereFragments dialect).outline)
    (order : first.order = second.order)
    (bounded : first.bounds.isSome = true ∧ second.bounds.isSome = true) :
    (first.statement dialect).outline = (second.statement dialect).outline := by
  obtain ⟨left, left_eq⟩ := Option.isSome_iff_exists.mp bounded.1
  obtain ⟨right, right_eq⟩ := Option.isSome_iff_exists.mp bounded.2
  have heads : first.head dialect = second.head dialect := by rw [head, head, table]
  have orders : first.orderFragments dialect = second.orderFragments dialect := by
    rw [orderFragments, orderFragments, order]
  have bounds : first.boundFragments.outline = second.boundFragments.outline := by
    rw [boundFragments, boundFragments, left_eq, right_eq]
    rfl
  simp only [statement, Statement.outline_append, heads, condition, orders, bounds]

end Query

end Sql

namespace Filter

/-- What a statement shows of a checked clause. -/
def subject (filter : Filter) : String × Operator :=
  (filter.field, filter.operator)

end Filter

namespace Clause

/-- The column of a clause and the operator that it stands for. -/
def subject (clause : Clause) : String × Operator :=
  (clause.field, clause.meaning)

/-- The value that is bound for a clause: the escaped pattern of its text if its operator
looks for text, else its text read as the type of its field. -/
def param? (catalog : Catalog) (entity : String) (clause : Clause) : Option Sql.Param := do
  let type ← catalog.typeOf? entity clause.field
  if clause.meaning.searchesText then
    return .text (String.ofList (Sql.pattern clause.meaning clause.value.toList))
  else
    let value ← Value.read? clause.value type
    return .ofValue value

theorem subject_of_check (catalog : Catalog) (entity : String) (clause : Clause)
    (filter : Filter) (checked : clause.check catalog entity = .ok filter) :
    filter.subject = clause.subject := by
  obtain ⟨type, value, -, -, -, rfl⟩ := (check_eq_ok_iff catalog entity clause filter).mp checked
  rfl

/-- A pattern operator is for text fields only, and there the value is the client's text. -/
theorem param?_of_check (catalog : Catalog) (entity : String) (clause : Clause)
    (filter : Filter) (checked : clause.check catalog entity = .ok filter) :
    clause.param? catalog entity = some (Sql.Test.ofFilter filter).param := by
  obtain ⟨type, value, declared, allowed, read, rfl⟩ :=
    (check_eq_ok_iff catalog entity clause filter).mp checked
  unfold param? Sql.Test.ofFilter
  dsimp only
  rw [declared, Option.bind_eq_bind, Option.bind_some]
  split
  next searches =>
    have text : type = .text := by simpa [FieldType.allows, searches] using allowed
    subst text
    have same : value = .text clause.value := (Option.some.inj read).symm
    rw [same]
    rfl
  next compares =>
    rw [read]
    rfl

end Clause

namespace Sql

theorem Test.outlines_of_subjects (dialect : Dialect) (filters others : List Filter)
    (same : filters.map Filter.subject = others.map Filter.subject) :
    ((filters.map ofFilter).map (fragments dialect)).map Statement.outline =
      ((others.map ofFilter).map (fragments dialect)).map Statement.outline := by
  induction filters generalizing others with
  | nil =>
    have none_left : others = [] := List.map_eq_nil_iff.mp same.symm
    rw [none_left]
  | cons filter filters ih =>
    cases others with
    | nil => cases same
    | cons other others =>
      obtain ⟨head, tail⟩ := List.cons.inj same
      obtain ⟨field, operator⟩ := Prod.mk.inj head
      simp only [List.map_cons, outline_ofFilter dialect filter other field operator]
      exact congrArg (_ :: ·) (ih others tail)

/-- Conditions of checked clauses with the same subjects in turn have one outline. -/
theorem Query.outline_whereFragments (dialect : Dialect) (first second : Query)
    (filters others : List Filter)
    (left : first.condition = Conjunction.builder.conjunction filters)
    (right : second.condition = Conjunction.builder.conjunction others)
    (same : filters.map Filter.subject = others.map Filter.subject) :
    (first.whereFragments dialect).outline = (second.whereFragments dialect).outline := by
  unfold whereFragments
  cases filters with
  | nil =>
    have none_left : others = [] := List.map_eq_nil_iff.mp same.symm
    rw [left, right, none_left]
  | cons filter filters =>
    cases others with
    | nil => cases same
    | cons other others =>
      have tests := Test.outlines_of_subjects dialect (filter :: filters) (other :: others) same
      have joined := congrArg (List.intercalate [some " AND ".toList]) tests
      rw [← Conjunction.outline_joined, ← Conjunction.outline_joined] at joined
      rw [left, right, Conjunction.conjunction_eq, Conjunction.conjunction_eq]
      exact congrArg (some " WHERE ".toList :: ·) joined

/-- The tests of a planned query are those of the checked clauses. -/
theorem Query.tests_of_conjunction (query : Query) (filters : List Filter)
    (condition : query.condition = Conjunction.builder.conjunction filters) :
    query.tests = filters.map Test.ofFilter := by
  unfold tests
  cases filters with
  | nil =>
    rw [condition]
    rfl
  | cons filter filters => rw [condition, Conjunction.conjunction_eq]

/-- The parameters of a planned query: one for each clause in turn, then limit and offset. -/
theorem params_of_planned (dialect : Dialect) (table : Table) (catalog : Catalog)
    (entity : String) (request : Request) (plan : Plan Conjunction)
    (planned : Conjunction.builder.plan catalog entity request = .ok plan) :
    ((plan.query table).statement dialect).params.map some =
      (request.filters.getD []).map (Clause.param? catalog entity) ++
        [some (.count plan.window.take), some (.count plan.window.skip)] := by
  obtain ⟨filters, checked, condition⟩ :=
    Builder.predicate_of_planned _ catalog entity request plan planned
  have clauses := Clause.checkAll_map catalog entity request.filters filters checked
    (Clause.param? catalog entity) (fun filter => some (Test.ofFilter filter).param)
    (fun clause filter head => (Clause.param?_of_check catalog entity clause filter head).symm)
  have tests := Query.tests_of_conjunction (plan.query table) filters condition
  rw [Query.params_statement dialect (plan.query table) plan.window rfl, tests, ← clauses]
  simp

/-- Two planned requests with one order, and with clauses that agree in field and operator
one by one, are read by statements of one text. Whatever the clauses look for, and whichever
page is asked for, stands in the parameters: one for each clause in turn, then limit and
offset. -/
theorem planned_values_bound (dialect : Dialect) (table : Table) (catalog : Catalog)
    (entity : String) (first second : Request) (left right : Plan Conjunction)
    (left_planned : Conjunction.builder.plan catalog entity first = .ok left)
    (right_planned : Conjunction.builder.plan catalog entity second = .ok right)
    (sort : first.repair.sort = second.repair.sort)
    (direction : first.repair.direction = second.repair.direction)
    (subjects : (first.filters.getD []).map Clause.subject =
      (second.filters.getD []).map Clause.subject) :
    ((left.query table).statement dialect).sql dialect =
        ((right.query table).statement dialect).sql dialect ∧
      ((left.query table).statement dialect).params.map some =
        (first.filters.getD []).map (Clause.param? catalog entity) ++
          [some (.count left.window.take), some (.count left.window.skip)] ∧
      ((right.query table).statement dialect).params.map some =
        (second.filters.getD []).map (Clause.param? catalog entity) ++
          [some (.count right.window.take), some (.count right.window.skip)] := by
  refine ⟨?_, params_of_planned dialect table catalog entity first left left_planned,
    params_of_planned dialect table catalog entity second right right_planned⟩
  obtain ⟨filters, checked, condition⟩ :=
    Builder.predicate_of_planned _ catalog entity first left left_planned
  obtain ⟨filters', checked', condition'⟩ :=
    Builder.predicate_of_planned _ catalog entity second right right_planned
  have window := Builder.window_of_planned _ catalog entity first left left_planned
  have window' := Builder.window_of_planned _ catalog entity second right right_planned
  have same : filters.map Filter.subject = filters'.map Filter.subject := by
    rw [Clause.checkAll_map catalog entity _ _ checked Clause.subject Filter.subject
        (Clause.subject_of_check catalog entity),
      Clause.checkAll_map catalog entity _ _ checked' Clause.subject Filter.subject
        (Clause.subject_of_check catalog entity), subjects]
  have sorted : first.repair.sortFields = second.repair.sortFields := congrArg (·.getD []) sort
  have order : left.window.order = right.window.order := by
    rw [window, window', Window.typed, Window.typed, Window.ofRequest, Window.ofRequest]
    simp only [sorted, direction]
  apply Statement.sql_congr
  apply Query.outline_statement_congr dialect (left.query table) (right.query table) rfl
  · exact Query.outline_whereFragments dialect _ _ filters filters' condition condition' same
  · exact congrArg (List.map fun key => (key.field, key.direction)) order
  · exact ⟨rfl, rfl⟩

/-- Quotes, wildcards and a placeholder in the values, and another page. -/
theorem planned_values_bound_quotes :
    ∃ left right : Plan Conjunction,
      Conjunction.builder.plan (.entity ((Entity.new "item").declare "label" .text)) "item"
          ⟨none, none, none, some ["label"],
            some [⟨"label", "a", "EQ"⟩, ⟨"label", "b", "LIKE"⟩]⟩ = .ok left ∧
      Conjunction.builder.plan (.entity ((Entity.new "item").declare "label" .text)) "item"
          ⟨some 3, some 20, some "up", some ["label"],
            some [⟨"label", "x' OR '1'='1", " eq "⟩, ⟨"label", "50%_?", "like"⟩]⟩ = .ok right ∧
      ((left.query ⟨"item", []⟩).statement .postgres).sql .postgres =
        ((right.query ⟨"item", []⟩).statement .postgres).sql .postgres ∧
      ((right.query ⟨"item", []⟩).statement .postgres).params.map some =
        [some (.text "x' OR '1'='1"), some (.text "%50\\%\\_?%"), some (.count 20),
          some (.count 60)] := by
  have left : Conjunction.builder.plan (.entity ((Entity.new "item").declare "label" .text)) "item"
      ⟨none, none, none, some ["label"], some [⟨"label", "a", "EQ"⟩, ⟨"label", "b", "LIKE"⟩]⟩ =
        .ok ⟨⟨some 0, some 1, some "ASC", some ["label"],
            some [⟨"label", "a", "EQ"⟩, ⟨"label", "b", "LIKE"⟩]⟩,
          ⟨0, 1, [⟨"label", .ascending, some .text⟩]⟩,
          some ⟨[.compare "label" .equal (.text "a"), .like "label" "%B%"]⟩⟩ := by
    decide +kernel
  have right : Conjunction.builder.plan (.entity ((Entity.new "item").declare "label" .text)) "item"
      ⟨some 3, some 20, some "up", some ["label"],
        some [⟨"label", "x' OR '1'='1", " eq "⟩, ⟨"label", "50%_?", "like"⟩]⟩ =
        .ok ⟨⟨some 3, some 20, some "ASC", some ["label"],
            some [⟨"label", "x' OR '1'='1", " eq "⟩, ⟨"label", "50%_?", "like"⟩]⟩,
          ⟨3, 20, [⟨"label", .ascending, some .text⟩]⟩,
          some ⟨[.compare "label" .equal (.text "x' OR '1'='1"),
            .like "label" "%50\\%\\_?%"]⟩⟩ := by
    decide +kernel
  obtain ⟨text, -, params⟩ := planned_values_bound .postgres ⟨"item", []⟩
    (.entity ((Entity.new "item").declare "label" .text)) "item" _ _ _ _ left right rfl
    (by decide +kernel) (by decide +kernel)
  refine ⟨_, _, left, right, text, params.trans ?_⟩
  decide +kernel

end Sql

end PagedSearch
