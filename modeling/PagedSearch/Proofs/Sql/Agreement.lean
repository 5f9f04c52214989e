import PagedSearch.Proofs.Filter.Compilation
import PagedSearch.Proofs.Sql.Engine
import PagedSearch.Criteria.Selection

/-!
# Conditions and criteria agree

A list of clauses compiles to a condition for databases and to criteria for
collections of documents. Both are made from the same checked clauses, and on
every checked clause a test of a document's row and a comparison in the document
come out alike (`test_ofFilter_iff`): the column holds what the comparison reads,
and the escaped pattern matches what the operator finds. So every document is
selected by both predicates or by none (`compile_selects_alike`).
-/
namespace PagedSearch

namespace Sql

theorem Relation.admits_ofOperator (operator : Operator) (order : Ordering) :
    (ofOperator operator).admits order = operator.admits order := by
  cases operator <;> rfl

variable (engine : Engine) (standard : engine.Standard)

include standard in
/-- A comparison of a cell with a value of the cell's type. Without a value in the cell it
does not hold, whatever the relation. -/
theorem relate_iff (operator : Operator) (cell : Cell) (expected : Value)
    (typed : ∀ stored ∈ cell, stored.type = expected.type)
    (compares : operator.searchesText = false) :
    engine.relate (Relation.ofOperator operator) cell (Param.ofValue expected) = some true ↔
      ∃ stored ∈ cell, operator.holds stored expected = true := by
  cases cell with
  | none => simp [standard.relate_null]
  | some stored =>
    have comparable := Value.compare?_eq_order (typed stored rfl)
    rw [standard.relate_values _ _ _ _ comparable, Relation.admits_ofOperator]
    simp [Operator.holds, compares, comparable]

include standard in
/-- A match of the upper-case form of a text cell with the pattern of a needle. -/
theorem like_iff (operator : Operator) (cell : Cell) (needle : String)
    (typed : ∀ stored ∈ cell, stored.type = .text) (searches : operator.searchesText = true) :
    engine.like (engine.upper cell) (String.ofList (pattern operator needle.toList)) escapeMark =
        some true ↔
      ∃ stored ∈ cell, operator.holds stored (.text needle) = true := by
  cases cell with
  | none => simp [standard.upper_null, standard.like_null]
  | some stored =>
    cases stored with
    | text s =>
      rw [standard.upper_text, standard.like_text, String.toList_ofList, String.toList_ofList,
        like_pattern_iff]
      simp [Operator.holds, searches]
    | number => cases typed _ rfl
    | date => cases typed _ rfl
    | instant => cases typed _ rfl

include standard in
/-- A checked clause comes out alike on a document and on its row. -/
theorem test_ofFilter_iff (catalog : Catalog) (entity : String) (filter : Filter)
    (sound : filter.Sound catalog entity) (document : Json) :
    engine.test (rowOf catalog entity document) (Test.ofFilter filter) = some true ↔
      (Criteria.ofFilter filter).selects document = true := by
  obtain ⟨field, operator, type, value⟩ := filter
  obtain ⟨declared, allowed, same⟩ := sound
  dsimp only at declared allowed same
  subst same
  have held := Catalog.held?_of_declared declared document
  have typed : ∀ stored ∈ catalog.held? entity field document, stored.type = value.type :=
    fun stored holds => Catalog.type_of_held? declared holds
  have selects : (Criteria.compare field operator value).selects document = true ↔
      ∃ stored ∈ catalog.held? entity field document, operator.holds stored value = true := by
    rw [Criteria.selects, held]
    split
    next stored read => simp [read]
    next unread => simp [unread]
  rw [Criteria.ofFilter, selects, Test.ofFilter]
  cases searches : operator.searchesText with
  | false =>
    exact relate_iff engine standard operator _ value typed searches
  | true =>
    have text : value.type = .text := by
      simpa [FieldType.allows, searches] using allowed
    cases value with
    | text needle => exact like_iff engine standard operator _ needle typed searches
    | number => cases text
    | date => cases text
    | instant => cases text

/-- Whether a document passes the clauses, as a predicate of its own. -/
def verdicts (document : Json) : Builder Bool where
  clause filter := (Criteria.ofFilter filter).selects document
  both := and

/-- One list of clauses as criteria and as a condition: it is rejected for the same reason,
or has no predicate, or the criteria select a document exactly if the condition is true of
its row. -/
theorem compile_selects_alike (catalog : Catalog) (entity : String)
    (clauses : Option (List Clause)) (document : Json) (engine : Engine)
    (standard : engine.Standard) :
    (Criteria.builder.compile catalog entity clauses).map
        (Option.map fun criteria => criteria.selects document) =
      (Conjunction.builder.compile catalog entity clauses).map
        (Option.map fun condition => engine.accepts (rowOf catalog entity document) condition) := by
  rw [Builder.compile_eq_map, Builder.compile_eq_map]
  cases checked : Clause.checkAll catalog entity clauses with
  | error reason => rfl
  | ok filters =>
    have sound := Clause.checkAll_sound catalog entity clauses filters checked
    have fromCriteria := Builder.conjunction_map Criteria.builder (verdicts document)
      (fun criteria => criteria.selects document) filters (fun _ _ => rfl) (fun _ _ => rfl)
    have fromConditions := Builder.conjunction_map Conjunction.builder (verdicts document)
      (fun condition => engine.accepts (rowOf catalog entity document) condition) filters
      (by
        intro filter member
        rw [Bool.eq_iff_iff, engine.accepts_iff standard]
        simpa [Conjunction.builder, verdicts] using
          test_ofFilter_iff engine standard catalog entity filter (sound filter member) document)
      (by
        intro left right
        exact engine.accepts_append standard _ left.tests right.tests)
    simp only [Except.map, fromCriteria, fromConditions]

/-- Every wildcard and the escape mark in a needle, found in a document and in its row. -/
theorem compile_selects_alike_wildcards :
    referenceEngine.Standard ∧
      (Conjunction.builder.compile (.entity ((Entity.new "item").declare "label" .text)) "item"
          (some [⟨"label", "5%_\\x", " like "⟩])).map
        (Option.map (referenceEngine.accepts
          (rowOf (.entity ((Entity.new "item").declare "label" .text)) "item"
            (.object [("label", .text "at 5%_\\X off")])))) = .ok (some true) := by
  refine ⟨referenceEngine_standard, ?_⟩
  rw [← compile_selects_alike (.entity ((Entity.new "item").declare "label" .text)) "item"
    (some [⟨"label", "5%_\\x", " like "⟩]) (.object [("label", .text "at 5%_\\X off")])
    referenceEngine referenceEngine_standard]
  decide +kernel

end Sql

end PagedSearch
