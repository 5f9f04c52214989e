import PagedSearch.Proofs.Sql.Like
import PagedSearch.Proofs.Value.Field
import PagedSearch.Sql.Conjunction

/-!
# Databases that evaluate conditions

A condition is evaluated on a row by a database, which this library does not
contain. `Engine` is what a database contributes, and `Engine.Standard` is all
that is relied on: NULL is never selected, comparisons follow the order of
values, `UPPER` folds ASCII letters, `LIKE` means `Like`, and `AND` is
conjunction. Truth has a third value for NULL, and only truth selects a row.
-/
namespace PagedSearch

namespace Sql

/-- What a column of a row holds; NULL is none. -/
abbrev Cell := Option Value

/-- The cells of a row by column. -/
abbrev Row := String → Cell

/-- The row of a document: what it holds in each declared field, and NULL elsewhere. -/
def rowOf (catalog : Catalog) (entity : String) (document : Json) : Row := fun column =>
  catalog.held? entity column document

/-- The orders in which a comparison holds. -/
def Relation.admits : Relation → Ordering → Bool
  | equal, order => order == .eq
  | notEqual, order => order != .eq
  | greater, order => order == .gt
  | greaterOrEqual, order => order != .lt
  | less, order => order == .lt
  | lessOrEqual, order => order != .gt

/-- How a database evaluates the parts of a condition. A truth value is none if unknown. -/
structure Engine where
  relate : Relation → Cell → Param → Option Bool
  upper : Cell → Cell
  like : Cell → (pattern : String) → (escape : Char) → Option Bool
  both : Option Bool → Option Bool → Option Bool

namespace Engine

/-- What is relied on of a database. -/
structure Standard (engine : Engine) : Prop where
  both_true : ∀ left right,
    engine.both left right = some true ↔ left = some true ∧ right = some true
  relate_null : ∀ relation bound, engine.relate relation none bound ≠ some true
  relate_values : ∀ relation stored expected order, stored.compare? expected = some order →
    (engine.relate relation (some stored) (Param.ofValue expected) = some true ↔
      relation.admits order = true)
  upper_null : engine.upper none = none
  upper_text : ∀ s,
    engine.upper (some (.text s)) = some (.text (String.ofList (Text.upper s.toList)))
  like_null : ∀ pattern escape, engine.like none pattern escape ≠ some true
  like_text : ∀ s pattern, engine.like (some (.text s)) pattern escapeMark = some true ↔
    Like pattern.toList s.toList

/-- The truth of a test on a row. -/
def test (engine : Engine) (row : Row) : Test → Option Bool
  | .compare column relation value => engine.relate relation (row column) value
  | .like column pattern => engine.like (engine.upper (row column)) pattern escapeMark

/-- The truth of tests joined by `AND` from the left; no tests at all are true. -/
def truth (engine : Engine) (row : Row) (condition : Conjunction) : Option Bool :=
  match condition.tests with
  | [] => some true
  | first :: others =>
    others.foldl (fun joined next => engine.both joined (engine.test row next))
      (engine.test row first)

/-- Whether a condition selects a row: it is true of it, neither false nor unknown. -/
def accepts (engine : Engine) (row : Row) (condition : Conjunction) : Bool :=
  engine.truth row condition == some true

variable (engine : Engine) (standard : engine.Standard) (row : Row)

include standard in
/-- A condition selects the rows of which every test is true. -/
theorem accepts_iff (condition : Conjunction) :
    engine.accepts row condition = true ↔
      ∀ test ∈ condition.tests, engine.test row test = some true := by
  have fold : ∀ (tests : List Test) (joined : Option Bool),
      tests.foldl (fun joined next => engine.both joined (engine.test row next)) joined =
          some true ↔
        joined = some true ∧ ∀ test ∈ tests, engine.test row test = some true := by
    intro tests
    induction tests with
    | nil => simp
    | cons next tests ih =>
      intro joined
      rw [List.foldl_cons, ih, standard.both_true, List.forall_mem_cons, and_assoc]
  obtain ⟨tests⟩ := condition
  cases tests with
  | nil => simp [accepts, truth]
  | cons first others => simp [accepts, truth, fold]

include standard in
theorem accepts_append (left right : List Test) :
    engine.accepts row ⟨left ++ right⟩ =
      (engine.accepts row ⟨left⟩ && engine.accepts row ⟨right⟩) := by
  rw [Bool.eq_iff_iff, Bool.and_eq_true]
  simp only [accepts_iff engine standard, List.forall_mem_append]

end Engine

/-- The value of a bound parameter; counts of rows are no values of fields. -/
def Param.value? : Param → Option Value
  | .text s => some (.text s)
  | .number x => some (.number x)
  | .date d => some (.date d)
  | .instant t => some (.instant t)
  | .count _ => none

@[simp] theorem Param.value?_ofValue (value : Value) : (ofValue value).value? = some value := by
  cases value <;> rfl

/-- A database that does what is relied on and leaves everything else unknown. -/
def referenceEngine : Engine where
  relate relation stored bound :=
    stored.bind fun value => (bound.value?.bind value.compare?).map relation.admits
  upper
    | some (.text s) => some (.text (String.ofList (Text.upper s.toList)))
    | cell => cell
  like cell pattern escape :=
    match cell with
    | some (.text s) =>
      if escape = escapeMark then some (likes pattern.toList s.toList) else none
    | _ => none
  both
    | some true, truth => truth
    | some false, _ => some false
    | none, some false => some false
    | none, _ => none

theorem referenceEngine_standard : referenceEngine.Standard where
  both_true left right := by
    rcases left with _ | _ | _ <;> rcases right with _ | _ | _ <;> simp [referenceEngine]
  relate_null relation bound := by simp [referenceEngine]
  relate_values relation stored expected order comparable := by
    simp [referenceEngine, comparable]
  upper_null := rfl
  upper_text s := rfl
  like_null pattern escape := by simp [referenceEngine]
  like_text s pattern := by simp [referenceEngine, likes_iff]

end Sql

end PagedSearch
