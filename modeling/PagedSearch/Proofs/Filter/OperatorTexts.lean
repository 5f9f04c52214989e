import PagedSearch.Proofs.Filter.Fold
import PagedSearch.Proofs.Text.Words

/-!
# Operator texts

A client writes an operator as free text. The text stands for the operator whose word it is alike
to, and for equality if it is alike to no word (`Operator.ofToken_eq_iff`). Nothing else of it
reaches the compiler: a clause with the canonical word of its operator is checked as the clause
itself, so whole lists compile alike, with one predicate or one rejection. Operator texts can make
a difference between acceptance and rejection only where one of them names a pattern operator for
a field of another type than text, which is a `Clause.Misplaced` operator (`compile_by_meaning`).
-/
namespace PagedSearch

open Text

namespace Operator

variable {token : String} {operator : Operator}

theorem named?_eq_some_iff :
    named? token = some operator ↔ Alike token.toList operator.word.toList := by
  have solid : ∀ x : Operator, trim x.word.toList = x.word.toList := by
    intro x
    cases x <;> decide
  have known : ∀ x : Operator,
      (all.find? fun y => sameWord y.word.toList x.word.toList) = some x := by
    intro x
    cases x <;> decide
  exact find?_eq_some_iff_alike solid known

theorem named?_eq_none_iff :
    named? token = none ↔ ∀ other : Operator, ¬ Alike token.toList other.word.toList := by
  rw [Option.eq_none_iff_forall_ne_some]
  exact forall_congr' fun other => not_congr named?_eq_some_iff

/-- A text stands for the operator that it names, and for equality if it names none. -/
theorem ofToken_eq_iff :
    ofToken (some token) = operator ↔ Alike token.toList operator.word.toList ∨
      operator = equal ∧ ∀ other : Operator, ¬ Alike token.toList other.word.toList := by
  rw [← named?_eq_some_iff, ← named?_eq_none_iff, ofToken, Option.bind_some]
  cases named? token with
  | none => simp [eq_comm]
  | some named => simp

/-- Blanks and case do not count, but the Kelvin sign is no letter `K`. -/
example : ofToken (some " lIkE\t") = contains ∧ ofToken (some "li\u212ae") = equal := by
  decide +kernel

@[simp] theorem ofToken_word (operator : Operator) : ofToken (some operator.word) = operator := by
  rw [ofToken, Option.bind_some, named?_word, Option.getD_some]

/-- Two texts between which no list of clauses can tell: they are alike, or name no operator. -/
inductive SameToken (token other : String) : Prop where
  | alike (alike : Alike token.toList other.toList)
  | unknown (first : ∀ operator : Operator, ¬ Alike token.toList operator.word.toList)
      (second : ∀ operator : Operator, ¬ Alike other.toList operator.word.toList)

theorem SameToken.ofToken_eq {token other : String} (same : SameToken token other) :
    ofToken (some token) = ofToken (some other) := by
  cases same with
  | alike alike =>
    have names : ∀ operator : Operator, sameWord operator.word.toList (trim token.toList) =
        sameWord operator.word.toList (trim other.toList) := fun operator => by
      rw [sameWord, sameWord, alike_iff.mp alike]
    simp only [ofToken, Option.bind_some, named?, names]
  | unknown first second =>
    rw [ofToken_eq_iff.mpr (.inr ⟨rfl, first⟩), ofToken_eq_iff.mpr (.inr ⟨rfl, second⟩)]

end Operator

namespace Clause

/-- The clause with the word of its operator for the client's text. -/
def canonical (clause : Clause) : Clause :=
  { clause with operator := clause.meaning.word }

/-- Two clauses with the same field and value, whatever their operator texts are. -/
structure Reworded (clause other : Clause) : Prop where
  field : clause.field = other.field
  value : clause.value = other.value

variable {catalog : Catalog} {entity : String} {clause other : Clause}

theorem check_eq_of_reworded (reworded : clause.Reworded other)
    (meaning : clause.meaning = other.meaning) :
    clause.check catalog entity = other.check catalog entity := by
  unfold Clause.meaning at meaning
  rw [check, check, reworded.field, reworded.value, meaning]

/-- The operator text of the clause names a pattern operator, its field is declared with another
type than text, and the rejection says so. -/
def Misplaced (catalog : Catalog) (entity : String) (clause : Clause) (rejection : Rejection) :
    Prop :=
  ∃ operator type, Alike clause.operator.toList operator.word.toList ∧
    operator.searchesText = true ∧ catalog.typeOf? entity clause.field = some type ∧
    type ≠ .text ∧ rejection = .unsupportedOperation clause.field operator type

theorem rejection?_of_misplaced {rejection : Rejection}
    (misplaced : clause.Misplaced catalog entity rejection) :
    clause.rejection? catalog entity = some rejection := by
  obtain ⟨operator, type, named, searches, declared, other, rfl⟩ := misplaced
  have meaning : Operator.ofToken (some clause.operator) = operator :=
    Operator.ofToken_eq_iff.mpr (.inl named)
  simp [rejection?, failure?, check, declared, meaning, FieldType.allows, searches, other]

/-- An operator that a type does not allow is a pattern operator that the text names. -/
theorem exists_misplaced {type : FieldType}
    (declared : catalog.typeOf? entity clause.field = some type)
    (refused : ¬ type.allows clause.meaning = true) :
    ∃ rejection, clause.Misplaced catalog entity rejection := by
  simp only [FieldType.allows, Bool.or_eq_true, Bool.not_eq_true', beq_iff_eq, not_or,
    Bool.not_eq_false] at refused
  obtain ⟨searches, other⟩ := refused
  refine ⟨_, clause.meaning, type, ?_, searches, declared, other, rfl⟩
  rcases Operator.ofToken_eq_iff.mp (rfl : _ = clause.meaning) with named | ⟨equality, -⟩
  · exact named
  · rw [equality] at searches
    cases searches

variable (catalog entity) in
/-- Other operator texts change the rejection of a clause only if one of the two clauses has a
misplaced operator. -/
theorem rejection?_reworded (reworded : clause.Reworded other) :
    clause.rejection? catalog entity = other.rejection? catalog entity ∨
      (∃ rejection, clause.Misplaced catalog entity rejection) ∨
      ∃ rejection, other.Misplaced catalog entity rejection := by
  cases declared : catalog.typeOf? entity other.field with
  | none =>
    left
    simp [rejection?, failure?, check, reworded.field, declared]
  | some type =>
    have declaredClause : catalog.typeOf? entity clause.field = some type :=
      reworded.field ▸ declared
    by_cases allowed : type.allows clause.meaning = true
    · by_cases allowedOther : type.allows other.meaning = true
      · left
        unfold meaning at allowed allowedOther
        simp only [rejection?, check, reworded.field, reworded.value, declared, allowed,
          allowedOther, if_true]
        cases Value.read other.value type <;> rfl
      · exact .inr (.inr (exists_misplaced declared allowedOther))
    · exact .inr (.inl (exists_misplaced declaredClause allowed))

variable (catalog entity) in
/-- Other operator texts change the first rejection of a list only if the first rejection of one
of the two lists is that of a misplaced operator. -/
theorem findSome?_reworded {clauses others : List Clause}
    (reworded : List.Forall₂ Reworded clauses others) :
    clauses.findSome? (rejection? catalog entity) = others.findSome? (rejection? catalog entity) ∨
      (∃ clause ∈ clauses, ∃ rejection, clause.Misplaced catalog entity rejection ∧
        clauses.findSome? (rejection? catalog entity) = some rejection) ∨
      ∃ other ∈ others, ∃ rejection, other.Misplaced catalog entity rejection ∧
        others.findSome? (rejection? catalog entity) = some rejection := by
  induction reworded with
  | nil => exact .inl rfl
  | @cons clause other clauses others head _ ih =>
    simp only [List.findSome?_cons]
    rcases rejection?_reworded catalog entity head with
      same | ⟨rejection, misplaced⟩ | ⟨rejection, misplaced⟩
    · rw [same]
      cases other.rejection? catalog entity with
      | some rejection => exact .inl rfl
      | none =>
        rcases ih with tail | ⟨bad, member, found⟩ | ⟨bad, member, found⟩
        · exact .inl tail
        · exact .inr (.inl ⟨bad, List.mem_cons_of_mem _ member, found⟩)
        · exact .inr (.inr ⟨bad, List.mem_cons_of_mem _ member, found⟩)
    · have first := rejection?_of_misplaced misplaced
      exact .inr (.inl ⟨clause, List.mem_cons_self, rejection, misplaced, by rw [first]⟩)
    · have first := rejection?_of_misplaced misplaced
      exact .inr (.inr ⟨other, List.mem_cons_self, rejection, misplaced, by rw [first]⟩)

end Clause

/-- Steps that come to the same on two lists, place by place, make the same traversal. -/
theorem mapM_congr_forall₂ {ε α β : Type} {step : α → Except ε β} {xs ys : List α}
    (same : List.Forall₂ (fun x y => step x = step y) xs ys) : xs.mapM step = ys.mapM step := by
  induction same with
  | nil => rfl
  | cons head _ ih => rw [List.mapM_cons, List.mapM_cons, head, ih]

namespace Builder

variable {P : Type} (builder : Builder P) (catalog : Catalog) (entity : String)

theorem compile_congr_checks {clauses others : Option (List Clause)}
    (same : List.Forall₂ (fun clause other =>
      Clause.check catalog entity clause = Clause.check catalog entity other)
      (clauses.getD []) (others.getD [])) :
    builder.compile catalog entity clauses = builder.compile catalog entity others := by
  rw [compile_eq_map, compile_eq_map, Clause.checkAll, Clause.checkAll, mapM_congr_forall₂ same]

/-- The canonical words of all operators in a list compile to what the client's texts do. -/
theorem compile_canonical (clauses : Option (List Clause)) :
    builder.compile catalog entity (clauses.map (List.map Clause.canonical)) =
      builder.compile catalog entity clauses := by
  have listed : (clauses.map (List.map Clause.canonical)).getD [] =
      (clauses.getD []).map Clause.canonical := by
    cases clauses <;> rfl
  apply compile_congr_checks
  rw [listed, List.forall₂_map_left_iff, List.forall₂_same]
  intro clause _
  exact Clause.check_eq_of_reworded ⟨rfl, rfl⟩ (Operator.ofToken_word clause.meaning)

/-- Compilation sees an operator text only as the operator that it stands for, which is the one
whose word it is alike to, and else equality. So for every storage a list compiles as it does
with the canonical words of its operators, predicate or rejection alike, and two lists compile
alike whose operator texts are alike or name no operator, place by place. If other operator texts
take away the rejection of a list, or put another one in its place, then the one or the other
rejection is that of a pattern operator that a clause names for a field of another type than text;
and every such clause is rejected, with its list. -/
theorem compile_by_meaning (clauses : Option (List Clause)) :
    (∀ (token : String) (operator : Operator), Operator.ofToken (some token) = operator ↔
      Alike token.toList operator.word.toList ∨
        operator = .equal ∧ ∀ other : Operator, ¬ Alike token.toList other.word.toList) ∧
    builder.compile catalog entity (clauses.map (List.map Clause.canonical)) =
      builder.compile catalog entity clauses ∧
    (∀ others, List.Forall₂ (fun clause other => Clause.Reworded clause other ∧
        Operator.SameToken clause.operator other.operator) (clauses.getD []) (others.getD []) →
      builder.compile catalog entity others = builder.compile catalog entity clauses) ∧
    (∀ others rejection, List.Forall₂ Clause.Reworded (clauses.getD []) (others.getD []) →
      builder.compile catalog entity clauses = .error rejection →
      builder.compile catalog entity others ≠ .error rejection →
      (∃ clause ∈ clauses.getD [], clause.Misplaced catalog entity rejection) ∨
      ∃ other ∈ others.getD [], ∃ first, other.Misplaced catalog entity first ∧
        builder.compile catalog entity others = .error first) ∧
    ∀ clause ∈ clauses.getD [], ∀ rejection, clause.Misplaced catalog entity rejection →
      clause.check catalog entity = .error rejection ∧
      ∃ first, builder.compile catalog entity clauses = .error first := by
  refine ⟨fun _ _ => Operator.ofToken_eq_iff, compile_canonical builder catalog entity clauses,
    ?alike, ?differ, ?rejects⟩
  case alike =>
    intro others same
    refine (compile_congr_checks builder catalog entity (same.imp ?_)).symm
    rintro clause other ⟨reworded, token⟩
    exact Clause.check_eq_of_reworded reworded token.ofToken_eq
  case differ =>
    intro others rejection reworded rejected differs
    rw [ne_eq, compile_eq_error_iff, Clause.firstRejection?] at differs
    rw [compile_eq_error_iff, Clause.firstRejection?] at rejected
    rcases Clause.findSome?_reworded catalog entity reworded with
      same | ⟨clause, member, first, misplaced, found⟩ | ⟨other, member, first, misplaced, found⟩
    · exact absurd (same.symm.trans rejected) differs
    · rw [rejected, Option.some.injEq] at found
      exact .inl ⟨clause, member, found ▸ misplaced⟩
    · exact .inr ⟨other, member, first, misplaced, (compile_eq_error_iff _ _ _ _ _).mpr found⟩
  case rejects =>
    intro clause member rejection misplaced
    have rejected := (failure?_eq_some_iff _ _).mp (Clause.rejection?_of_misplaced misplaced)
    have some_bad := (Clause.firstRejection?_isSome_iff catalog entity clauses).mpr
      ⟨clause, member, rejection, rejected⟩
    obtain ⟨first, found⟩ := Option.isSome_iff_exists.mp some_bad
    exact ⟨rejected, first, (compile_eq_error_iff _ _ _ _ _).mpr found⟩

/-- Other spellings and another unknown word compile alike. A pattern operator for a number is
the reason of a rejection that no unknown word has. -/
theorem compile_by_meaning_spellings :
    Criteria.builder.compile (.entity ((Entity.new "item").declare "label" .text)) "item"
        (some [⟨"label", "a", "LIKE"⟩, ⟨"label", "b", ""⟩]) =
      Criteria.builder.compile (.entity ((Entity.new "item").declare "label" .text)) "item"
        (some [⟨"label", "a", "\tlIkE "⟩, ⟨"label", "b", "~="⟩]) ∧
    ∃ clause ∈ [Clause.mk "size" "1" " Like"], clause.Misplaced
      (.entity ((Entity.new "item").declare "size" .number)) "item"
      (.unsupportedOperation "size" .contains .number) := by
  obtain ⟨-, -, alike, -⟩ := compile_by_meaning Criteria.builder
    (.entity ((Entity.new "item").declare "label" .text)) "item"
    (some [⟨"label", "a", "\tlIkE "⟩, ⟨"label", "b", "~="⟩])
  obtain ⟨-, -, -, differ, -⟩ := compile_by_meaning Criteria.builder
    (.entity ((Entity.new "item").declare "size" .number)) "item" (some [⟨"size", "1", " Like"⟩])
  refine ⟨?spellings, ?misplaced⟩
  case spellings =>
    have unknown : ∀ token ∈ ["~=", ""], ∀ operator : Operator,
        ¬ Alike token.toList operator.word.toList := by
      intro token member
      rw [← Operator.named?_eq_none_iff]
      revert token
      decide +kernel
    refine alike (some [⟨"label", "a", "LIKE"⟩, ⟨"label", "b", ""⟩])
      (.cons ⟨⟨rfl, rfl⟩, .alike ?_⟩ (.cons ⟨⟨rfl, rfl⟩, .unknown ?_ ?_⟩ .nil))
    · exact alike_iff.mpr (by decide +kernel)
    · exact unknown "~=" (by decide)
    · exact unknown "" (by decide)
  case misplaced =>
    have compiled : Criteria.builder.compile
        (.entity ((Entity.new "item").declare "size" .number)) "item"
        (some [⟨"size", "1", "Like?"⟩]) =
          .ok (some (.compare "size" .equal (.number ⟨false, 0x3FF0000000000000, by decide⟩))) := by
      decide +kernel
    rcases differ (some [⟨"size", "1", "Like?"⟩]) (.unsupportedOperation "size" .contains .number)
      (.cons ⟨rfl, rfl⟩ .nil) (by decide +kernel) (by rw [compiled]; nofun) with
      here | ⟨_, _, first, _, rejected⟩
    · exact here
    · rw [compiled] at rejected
      cases rejected

end Builder

end PagedSearch
