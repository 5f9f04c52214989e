import PagedSearch.Criteria.Selection
import PagedSearch.Proofs.Calendar.JsonText
import PagedSearch.Proofs.Filter.Fold
import PagedSearch.Proofs.Json.RoundTrip
import PagedSearch.Wire.Criteria

/-!
# Criteria read back

The text of a tree is read as the tree itself, with each number as its text is read when it
stands alone, if its objects are nested within the reader's limit (`read?_render_map`,
`read?_render`). A tree that is nested deeper is refused. Each clause of a compiled
list adds one level to its tree (`nesting_conjunction`), so the limit is one on the
number of clauses.
-/
namespace PagedSearch

open Node (ofValue)

namespace Value

theorem depth_toJson (value : Value) : (ofValue value.toJson).depth = 1 := by
  cases value <;> rfl

theorem numbers_toJson {value : Value} {n : JsonNumber} (member : n ∈ value.toJson.numbers) :
    ∃ x, value = number x ∧ n = .real x := by
  cases value with
  | number x =>
    have same : n = .real x := List.mem_singleton.mp member
    exact ⟨x, rfl, same⟩
  | text _ => cases member
  | date _ => cases member
  | instant _ => cases member

/-- The value with the number replaced. -/
def mapNumber (f : Binary64 → Binary64) : Value → Value
  | number x => number (f x)
  | value => value

theorem mapNumber_id (value : Value) : value.mapNumber id = value := by
  cases value <;> rfl

theorem toJson_mapNumber (f : Binary64 → Binary64) (value : Value) :
    (value.mapNumber f).toJson = value.toJson.mapNumbers (JsonNumber.mapReal f) := by
  cases value <;> rfl

theorem ofContent?_content (value : Value) :
    ofContent? value.type (ofValue value.content) = some value := by
  cases value with
  | text _ => rfl
  | number _ => rfl
  | date d =>
    simp only [ofContent?, type, content, ofValue, Node.text?, Option.bind_some,
      String.toList_ofList, Date.ofJsonText?_text, Option.map_some]
  | instant t =>
    simp only [ofContent?, type, content, ofValue, Node.text?, Option.bind_some,
      String.toList_ofList, Instant.ofJsonText?_json, Option.map_some]

end Value

namespace Criteria

/-- How deep the objects in the text of a tree are nested. -/
def nesting : Criteria → Nat
  | compare _ _ _ => 2
  | both left right => max left.nesting right.nesting + 1

/-- The values of the comparisons, from left to right. -/
def values : Criteria → List Value
  | compare _ _ value => [value]
  | both left right => left.values ++ right.values

/-- The tree with the number in each comparison replaced. -/
def mapNumbers (f : Binary64 → Binary64) : Criteria → Criteria
  | compare field operator value => compare field operator (value.mapNumber f)
  | both left right => both (left.mapNumbers f) (right.mapNumbers f)

theorem mapNumbers_id (criteria : Criteria) : criteria.mapNumbers id = criteria := by
  induction criteria with
  | compare field operator value => rw [mapNumbers, value.mapNumber_id]
  | both left right leftIH rightIH => rw [mapNumbers, leftIH, rightIH]

theorem nesting_mapNumbers (f : Binary64 → Binary64) (criteria : Criteria) :
    (criteria.mapNumbers f).nesting = criteria.nesting := by
  induction criteria with
  | compare field operator value => rfl
  | both left right leftIH rightIH => rw [mapNumbers, nesting, nesting, leftIH, rightIH]

theorem toJson_mapNumbers (f : Binary64 → Binary64) (criteria : Criteria) :
    (criteria.mapNumbers f).toJson = criteria.toJson.mapNumbers (JsonNumber.mapReal f) := by
  induction criteria with
  | compare field operator value =>
    rw [mapNumbers, toJson, value.toJson_mapNumber]
    rfl
  | both left right leftIH rightIH =>
    rw [mapNumbers, toJson, leftIH, rightIH]
    rfl

theorem depth_toJson (criteria : Criteria) :
    (ofValue criteria.toJson).depth = criteria.nesting := by
  induction criteria with
  | compare field operator value =>
    have inner := value.depth_toJson
    simp only [toJson, ofValue, Node.ofMemberValues, Node.depth, Node.depthOfMembers, inner,
      nesting]
    rfl
  | both left right leftIH rightIH =>
    simp only [toJson, ofValue, Node.ofMemberValues, Node.depth, Node.depthOfMembers, leftIH,
      rightIH, nesting, Nat.max_zero, Nat.zero_max]

theorem numbers_toJson {criteria : Criteria} {n : JsonNumber}
    (member : n ∈ criteria.toJson.numbers) : ∃ x, .number x ∈ criteria.values ∧ n = .real x := by
  induction criteria with
  | compare field operator value =>
    simp only [toJson, Json.numbers, Json.memberNumbers, List.nil_append, List.append_nil]
      at member
    obtain ⟨x, rfl, same⟩ := Value.numbers_toJson member
    exact ⟨x, List.mem_singleton_self _, same⟩
  | both left right leftIH rightIH =>
    simp only [toJson, Json.numbers, Json.memberNumbers, List.nil_append, List.append_nil,
      List.mem_append] at member
    rcases member with inLeft | inRight
    · obtain ⟨x, found, same⟩ := leftIH inLeft
      exact ⟨x, List.mem_append_left _ found, same⟩
    · obtain ⟨x, found, same⟩ := rightIH inRight
      exact ⟨x, List.mem_append_right _ found, same⟩

theorem valueInside?_toJson (value : Value) :
    valueInside? (ofValue value.toJson) = some value := by
  have fields : (ofValue value.toJson).fields? ["type", "value"] 2 =
      some [some (.text (some (Value.typeWord value.type))), some (ofValue value.content)] := rfl
  have word : wordInside? (.text (some (Value.typeWord value.type))) =
      some (Value.typeWord value.type) := rfl
  change Value.ofNodeWith? _ _ (ofValue value.toJson) = some value
  rw [Value.ofNodeWith?.eq_def]
  split
  next head => cases head
  next =>
    simp only [fields, word, Value.ofTypeWord?_typeWord, value.ofContent?_content,
      Option.bind_eq_bind, Option.bind_some]

/-- A tree is read from its syntax with any reader that knows the words of the kinds. -/
theorem ofNodeWithin?_toJson {criteria : Criteria} {fuel : Nat} (enough : criteria.nesting ≤ fuel)
    {kind? : Node → Option Kind}
    (words : ∀ kind : Kind, kind? (.text (some kind.word)) = some kind) :
    ofNodeWithin? fuel kind? (ofValue criteria.toJson) = some criteria := by
  induction criteria generalizing fuel kind? with
  | compare field operator value =>
    obtain _ | fuel := fuel
    · cases enough
    have kindNode : kindNode? (ofValue (compare field operator value).toJson) =
        some (.text (some Kind.compare.word)) := rfl
    have fields : (ofValue (compare field operator value).toJson).fields?
        ["kind", "field", "operation", "value"] 4 =
        some [some (.text (some Kind.compare.word)), some (.text (some field)),
          some (.text (some operator.word)), some (ofValue value.toJson)] := rfl
    have word : wordInside? (.text (some operator.word)) = some operator.word := rfl
    simp only [ofNodeWithin?, kindNode, words, fields, word, Node.text?, operator.ofWord?_word,
      valueInside?_toJson, Option.bind_eq_bind, Option.bind_some, Option.pure_def]
  | both left right leftIH rightIH =>
    obtain _ | fuel := fuel
    · cases enough
    have kindNode : kindNode? (ofValue (both left right).toJson) =
        some (.text (some Kind.both.word)) := rfl
    have fields : (ofValue (both left right).toJson).fields? ["kind", "left", "right"] 3 =
        some [some (.text (some Kind.both.word)), some (ofValue left.toJson),
          some (ofValue right.toJson)] := rfl
    have inside : ∀ kind : Kind, Kind.inside? (.text (some kind.word)) = some kind := by
      rintro (_ | _) <;> rfl
    rw [nesting] at enough
    have readLeft := leftIH (show left.nesting ≤ fuel by omega) inside
    have readRight := rightIH (show right.nesting ≤ fuel by omega) inside
    simp only [ofNodeWithin?, kindNode, words, fields, readLeft, readRight, Option.bind_eq_bind,
      Option.bind_some, Option.pure_def]

theorem ofNode?_toJson (criteria : Criteria) :
    ofNode? (ofValue criteria.toJson) =
      if criteria.nesting ≤ nestingLimit then some criteria else none := by
  have top : ∀ kind : Kind, Kind.atTop? (.text (some kind.word)) = some kind := by
    rintro (_ | _) <;> rfl
  have read := ofNodeWithin?_toJson (Nat.le_succ criteria.nesting) top
  simp only [ofNode?, depth_toJson, Node.value?_ofValue_isSome, and_true, read]

/-- The text of a tree is read as the tree with each number as it is read when it stands alone,
unless its objects are nested too deep. -/
theorem read?_render_map {criteria : Criteria} {f : Binary64 → Binary64}
    (alone : ∀ x, .number x ∈ criteria.values → (JsonNumber.real x).ReadsAs (.real (f x))) :
    read? criteria.toJson.render =
      if criteria.nesting ≤ nestingLimit then some (criteria.mapNumbers f) else none := by
  have numbers : ∀ n ∈ criteria.toJson.numbers, n.ReadsAs (n.mapReal f) := by
    intro n member
    obtain ⟨x, found, rfl⟩ := numbers_toJson member
    exact alone x found
  have syntaxRead := Node.read?_print_map numbers
  simp only [read?, Json.render, String.toList_ofList, syntaxRead, Option.bind_eq_bind,
    Option.bind_some, ← toJson_mapNumbers, ofNode?_toJson, nesting_mapNumbers]

theorem read?_render {criteria : Criteria}
    (back : ∀ x, .number x ∈ criteria.values → (JsonNumber.real x).ReadsBack) :
    read? criteria.toJson.render =
      if criteria.nesting ≤ nestingLimit then some criteria else none := by
  rw [read?_render_map (f := id) back, criteria.mapNumbers_id]

theorem two_le_nesting (criteria : Criteria) : 2 ≤ criteria.nesting := by
  induction criteria with
  | compare => exact Nat.le_refl 2
  | both left right leftIH rightIH =>
    rw [nesting]
    omega

/-- Each further clause adds one level. -/
theorem nesting_foldl (others : List Filter) (joined : Criteria) :
    (others.foldl (fun joined next => builder.both joined (builder.clause next)) joined).nesting =
      joined.nesting + others.length := by
  induction others generalizing joined with
  | nil => rfl
  | cons next others ih =>
    have deep := two_le_nesting joined
    have step : (builder.both joined (builder.clause next)).nesting = joined.nesting + 1 := by
      change max joined.nesting 2 + 1 = joined.nesting + 1
      omega
    rw [List.foldl_cons, ih, step, List.length_cons]
    omega

theorem nesting_conjunction {filters : List Filter} {criteria : Criteria}
    (built : builder.conjunction filters = some criteria) :
    criteria.nesting = filters.length + 1 := by
  cases filters with
  | nil => cases built
  | cons first others =>
    rw [← Option.some.inj built, nesting_foldl, List.length_cons]
    change 2 + others.length = others.length + 1 + 1
    omega

theorem values_foldl (others : List Filter) (joined : Criteria) :
    (others.foldl (fun joined next => builder.both joined (builder.clause next)) joined).values =
      joined.values ++ others.map Filter.value := by
  induction others generalizing joined with
  | nil => exact (List.append_nil _).symm
  | cons next others ih =>
    rw [List.foldl_cons, ih, List.map_cons]
    exact List.append_assoc joined.values [next.value] (others.map Filter.value)

theorem values_conjunction {filters : List Filter} {criteria : Criteria}
    (built : builder.conjunction filters = some criteria) :
    criteria.values = filters.map Filter.value := by
  cases filters with
  | nil => cases built
  | cons first others =>
    rw [← Option.some.inj built, values_foldl, List.map_cons]
    rfl

/-- The tree of a list of clauses comes back from its text as it is, and so selects the same
documents, if the list has fewer clauses than the reader's limit. The text of any longer list
is refused as a whole. -/
theorem compiled_read_back {catalog : Catalog} {entity : String} {clauses : Option (List Clause)}
    {criteria : Criteria} (compiled : builder.compile catalog entity clauses = .ok (some criteria))
    (back : ∀ x, .number x ∈ criteria.values → (JsonNumber.real x).ReadsBack) :
    ((clauses.getD []).length < nestingLimit →
      read? criteria.toJson.render = some criteria) ∧
    (nestingLimit ≤ (clauses.getD []).length → read? criteria.toJson.render = none) ∧
    (∀ decoded, read? criteria.toJson.render = some decoded →
      ∀ document, decoded.selects document = criteria.selects document) := by
  rw [Builder.compile_eq_map, map_eq_ok_iff] at compiled
  obtain ⟨filters, checked, built⟩ := compiled
  have lengths : (clauses.getD []).length = filters.length :=
    ((mapM_eq_ok_iff _ _ _).mp checked).length_eq
  have deep := nesting_conjunction built
  rw [read?_render back]
  refine ⟨?_, ?_, ?_⟩
  · intro short
    exact if_pos (by omega)
  · intro long
    exact if_neg (by omega)
  · intro decoded read document
    split at read
    next => rw [Option.some.inj read]
    next => cases read

/-- Escapes and characters beyond the basic plane, a negative fraction, a year before the
first and a leap second come back. -/
theorem compiled_read_back_leap_second :
    ∃ criteria,
      builder.compile (.entity (((((Entity.new "item").declare "na\"me\n" .text).declare
          "height" .number).declare "born" .date).declare "seen" .instant)) "item"
        (some [⟨"na\"me\n", "\\\x01😀", "LIKE"⟩, ⟨"height", "-18.5", "GT"⟩,
          ⟨"born", "-44-3-15", "LET"⟩, ⟨"seen", "2016-12-31T23:59:60Z", "EQ"⟩]) =
        .ok (some criteria) ∧
      criteria.comparisonCount = 4 ∧ read? criteria.toJson.render = some criteria := by
  have compiled := Builder.compile_of_checked builder
    (.entity (((((Entity.new "item").declare "na\"me\n" .text).declare
      "height" .number).declare "born" .date).declare "seen" .instant)) "item"
    (some [⟨"na\"me\n", "\\\x01😀", "LIKE"⟩, ⟨"height", "-18.5", "GT"⟩,
      ⟨"born", "-44-3-15", "LET"⟩, ⟨"seen", "2016-12-31T23:59:60Z", "EQ"⟩])
    [⟨"na\"me\n", .contains, .text, .text "\\\x01😀"⟩,
      ⟨"height", .greater, .number, .number ⟨true, 4625900504751276032, by decide⟩⟩,
      ⟨"born", .lessOrEqual, .date,
        .date ⟨-44, 3, 15, by decide, by decide, by decide, by decide⟩⟩,
      ⟨"seen", .equal, .instant, .instant ⟨⟨2016, 12, 31, by decide, by decide, by decide,
        by decide⟩, 23, 59, 60, 0, by decide, by decide, by decide, by decide⟩⟩]
    (.cons (by decide +kernel) (.cons (by decide +kernel) (.cons (by decide +kernel)
      (.cons (by decide +kernel) .nil))))
  have back : (JsonNumber.real ⟨true, 4625900504751276032, by decide⟩).ReadsBack := by
    decide +kernel
  refine ⟨_, compiled, rfl, (compiled_read_back compiled fun x member => ?_).1 (by decide)⟩
  rw [values_foldl] at member
  simp only [List.map_cons, List.map_nil, builder, ofFilter, values, List.cons_append,
    List.nil_append, List.mem_cons, List.not_mem_nil, reduceCtorEq, Value.number.injEq, false_or,
    or_false] at member
  rw [member]
  exact back

/-- A list of as many clauses as the limit, all of texts, is too deep to be read back. -/
theorem compiled_too_deep :
    ∃ criteria,
      builder.compile (.entity ((Entity.new "item").declare "label" .text)) "item"
        (some (List.replicate 127 ⟨"label", "x", "EQ"⟩)) = .ok (some criteria) ∧
      (∀ x, .number x ∉ criteria.values) ∧ read? criteria.toJson.render = none := by
  have check : Clause.check (.entity ((Entity.new "item").declare "label" .text)) "item"
      ⟨"label", "x", "EQ"⟩ = .ok ⟨"label", .equal, .text, .text "x"⟩ := by decide
  have checked : ∀ n, List.Forall₂ (fun clause filter => Clause.check
      (.entity ((Entity.new "item").declare "label" .text)) "item" clause = .ok filter)
      (List.replicate n ⟨"label", "x", "EQ"⟩)
      (List.replicate n ⟨"label", .equal, .text, .text "x"⟩) := by
    intro n
    induction n with
    | zero => exact .nil
    | succ n ih => exact .cons check ih
  have compiled := Builder.compile_of_checked builder _ "item" (some _) _ (checked 127)
  obtain ⟨criteria, built⟩ : ∃ criteria, builder.conjunction
      (List.replicate 127 ⟨"label", .equal, .text, .text "x"⟩) = some criteria := ⟨_, rfl⟩
  rw [built] at compiled
  have texts : ∀ x, .number x ∉ criteria.values := by
    intro x member
    rw [values_conjunction built, List.map_replicate] at member
    cases List.eq_of_mem_replicate member
  have deep := nesting_conjunction built
  rw [List.length_replicate] at deep
  refine ⟨criteria, compiled, texts, ?_⟩
  rw [read?_render fun x member => absurd member (texts x), deep]
  rfl

end Criteria

end PagedSearch
