import PagedSearch.Proofs.Collection.DocumentOrder

/-!
# Keys without a type

The comparison of documents turns round with its arguments for any keys, typed or not
(`orderByKeys_orientedCmp`). Keys without a type compare two texts as values if both look
like one type, and by their letters if not. Each of the two is an order, but they can
disagree: a text of another type can stand by its letters between two values, the wrong way
round (`Tangled`). Such texts go round in a circle (`Tangled.orderTexts_circle`). They are
the only ones: among texts without a tangle the comparison is a total preorder
(`orderTexts_isLE_trans`), and so is then the comparison of documents by any keys
(`orderByKeys_preorder`).
-/
namespace PagedSearch

namespace Collection

/-- A comparison of images turns round if the comparison does. -/
theorem orientedCmp_on {α β : Type} (cmp : β → β → Ordering) [Std.OrientedCmp cmp]
    (f : α → β) : Std.OrientedCmp fun a b => cmp (f a) (f b) where
  eq_swap := Std.OrientedCmp.eq_swap

/-- A comparison of images is transitive if the comparison is. -/
theorem transCmp_on {α β : Type} (cmp : β → β → Ordering) [Std.TransCmp cmp]
    (f : α → β) : Std.TransCmp fun a b => cmp (f a) (f b) where
  eq_swap := Std.OrientedCmp.eq_swap
  isLE_trans := Std.TransCmp.isLE_trans

section Texts

variable {a b c : String}

theorem orderTexts_of_one_type (same : (Value.guess a).type = (Value.guess b).type) :
    orderTexts a b = Value.order (Value.guess a) (Value.guess b) := by
  rw [orderTexts, Value.compare?_eq_order same, Option.getD_some]

theorem orderTexts_of_two_types (different : (Value.guess a).type ≠ (Value.guess b).type) :
    orderTexts a b = compare a b := by
  have incomparable : (Value.guess a).compare? (Value.guess b) = none := by
    rwa [← Option.not_isSome_iff_eq_none, Value.compare?_isSome_iff]
  rw [orderTexts, incomparable, Option.getD_none]

instance : Std.OrientedCmp orderTexts where
  eq_swap {a b} := by
    by_cases same : (Value.guess a).type = (Value.guess b).type
    · rw [orderTexts_of_one_type same, orderTexts_of_one_type same.symm]
      exact Std.OrientedCmp.eq_swap
    · rw [orderTexts_of_two_types same, orderTexts_of_two_types (Ne.symm same)]
      exact Std.OrientedCmp.eq_swap

/-- Two texts of one type, the first not after the second, and a text of another type that
stands between them by its letters, behind the second and in front of the first. -/
structure Tangled (a b c : String) : Prop where
  one_type : (Value.guess a).type = (Value.guess b).type
  other_type : (Value.guess b).type ≠ (Value.guess c).type
  not_after : (orderTexts a b).isLE = true
  behind : compare b c = .lt
  before : compare c a = .lt

/-- Tangled texts go round: each is not after the next, and the last is in front of the
first. -/
theorem Tangled.orderTexts_circle (tangled : Tangled a b c) :
    (orderTexts a b).isLE = true ∧ orderTexts b c = .lt ∧ orderTexts c a = .lt := by
  have apart : (Value.guess c).type ≠ (Value.guess a).type :=
    fun same => tangled.other_type (tangled.one_type.symm.trans same.symm)
  rw [orderTexts_of_two_types tangled.other_type, orderTexts_of_two_types apart]
  exact ⟨tangled.not_after, tangled.behind, tangled.before⟩

/-- No three of the texts are tangled. -/
def Untangled (texts : String → Prop) : Prop :=
  ∀ a b c, texts a → texts b → texts c → ¬ Tangled a b c

/-- Texts that all look like one type are not tangled. -/
theorem untangled_of_one_type {texts : String → Prop} (type : FieldType)
    (one_type : ∀ s, texts s → (Value.guess s).type = type) : Untangled texts := by
  intro a b c _ b_mem c_mem tangled
  exact tangled.other_type ((one_type b b_mem).trans (one_type c c_mem).symm)

/-- The letters of texts of two types, one of which is not after the other, differ. -/
theorem compare_eq_lt_of_two_types
    (different : (Value.guess a).type ≠ (Value.guess b).type)
    (not_after : (orderTexts a b).isLE = true) : compare a b = .lt := by
  rw [orderTexts_of_two_types different] at not_after
  cases order : compare a b with
  | lt => rfl
  | eq =>
    have alike : a = b := Std.LawfulEqOrd.eq_of_compare order
    rw [alike] at different
    exact absurd rfl different
  | gt =>
    rw [order] at not_after
    cases not_after

/-- Untyped texts without a tangle are in a total preorder. The cases are those of the types
that the three texts look like. Where exactly two agree, the third one would complete a
tangle. -/
theorem orderTexts_isLE_trans {texts : String → Prop} (untangled : Untangled texts)
    (a_mem : texts a) (b_mem : texts b) (c_mem : texts c)
    (first : (orderTexts a b).isLE = true) (second : (orderTexts b c).isLE = true) :
    (orderTexts a c).isLE = true := by
  by_contra after
  have c_before_a : orderTexts c a = .lt := Std.OrientedCmp.lt_of_not_isLE after
  by_cases ab : (Value.guess a).type = (Value.guess b).type
  · by_cases bc : (Value.guess b).type = (Value.guess c).type
    · rw [orderTexts_of_one_type ab] at first
      rw [orderTexts_of_one_type bc] at second
      rw [orderTexts_of_one_type (ab.trans bc)] at after
      exact after (Std.TransCmp.isLE_trans first second)
    · have apart : (Value.guess c).type ≠ (Value.guess a).type :=
        fun same => bc (ab.symm.trans same.symm)
      exact untangled a b c a_mem b_mem c_mem
        ⟨ab, bc, first, compare_eq_lt_of_two_types bc second,
          compare_eq_lt_of_two_types apart (Ordering.isLE_of_eq_lt c_before_a)⟩
  · have a_before_b := compare_eq_lt_of_two_types ab first
    by_cases bc : (Value.guess b).type = (Value.guess c).type
    · have apart : (Value.guess c).type ≠ (Value.guess a).type :=
        fun same => ab (same.symm.trans bc.symm)
      exact untangled b c a b_mem c_mem a_mem
        ⟨bc, apart, second,
          compare_eq_lt_of_two_types apart (Ordering.isLE_of_eq_lt c_before_a), a_before_b⟩
    · have b_before_c := compare_eq_lt_of_two_types bc second
      by_cases ca : (Value.guess c).type = (Value.guess a).type
      · exact untangled c a b c_mem a_mem b_mem
          ⟨ca, ab, Ordering.isLE_of_eq_lt c_before_a, a_before_b, b_before_c⟩
      · rw [orderTexts_of_two_types (Ne.symm ca)] at after
        exact after (Ordering.isLE_of_eq_lt (Std.TransCmp.lt_trans a_before_b b_before_c))

end Texts

/-- The text that a stored value is, if it is one. -/
def textOf? : Option Json → Option String
  | some (.text s) => some s
  | _ => none

/-- The place of a stored number on the number line. -/
def numberPlace? : Option Json → Option Int
  | some (.number n) => n.toBinary64?.map Binary64.place
  | _ => none

/-- Whether a stored value is true. -/
def isTrue : Option Json → Bool
  | some (.bool b) => b
  | _ => false

/-- Order of texts, those that are missing first. -/
def orderTextsHeld : Option String → Option String → Ordering
  | none, none => .eq
  | none, some _ => .lt
  | some _, none => .gt
  | some a, some b => orderTexts a b

instance : Std.OrientedCmp orderTextsHeld where
  eq_swap {a b} := by
    cases a with
    | none => cases b <;> rfl
    | some a =>
      cases b with
      | none => rfl
      | some b =>
        change orderTexts a b = (orderTexts b a).swap
        exact Std.OrientedCmp.eq_swap

theorem orderTextsHeld_isLE_trans {texts : String → Prop} (untangled : Untangled texts)
    {a b c : Option String} (a_mem : ∀ s ∈ a, texts s) (b_mem : ∀ s ∈ b, texts s)
    (c_mem : ∀ s ∈ c, texts s) (first : (orderTextsHeld a b).isLE = true)
    (second : (orderTextsHeld b c).isLE = true) : (orderTextsHeld a c).isLE = true := by
  cases a with
  | none => cases c <;> rfl
  | some a =>
    cases b with
    | none => cases first
    | some b =>
      cases c with
      | none => cases second
      | some c =>
        exact orderTexts_isLE_trans untangled (a_mem a rfl) (b_mem b rfl) (c_mem c rfl) first
          second

/-- Numbers are ordered by their places, one beyond the range of doubles first. -/
theorem compare_numbers (x y : JsonNumber) :
    x.compare y =
      compare (x.toBinary64?.map Binary64.place) (y.toBinary64?.map Binary64.place) := by
  unfold JsonNumber.compare
  cases x.toBinary64? <;> cases y.toBinary64? <;> rfl

/-- The untyped order goes by kind, and then by whatever the kind has to compare. -/
theorem orderByKind_eq_compareLex :
    orderByKind = compareLex (compareOn Json.kindPlace)
      (compareLex (compareOn numberPlace?) (compareLex (compareOn isTrue)
        fun a b => orderTextsHeld (textOf? a) (textOf? b))) := by
  funext a b
  rcases a with _ | _ | x | x | _ | _ | _ <;> rcases b with _ | _ | y | y | _ | _ | _ <;> try rfl
  case some.bool.some.bool =>
    change compare x y = (compare x y).then .eq
    exact Ordering.then_eq.symm
  case some.number.some.number =>
    change x.compare y = (compare (x.toBinary64?.map Binary64.place)
      (y.toBinary64?.map Binary64.place)).then .eq
    rw [compare_numbers, Ordering.then_eq]

instance : Std.OrientedCmp orderByKind := by
  have texts := orientedCmp_on orderTextsHeld textOf?
  rw [orderByKind_eq_compareLex]
  infer_instance

/-- Order of two stored values, by a type if there is one. -/
def orderStored : Option FieldType → Option Json → Option Json → Ordering
  | some type => orderByType type
  | none => orderByKind

/-- Values of a type are in a total preorder, whatever is stored. -/
instance (type : FieldType) : Std.TransCmp (orderByType type) := by
  have keys := transCmp_on Value.keyOrder
    fun stored : Option Json => stored.bind (Value.ofStored? · type)
  have order : orderByType type = _ :=
    funext fun a => funext fun b => orderByType_eq_keyOrder type a b
  rw [order]
  exact keys

instance (type : Option FieldType) : Std.OrientedCmp (orderStored type) := by
  cases type with
  | none => exact inferInstanceAs (Std.OrientedCmp orderByKind)
  | some type => exact inferInstanceAs (Std.OrientedCmp (orderByType type))

/-- A key compares what is stored in its field, a descending key the other way round. -/
theorem orderByKey_eq (key : SortKey) (a b : Json) :
    orderByKey key a b =
      match key.direction with
      | .ascending => orderStored key.type (a.get? key.field) (b.get? key.field)
      | .descending => orderStored key.type (b.get? key.field) (a.get? key.field) := by
  obtain ⟨field, direction, type⟩ := key
  have turned : orderStored type (b.get? field) (a.get? field) =
      (orderStored type (a.get? field) (b.get? field)).swap := Std.OrientedCmp.eq_swap
  cases direction with
  | ascending => cases type <;> rfl
  | descending =>
    dsimp only
    rw [turned]
    cases type <;> rfl

instance (key : SortKey) : Std.OrientedCmp (orderByKey key) := by
  have stored := orientedCmp_on (orderStored key.type) (Json.get? key.field)
  have order : orderByKey key = _ := funext fun a => funext fun b => orderByKey_eq key a b
  rw [order]
  cases key.direction with
  | ascending => exact stored
  | descending => exact Std.OrientedCmp.opposite

/-- The comparison of documents by any keys turns round with its arguments. -/
instance orderByKeys_orientedCmp (keys : List SortKey) : Std.OrientedCmp (orderByKeys keys) := by
  induction keys with
  | nil => exact { eq_swap := rfl }
  | cons key keys ih =>
    exact inferInstanceAs (Std.OrientedCmp (compareLex (orderByKey key) (orderByKeys keys)))

section Documents

variable (documents : List Json)

/-- The texts that documents hold in a field. -/
def heldTexts (field : String) (s : String) : Prop :=
  ∃ document ∈ documents, document.get? field = some (.text s)

/-- The documents as a type, to compare no others. -/
abbrev Among : Type :=
  { document // document ∈ documents }

theorem heldTexts_of_mem {field s : String} {document : Json} (member : document ∈ documents)
    (text : s ∈ textOf? (document.get? field)) : heldTexts documents field s := by
  refine ⟨document, member, ?_⟩
  unfold textOf? at text
  split at text
  next stored =>
    cases text
    exact stored
  next => cases text

/-- No three of the documents go round by the comparison. -/
def TransitiveOn (cmp : Json → Json → Ordering) : Prop :=
  ∀ a ∈ documents, ∀ b ∈ documents, ∀ c ∈ documents,
    cmp a b ≠ .gt → cmp b c ≠ .gt → cmp a c ≠ .gt

variable {documents}

theorem orderByKind_transCmp {field : String}
    (untangled : Untangled (heldTexts documents field)) :
    Std.TransCmp fun a b : Among documents =>
      orderByKind (a.1.get? field) (b.1.get? field) := by
  have texts : Std.TransCmp fun a b : Among documents =>
      orderTextsHeld (textOf? (a.1.get? field)) (textOf? (b.1.get? field)) :=
    { eq_swap := Std.OrientedCmp.eq_swap
      isLE_trans := fun {a b c} => orderTextsHeld_isLE_trans untangled
        (fun _ => heldTexts_of_mem documents a.2) (fun _ => heldTexts_of_mem documents b.2)
        (fun _ => heldTexts_of_mem documents c.2) }
  rw [orderByKind_eq_compareLex]
  exact inferInstanceAs (Std.TransCmp (compareLex
    (compareOn fun a : Among documents => Json.kindPlace (a.1.get? field))
    (compareLex (compareOn fun a : Among documents => numberPlace? (a.1.get? field))
      (compareLex (compareOn fun a : Among documents => isTrue (a.1.get? field))
        fun a b : Among documents =>
          orderTextsHeld (textOf? (a.1.get? field)) (textOf? (b.1.get? field))))))

theorem orderByKey_transCmp_among {key : SortKey}
    (untangled : key.type = none → Untangled (heldTexts documents key.field)) :
    Std.TransCmp fun a b : Among documents => orderByKey key a.1 b.1 := by
  have held : Std.TransCmp fun a b : Among documents =>
      orderStored key.type (a.1.get? key.field) (b.1.get? key.field) := by
    cases untyped : key.type with
    | none => exact orderByKind_transCmp (untangled untyped)
    | some type =>
      exact transCmp_on (orderByType type) fun a : Among documents => a.1.get? key.field
  simp only [orderByKey_eq]
  cases key.direction with
  | ascending => exact held
  | descending => exact Std.TransCmp.opposite

theorem orderByKeys_transCmp_among {keys : List SortKey}
    (untangled : ∀ key ∈ keys, key.type = none → Untangled (heldTexts documents key.field)) :
    Std.TransCmp fun a b : Among documents => orderByKeys keys a.1 b.1 := by
  induction keys with
  | nil =>
    exact
      { eq_swap := rfl
        isLE_trans := fun _ _ => rfl }
  | cons key keys ih =>
    obtain ⟨head, tail⟩ := List.forall_mem_cons.mp untangled
    have first := orderByKey_transCmp_among head
    have others := ih tail
    exact inferInstanceAs (Std.TransCmp (compareLex
      (fun a b : Among documents => orderByKey key a.1 b.1)
      (fun a b : Among documents => orderByKeys keys a.1 b.1)))

theorem transitiveOn_orderByKeys {keys : List SortKey}
    (untangled : ∀ key ∈ keys, key.type = none → Untangled (heldTexts documents key.field)) :
    TransitiveOn documents (orderByKeys keys) := by
  intro a a_mem b b_mem c c_mem first second
  have preorder := orderByKeys_transCmp_among untangled
  have not_after := preorder.isLE_trans (a := ⟨a, a_mem⟩) (b := ⟨b, b_mem⟩) (c := ⟨c, c_mem⟩)
    (Ordering.isLE_iff_ne_gt.mpr first) (Ordering.isLE_iff_ne_gt.mpr second)
  exact Ordering.isLE_iff_ne_gt.mp not_after

/-- One untyped key compares texts as they are. -/
theorem orderByKeys_of_texts {field s t : String} {a b : Json} (direction : Direction)
    (left : a.get? field = some (.text s)) (right : b.get? field = some (.text t)) :
    orderByKeys [⟨field, direction, none⟩] a b =
      match direction with
      | .ascending => orderTexts s t
      | .descending => orderTexts t s := by
  rw [orderByKeys, orderByKeys, Ordering.then_eq, orderByKey_eq]
  dsimp only
  rw [left, right]
  rfl

/-- Where the comparison by one untyped key is transitive, no texts are tangled: they would go
round in one direction or in the other. -/
theorem untangled_of_transitiveOn {field : String} {direction : Direction}
    (transitive : TransitiveOn documents (orderByKeys [⟨field, direction, none⟩])) :
    Untangled (heldTexts documents field) := by
  rintro s t u ⟨a, a_mem, a_text⟩ ⟨b, b_mem, b_text⟩ ⟨c, c_mem, c_text⟩ tangled
  obtain ⟨not_after, behind, before⟩ := tangled.orderTexts_circle
  have first : orderTexts s t ≠ .gt := Ordering.isLE_iff_ne_gt.mp not_after
  have second : orderTexts t u ≠ .gt := by simp [behind]
  have third : orderTexts s u = .gt := Std.OrientedCmp.gt_of_lt before
  cases direction with
  | ascending =>
    refine transitive a a_mem b b_mem c c_mem ?_ ?_ ?_
    · rwa [orderByKeys_of_texts .ascending a_text b_text]
    · rwa [orderByKeys_of_texts .ascending b_text c_text]
    · rwa [orderByKeys_of_texts .ascending a_text c_text]
  | descending =>
    refine transitive c c_mem b b_mem a a_mem ?_ ?_ ?_
    · rwa [orderByKeys_of_texts .descending c_text b_text]
    · rwa [orderByKeys_of_texts .descending b_text a_text]
    · rwa [orderByKeys_of_texts .descending c_text a_text]

end Documents

/-- Take any keys, with types or without. The comparison of documents by them finds every
document equal to itself and turns round with its arguments. It is transitive on every
collection in which no texts are tangled that documents hold in the field of a key without a
type; with types for all keys that asks for nothing. By one key without a type, it is
transitive on these collections alone. -/
theorem orderByKeys_preorder (keys : List SortKey) :
    (∀ a, orderByKeys keys a a = .eq) ∧
    (∀ a b, orderByKeys keys b a = (orderByKeys keys a b).swap) ∧
    (∀ documents,
      (∀ key ∈ keys, key.type = none → Untangled (heldTexts documents key.field)) →
      TransitiveOn documents (orderByKeys keys)) ∧
    ∀ field direction documents,
      TransitiveOn documents (orderByKeys [⟨field, direction, none⟩]) ↔
        Untangled (heldTexts documents field) := by
  refine ⟨fun _ => Std.ReflCmp.compare_self, fun _ _ => Std.OrientedCmp.eq_swap,
    fun documents => transitiveOn_orderByKeys, ?_⟩
  intro field direction documents
  refine ⟨untangled_of_transitiveOn, fun untangled => transitiveOn_orderByKeys ?_⟩
  simpa using untangled

/-- Two days in unusual writing and a document without one, from the last day down. All texts
look like a date, so nothing is tangled, and the three documents do not go round. -/
theorem orderByKeys_preorder_days :
    (∀ key ∈ [SortKey.mk "day" .descending none], key.type = none →
      Untangled (heldTexts [.object [("day", .text "2002-4-10")],
        .object [("day", .text " 2002- 04-9")], .null] key.field)) ∧
      TransitiveOn [.object [("day", .text "2002-4-10")], .object [("day", .text " 2002- 04-9")],
        .null] (orderByKeys [⟨"day", .descending, none⟩]) ∧
      orderByKeys [⟨"day", .descending, none⟩] (.object [("day", .text "2002-4-10")])
        (.object [("day", .text " 2002- 04-9")]) = .lt := by
  have dates : ∀ s, heldTexts [.object [("day", .text "2002-4-10")],
      .object [("day", .text " 2002- 04-9")], .null] "day" s → (Value.guess s).type = .date := by
    rintro s ⟨document, member, text⟩
    have days : s = "2002-4-10" ∨ s = " 2002- 04-9" := by
      simp only [List.mem_cons, List.not_mem_nil, or_false] at member
      rcases member with rfl | rfl | rfl <;> simp_all [Json.get?]
    rcases days with rfl | rfl <;> decide +kernel
  have untangled : ∀ key ∈ [SortKey.mk "day" .descending none], key.type = none →
      Untangled (heldTexts [.object [("day", .text "2002-4-10")],
        .object [("day", .text " 2002- 04-9")], .null] key.field) := by
    simpa using untangled_of_one_type .date dates
  obtain ⟨-, -, transitive, -⟩ := orderByKeys_preorder [⟨"day", .descending, none⟩]
  exact ⟨untangled, transitive _ untangled, by decide +kernel⟩

/-- Three days by one untyped key: the ninth of April is in front of the tenth as a day, and
behind it by its letters, with a remark between them. So the comparison is not transitive, and
sorting leaves the three documents as they come, from whichever of them the list begins. -/
theorem orderByKeys_circle :
    (¬ ∀ (keys : List SortKey) (a b c : Json), orderByKeys keys a b ≠ .gt →
        orderByKeys keys b c ≠ .gt → orderByKeys keys a c ≠ .gt) ∧
      sorted (orderByKeys [⟨"day", .ascending, none⟩])
          [.object [("day", .text "2002-4-10")], .object [("day", .text "2002-4-5 or 6")],
            .object [("day", .text "2002-4-9")]] =
        [.object [("day", .text "2002-4-10")], .object [("day", .text "2002-4-5 or 6")],
          .object [("day", .text "2002-4-9")]] ∧
      sorted (orderByKeys [⟨"day", .ascending, none⟩])
          [.object [("day", .text "2002-4-5 or 6")], .object [("day", .text "2002-4-9")],
            .object [("day", .text "2002-4-10")]] =
        [.object [("day", .text "2002-4-5 or 6")], .object [("day", .text "2002-4-9")],
          .object [("day", .text "2002-4-10")]] := by
  have order : ∀ s t, orderByKeys [⟨"day", .ascending, none⟩] (.object [("day", .text s)])
      (.object [("day", .text t)]) = orderTexts s t :=
    fun s t => orderByKeys_of_texts .ascending rfl rfl
  have tenth_remark : orderTexts "2002-4-10" "2002-4-5 or 6" = .lt := by decide +kernel
  have remark_ninth : orderTexts "2002-4-5 or 6" "2002-4-9" = .lt := by decide +kernel
  have ninth_tenth : orderTexts "2002-4-9" "2002-4-10" = .lt := by decide +kernel
  have tenth_ninth := Std.OrientedCmp.gt_of_lt ninth_tenth
  have remark_tenth := Std.OrientedCmp.gt_of_lt tenth_remark
  have ninth_remark := Std.OrientedCmp.gt_of_lt remark_ninth
  refine ⟨?_, ?_, ?_⟩
  · intro transitive
    refine transitive [⟨"day", .ascending, none⟩] (.object [("day", .text "2002-4-10")])
      (.object [("day", .text "2002-4-5 or 6")]) (.object [("day", .text "2002-4-9")]) ?_ ?_ ?_
    · simp [order, tenth_remark]
    · simp [order, remark_ninth]
    · rw [order, tenth_ninth]
  · simp [sorted, insertDown, order, remark_tenth, ninth_remark]
  · simp [sorted, insertDown, order, ninth_remark, tenth_ninth]

end Collection

end PagedSearch
