import PagedSearch.Proofs.Text.Digits
import PagedSearch.Text.Letters

/-!
# Words in client texts

A client may write a word in any case of its ASCII letters and with blanks around it. Texts that
differ in no more than that are `Alike`. The readers of words drop the blanks around a text and
fold its case, and that decides the relation (`alike_iff`): folding makes no blank and removes
none, so the two steps do not get in each other's way. A table of words that is looked up in this
way has an entry for exactly the texts that are alike to the word of the entry
(`find?_eq_some_iff_alike`).
-/
namespace PagedSearch.Text

/-- Two texts that differ in the case of ASCII letters and in the blanks around them at most. -/
inductive Alike : List Char → List Char → Prop where
  | around {before after others behind s t : List Char}
      (blankBefore : ∀ c ∈ before, isBlank c = true) (blankAfter : ∀ c ∈ after, isBlank c = true)
      (blankOthers : ∀ c ∈ others, isBlank c = true) (blankBehind : ∀ c ∈ behind, isBlank c = true)
      (same : sameWord s t = true) :
      Alike (before ++ s ++ after) (others ++ t ++ behind)

theorem sameWord_iff {s t : List Char} : sameWord s t = true ↔ upper s = upper t :=
  beq_iff_eq

theorem isBlank_of_between {c : Char} (low : 0x20 < c.toNat) (high : c.toNat < 0x85) :
    isBlank c = false := by
  simp only [isBlank, blankRanges, List.any_cons, List.any_nil, Bool.or_false,
    Bool.or_eq_false_iff, Bool.and_eq_false_imp, decide_eq_true_eq, decide_eq_false_iff_not]
  omega

theorem toUpper_toNat {c : Char} (first : 97 ≤ c.toNat) (last : c.toNat ≤ 122) :
    c.toUpper.toNat = c.toNat - 32 := by
  have lower : 'a'.val ≤ c.val ∧ c.val ≤ 'z'.val :=
    ⟨UInt32.le_iff_toNat_le.mpr first, UInt32.le_iff_toNat_le.mpr last⟩
  have folded : c.toUpper = _ := dif_pos lower
  change 97 ≤ c.val.toNat at first
  rw [folded]
  change (c.val + ('A'.val - 'a'.val)).toNat = c.val.toNat - 32
  have shift : ('A'.val - 'a'.val).toNat = 2 ^ 32 - 32 := by decide
  have bound : c.val.toNat < 2 ^ 32 := c.val.toNat_lt
  rw [UInt32.toNat_add]
  omega

/-- Folding the case neither makes a blank nor removes one. -/
theorem isBlank_toUpper (c : Char) : isBlank c.toUpper = isBlank c := by
  by_cases lower : 'a'.val ≤ c.val ∧ c.val ≤ 'z'.val
  · have first : 97 ≤ c.toNat := UInt32.le_iff_toNat_le.mp lower.1
    have last : c.toNat ≤ 122 := UInt32.le_iff_toNat_le.mp lower.2
    have folded := toUpper_toNat first last
    rw [isBlank_of_between (by omega) (by omega), isBlank_of_between (by omega) (by omega)]
  · have kept : c.toUpper = c := dif_neg lower
    rw [kept]

theorem skipBlanks_upper (s : List Char) : skipBlanks (upper s) = upper (skipBlanks s) := by
  have folded : isBlank ∘ Char.toUpper = isBlank := funext isBlank_toUpper
  rw [skipBlanks, upper, List.dropWhile_map, folded]
  rfl

theorem dropTrailingBlanks_eq (s : List Char) :
    dropTrailingBlanks s = (skipBlanks s.reverse).reverse :=
  rfl

theorem trim_upper (s : List Char) : trim (upper s) = upper (trim s) := by
  have turned : ∀ t : List Char, (upper t).reverse = upper t.reverse := fun t =>
    List.map_reverse.symm
  rw [trim, trim, skipBlanks_upper, dropTrailingBlanks_eq, dropTrailingBlanks_eq, turned,
    skipBlanks_upper, turned]

/-- Blanks around a text are dropped with those that it has itself. -/
theorem trim_around {before after : List Char} (blankBefore : ∀ c ∈ before, isBlank c = true)
    (blankAfter : ∀ c ∈ after, isBlank c = true) (s : List Char) :
    trim (before ++ s ++ after) = trim s := by
  have turned : ∀ t : List Char, skipBlanks (t ++ after).reverse = skipBlanks t.reverse := by
    intro t
    rw [List.reverse_append]
    exact skipBlanks_append (fun c member => blankAfter c (List.mem_reverse.mp member)) _
  rw [trim, trim, List.append_assoc, skipBlanks_append blankBefore, dropTrailingBlanks_eq,
    dropTrailingBlanks_eq]
  by_cases blank : skipBlanks s = []
  · have all : ∀ c ∈ s ++ after, isBlank c = true :=
      List.forall_mem_append.mpr ⟨List.dropWhile_eq_nil_iff.mp blank, blankAfter⟩
    have none_left : skipBlanks (s ++ after) = [] := List.dropWhile_eq_nil_iff.mpr all
    rw [none_left, blank]
  · have kept : skipBlanks (s ++ after) = skipBlanks s ++ after := by
      have filled : (s.dropWhile isBlank).isEmpty = false := List.isEmpty_eq_false_iff.mpr blank
      rw [skipBlanks, List.dropWhile_append, filled]
      rfl
    rw [kept, turned]

/-- What is dropped from a text is blanks before it and behind it. -/
theorem exists_around (s : List Char) :
    ∃ before after, (∀ c ∈ before, isBlank c = true) ∧ (∀ c ∈ after, isBlank c = true) ∧
      s = before ++ trim s ++ after := by
  obtain ⟨before, blankBefore, start⟩ := exists_blanks s
  obtain ⟨turned, blankTurned, ending⟩ := exists_blanks (skipBlanks s).reverse
  refine ⟨before, turned.reverse, blankBefore,
    fun c member => blankTurned c (List.mem_reverse.mp member), ?_⟩
  have whole : skipBlanks s = trim s ++ turned.reverse := by
    rw [trim, dropTrailingBlanks_eq, ← List.reverse_append, ← ending, List.reverse_reverse]
  rw [List.append_assoc, ← whole, ← start]

theorem alike_iff {s t : List Char} : Alike s t ↔ upper (trim s) = upper (trim t) := by
  constructor
  · rintro ⟨blankBefore, blankAfter, blankOthers, blankBehind, same⟩
    rw [trim_around blankBefore blankAfter, trim_around blankOthers blankBehind, ← trim_upper,
      sameWord_iff.mp same, trim_upper]
  · intro same
    obtain ⟨before, after, blankBefore, blankAfter, whole⟩ := exists_around s
    obtain ⟨others, behind, blankOthers, blankBehind, wholeOther⟩ := exists_around t
    rw [whole, wholeOther]
    exact .around blankBefore blankAfter blankOthers blankBehind (sameWord_iff.mpr same)

/-- A word that a table knows is found from the texts that are alike to it. -/
theorem find?_eq_some_iff_alike {α : Type} {all : List α} {word : α → String}
    (solid : ∀ x, trim (word x).toList = (word x).toList)
    (known : ∀ x, (all.find? fun y => sameWord (word y).toList (word x).toList) = some x)
    {token : List Char} {x : α} :
    (all.find? fun y => sameWord (word y).toList (trim token)) = some x ↔
      Alike token (word x).toList := by
  rw [alike_iff, solid]
  constructor
  · intro found
    obtain ⟨named, -⟩ := List.find?_eq_some_iff_append.mp found
    exact (sameWord_iff.mp named).symm
  · intro same
    have tests : (fun y => sameWord (word y).toList (trim token)) =
        fun y => sameWord (word y).toList (word x).toList :=
      funext fun y => by rw [sameWord, sameWord, same]
    rw [tests, known]

end PagedSearch.Text
