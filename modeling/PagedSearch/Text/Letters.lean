/-!
# Letters and words

Case is folded for the ASCII letters alone, everywhere: in operator words, in
sort directions, in the names of representations and in pattern tests. All
other characters are left as they are.
-/
namespace PagedSearch.Text

/-- The text with its ASCII letters in upper case. -/
def upper (s : List Char) : List Char :=
  s.map Char.toUpper

/-- Equality of two texts up to the case of ASCII letters. -/
def sameWord (a b : List Char) : Bool :=
  upper a == upper b

/-- Whether `needle` stands somewhere in the text as one run of characters. -/
def hasRun (needle : List Char) : List Char → Bool
  | [] => needle.isEmpty
  | c :: rest => needle.isPrefixOf (c :: rest) || hasRun needle rest

theorem head?_of_sameWord {a b : List Char} (same : sameWord a b = true) :
    a.head?.map Char.toUpper = b.head?.map Char.toUpper := by
  rw [sameWord, beq_iff_eq] at same
  rw [← List.head?_map, ← List.head?_map]
  exact congrArg List.head? same

theorem toUpper_digit {c : Char} (digit : c.isDigit = true) : c.toUpper = c := by
  refine dif_neg fun lower => ?_
  have last : c.toNat ≤ 57 := (Char.isDigit_iff_toNat.mp digit).2
  have letter : 97 ≤ c.toNat := UInt32.le_iff_toNat_le.mp lower.1
  omega

theorem hasRun_iff {needle text : List Char} :
    hasRun needle text = true ↔ ∃ before after, text = before ++ needle ++ after := by
  induction text with
  | nil =>
    simp only [hasRun, List.isEmpty_iff]
    constructor
    · rintro rfl; exact ⟨[], [], rfl⟩
    · rintro ⟨before, after, h⟩
      simp_all
  | cons c rest ih =>
    simp only [hasRun, Bool.or_eq_true, List.isPrefixOf_iff_prefix, ih]
    constructor
    · rintro (⟨after, h⟩ | ⟨before, after, h⟩)
      · exact ⟨[], after, by simpa using h.symm⟩
      · exact ⟨c :: before, after, by simp [h]⟩
    · rintro ⟨before, after, h⟩
      cases before with
      | nil => exact .inl ⟨after, by simpa using h.symm⟩
      | cons d before =>
        simp only [List.cons_append, List.cons.injEq] at h
        exact .inr ⟨before, after, by simpa using h.2⟩

end PagedSearch.Text
