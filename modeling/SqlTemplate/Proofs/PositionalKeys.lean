import SqlTemplate.Proofs.ArrayEntries

/-!
# Positional keys

Among the texts, those that write an integer are the keys without a name: a minus for a negative number, ASCII digits,
and no zero in front of others (`Integer.IsDecimalText`).  Every integer is written in one such way
(`Integer.isDecimalText_iff`), and a key is told from a name by whether it is written so
(`Slot.entry_eq_literal_iff`, `Integer.isCanonical_iff`).
-/

namespace SqlTemplate

namespace Integer

/-- The ASCII digits of a number, without zeros in front. -/
structure IsDigitsOf (digits : Text) (n : Nat) : Prop where
  nonempty : digits ≠ []
  ascii : ∀ c ∈ digits, '0' ≤ c ∧ c ≤ '9'
  noZeroInFront : digits.head? = some '0' → digits = ['0']
  value : Nat.ofDigitChars 10 digits 0 = n

/-- The decimal text of an integer: its digits, behind a minus if it is negative. -/
inductive IsDecimalText : Int → Text → Prop
  | natural {n : Nat} {digits : Text} (h : IsDigitsOf digits n) : IsDecimalText n digits
  | negative {n : Nat} {digits : Text} (hn : 0 < n) (h : IsDigitsOf digits n) : IsDecimalText (-n) ('-' :: digits)

private theorem isDigit_iff {c : Char} : c.isDigit = true ↔ '0' ≤ c ∧ c ≤ '9' := by
  simp [Char.isDigit, Char.le_def]

private theorem isDigitsOf_naturalText (n : Nat) : IsDigitsOf (naturalText n) n := by
  refine ⟨Nat.toDigits_ne_nil, fun c hc => ?_, fun hzero => ?_, ofDigitChars_naturalText n⟩
  · exact isDigit_iff.1 (isDigit_of_mem_naturalText hc)
  · rcases Nat.eq_zero_or_pos n with rfl | hpos
    · rfl
    · have hpositive := isPositiveText_naturalText hpos
      obtain ⟨rest, hrest⟩ := List.head?_eq_some_iff.1 hzero
      rw [hrest] at hpositive
      cases hpositive

/-- The digits are those that the number is written with. -/
private theorem isDigitsOf_iff {digits : Text} {n : Nat} : IsDigitsOf digits n ↔ naturalText n = digits := by
  constructor
  · rintro ⟨hnonempty, hascii, hzero, rfl⟩
    obtain ⟨d, rest, rfl⟩ := List.exists_cons_of_ne_nil hnonempty
    by_cases hd : d = '0'
    · subst hd
      rw [hzero rfl]
      rfl
    · have hdigits : ∀ c ∈ d :: rest, c.isDigit = true := fun c hc => isDigit_iff.2 (hascii c hc)
      rw [List.forall_mem_cons] at hdigits
      have hpositive : isPositiveText (d :: rest) = true := by
        simpa [isPositiveText, hd, hdigits.1] using hdigits.2
      obtain ⟨n, -, htext⟩ := exists_naturalText hpositive
      rw [← htext, ofDigitChars_naturalText]
  · rintro rfl
    exact isDigitsOf_naturalText n

/-- Every integer has one decimal text. -/
theorem isDecimalText_iff {n : Int} {t : Text} : IsDecimalText n t ↔ text n = t := by
  constructor
  · intro h
    cases h with
    | natural h => rw [text_natCast, isDigitsOf_iff.1 h]
    | negative hn h => rw [text_neg_natCast hn, isDigitsOf_iff.1 h]
  · rintro rfl
    rcases natural_or_negative n with ⟨m, rfl⟩ | ⟨m, hm, rfl⟩
    · rw [text_natCast]
      exact .natural (isDigitsOf_naturalText m)
    · rw [text_neg_natCast hm]
      exact .negative hm (isDigitsOf_naturalText m)

private theorem isCanonical_iff_exists_text {t : Text} : isCanonical t = true ↔ ∃ n, text n = t := by
  refine ⟨exists_text_of_isCanonical, ?_⟩
  rintro ⟨n, rfl⟩
  exact isCanonical_text n

end Integer

/-- The entry of an array stands for its item alone, whatever that is, if its key has no name. -/
theorem Slot.entry_eq_literal_iff (key : Text) :
    (∀ item, entry (.text key) item = literal item) ↔ Integer.isCanonical key = true := by
  rw [← Value.isPositional_text_iff]
  constructor
  · intro hentry
    by_contra hkey
    have hnull := hentry .null
    rw [entry_of_not_isPositional hkey, identifier] at hnull
    split at hnull <;> cases hnull
  · exact fun hkey => entry_of_isPositional hkey

/-- A text is a key without a name, so that its entry stands for the item alone, if and only if it is the decimal text
of an integer, which is the text that this integer is written as. -/
theorem Integer.isCanonical_iff (key : Text) :
    (isCanonical key = true ↔ ∃ n, IsDecimalText n key) ∧
      ((∀ item, Slot.entry (.text key) item = Slot.literal item) ↔ ∃ n, IsDecimalText n key) ∧
      ∀ n, IsDecimalText n key ↔ text n = key := by
  have hcanonical : isCanonical key = true ↔ ∃ n, IsDecimalText n key := by
    simp only [isDecimalText_iff]
    exact isCanonical_iff_exists_text
  exact ⟨hcanonical, (Slot.entry_eq_literal_iff key).trans hcanonical, fun n => isDecimalText_iff⟩

end SqlTemplate
