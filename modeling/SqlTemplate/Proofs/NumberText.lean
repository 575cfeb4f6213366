import Mathlib.Data.List.Induction
import Mathlib.Tactic.Common
import SqlTemplate.Slot.Number

/-!
# Texts of numbers

Whatever its size and its notation, a number is written with digits, signs, points and exponent marks only
(`Integer.isNumeric_text`, `Decimal.isNumeric_text`, `Binary64.isNumeric_literal`).  Different integers are written
differently (`Integer.text_injective`), and the canonical texts are those of integers (`Integer.isCanonical_text`,
`Integer.exists_text_of_isCanonical`).  Unless it writes `NULL`, a numeric slot writes an integer or a binary number
(`Slot.integer_eq_ok`, `Slot.float_eq_ok`).
-/

namespace SqlTemplate

/-- All characters of the text pass the test. -/
def Text.All (p : Char → Bool) (t : Text) : Prop := ∀ c ∈ t, p c = true

namespace Text.All

variable {p : Char → Bool} {t u : Text}

theorem nil : All p [] := List.forall_mem_nil _

theorem append (ht : All p t) (hu : All p u) : All p (t ++ u) := List.forall_mem_append.2 ⟨ht, hu⟩

theorem cons {c : Char} (hc : p c = true) (ht : All p t) : All p (c :: t) := List.forall_mem_cons.2 ⟨hc, ht⟩

theorem of_subset (hu : All p u) (h : ∀ c ∈ t, c ∈ u) : All p t := fun c hc => hu c (h c hc)

theorem replicate (n : Nat) {c : Char} (hc : p c = true) : All p (List.replicate n c) :=
  fun _ hd => List.eq_of_mem_replicate hd ▸ hc

theorem leftpad (n : Nat) {c : Char} (hc : p c = true) (ht : All p t) : All p (t.leftpad n c) :=
  (replicate _ hc).append ht

end Text.All

/-- The characters that numbers are written with. -/
def isNumericChar (c : Char) : Bool := c.isDigit || c ∈ ['+', '-', '.', 'e', 'E']

/-- A text written with the characters of numbers. -/
def IsNumeric (t : Text) : Prop := t.All isNumericChar

theorem IsNumeric.signed {t : Text} (negative : Bool) (ht : IsNumeric t) : IsNumeric (Integer.signed negative t) := by
  cases negative
  · exact ht
  · exact ht.cons rfl

namespace Integer

theorem isDigit_of_mem_naturalText {n : Nat} {c : Char} (h : c ∈ naturalText n) : c.isDigit = true :=
  Nat.isDigit_of_mem_toDigits (by decide) (by decide) h

private theorem isNumeric_naturalText (n : Nat) : IsNumeric (naturalText n) := by
  intro c hc
  simp [isNumericChar, isDigit_of_mem_naturalText hc]

theorem isNumeric_text (n : Int) : IsNumeric (text n) := (isNumeric_naturalText _).signed _

theorem ofDigitChars_naturalText (n : Nat) : Nat.ofDigitChars 10 (naturalText n) 0 = n := Nat.ofDigitChars_ten_toDigits

theorem naturalText_injective : Function.Injective naturalText := by
  intro m n h
  rw [← ofDigitChars_naturalText m, h, ofDigitChars_naturalText]

theorem naturalText_ne_minus_cons (n : Nat) (t : Text) : naturalText n ≠ '-' :: t := by
  intro h
  have hminus : '-' ∈ naturalText n := h ▸ List.mem_cons_self ..
  exact absurd (isDigit_of_mem_naturalText hminus) (by decide)

/-- Different integers have different texts. -/
theorem text_injective : Function.Injective text := by
  intro a b h
  unfold text signed at h
  simp only [decide_eq_true_eq] at h
  split at h <;> split at h
  · have := naturalText_injective (List.cons.inj h).2
    omega
  · exact absurd h.symm (naturalText_ne_minus_cons _ _)
  · exact absurd h (naturalText_ne_minus_cons _ _)
  · have := naturalText_injective h
    omega

theorem natural_or_negative (n : Int) : (∃ m : Nat, n = m) ∨ ∃ m : Nat, 0 < m ∧ n = -m := by
  rcases Int.lt_or_le n 0 with hneg | hnonneg
  · exact .inr ⟨n.natAbs, by omega, by omega⟩
  · exact .inl ⟨n.natAbs, by omega⟩

theorem text_natCast (n : Nat) : text n = naturalText n := by
  rw [text, signed, if_neg (by simp), Int.natAbs_natCast]

theorem text_neg_natCast {n : Nat} (h : 0 < n) : text (-n) = '-' :: naturalText n := by
  rw [text, signed, if_pos (by simpa using h), Int.natAbs_neg, Int.natAbs_natCast]

/-- A digit behind digits: in front of it no zero may stand alone. -/
private theorem isPositiveText_concat (t : Text) (c : Char) :
    isPositiveText (t ++ [c]) = (c.isDigit && if t.isEmpty then c != '0' else isPositiveText t) := by
  cases t with
  | nil => simp [isPositiveText]
  | cons d t =>
    simp only [List.cons_append, isPositiveText, List.all_append, List.all_cons, List.all_nil, Bool.and_true,
      List.isEmpty_cons, Bool.false_eq_true, ↓reduceIte]
    rw [← Bool.and_assoc, Bool.and_comm]

private theorem exists_digitChar {c : Char} (h : c.isDigit = true) : ∃ d < 10, d.digitChar = c := by
  obtain ⟨hzero, hnine⟩ := Char.isDigit_iff_toNat.1 h
  have h0 : '0'.toNat = 48 := rfl
  have h9 : '9'.toNat = 57 := rfl
  refine ⟨c.toNat - 48, by omega, Char.toNat_inj.1 ?_⟩
  rw [Nat.toNat_digitChar_of_lt_ten (by omega)]
  omega

theorem isPositiveText_naturalText {n : Nat} (h : 0 < n) : isPositiveText (naturalText n) = true := by
  induction n using Nat.strongRecOn with
  | _ n ih =>
    rw [naturalText, Nat.toDigits_eq_if (by decide)]
    split
    · rename_i hlt
      have hne : n.digitChar ≠ '0' := by
        rw [ne_eq, Nat.digitChar_eq_zero]
        omega
      simp [isPositiveText, Nat.isDigit_digitChar, hlt, hne]
    · rename_i hge
      have hfront : isPositiveText (Nat.toDigits 10 (n / 10)) = true := ih (n / 10) (by omega) (by omega)
      have hlast : n % 10 < 10 := Nat.mod_lt n (by decide)
      have hnonempty : (Nat.toDigits 10 (n / 10)).isEmpty = false := by simp [Nat.toDigits_ne_nil]
      rw [isPositiveText_concat, hnonempty, hfront, Nat.isDigit_digitChar]
      simp [hlast]

theorem exists_naturalText {t : Text} (h : isPositiveText t = true) : ∃ n, 0 < n ∧ naturalText n = t := by
  induction t using List.reverseRecOn with
  | nil => cases h
  | append_singleton t c ih =>
    rw [isPositiveText_concat, Bool.and_eq_true] at h
    obtain ⟨hdigit, hfront⟩ := h
    obtain ⟨d, hd, rfl⟩ := exists_digitChar hdigit
    have hlast : naturalText d = [d.digitChar] := Nat.toDigits_of_lt_base hd
    cases t with
    | nil =>
      have hne : d ≠ 0 := by
        rintro rfl
        cases hfront
      exact ⟨d, Nat.pos_of_ne_zero hne, hlast⟩
    | cons e t =>
      obtain ⟨n, hn, htext⟩ := ih hfront
      refine ⟨10 * n + d, by omega, ?_⟩
      rw [← htext, ← hlast]
      exact (Nat.toDigits_append_toDigits (by decide) hn hd).symm

private theorem isCanonical_of_isPositiveText {t : Text} (h : isPositiveText t = true) : isCanonical t = true := by
  unfold isCanonical
  split
  · rfl
  · cases h
  · exact h

theorem isCanonical_text (n : Int) : isCanonical (text n) = true := by
  rcases natural_or_negative n with ⟨m, rfl⟩ | ⟨m, hm, rfl⟩
  · rw [text_natCast]
    rcases Nat.eq_zero_or_pos m with rfl | hm
    · rfl
    · exact isCanonical_of_isPositiveText (isPositiveText_naturalText hm)
  · rw [text_neg_natCast hm]
    exact isPositiveText_naturalText hm

/-- Only integers have canonical texts. -/
theorem exists_text_of_isCanonical {t : Text} (h : isCanonical t = true) : ∃ n, text n = t := by
  unfold isCanonical at h
  split at h
  · exact ⟨0, rfl⟩
  · obtain ⟨n, hn, rfl⟩ := exists_naturalText h
    exact ⟨-n, text_neg_natCast hn⟩
  · obtain ⟨n, -, rfl⟩ := exists_naturalText h
    exact ⟨n, text_natCast n⟩

theorem negateIf_injective (negative : Bool) : Function.Injective (negateIf negative) := by
  intro m n h
  unfold negateIf at h
  split at h <;> omega

end Integer

namespace DecimalStyle

variable {style : DecimalStyle} {digits : Text}

private theorem isNumeric_positional (hdigits : IsNumeric digits) (hending : IsNumeric style.wholeEnding)
    (scale : Int) :
    IsNumeric (style.positional digits scale) := by
  unfold positional
  split
  · exact (hdigits.append (.replicate _ rfl)).append hending
  split
  · exact (hdigits.of_subset fun _ => List.mem_of_mem_take).append
      ((hdigits.of_subset fun _ => List.mem_of_mem_drop).cons rfl)
  · exact ((hdigits.leftpad _ rfl).cons rfl).cons rfl

private theorem isNumeric_power (hmark : isNumericChar style.mark) (n : Int) : IsNumeric (style.power n) := by
  have hpower := (Integer.isNumeric_naturalText n.natAbs).leftpad style.powerWidth (c := '0') rfl
  unfold power
  split
  · exact (hpower.cons rfl).cons hmark
  · exact (hpower.cons rfl).cons hmark

private theorem isNumeric_scientific (hdigits : IsNumeric digits) (hmark : isNumericChar style.mark) (scale : Int) :
    IsNumeric (style.scientific digits scale) := by
  refine Text.All.append ?_ (isNumeric_power hmark _)
  split
  · rename_i first second rest
    have hrest : IsNumeric (second :: rest) := hdigits.of_subset fun _ => List.mem_cons_of_mem _
    exact (hrest.cons rfl).cons (hdigits first (List.mem_cons_self ..))
  · exact hdigits

theorem isNumeric_text (hdigits : IsNumeric digits) (hending : IsNumeric style.wholeEnding)
    (hmark : isNumericChar style.mark) (scale : Int) : IsNumeric (style.text digits scale) := by
  unfold text
  split
  · exact isNumeric_positional hdigits hending scale
  · exact isNumeric_scientific hdigits hmark scale

end DecimalStyle

theorem Decimal.isNumeric_text (negative : Bool) (coefficient : Nat) (scale : Int) :
    IsNumeric (Decimal.finite negative coefficient scale).text := by
  have hending : IsNumeric style.wholeEnding := Text.All.nil
  exact (DecimalStyle.isNumeric_text (Integer.isNumeric_naturalText _) hending rfl scale).signed negative

namespace Binary64

theorem isNumeric_text (negative : Bool) (m : Magnitude) : IsNumeric (Binary64.finite negative m).text := by
  have hending : IsNumeric style.wholeEnding := (Text.All.nil.cons (c := '0') rfl).cons rfl
  exact (DecimalStyle.isNumeric_text (Integer.isNumeric_naturalText _) hending rfl _).signed negative

theorem isNumeric_literal (negative : Bool) (m : Magnitude) : IsNumeric (literal negative m) := by
  unfold literal
  split
  · exact Integer.isNumeric_text _
  · exact isNumeric_text negative m

end Binary64

/-! ### Numeric slots -/

namespace Slot

private theorem integerText_eq_ok {n : Int} {t : Text} (h : integerText n = .ok t) : t = Integer.text n := by
  unfold integerText at h
  split at h
  · cases h
  · exact (Except.ok.inj h).symm

private theorem wholeText_eq_ok {negative : Bool} {coefficient : Nat} {scale : Int} {t : Text}
    (h : wholeText negative coefficient scale = .ok t) :
    t = Integer.text (Integer.negateIf negative (Decimal.floor coefficient scale)) := by
  unfold wholeText at h
  split at h
  · cases h
  · exact (Except.ok.inj h).symm

private theorem floatText_eq_ok {shown : Text} {x : Binary64} {t : Text} (h : floatText shown x = .ok t) :
    ∃ negative m, t = Binary64.literal negative m := by
  cases x with
  | finite negative m => exact ⟨negative, m, (Except.ok.inj h).symm⟩
  | _ => cases h

private theorem nearestText_eq_ok {x : Binary64} {t : Text} (h : nearestText x = .ok t) :
    ∃ negative m, t = Binary64.literal negative m := by
  cases x with
  | finite negative m => exact ⟨negative, m, (Except.ok.inj h).symm⟩
  | _ => cases h

/-- An integer slot writes an integer unless it writes `NULL`. -/
theorem integer_eq_ok {v : Value} {t : Text} (h : integer v = .ok t) :
    t = "NULL".toList ∨ ∃ n, t = Integer.text n := by
  cases v with
  | null => exact .inl (Except.ok.inj h).symm
  | bool b =>
    right
    cases b with
    | true => exact ⟨1, (Except.ok.inj h).symm⟩
    | false => exact ⟨0, (Except.ok.inj h).symm⟩
  | int n => exact .inr ⟨n, integerText_eq_ok h⟩
  | float x =>
    cases x with
    | finite negative m => exact .inr ⟨_, (Except.ok.inj h).symm⟩
    | _ => cases h
  | decimal d =>
    cases d with
    | finite negative coefficient scale => exact .inr ⟨_, wholeText_eq_ok h⟩
    | _ => cases h
  | text u =>
    simp only [integer] at h
    cases hu : readInteger u with
    | error f => simp [hu, Except.map] at h
    | ok n =>
      rw [hu] at h
      exact .inr ⟨n, (Except.ok.inj h).symm⟩
  | _ => cases h

/-- A float slot writes a binary number unless it writes `NULL`. -/
theorem float_eq_ok {v : Value} {t : Text} (h : float v = .ok t) :
    t = "NULL".toList ∨ ∃ negative m, t = Binary64.literal negative m := by
  cases v with
  | null => exact .inl (Except.ok.inj h).symm
  | bool b =>
    -- the truth values are written as the numbers that they are
    have hbit : nearestText (.ofInt b.toNat) = float (.bool b) := by cases b <;> decide +kernel
    exact .inr (nearestText_eq_ok (hbit.trans h))
  | int n => exact .inr (nearestText_eq_ok h)
  | float x => exact .inr (floatText_eq_ok h)
  | decimal d =>
    cases d with
    | finite negative coefficient scale => exact .inr (floatText_eq_ok h)
    | infinite negative => cases h
    | nan negative signalling => cases signalling <;> cases h
  | text u =>
    have hbind : (readFloat u).bind (floatText u.quoted) = .ok t := h
    cases hu : readFloat u with
    | error f =>
      rw [hu] at hbind
      cases hbind
    | ok x =>
      rw [hu] at hbind
      exact .inr (floatText_eq_ok hbind)
  | _ => cases h

theorem isNumeric_integerText {n : Int} {t : Text} (h : integerText n = .ok t) : IsNumeric t := by
  rw [integerText_eq_ok h]
  exact Integer.isNumeric_text n

theorem isNumeric_integer {v : Value} {t : Text} (h : integer v = .ok t) : t = "NULL".toList ∨ IsNumeric t := by
  rcases integer_eq_ok h with hnull | ⟨n, rfl⟩
  · exact .inl hnull
  · exact .inr (Integer.isNumeric_text n)

theorem isNumeric_float {v : Value} {t : Text} (h : float v = .ok t) : t = "NULL".toList ∨ IsNumeric t := by
  rcases float_eq_ok h with hnull | ⟨negative, m, rfl⟩
  · exact .inl hnull
  · exact .inr (Binary64.isNumeric_literal negative m)

end Slot

end SqlTemplate
