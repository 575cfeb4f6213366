import Mathlib.Algebra.Order.Field.Power
import SqlTemplate.Proofs.LongestNumeral
import SqlTemplate.Proofs.NumberText
import SqlTemplate.Proofs.Rounding
import SqlTemplate.Proofs.Unwritable

/-!
# Integers of texts

The integer slot takes the whole part of the number that a text starts with.  Where the longest numeral in front is
plain, that is the number itself; every other numeral is first rounded to the nearest binary number, so that its whole
part is kept only if the rounded number has the same (`Slot.integer_text`).
-/

namespace SqlTemplate

/-! ### The number that a numeral writes -/

namespace Text

private theorem foldl_digits (t : Text) (n : Nat) :
    t.foldl (fun n c => 10 * n + (digitValue? c).getD 0) n = n * 10 ^ t.length + digitsValue t := by
  induction t generalizing n with
  | nil => simp [digitsValue]
  | cons c t ih =>
    rw [digitsValue, List.foldl_cons, List.foldl_cons, ih, ih (10 * 0 + _), List.length_cons]
    ring

theorem digitsValue_append (t u : Text) : digitsValue (t ++ u) = digitsValue t * 10 ^ u.length + digitsValue u := by
  rw [digitsValue, List.foldl_append, foldl_digits]
  rfl

end Text

namespace Numeral

/-- The number that a numeral writes, without its sign. -/
def size (n : Numeral) : ℚ :=
  (Text.digitsValue n.whole + Text.digitsValue (n.fraction.getD []) / 10 ^ (n.fraction.getD []).length) *
    10 ^ n.power.elim 0 PowerOfTen.value

/-- The number that a numeral writes. -/
def value (n : Numeral) : ℚ := if n.isNegative then -n.size else n.size

/-- Digits only, and not too many of them to be read one by one. -/
def IsPlain (n : Numeral) : Prop := n.isInteger = true ∧ n.whole.length ≤ Integer.digitLimit

instance (n : Numeral) : Decidable n.IsPlain := inferInstanceAs (Decidable (_ ∧ _))

theorem size_nonneg (n : Numeral) : 0 ≤ n.size := by
  unfold size
  positivity

/-- The coefficient has the digits of both sides of the point, and the scale makes up for it. -/
theorem size_eq (n : Numeral) : n.size = n.coefficient * 10 ^ n.scale := by
  have hten : (10 : ℚ) ≠ 0 := by norm_num
  rw [size, coefficient, scale, Text.digitsValue_append, zpow_sub₀ hten, zpow_natCast]
  push_cast
  field_simp

theorem abs_value (n : Numeral) : |n.value| = n.size := by
  unfold value
  split
  · rw [abs_neg, abs_of_nonneg n.size_nonneg]
  · exact abs_of_nonneg n.size_nonneg

end Numeral

/-! ### Truncation -/

/-- The integer that is left of a number without its fraction. -/
def towardZero (q : ℚ) : Int := if 0 ≤ q then ⌊q⌋ else ⌈q⌉

private theorem towardZero_value (n : Numeral) : towardZero n.value = Integer.negateIf n.isNegative ⌊n.size⌋₊ := by
  have hfloor : (⌊n.size⌋₊ : Int) = ⌊n.size⌋ := Int.natCast_floor_eq_floor n.size_nonneg
  unfold towardZero Numeral.value Integer.negateIf
  cases n.isNegative with
  | false =>
    rw [if_neg Bool.false_ne_true, if_neg Bool.false_ne_true, if_pos n.size_nonneg, hfloor]
  | true =>
    rw [if_pos rfl, if_pos rfl, hfloor]
    split
    · rename_i hzero
      have hsize : n.size = 0 := le_antisymm (neg_nonneg.1 hzero) n.size_nonneg
      rw [hsize, neg_zero, Int.floor_zero, neg_zero]
    · exact Int.ceil_neg

/-- A plain numeral has no fraction to cut off. -/
private theorem Numeral.IsPlain.floor_size {n : Numeral} (h : n.IsPlain) : ⌊n.size⌋₊ = n.coefficient := by
  obtain ⟨hinteger, -⟩ := h
  simp only [Numeral.isInteger, Bool.and_eq_true, Option.isNone_iff_eq_none] at hinteger
  rw [Numeral.size_eq, Numeral.scale, hinteger.1, hinteger.2]
  simp

/-! ### Reading -/

namespace Slot

section Read

variable {t : Text} {n : Numeral} (hscan : Numeral.scan t = some n)

include hscan

private theorem integer_of_unreadable (h : n.isReadable = false) :
    integer (.text t) = .error (.unreadableNumber n.text) := by
  have hread : readInteger t = .error (.unreadableNumber n.text) :=
    (readInteger_eq_error_iff rfl t).2 ⟨n, hscan, by simpa [Numeral.isReadable] using h, rfl⟩
  rw [integer, hread]
  rfl

/-- Digits alone are read one by one. -/
private theorem integer_of_isPlain (hreadable : n.isReadable = true) (h : n.IsPlain) :
    integer (.text t) = .ok (Integer.text (Integer.negateIf n.isNegative n.coefficient)) := by
  have hread : n.toInt? = some (Integer.negateIf n.isNegative n.coefficient) := by
    simp [Numeral.toInt?, hreadable, h.1, h.2]
  simp only [integer, readInteger, hscan, hread, Option.elim_some, Except.map]

/-- Every other numeral is read as a binary number, of which the whole part is taken. -/
private theorem integer_of_not_isPlain (hreadable : n.isReadable = true) (h : ¬ n.IsPlain) :
    integer (.text t) =
      (wholePart t (.ofDecimal n.isNegative n.coefficient n.scale)).map Integer.text := by
  have hread : n.toInt? = none := by
    rw [Numeral.toInt?, if_neg]
    simpa [Numeral.IsPlain, hreadable] using h
  rw [integer, readInteger, hscan]
  simp only [hread, Option.elim_none, Numeral.toBinary64, hreadable, if_pos, Except.bind]

private theorem integer_of_overflow (hreadable : n.isReadable = true) (h : ¬ n.IsPlain)
    (hlarge : (Binary64.overflowBound : ℚ) ≤ |n.value|) :
    integer (.text t) = .error (.query (.mismatch (.integerRange t))) := by
  rw [n.abs_value, n.size_eq, ← Binary64.Magnitude.ofDecimal?_eq_none_iff] at hlarge
  rw [integer_of_not_isPlain hscan hreadable h, Binary64.ofDecimal, hlarge]
  rfl

private theorem exists_isNearest_integer (hreadable : n.isReadable = true) (h : ¬ n.IsPlain)
    (hsmall : |n.value| < (Binary64.overflowBound : ℚ)) :
    ∃ m : Binary64.Magnitude, m.IsNearest |n.value| ∧
      integer (.text t) = .ok (Integer.text (Integer.negateIf n.isNegative ⌊m.value⌋₊)) := by
  rw [n.abs_value, n.size_eq, ← not_le, ← Binary64.Magnitude.ofDecimal?_eq_none_iff] at hsmall
  obtain ⟨m, hm⟩ := Option.ne_none_iff_exists'.1 hsmall
  refine ⟨m, ?_, ?_⟩
  · rw [n.abs_value, n.size_eq]
    exact Binary64.Magnitude.isNearest_of_ofDecimal? hm
  · rw [integer_of_not_isPlain hscan hreadable h, Binary64.ofDecimal, hm, m.floor_value]
    rfl

end Read

/-- The integer of a text is zero if no numeral stands in front.  Otherwise it is the whole part of the longest numeral
in front if that is plain, and of the nearest binary number if it is not: the same exactly if rounding does not change
the whole part, as where the number is itself a binary one.  Only a separator in front of the numeral, or a number past
the largest binary one, leaves a text without an integer. -/
theorem integer_text (t : Text) :
    ((∀ n : Numeral, n.IsProper → ¬ n.text <+: t) → integer (.text t) = .ok ['0']) ∧
    ∀ n : Numeral, n.IsLongestIn t →
      (n.isReadable = false → integer (.text t) = .error (.unreadableNumber n.text)) ∧
      (n.isReadable = true → n.IsPlain → integer (.text t) = .ok (Integer.text (towardZero n.value))) ∧
      (n.isReadable = true → ¬ n.IsPlain → (Binary64.overflowBound : ℚ) ≤ |n.value| →
        integer (.text t) = .error (.query (.mismatch (.integerRange t)))) ∧
      (n.isReadable = true → ¬ n.IsPlain → |n.value| < (Binary64.overflowBound : ℚ) →
        ∃ m : Binary64.Magnitude, m.IsNearest |n.value| ∧
          integer (.text t) = .ok (Integer.text (Integer.negateIf n.isNegative ⌊m.value⌋₊)) ∧
          (integer (.text t) = .ok (Integer.text (towardZero n.value)) ↔ ⌊m.value⌋₊ = ⌊|n.value|⌋₊) ∧
          ((∃ m' : Binary64.Magnitude, m'.value = |n.value|) →
            integer (.text t) = .ok (Integer.text (towardZero n.value)))) := by
  constructor
  · intro hnone
    rw [integer, readInteger, Numeral.scan_eq_none_iff.2 hnone]
    rfl
  intro n hlongest
  have hscan : Numeral.scan t = some n := Numeral.scan_eq_some_iff.2 hlongest
  refine ⟨integer_of_unreadable hscan, ?_, integer_of_overflow hscan, ?_⟩
  · intro hreadable hplain
    rw [towardZero_value, hplain.floor_size]
    exact integer_of_isPlain hscan hreadable hplain
  · intro hreadable hplain hsmall
    obtain ⟨m, hnearest, hinteger⟩ := exists_isNearest_integer hscan hreadable hplain hsmall
    -- both integers have the sign of the numeral, and only their digits can differ
    have hsame : integer (.text t) = .ok (Integer.text (towardZero n.value)) ↔ ⌊m.value⌋₊ = ⌊|n.value|⌋₊ := by
      rw [hinteger, Except.ok.injEq, towardZero_value, Integer.text_injective.eq_iff,
        (Integer.negateIf_injective _).eq_iff, n.abs_value]
    refine ⟨m, hnearest, hinteger, hsame, ?_⟩
    rintro ⟨m', hm'⟩
    rw [← hm'] at hnearest
    rw [hsame, ← hm', hnearest.unique m'.isNearest_value]

/-- A power of ten on a small number: a binary number, so nothing is lost. -/
theorem integer_text_thousand :
    ∃ n : Numeral, n.IsLongestIn "1e3kg".toList ∧ n.value = 1000 ∧
      integer (.text "1e3kg".toList) = .ok (Integer.text (towardZero n.value)) := by
  have hlongest : Numeral.IsLongestIn ⟨[], none, ['1'], none, some ⟨'e', none, ['3']⟩⟩ "1e3kg".toList :=
    Numeral.scan_eq_some_iff.1 (by decide +kernel)
  have hvalue : Numeral.value ⟨[], none, ['1'], none, some ⟨'e', none, ['3']⟩⟩ = (1000 : Nat) := by
    have hcoefficient : Numeral.coefficient ⟨[], none, ['1'], none, some ⟨'e', none, ['3']⟩⟩ = 1 := by decide +kernel
    have hscale : Numeral.scale ⟨[], none, ['1'], none, some ⟨'e', none, ['3']⟩⟩ = 3 := by decide +kernel
    rw [Numeral.value, if_neg (by decide), Numeral.size_eq, hcoefficient, hscale]
    norm_num
  have hsmall : 1000 < Binary64.overflowBound := by decide +kernel
  have hthousand : 1000 < Binary64.mantissaLimit := by decide +kernel
  obtain ⟨m', hm'⟩ := Binary64.Magnitude.exists_value_eq_natCast hthousand
  obtain ⟨-, -, -, -, hrounded⟩ := (integer_text "1e3kg".toList).imp_right fun h => h _ hlongest
  rw [hvalue, Nat.abs_cast] at hrounded
  obtain ⟨m, -, -, -, hexact⟩ := hrounded (by decide +kernel) (by decide +kernel) (Nat.cast_lt.2 hsmall)
  exact ⟨_, hlongest, hvalue.trans (by norm_num), hvalue ▸ hexact ⟨m', hm'⟩⟩

/-- A half behind twenty digits: the number is rounded before it is cut off. -/
theorem integer_text_half :
    integer (.text "12345678901234567890.5".toList) = .ok "12345678901234567168".toList ∧
    ∃ n : Numeral, n.IsLongestIn "12345678901234567890.5".toList ∧ n.text = "12345678901234567890.5".toList ∧
      Integer.text (towardZero n.value) = "12345678901234567890".toList := by
  refine ⟨by decide +kernel, ⟨[], none, "12345678901234567890".toList, some ['5'], none⟩,
    Numeral.scan_eq_some_iff.1 (by decide +kernel), by decide +kernel, ?_⟩
  have hcoefficient :
      Numeral.coefficient ⟨[], none, "12345678901234567890".toList, some ['5'], none⟩ = 123456789012345678905 := by
    decide +kernel
  have hscale : Numeral.scale ⟨[], none, "12345678901234567890".toList, some ['5'], none⟩ = -1 := by decide +kernel
  have hsize : ((123456789012345678905 : Nat) : ℚ) * 10 ^ (-1 : Int) = (123456789012345678905 : Nat) / (10 : Nat) := by
    norm_num
  rw [towardZero_value, Numeral.size_eq, hcoefficient, hscale, hsize, Nat.floor_div_eq_div]
  decide +kernel

end Slot

end SqlTemplate
