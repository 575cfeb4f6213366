import Mathlib.Tactic.Ring
import SqlTemplate.Slot.Number

/-!
# Limits of numbers

Where numbers stop having a text or a nearest binary number: an integer, or the whole part of a decimal, from
`10 ^ digitLimit` on (`Integer.lt_digitCount`, `Decimal.lt_wholeDigits`), and a quotient from half a step past the
largest binary number on (`Binary64.Magnitude.nearest?_eq_none_iff`).
-/

namespace SqlTemplate

namespace Integer

theorem lt_digitCount {k : Nat} (hk : 0 < k) (n : Nat) : k < digitCount n ↔ 10 ^ k ≤ n := by
  have h := Nat.length_toDigits_le_iff (b := 10) (n := n) (by omega) hk
  unfold digitCount naturalText
  omega

theorem digitCount_pos (n : Nat) : 0 < digitCount n := Nat.length_toDigits_pos

end Integer

namespace Decimal

/-- A whole part has more than `k` digits from `10 ^ k` on. -/
theorem lt_wholeDigits {k : Nat} (hk : 0 < k) (coefficient : Nat) (scale : Int) :
    (k : Int) < wholeDigits coefficient scale ↔ 10 ^ k ≤ floor coefficient scale := by
  have hten : ∀ j : Nat, 0 < 10 ^ j := fun j => Nat.pow_pos (by omega)
  unfold floor wholeDigits
  by_cases hc : coefficient = 0
  · have := hten k
    simp only [hc, ↓reduceIte, Int.le_refl]
    omega
  have hdigits := Integer.digitCount_pos coefficient
  simp only [hc, ↓reduceIte]
  by_cases hwhole : (Integer.digitCount coefficient : Int) + scale ≤ 0
  · have := hten k
    simp only [hwhole, ↓reduceIte]
    omega
  simp only [hwhole, ↓reduceIte]
  by_cases hscale : 0 ≤ scale
  · obtain ⟨m, rfl⟩ := Int.eq_ofNat_of_zero_le hscale
    simp only [hscale, ↓reduceIte, Int.toNat_natCast]
    rcases Nat.lt_or_ge m k with hkm | hkm
    · obtain ⟨j, rfl⟩ := Nat.exists_eq_add_of_lt hkm
      have hlt := Integer.lt_digitCount (Nat.succ_pos j) coefficient
      have hcancel : 10 ^ (m + j + 1) ≤ coefficient * 10 ^ m ↔ 10 ^ (j + 1) ≤ coefficient := by
        rw [Nat.add_assoc, Nat.pow_add, Nat.mul_comm (10 ^ m)]
        exact Nat.mul_le_mul_right_iff (hten m)
      show _ ↔ 10 ^ (m + j + 1) ≤ coefficient * 10 ^ m
      rw [hcancel, ← hlt]
      omega
    · -- the zeros behind the coefficient are enough
      have hpow : 10 ^ k ≤ 10 ^ m := Nat.pow_le_pow_right (by omega) hkm
      have hmul : 10 ^ m ≤ coefficient * 10 ^ m := Nat.le_mul_of_pos_left _ (Nat.pos_of_ne_zero hc)
      exact iff_of_true (by omega) (hpow.trans hmul)
  · -- the last `m` digits of the coefficient stand behind the point
    obtain ⟨m, hm⟩ : ∃ m : Nat, scale = -m := ⟨scale.natAbs, by omega⟩
    subst hm
    have hlt := Integer.lt_digitCount (k := k + m) (by omega) coefficient
    simp only [hscale, ↓reduceIte, Int.natAbs_neg, Int.natAbs_natCast]
    show _ ↔ 10 ^ k ≤ coefficient / 10 ^ m
    rw [Nat.le_div_iff_mul_le (hten m), ← Nat.pow_add, ← hlt]
    omega

end Decimal

namespace Binary64

/-- Ties go to the even number, so an even one is reached from half a step below it on. -/
private theorem le_roundedQuotient {k num den : Nat} (hden : 0 < den) (hk : k % 2 = 0) :
    k ≤ roundedQuotient num den ↔ 2 * k * den ≤ 2 * num + den := by
  have hnum : den * (num / den) + num % den = num := Nat.div_add_mod num den
  have hrest : num % den < den := Nat.mod_lt num hden
  unfold roundedQuotient
  dsimp only
  generalize num / den = floor at *
  generalize num % den = rest at *
  subst hnum
  have hbound : 2 * (den * floor + rest) + den = (2 * floor + 1) * den + 2 * rest := by ring
  rw [hbound]
  -- up to `floor` both sides hold, past `floor + 1` neither does, and between them the rest decides
  rcases Nat.lt_trichotomy k (floor + 1) with hlt | heq | hgt
  · have hmul : 2 * k * den ≤ (2 * floor + 1) * den := Nat.mul_le_mul_right den (by omega)
    split <;> exact iff_of_true (by omega) (by omega)
  · have hmul : 2 * k * den = (2 * floor + 1) * den + den := by
      rw [heq]
      ring
    split <;> omega
  · have hmul : (2 * floor + 4) * den ≤ 2 * k * den := Nat.mul_le_mul_right den (by omega)
    have hsplit : (2 * floor + 4) * den = (2 * floor + 1) * den + 3 * den := by ring
    split <;> omega

private theorem roundedQuotient_le {k num den : Nat} (h : num < k * den) : roundedQuotient num den ≤ k := by
  have hfloor : num / den < k := Nat.div_lt_of_lt_mul (by rwa [Nat.mul_comm])
  unfold roundedQuotient
  dsimp only
  split <;> omega

namespace Magnitude

theorem ofParts?_eq_none_iff {mantissa scale : Nat}
    (h : mantissa < mantissaLimit ∧ (scale = 0 ∨ fullMantissa ≤ mantissa)) :
    ofParts? mantissa scale = none ↔ maxScale < scale := by
  unfold ofParts?
  split
  · rename_i hall
    simp only [reduceCtorEq, false_iff]
    omega
  · rename_i hnot
    simp only [true_iff]
    by_contra hle
    exact hnot ⟨h.1, h.2, by omega⟩

/-- The scale that `nearest?` rounds at: the quotient has at most 53 bits there, and as many unless the scale is
zero. -/
theorem bounds_at_scale {scaled den : Nat} (hden : 0 < den) {scale : Nat}
    (hscale : scale = (scaled / den).log2 + 1 - mantissaBits) :
    scaled < mantissaLimit * (den * 2 ^ scale) ∧ (scale = 0 ∨ fullMantissa * (den * 2 ^ scale) ≤ scaled) := by
  have hlimit : mantissaLimit = 2 ^ mantissaBits := rfl
  have hfull : fullMantissa = 2 ^ (mantissaBits - 1) := rfl
  constructor
  · have hlt : scaled / den < 2 ^ ((scaled / den).log2 + 1) := Nat.lt_log2_self
    have hpow : 2 ^ ((scaled / den).log2 + 1) ≤ mantissaLimit * 2 ^ scale := by
      rw [hlimit, ← Nat.pow_add]
      exact Nat.pow_le_pow_right (by omega) (by omega)
    have hdiv : scaled / den < mantissaLimit * 2 ^ scale := hlt.trans_le hpow
    rw [Nat.div_lt_iff_lt_mul hden] at hdiv
    calc scaled < mantissaLimit * 2 ^ scale * den := hdiv
      _ = mantissaLimit * (den * 2 ^ scale) := by ring
  · by_cases hzero : scale = 0
    · exact .inl hzero
    · right
      have hne : scaled / den ≠ 0 := by
        intro hq
        rw [hq, Nat.log2_zero] at hscale
        unfold mantissaBits at hscale
        omega
      have hlog : (scaled / den).log2 = mantissaBits - 1 + scale := by
        unfold mantissaBits at hscale ⊢
        omega
      have hle : 2 ^ (mantissaBits - 1 + scale) ≤ scaled / den := by
        rw [← hlog]
        exact Nat.log2_self_le hne
      rw [Nat.le_div_iff_mul_le hden, Nat.pow_add, ← hfull] at hle
      calc fullMantissa * (den * 2 ^ scale) = fullMantissa * 2 ^ scale * den := by ring
        _ ≤ scaled := hle

/-- Each scale doubles the step. -/
private theorem double_step_le (den : Nat) {scale scale' : Nat} (h : scale < scale') :
    2 * (den * 2 ^ scale) ≤ den * 2 ^ scale' := by
  have hpow : 2 ^ (scale + 1) ≤ 2 ^ scale' := Nat.pow_le_pow_right (by omega) h
  calc 2 * (den * 2 ^ scale) = den * 2 ^ (scale + 1) := by ring
    _ ≤ den * 2 ^ scale' := Nat.mul_le_mul_left den hpow

/-- There is no nearest number from half a step past the largest one on. -/
theorem nearest?_eq_none_iff {num den : Nat} (hden : 0 < den) :
    nearest? num den = none ↔ (2 * mantissaLimit - 1) * (den * 2 ^ maxScale) ≤ 2 * (num * stepsPerUnit) := by
  unfold nearest?
  dsimp only
  generalize num * stepsPerUnit = scaled
  obtain ⟨scale, hscale⟩ : ∃ s, s = (scaled / den).log2 + 1 - mantissaBits := ⟨_, rfl⟩
  obtain ⟨hupper, hlower⟩ := bounds_at_scale hden hscale
  rw [← hscale]
  have hpos : 0 < den * 2 ^ scale := Nat.mul_pos hden (Nat.pow_pos (by omega))
  have hle : roundedQuotient scaled (den * 2 ^ scale) ≤ mantissaLimit := roundedQuotient_le hupper
  have hlimit := @le_roundedQuotient mantissaLimit scaled _ hpos rfl
  have hfull := @le_roundedQuotient fullMantissa scaled _ hpos rfl
  have hL : mantissaLimit = 2 ^ 53 := rfl
  have hF : fullMantissa = 2 ^ 52 := rfl
  have hbelow := @double_step_le den scale maxScale
  have habove := @double_step_le den maxScale scale
  have hsame : scale = maxScale → den * 2 ^ scale = den * 2 ^ maxScale := fun h => by rw [h]
  show (if roundedQuotient scaled (den * 2 ^ scale) = mantissaLimit then ofParts? fullMantissa (scale + 1)
    else ofParts? (roundedQuotient scaled (den * 2 ^ scale)) scale) = none ↔ _
  -- from here on the scale counts only by its order to the largest one
  generalize roundedQuotient scaled (den * 2 ^ scale) = mantissa at *
  generalize den * 2 ^ scale = step at *
  generalize den * 2 ^ maxScale = top at *
  by_cases hm : mantissa = mantissaLimit
  · rw [hm, if_pos rfl, ofParts?_eq_none_iff ⟨by omega, .inr (Nat.le_refl _)⟩]
    rw [hL, hF] at *
    rcases Nat.lt_trichotomy scale maxScale with h | h | h <;> omega
  · rw [if_neg hm, ofParts?_eq_none_iff ⟨by omega, by rw [hF] at *; omega⟩]
    rw [hL, hF] at *
    rcases Nat.lt_trichotomy scale maxScale with h | h | h <;> omega

end Magnitude

/-- The least number without a nearest one; the largest number is `2 ^ 970` less than `2 ^ 1024`. -/
def overflowBound : Nat := (2 * mantissaLimit - 1) * Nat.pow 2 970

theorem nearest?_eq_none_iff_le (num : Nat) {den : Nat} (hden : 0 < den) :
    Magnitude.nearest? num den = none ↔ overflowBound * den ≤ num := by
  have hexponent : maxScale = 970 + (1074 + 1) := rfl
  have hsteps : stepsPerUnit = Nat.pow 2 1074 := by delta stepsPerUnit; rfl
  unfold overflowBound
  rw [Magnitude.nearest?_eq_none_iff hden]
  generalize 970 = a at *
  generalize 1074 = b at *
  have hpow : ∀ k, Nat.pow 2 k = 2 ^ k := fun _ => rfl
  have hunit : 0 < 2 ^ b := Nat.pow_pos (by omega)
  have hleft : (2 * mantissaLimit - 1) * (den * 2 ^ maxScale) =
      (2 * mantissaLimit - 1) * 2 ^ a * den * (2 * 2 ^ b) := by
    rw [hexponent, Nat.pow_add, Nat.pow_succ]
    ring
  have hright : 2 * (num * 2 ^ b) = num * (2 * 2 ^ b) := by ring
  rw [hleft, hsteps, hpow, hpow, hright]
  exact Nat.mul_le_mul_right_iff (by omega)

theorem nearest?_one_eq_none_iff (n : Nat) : Magnitude.nearest? n 1 = none ↔ overflowBound ≤ n := by
  rw [nearest?_eq_none_iff_le n Nat.one_pos, Nat.mul_one]

end Binary64

end SqlTemplate
