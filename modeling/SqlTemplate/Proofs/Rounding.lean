import Mathlib.Algebra.Order.Floor.Semifield
import Mathlib.Data.Rat.Floor
import Mathlib.Tactic.FieldSimp
import Mathlib.Tactic.Linarith
import SqlTemplate.Proofs.NumberLimits

/-!
# Rounding

A magnitude is nearest to a rational number if none is closer, and none as close unless its own mantissa is even
(`Binary64.Magnitude.IsNearest`); there is at most one such magnitude (`Binary64.Magnitude.IsNearest.unique`).
`nearest?` and `ofDecimal?` find it (`Binary64.Magnitude.isNearest_of_nearest?`,
`Binary64.Magnitude.isNearest_of_ofDecimal?`), up to half a step past the largest magnitude
(`Binary64.Magnitude.ofDecimal?_eq_none_iff`).
-/

namespace SqlTemplate

namespace Binary64

/-- A rounded quotient is as near as any whole number, and nearer than any other if it is odd. -/
theorem roundedQuotient_nearest {num den : Nat} (hden : 0 < den) (k : Nat) :
    ((roundedQuotient num den * den : Nat) - num : Int).natAbs ≤ ((k * den : Nat) - num : Int).natAbs ∧
    (((k * den : Nat) - num : Int).natAbs = ((roundedQuotient num den * den : Nat) - num : Int).natAbs →
      k = roundedQuotient num den ∨ roundedQuotient num den % 2 = 0) := by
  have hnum : den * (num / den) + num % den = num := Nat.div_add_mod num den
  have hrest : num % den < den := Nat.mod_lt num hden
  unfold roundedQuotient
  dsimp only
  generalize num / den = floor at *
  generalize num % den = rest at *
  subst hnum
  have hnext : (floor + 1) * den = den * floor + den := by ring
  have hfloor : floor * den = den * floor := Nat.mul_comm _ _
  have hbelow : k < floor → k * den + den ≤ den * floor := fun h => by
    have hmul : (k + 1) * den ≤ floor * den := Nat.mul_le_mul_right den h
    rwa [Nat.succ_mul, hfloor] at hmul
  have habove : floor + 1 < k → den * floor + 2 * den ≤ k * den := fun h => by
    have hmul : (floor + 2) * den ≤ k * den := Nat.mul_le_mul_right den h
    have hsplit : (floor + 2) * den = den * floor + 2 * den := by ring
    rwa [hsplit] at hmul
  -- the rounded quotient is `floor` or `floor + 1`, and all others are more than half a step away
  have hcases : k < floor ∨ k = floor ∨ k = floor + 1 ∨ floor + 1 < k := by omega
  rcases hcases with h | rfl | rfl | h
  · have := hbelow h
    split <;> omega
  · split <;> omega
  · split <;> omega
  · have := habove h
    split <;> omega

namespace Magnitude

/-- The number that a magnitude is. -/
def value (m : Magnitude) : ℚ := m.steps / stepsPerUnit

theorem floor_value (m : Magnitude) : ⌊m.value⌋₊ = m.floor := Nat.floor_div_eq_div _ _

/-- No magnitude is closer to the number, and one as close only if this one's mantissa is even. -/
structure IsNearest (m : Magnitude) (q : ℚ) : Prop where
  le : ∀ m' : Magnitude, |m.value - q| ≤ |m'.value - q|
  even : ∀ m' : Magnitude, |m'.value - q| = |m.value - q| → m' = m ∨ m.mantissa % 2 = 0

theorem stepsPerUnit_pos : 0 < stepsPerUnit := by
  unfold stepsPerUnit
  generalize 1074 = exponent
  exact Nat.two_pow_pos exponent

private theorem overflowBound_pos : 0 < overflowBound := by
  unfold overflowBound
  generalize 970 = exponent
  exact Nat.mul_pos (by decide) (Nat.two_pow_pos exponent)

@[simp] theorem steps_zero : zero.steps = 0 := Nat.zero_mul _

/-- How far a magnitude is from a quotient, over the common denominator. -/
def gap (m : Magnitude) (num den : Nat) : Nat := ((m.steps * den : Nat) - (num * stepsPerUnit : Nat) : Int).natAbs

private theorem abs_value_sub_div (m : Magnitude) (num : Nat) {den : Nat} (hden : 0 < den) :
    |m.value - (num : ℚ) / den| = (m.gap num den : ℚ) / (stepsPerUnit * den : Nat) := by
  have hunit : (0 : ℚ) < stepsPerUnit := Nat.cast_pos.2 stepsPerUnit_pos
  have hden' : (0 : ℚ) < den := Nat.cast_pos.2 hden
  have hcommon : m.value - (num : ℚ) / den =
      ((m.steps * den : Nat) - (num * stepsPerUnit : Nat) : Int) / (stepsPerUnit * den : Nat) := by
    unfold value
    generalize stepsPerUnit = unit at *
    push_cast
    field_simp
  have hpos : (0 : ℚ) < (stepsPerUnit * den : Nat) := Nat.cast_pos.2 (Nat.mul_pos stepsPerUnit_pos hden)
  rw [hcommon, abs_div, abs_of_pos hpos, gap, Nat.cast_natAbs, Int.cast_abs]

/-- For a quotient, the gaps tell which magnitude is nearest. -/
private theorem isNearest_div_iff (m : Magnitude) (num : Nat) {den : Nat} (hden : 0 < den) :
    m.IsNearest ((num : ℚ) / den) ↔
      ∀ m' : Magnitude, m.gap num den ≤ m'.gap num den ∧
        (m'.gap num den = m.gap num den → m' = m ∨ m.mantissa % 2 = 0) := by
  have hpos : (0 : ℚ) < (stepsPerUnit * den : Nat) := Nat.cast_pos.2 (Nat.mul_pos stepsPerUnit_pos hden)
  have hle : ∀ m' : Magnitude, |m.value - (num : ℚ) / den| ≤ |m'.value - (num : ℚ) / den| ↔
      m.gap num den ≤ m'.gap num den := by
    intro m'
    rw [abs_value_sub_div _ _ hden, abs_value_sub_div _ _ hden, div_le_div_iff_of_pos_right hpos, Nat.cast_le]
  have heq : ∀ m' : Magnitude, |m'.value - (num : ℚ) / den| = |m.value - (num : ℚ) / den| ↔
      m'.gap num den = m.gap num den := by
    intro m'
    rw [abs_value_sub_div _ _ hden, abs_value_sub_div _ _ hden, div_left_inj' hpos.ne', Nat.cast_inj]
  constructor
  · intro h m'
    exact ⟨(hle m').1 (h.le m'), fun hgap => h.even m' ((heq m').2 hgap)⟩
  · intro h
    exact ⟨fun m' => (hle m').2 (h m').1, fun m' hdist => (h m').2 ((heq m').1 hdist)⟩

/-! ### The grid of a scale -/

/-- The numbers of a scale are larger than those of the scales below. -/
private theorem steps_lt_of_scale_lt {m : Magnitude} {scale : Nat} (h : m.scale < scale) :
    m.steps < fullMantissa * 2 ^ scale := by
  have hmantissa : m.steps < 2 ^ 53 * 2 ^ m.scale :=
    Nat.mul_lt_mul_of_pos_right m.canonical.1 (Nat.two_pow_pos _)
  have hpow : 2 ^ 53 * 2 ^ m.scale ≤ 2 ^ 52 * 2 ^ scale := by
    rw [← Nat.pow_add, ← Nat.pow_add]
    exact Nat.pow_le_pow_right Nat.two_pos (by omega)
  exact hmantissa.trans_le hpow

private theorem fullMantissa_le_steps {m : Magnitude} (h : m.scale ≠ 0) : fullMantissa * 2 ^ m.scale ≤ m.steps :=
  Nat.mul_le_mul_right _ (m.canonical.2.1.resolve_left h)

private theorem exists_steps_eq_mul {m : Magnitude} {scale : Nat} (h : scale ≤ m.scale) :
    ∃ k, m.steps = k * 2 ^ scale := by
  refine ⟨m.mantissa * 2 ^ (m.scale - scale), ?_⟩
  rw [Nat.mul_assoc, ← Nat.pow_add, Nat.sub_add_cancel h]
  rfl

private theorem eq_of_steps_eq {m m' : Magnitude} (h : m.steps = m'.steps) : m = m' := by
  have hscale : m.scale = m'.scale := by
    -- each number has one scale, since larger scales start where smaller ones end
    rcases Nat.lt_trichotomy m.scale m'.scale with hlt | heq | hgt
    · have hsmaller := steps_lt_of_scale_lt hlt
      have hlarger := @fullMantissa_le_steps m' (by omega)
      omega
    · exact heq
    · have hsmaller := steps_lt_of_scale_lt hgt
      have hlarger := @fullMantissa_le_steps m (by omega)
      omega
  obtain ⟨mantissa, scale, hcanonical⟩ := m
  obtain ⟨mantissa', scale', hcanonical'⟩ := m'
  obtain rfl : scale = scale' := hscale
  obtain rfl : mantissa = mantissa' := Nat.eq_of_mul_eq_mul_right (Nat.two_pow_pos _) h
  rfl

private theorem ofParts?_eq_some {mantissa scale : Nat} {m : Magnitude} (h : ofParts? mantissa scale = some m) :
    m.mantissa = mantissa ∧ m.scale = scale := by
  unfold ofParts? at h
  split at h
  · cases h
    exact ⟨rfl, rfl⟩
  · cases h

/-- The magnitude found is the rounded number of steps of some scale, at which the quotient is a mantissa of full
width if it is not among the smallest numbers. -/
private theorem steps_of_nearest? {num den : Nat} (hden : 0 < den) {m : Magnitude} (h : nearest? num den = some m) :
    ∃ scale, (scale = 0 ∨ fullMantissa * (den * 2 ^ scale) ≤ num * stepsPerUnit) ∧
      m.steps = roundedQuotient (num * stepsPerUnit) (den * 2 ^ scale) * 2 ^ scale ∧
      (m.mantissa = roundedQuotient (num * stepsPerUnit) (den * 2 ^ scale) ∨ m.mantissa % 2 = 0) := by
  obtain ⟨scale, hscale⟩ : ∃ s, s = (num * stepsPerUnit / den).log2 + 1 - mantissaBits := ⟨_, rfl⟩
  refine ⟨scale, (bounds_at_scale hden hscale).2, ?_⟩
  unfold nearest? at h
  dsimp only at h
  rw [← hscale] at h
  have hpow : Nat.pow 2 scale = 2 ^ scale := rfl
  rw [hpow] at h
  generalize roundedQuotient (num * stepsPerUnit) (den * 2 ^ scale) = mantissa at *
  -- a mantissa that is rounded up to the limit goes over to the next scale
  split at h
  · rename_i hlimit
    obtain ⟨hm, hs⟩ := ofParts?_eq_some h
    refine ⟨?_, .inr ?_⟩
    · show m.mantissa * 2 ^ m.scale = _
      rw [hm, hs, hlimit, Nat.pow_succ']
      show 2 ^ 52 * (2 * 2 ^ scale) = 2 ^ 53 * 2 ^ scale
      ring
    · rw [hm]
      rfl
  · obtain ⟨hm, hs⟩ := ofParts?_eq_some h
    refine ⟨?_, .inl hm⟩
    show m.mantissa * 2 ^ m.scale = _
    rw [hm, hs]

/-- What `nearest?` finds is nearest. -/
theorem isNearest_of_nearest? {num den : Nat} (hden : 0 < den) {m : Magnitude} (h : nearest? num den = some m) :
    m.IsNearest ((num : ℚ) / den) := by
  obtain ⟨scale, hfull, hsteps, heven⟩ := steps_of_nearest? hden h
  have hstep : 0 < den * 2 ^ scale := Nat.mul_pos hden (Nat.two_pow_pos _)
  have hmul : ∀ k : Nat, k * 2 ^ scale * den = k * (den * 2 ^ scale) := fun k => by ring
  rw [isNearest_div_iff _ _ hden]
  intro m'
  rcases Nat.lt_or_ge m'.scale scale with hlt | hge
  · -- a number of a smaller scale is below the least of this one, which is not above the quotient
    obtain ⟨hle, -⟩ := @roundedQuotient_nearest (num * stepsPerUnit) _ hstep fullMantissa
    have hleast : fullMantissa * (den * 2 ^ scale) ≤ num * stepsPerUnit := hfull.resolve_left (by omega)
    have hbelow : m'.steps * den < fullMantissa * (den * 2 ^ scale) := by
      rw [← hmul]
      exact Nat.mul_lt_mul_of_pos_right (steps_lt_of_scale_lt hlt) hden
    unfold gap
    rw [hsteps, hmul]
    generalize num * stepsPerUnit = scaled at *
    generalize fullMantissa * (den * 2 ^ scale) = least at *
    omega
  · -- a number of this scale or a larger one is a multiple of the step
    obtain ⟨k, hk⟩ := exists_steps_eq_mul hge
    obtain ⟨hle, htie⟩ := @roundedQuotient_nearest (num * stepsPerUnit) _ hstep k
    have hgap : m'.gap num den = ((k * (den * 2 ^ scale) : Nat) - (num * stepsPerUnit : Nat) : Int).natAbs := by
      rw [gap, hk, hmul]
    have hgap' : m.gap num den = ((roundedQuotient (num * stepsPerUnit) (den * 2 ^ scale) * (den * 2 ^ scale) : Nat) -
        (num * stepsPerUnit : Nat) : Int).natAbs := by
      rw [gap, hsteps, hmul]
    rw [hgap, hgap']
    refine ⟨hle, fun heq => ?_⟩
    rcases htie heq with rfl | hmantissa
    · exact .inl (eq_of_steps_eq (hk.trans hsteps.symm))
    · right
      rcases heven with hm | hm
      · rwa [hm]
      · exact hm

/-- Numbers up to half a step are nearest to zero. -/
private theorem isNearest_zero {num den : Nat} (hden : 0 < den) (h : 2 * (num * stepsPerUnit) ≤ den) :
    zero.IsNearest ((num : ℚ) / den) := by
  rw [isNearest_div_iff _ _ hden]
  intro m'
  refine ⟨?_, fun _ => .inr rfl⟩
  unfold gap
  rw [steps_zero, Nat.zero_mul]
  generalize num * stepsPerUnit = scaled at *
  rcases Nat.eq_zero_or_pos m'.steps with hsteps | hsteps
  · rw [hsteps, Nat.zero_mul]
  · have hmul : den ≤ m'.steps * den := Nat.le_mul_of_pos_left _ hsteps
    omega

private theorem two_pow_le_ten_pow {e k : Nat} (h : e ≤ 3 * k) : 2 ^ e ≤ 10 ^ k :=
  calc 2 ^ e ≤ 2 ^ (3 * k) := Nat.pow_le_pow_right Nat.two_pos h
    _ = 8 ^ k := Nat.pow_mul 2 3 k
    _ ≤ 10 ^ k := Nat.pow_le_pow_left (by omega) k

/-- A number for which `ofDecimal?` takes zero without rounding is at most half a step. -/
private theorem two_mul_steps_le_pow {c k : Nat} (h : c.log2 + 1101 < 3 * k) : 2 * (c * stepsPerUnit) ≤ 10 ^ k := by
  unfold stepsPerUnit
  generalize hexponent : 1074 = e
  calc 2 * (c * 2 ^ e) ≤ 2 * (2 ^ (c.log2 + 1) * 2 ^ e) :=
        Nat.mul_le_mul_left 2 (Nat.mul_le_mul_right _ Nat.lt_log2_self.le)
    _ = 2 ^ (c.log2 + 1 + e + 1) := by
      rw [← Nat.pow_add, Nat.pow_succ']
    _ ≤ 10 ^ k := two_pow_le_ten_pow (by omega)

/-- `ofDecimal?` rounds the number, written as a quotient, unless it is at most half a step or its power of ten is past
all magnitudes. -/
theorem ofDecimal?_cases (c : Nat) (scale : Int) :
    (c ≠ 0 ∧ 400 < scale ∧ ofDecimal? c scale = none) ∨
    ∃ num den : Nat, 0 < den ∧ (c : ℚ) * 10 ^ scale = (num : ℚ) / den ∧
      (ofDecimal? c scale = nearest? num den ∨
        (ofDecimal? c scale = some zero ∧ 2 * (num * stepsPerUnit) ≤ den)) := by
  unfold ofDecimal?
  by_cases hc : c = 0
  · refine .inr ⟨0, 1, Nat.one_pos, by simp [hc], .inr ⟨if_pos hc, by omega⟩⟩
  rw [if_neg hc]
  by_cases hlarge : 400 < scale
  · exact .inl ⟨hc, hlarge, if_pos hlarge⟩
  rw [if_neg hlarge]
  right
  by_cases hscale : 0 ≤ scale
  · obtain ⟨k, rfl⟩ := Int.eq_ofNat_of_zero_le hscale
    refine ⟨c * 10 ^ k, 1, Nat.one_pos, by simp, .inl ?_⟩
    rw [if_pos hscale, Int.toNat_natCast]
    rfl
  · obtain ⟨k, rfl⟩ : ∃ k : Nat, scale = -k := ⟨scale.natAbs, by omega⟩
    have hquotient : (c : ℚ) * 10 ^ (-k : Int) = (c : ℚ) / (10 ^ k : Nat) := by
      rw [zpow_neg, zpow_natCast, Nat.cast_pow, div_eq_mul_inv]
      rfl
    refine ⟨c, 10 ^ k, Nat.pow_pos (by omega), hquotient, ?_⟩
    rw [if_neg hscale, Int.natAbs_neg, Int.natAbs_natCast]
    by_cases hsmall : c.log2 + 1101 < 3 * k
    · exact .inr ⟨if_pos hsmall, two_mul_steps_le_pow hsmall⟩
    · exact .inl (if_neg hsmall)

/-- What `ofDecimal?` finds is nearest. -/
theorem isNearest_of_ofDecimal? {c : Nat} {scale : Int} {m : Magnitude} (h : ofDecimal? c scale = some m) :
    m.IsNearest ((c : ℚ) * 10 ^ scale) := by
  rcases ofDecimal?_cases c scale with ⟨-, -, hnone⟩ | ⟨num, den, hden, hquotient, hrounded | ⟨hzero, hsmall⟩⟩
  · rw [hnone] at h
    cases h
  · rw [hquotient]
    exact isNearest_of_nearest? hden (hrounded.symm.trans h)
  · obtain rfl : zero = m := Option.some.inj (hzero.symm.trans h)
    rw [hquotient]
    exact isNearest_zero hden hsmall

/-- A power of ten that is not computed is past all magnitudes. -/
private theorem overflowBound_le_pow {k : Nat} (h : 400 < k) : overflowBound ≤ 10 ^ k := by
  unfold overflowBound
  generalize hexponent : 970 = e
  calc (2 * mantissaLimit - 1) * Nat.pow 2 e ≤ 2 ^ 54 * 2 ^ e := Nat.mul_le_mul_right _ (by decide)
    _ = 2 ^ (54 + e) := (Nat.pow_add 2 54 e).symm
    _ ≤ 10 ^ k := two_pow_le_ten_pow (by omega)

/-- There is a nearest magnitude up to half a step past the largest one. -/
theorem ofDecimal?_eq_none_iff (c : Nat) (scale : Int) :
    ofDecimal? c scale = none ↔ (overflowBound : ℚ) ≤ (c : ℚ) * 10 ^ scale := by
  rcases ofDecimal?_cases c scale with ⟨hc, hlarge, hnone⟩ | ⟨num, den, hden, hquotient, hcase⟩
  · obtain ⟨k, rfl⟩ := Int.eq_ofNat_of_zero_le (show 0 ≤ scale by omega)
    have hbound : overflowBound ≤ c * 10 ^ k :=
      (overflowBound_le_pow (by omega)).trans (Nat.le_mul_of_pos_left _ (Nat.pos_of_ne_zero hc))
    rw [zpow_natCast]
    exact iff_of_true hnone (by exact_mod_cast hbound)
  have hden' : (0 : ℚ) < den := Nat.cast_pos.2 hden
  rw [hquotient, le_div_iff₀ hden', ← Nat.cast_mul, Nat.cast_le]
  rcases hcase with hrounded | ⟨hzero, hsmall⟩
  · rw [hrounded, nearest?_eq_none_iff_le num hden]
  · -- half a step is less than one, the bound is more
    have hunit : num ≤ num * stepsPerUnit := Nat.le_mul_of_pos_right _ stepsPerUnit_pos
    have hbound : den ≤ overflowBound * den := Nat.le_mul_of_pos_left _ overflowBound_pos
    rw [hzero]
    refine iff_of_false nofun ?_
    generalize num * stepsPerUnit = scaled at *
    generalize overflowBound * den = bound at *
    omega

/-! ### There is one nearest magnitude -/

/-- Behind a magnitude with an even mantissa comes one with an odd mantissa. -/
private theorem exists_next {m : Magnitude} (h : m.mantissa % 2 = 0) :
    ∃ next : Magnitude, next.mantissa % 2 = 1 ∧ m.steps < next.steps ∧
      ∀ m' : Magnitude, m.steps < m'.steps → next.steps ≤ m'.steps := by
  obtain ⟨mantissa, scale, hlimit, hfull, hscale⟩ := m
  have hlimit' : mantissa + 1 < mantissaLimit := by
    have heven : mantissaLimit % 2 = 0 := rfl
    dsimp only at h
    omega
  refine ⟨⟨mantissa + 1, scale, hlimit', hfull.imp_right Nat.le_succ_of_le, hscale⟩, ?_, ?_, ?_⟩
  · dsimp only at h ⊢
    omega
  · exact Nat.mul_lt_mul_of_pos_right (Nat.lt_succ_self _) (Nat.two_pow_pos _)
  · intro m' hlt
    rcases Nat.lt_or_ge m'.scale scale with hsmall | hge
    · -- smaller scales have smaller numbers
      have hbelow := steps_lt_of_scale_lt hsmall
      have habove : fullMantissa * 2 ^ scale ≤ mantissa * 2 ^ scale :=
        Nat.mul_le_mul_right _ (hfull.resolve_left (by omega))
      exact absurd (hbelow.trans_le habove) (Nat.lt_asymm hlt)
    · obtain ⟨k, hk⟩ := exists_steps_eq_mul hge
      rw [hk] at hlt ⊢
      exact Nat.mul_le_mul_right _ (Nat.lt_of_mul_lt_mul_right hlt)

theorem value_lt_value {m m' : Magnitude} : m.value < m'.value ↔ m.steps < m'.steps := by
  have hunit : (0 : ℚ) < stepsPerUnit := Nat.cast_pos.2 stepsPerUnit_pos
  unfold value
  rw [div_lt_div_iff_of_pos_right hunit, Nat.cast_lt]

theorem eq_of_value_eq {m m' : Magnitude} (h : m.value = m'.value) : m = m' := by
  have hle := not_congr (@value_lt_value m m')
  have hge := not_congr (@value_lt_value m' m)
  rw [h, Nat.not_lt] at hle
  rw [h, Nat.not_lt] at hge
  exact eq_of_steps_eq (Nat.le_antisymm (hge.1 (lt_irrefl _)) (hle.1 (lt_irrefl _)))

/-- Two nearest magnitudes would both be even, and what lies between them nearer. -/
theorem IsNearest.not_lt {m m' : Magnitude} {q : ℚ} (h : m.IsNearest q) (h' : m'.IsNearest q) :
    ¬ m.steps < m'.steps := by
  intro hlt
  have hdist : |m'.value - q| = |m.value - q| := le_antisymm (h'.le m) (h.le m')
  have hne : m' ≠ m := fun heq => absurd (heq ▸ hlt) (Nat.lt_irrefl _)
  obtain ⟨next, hodd, hnext, hleast⟩ := exists_next ((h.even m' hdist).resolve_left hne)
  have heven : m'.mantissa % 2 = 0 := (h'.even m hdist.symm).resolve_left hne.symm
  have hnext' : next.steps < m'.steps := by
    refine Nat.lt_of_le_of_ne (hleast m' hlt) fun heq => ?_
    rw [eq_of_steps_eq heq, heven] at hodd
    cases hodd
  have hleft : m.value < next.value := value_lt_value.2 hnext
  have hright : next.value < m'.value := value_lt_value.2 hnext'
  rcases le_total next.value q with hq | hq
  · have hcloser := h.le next
    rw [abs_of_nonpos (by linarith), abs_of_nonpos (by linarith)] at hcloser
    linarith
  · have hcloser := h'.le next
    rw [abs_of_nonneg (by linarith), abs_of_nonneg (by linarith)] at hcloser
    linarith

theorem IsNearest.unique {m m' : Magnitude} {q : ℚ} (h : m.IsNearest q) (h' : m'.IsNearest q) : m = m' :=
  eq_of_steps_eq (Nat.le_antisymm (Nat.not_lt.1 (h'.not_lt h)) (Nat.not_lt.1 (h.not_lt h')))

theorem isNearest_value (m : Magnitude) : m.IsNearest m.value := by
  refine ⟨fun m' => ?_, fun m' hdist => ?_⟩
  · rw [sub_self, abs_zero]
    exact abs_nonneg _
  · rw [sub_self, abs_zero, abs_eq_zero, sub_eq_zero] at hdist
    exact .inl (eq_of_value_eq hdist)

/-- The whole numbers of at most 53 bits are magnitudes. -/
theorem exists_value_eq_natCast {k : Nat} (h : k < mantissaLimit) : ∃ m : Magnitude, m.value = k := by
  rcases Nat.eq_zero_or_pos k with rfl | hpos
  · refine ⟨zero, ?_⟩
    rw [value, steps_zero, Nat.cast_zero, zero_div]
  have hlog : k.log2 < 53 := (Nat.log2_lt hpos.ne').2 h
  have hlower : 2 ^ k.log2 ≤ k := Nat.log2_self_le hpos.ne'
  have hupper : k < 2 ^ (k.log2 + 1) := Nat.lt_log2_self
  generalize k.log2 = bits at *
  -- shifted to full width, the number is a mantissa
  have hlimit : k * 2 ^ (52 - bits) < mantissaLimit := by
    calc k * 2 ^ (52 - bits) < 2 ^ (bits + 1) * 2 ^ (52 - bits) :=
          Nat.mul_lt_mul_of_pos_right hupper (Nat.two_pow_pos _)
      _ = mantissaLimit := by
        rw [← Nat.pow_add, show bits + 1 + (52 - bits) = 53 by omega]
        rfl
  have hfull : fullMantissa ≤ k * 2 ^ (52 - bits) := by
    calc fullMantissa = 2 ^ bits * 2 ^ (52 - bits) := by
          rw [← Nat.pow_add, show bits + (52 - bits) = 52 by omega]
          rfl
      _ ≤ k * 2 ^ (52 - bits) := Nat.mul_le_mul_right _ hlower
  have hscale : 1022 + bits ≤ maxScale := by
    unfold maxScale
    omega
  refine ⟨⟨k * 2 ^ (52 - bits), 1022 + bits, hlimit, .inr hfull, hscale⟩, ?_⟩
  have hsteps : k * 2 ^ (52 - bits) * Nat.pow 2 (1022 + bits) = k * stepsPerUnit := by
    have hexponent : 1074 = 52 - bits + (1022 + bits) := by omega
    unfold stepsPerUnit
    rw [hexponent, Nat.mul_assoc]
    exact congrArg (k * ·) (Nat.pow_add 2 _ _).symm
  rw [value, steps, hsteps, Nat.cast_mul]
  exact mul_div_cancel_right₀ _ (Nat.cast_pos.2 stepsPerUnit_pos).ne'

end Magnitude

end Binary64

end SqlTemplate
