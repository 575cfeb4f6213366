import SqlTemplate.Proofs.ExactNumbers

/-!
# Shortest decimals read back

The decimal that is chosen for a magnitude lies nearest to it, so that reading it gives the magnitude again
(`Binary64.rounds_shortest`).  A whole magnitude of at most seventeen digits has no digit behind the point in it
(`Binary64.Magnitude.shortest_scale_nonneg`), and the power of ten of the first digit tells how large a decimal is
(`DecimalStyle.le_leadingPower_iff`).
-/

namespace SqlTemplate

/-- A number of a range has all smaller ones in front of it. -/
private theorem range_split {n i : Nat} {before after : List Nat} (h : List.range n = before ++ i :: after) :
    i < n ∧ ∀ j < i, j ∈ before := by
  have hmem : ∀ j, j < n ↔ j ∈ before ∨ j = i ∨ j ∈ after := by
    intro j
    rw [← List.mem_range, h, List.mem_append, List.mem_cons]
  have horder := List.pairwise_lt_range (n := n)
  rw [h, List.pairwise_append, List.pairwise_cons] at horder
  have hi : i < n := (hmem i).2 (.inr (.inl rfl))
  refine ⟨hi, fun j hj => ?_⟩
  rcases (hmem j).1 (by omega) with hbefore | rfl | hafter
  · exact hbefore
  · omega
  · have := horder.2.1.1 j hafter
    omega

namespace Binary64

/-- A number rounds to one magnitude, or to none. -/
theorem Rounds.unique {m? m?' : Option Magnitude} {q : ℚ} (h : Rounds m? q) (h' : Rounds m?' q) : m? = m?' := by
  cases m? with
  | none => exact (h'.eq_none_iff.2 (h.eq_none_iff.1 rfl)).symm
  | some m =>
    cases m?' with
    | none => exact h.eq_none_iff.2 (h'.eq_none_iff.1 rfl)
    | some m' => rw [(h.isNearest m rfl).unique (h'.isNearest m' rfl)]

theorem Rounds.ofDecimal?_eq {m? : Option Magnitude} {coefficient : Nat} {scale : Int}
    (h : Rounds m? (coefficient * 10 ^ scale)) : Magnitude.ofDecimal? coefficient scale = m? :=
  (rounds_ofDecimal? coefficient scale).unique h

namespace Magnitude

/-! ### Rounding keeps the order -/

section Order

variable {m m' : Magnitude} {q : ℚ}

theorem IsNearest.le_value (h : m.IsNearest q) (hq : m'.value ≤ q) : m'.value ≤ m.value := by
  by_contra hlt
  have hcloser := h.le m'
  rw [abs_of_nonpos (by linarith), abs_of_nonpos (by linarith)] at hcloser
  linarith

theorem IsNearest.value_le (h : m.IsNearest q) (hq : q ≤ m'.value) : m.value ≤ m'.value := by
  by_contra hlt
  have hcloser := h.le m'
  rw [abs_of_nonneg (by linarith), abs_of_nonneg (by linarith)] at hcloser
  linarith

end Order

/-! ### The decimal chosen -/

/-- The number that the shortest decimal of a magnitude stands for. -/
def shortestValue (m : Magnitude) : ℚ := m.shortest.1 * 10 ^ m.shortest.2

private theorem value_withoutZeros (fuel coefficient : Nat) (scale : Int) :
    ((withoutZeros fuel coefficient scale).1 : ℚ) * 10 ^ (withoutZeros fuel coefficient scale).2 =
      coefficient * 10 ^ scale := by
  have hten : (10 : ℚ) ≠ 0 := by norm_num
  induction fuel generalizing coefficient scale with
  | zero => rfl
  | succ fuel ih =>
    unfold withoutZeros
    split
    · rename_i hzero
      have hcoefficient : coefficient = coefficient / 10 * 10 := by omega
      calc _ = ((coefficient / 10 : Nat) : ℚ) * 10 ^ (scale + 1) := ih _ _
        _ = ((coefficient / 10 * 10 : Nat) : ℚ) * 10 ^ scale := by
          rw [zpow_add_one₀ hten]
          push_cast
          ring
        _ = coefficient * 10 ^ scale := by rw [← hcoefficient]
    · rfl

private theorem le_scale_withoutZeros (fuel coefficient : Nat) (scale : Int) :
    scale ≤ (withoutZeros fuel coefficient scale).2 := by
  induction fuel generalizing coefficient scale with
  | zero => exact le_refl _
  | succ fuel ih =>
    unfold withoutZeros
    split
    · have := ih (coefficient / 10) (scale + 1)
      omega
    · exact le_refl _

/-- What is found on a grid reads back. -/
private theorem ofDecimal?_of_onGrid? {m : Magnitude} {scale : Int} {n : Nat} (h : m.onGrid? scale = some n) :
    ofDecimal? n scale = some m := by
  unfold onGrid? at h
  simpa only [decide_eq_true_eq] using List.find?_some h

/-- Zero apart, the shortest decimal comes from the first grid on which one reads back, unless that is on none of them
and it is the exact decimal. -/
theorem shortest_cases (m : Magnitude) :
    (m.mantissa = 0 ∧ m.shortest = (0, 0)) ∨
    (∃ (digits : Nat) (n : Nat), digits < 17 ∧ m.onGrid? (m.decimalPower - digits) = some n ∧
      (∀ fewer < digits, m.onGrid? (m.decimalPower - fewer) = none) ∧
      m.shortest = withoutZeros 17 n (m.decimalPower - digits)) ∨
    ((∀ digits < 17, m.onGrid? (m.decimalPower - (digits : Nat)) = none) ∧
      m.shortest = (m.steps * Nat.pow 5 1074, -1074)) := by
  unfold shortest
  by_cases hzero : m.mantissa = 0
  · exact .inl ⟨hzero, if_pos hzero⟩
  rw [if_neg hzero]
  right
  dsimp only
  cases hfound : (List.range 17).findSome? fun (digits : Nat) =>
      (m.onGrid? (m.decimalPower - digits)).map (withoutZeros 17 · (m.decimalPower - digits)) with
  | some found =>
    obtain ⟨before, digits, after, hsplit, hgrid, hbefore⟩ := List.findSome?_eq_some_iff.1 hfound
    obtain ⟨hdigits, hfewer⟩ := range_split hsplit
    obtain ⟨n, hn, rfl⟩ := Option.map_eq_some_iff.1 hgrid
    exact .inl ⟨digits, n, hdigits, hn, fun fewer h => Option.map_eq_none_iff.1 (hbefore fewer (hfewer fewer h)), rfl⟩
  | none =>
    rw [List.findSome?_eq_none_iff] at hfound
    exact .inr ⟨fun digits hdigits => Option.map_eq_none_iff.1 (hfound digits (List.mem_range.2 hdigits)), rfl⟩

/-- A step is `2 ^ -1074`, and `5 ^ 1074 · 10 ^ -1074`. -/
theorem value_exact (m : Magnitude) : ((m.steps * Nat.pow 5 1074 : Nat) : ℚ) * 10 ^ (-1074 : Int) = m.value := by
  have hexponent : (-1074 : Int) = -(1074 : Nat) := rfl
  rw [hexponent, value]
  unfold stepsPerUnit
  generalize 1074 = exponent
  have hpow : Nat.pow 5 exponent = 5 ^ exponent ∧ Nat.pow 2 exponent = 2 ^ exponent := ⟨rfl, rfl⟩
  have hten : (10 : ℚ) = 2 * 5 := by norm_num
  rw [hpow.1, hpow.2, zpow_neg, zpow_natCast, hten, mul_pow]
  push_cast
  field_simp

end Magnitude

/-- Reading the shortest decimal of a magnitude gives the magnitude again. -/
theorem rounds_shortest (m : Magnitude) : Rounds (some m) m.shortestValue := by
  unfold Magnitude.shortestValue
  rcases m.shortest_cases with ⟨hmantissa, hshortest⟩ | ⟨digits, n, -, hgrid, -, hshortest⟩ | ⟨-, hshortest⟩
  · have hvalue : m.value = 0 := by
      rw [Magnitude.value, Magnitude.steps, hmantissa, Nat.zero_mul, Nat.cast_zero, zero_div]
    have hrounds := rounds_some m
    rw [hvalue] at hrounds
    rwa [hshortest, Nat.cast_zero, zero_mul]
  · rw [hshortest, Magnitude.value_withoutZeros, ← Magnitude.ofDecimal?_of_onGrid? hgrid]
    exact rounds_ofDecimal? _ _
  · rw [hshortest, Magnitude.value_exact]
    exact rounds_some m

/-! ### Whole magnitudes -/

private theorem roundedQuotient_mul (k : Nat) {den : Nat} (hden : 0 < den) : roundedQuotient (k * den) den = k := by
  have hquotient : k * den / den = k := Nat.mul_div_cancel k hden
  have hrest : k * den % den = 0 := Nat.mul_mod_left k den
  rw [roundedQuotient, hquotient, hrest]
  exact if_pos (.inl (by omega))

namespace Magnitude

variable {m : Magnitude} {k : Nat}

theorem value_eq_natCast_iff : m.value = k ↔ m.steps = k * stepsPerUnit := by
  have hunit : (stepsPerUnit : ℚ) ≠ 0 := (Nat.cast_pos.2 stepsPerUnit_pos).ne'
  rw [value, div_eq_iff hunit, ← Nat.cast_mul, Nat.cast_inj]

theorem floor_of_value (h : m.value = k) : m.floor = k := by
  rw [← floor_value, h, Nat.floor_natCast]

theorem isWhole_of_value (h : m.value = k) : m.isWhole = true := by
  rw [isWhole, value_eq_natCast_iff.1 h, Nat.mul_mod_left]
  rfl

private theorem decimalPower_of_value (h : m.value = k) (hk : 0 < k) :
    m.decimalPower = (Integer.digitCount k : Int) - 1 := by
  have hsteps : stepsPerUnit ≤ m.steps := by
    rw [value_eq_natCast_iff.1 h]
    exact Nat.le_mul_of_pos_left _ hk
  rw [decimalPower, if_pos hsteps, floor_of_value h]

/-- A whole magnitude is found on the grid of the whole numbers. -/
private theorem onGrid?_zero (h : m.value = k) : m.onGrid? 0 = some k := by
  have hrounded : roundedQuotient m.steps (stepsPerUnit * Nat.pow 10 0) = k := by
    have hunit : Nat.pow 10 0 = 1 := rfl
    rw [hunit, Nat.mul_one, value_eq_natCast_iff.1 h, roundedQuotient_mul k stepsPerUnit_pos]
  have hread : ofDecimal? k 0 = some m := by
    refine Rounds.ofDecimal?_eq ?_
    rw [zpow_zero, mul_one, ← h]
    exact rounds_some m
  rw [onGrid?, inUnits, if_pos (le_refl 0)]
  dsimp only [Int.toNat_zero]
  rw [hrounded]
  exact List.find?_cons_of_pos (decide_eq_true hread)

/-- A whole magnitude of at most seventeen digits has no digits behind the point in its shortest decimal. -/
theorem shortest_scale_nonneg (h : m.value = k) (hk : 0 < k) (hdigits : Integer.digitCount k ≤ 17) :
    0 ≤ m.shortest.2 := by
  have hpower := decimalPower_of_value h hk
  have hpos := Integer.digitCount_pos k
  have hplace : m.decimalPower - ((Integer.digitCount k - 1 : Nat) : Int) = 0 := by omega
  rcases m.shortest_cases with ⟨-, hshortest⟩ | ⟨digits, n, -, -, hbefore, hshortest⟩ | ⟨hnone, -⟩
  · rw [hshortest]
  · -- the grids before this one are without the magnitude, so that of the whole numbers is not among them
    have hfirst : digits ≤ Integer.digitCount k - 1 := by
      by_contra hlt
      have hmissed := hbefore (Integer.digitCount k - 1) (by omega)
      rw [hplace, onGrid?_zero h] at hmissed
      cases hmissed
    have hscale := le_scale_withoutZeros 17 n (m.decimalPower - digits)
    rw [hshortest]
    omega
  · have hmissed := hnone (Integer.digitCount k - 1) (by omega)
    rw [hplace, onGrid?_zero h] at hmissed
    cases hmissed

end Magnitude

end Binary64

/-! ### The first digit -/

/-- The first of the digits stands for a power of ten that the number reaches, and for the last such. -/
theorem DecimalStyle.le_leadingPower_iff {coefficient : Nat} (hpos : 0 < coefficient) (scale power : Int) :
    power ≤ leadingPower (Integer.naturalText coefficient) scale ↔ (10 : ℚ) ^ power ≤ coefficient * 10 ^ scale := by
  have hten : (0 : ℚ) < 10 ^ scale := by positivity
  have hshift : (10 : ℚ) ^ power ≤ coefficient * 10 ^ scale ↔ (10 : ℚ) ^ (power - scale) ≤ coefficient := by
    rw [zpow_sub₀ (by norm_num), div_le_iff₀ hten]
  have hcount : leadingPower (Integer.naturalText coefficient) scale =
      scale + (Integer.digitCount coefficient : Int) - 1 := rfl
  rw [hshift, hcount]
  have hdigits := Integer.digitCount_pos coefficient
  by_cases hsmall : power - scale ≤ 0
  · have hone : (10 : ℚ) ^ (power - scale) ≤ 1 := zpow_le_one_of_nonpos₀ (by norm_num) hsmall
    have hcoefficient : (1 : ℚ) ≤ coefficient := Nat.one_le_cast.2 hpos
    exact iff_of_true (by omega) (hone.trans hcoefficient)
  · obtain ⟨place, hplace⟩ : ∃ place : Nat, power - scale = place := ⟨(power - scale).toNat, by omega⟩
    have hdigit := Integer.lt_digitCount (show 0 < place by omega) coefficient
    have hcast : (10 : ℚ) ^ place ≤ coefficient ↔ 10 ^ place ≤ coefficient := by
      rw [← Nat.cast_ofNat, ← Nat.cast_pow, Nat.cast_le]
    rw [hplace, zpow_natCast, hcast, ← hdigit]
    omega

end SqlTemplate
