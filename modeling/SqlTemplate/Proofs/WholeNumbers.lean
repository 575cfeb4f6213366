import SqlTemplate.Proofs.NumberGrammar
import SqlTemplate.Proofs.ShortestDecimals

/-!
# Whole binary numbers

Below `10 ^ 15` a whole binary number is written as an integer, and from `10 ^ 16` on with a power of ten.  Between the
two its digits are put in place, and there it ends in a point and a zero (`Kind.format_whole`).
-/

namespace SqlTemplate

/-! ### Texts that do not end in a point and a zero -/

private theorem not_pointZero_suffix {t : Text} (h : '.' ∉ t) : ¬ ".0".toList <:+ t := fun hsuffix =>
  h (hsuffix.subset List.mem_cons_self)

/-- The digits of a power stand at the end. -/
private theorem Numeral.IsPrinted.not_pointZero_suffix {n : Numeral} (h : n.IsPrinted) {p : PowerOfTen}
    (hp : n.power = some p) : ¬ ".0".toList <:+ n.text := by
  obtain ⟨-, -, hdigits, hlength⟩ := h.power p hp
  have hend : p.digits <:+ n.text := by
    refine List.IsSuffix.trans ?_ (List.suffix_append _ _)
    rw [hp, Option.elim_some, PowerOfTen.text]
    exact (List.suffix_append _ _).trans (List.suffix_cons _ _)
  intro hsuffix
  have hin : ".0".toList <:+ p.digits := List.suffix_of_suffix_length_le hsuffix hend hlength
  have hpoint := hdigits.isDigit '.' (hin.subset List.mem_cons_self)
  exact absurd hpoint (by decide)

private theorem Integer.point_not_mem_text (n : Int) : '.' ∉ text n := by
  have hdigits : '.' ∉ naturalText n.natAbs := fun h => absurd (isDigit_of_mem_naturalText h) (by decide)
  unfold text signed
  split
  · simpa using hdigits
  · exact hdigits

namespace Binary64

namespace Magnitude

variable {m u : Magnitude} {k : Nat}

/-! ### Where the first digit of a whole number stands -/

/-- A decimal is chosen on the same side of a magnitude that is its own shortest decimal. -/
private theorem le_shortestValue_iff (hu : u.shortestValue = u.value) :
    u.value ≤ m.shortestValue ↔ u.value ≤ m.value := by
  have hnearest : m.IsNearest m.shortestValue := (rounds_shortest m).isNearest m rfl
  -- rounding keeps the order, so that only two equal magnitudes could change sides
  refine ⟨hnearest.le_value, fun hle => ?_⟩
  by_contra hlt
  have hge : m.value ≤ u.value := hnearest.value_le (not_le.1 hlt).le
  obtain rfl : u = m := eq_of_value_eq (le_antisymm hle hge)
  exact hlt hu.ge

/-- The two powers of ten at which the notation changes are their own shortest decimals. -/
private theorem exists_value_ten_pow {power : Nat} (hpower : power = 15 ∨ power = 16) :
    ∃ u : Magnitude, u.value = (10 ^ power : Nat) ∧ u.shortestValue = u.value := by
  have hself : ∀ u : Magnitude, u.steps = 10 ^ power * stepsPerUnit → u.shortest = (1, (power : Int)) →
      u.value = (10 ^ power : Nat) ∧ u.shortestValue = u.value := by
    intro u hsteps hshortest
    have hvalue : u.value = (10 ^ power : Nat) := value_eq_natCast_iff.2 hsteps
    refine ⟨hvalue, ?_⟩
    rw [shortestValue, hshortest, hvalue, zpow_natCast]
    push_cast
    exact one_mul _
  rcases hpower with rfl | rfl
  · exact ⟨⟨8 * 10 ^ 15, 1071, by decide⟩, hself _ (by decide +kernel) (by decide +kernel)⟩
  · exact ⟨⟨5 * 10 ^ 15, 1075, by decide⟩, hself _ (by decide +kernel) (by decide +kernel)⟩

private theorem shortest_coefficient_pos (h : 0 < m.value) : 0 < m.shortest.1 := by
  by_contra hnot
  have hzero : m.shortestValue ≤ zero.value := by
    rw [shortestValue, Nat.eq_zero_of_not_pos hnot, Nat.cast_zero, zero_mul, value_zero]
  have hle := ((rounds_shortest m).isNearest m rfl).value_le hzero
  rw [value_zero] at hle
  exact absurd h (not_lt.2 hle)

private theorem le_leadingPower_shortest_iff {power : Nat} (hpower : power = 15 ∨ power = 16) (h : m.value = k)
    (hk : 0 < k) :
    (power : Int) ≤ DecimalStyle.leadingPower (Integer.naturalText m.shortest.1) m.shortest.2 ↔ 10 ^ power ≤ k := by
  have hpos : 0 < m.shortest.1 := shortest_coefficient_pos (h.symm ▸ Nat.cast_pos.2 hk)
  obtain ⟨u, hvalue, hself⟩ := exists_value_ten_pow hpower
  have hside := @le_shortestValue_iff m u hself
  rw [hvalue, h, Nat.cast_le, Nat.cast_pow, Nat.cast_ofNat] at hside
  rw [DecimalStyle.le_leadingPower_iff hpos, zpow_natCast]
  exact hside

end Magnitude

/-! ### The texts -/

variable {m : Magnitude} {k : Nat}

private theorem literal_of_lt (h : m.value = k) (hk : k < 10 ^ 15) (negative : Bool) :
    literal negative m = Integer.text (truncated negative m) := by
  have hfloor : m.floor < wholeLimit := by rwa [Magnitude.floor_of_value h]
  rw [literal, Magnitude.isWhole_of_value h, Bool.true_and, if_pos (decide_eq_true hfloor)]

private theorem literal_of_le (h : m.value = k) (hk : 10 ^ 15 ≤ k) (negative : Bool) :
    literal negative m = text (.finite negative m) := by
  have hfloor : ¬ m.floor < wholeLimit := by
    rw [Magnitude.floor_of_value h]
    exact Nat.not_lt.2 hk
  rw [literal, Magnitude.isWhole_of_value h, Bool.true_and, if_neg (by simpa using hfloor)]

/-- Up to sixteen digits no power is marked, and no digit stands behind the point. -/
private theorem pointZero_suffix_literal (h : m.value = k) (hle : 10 ^ 15 ≤ k) (hlt : k < 10 ^ 16) (negative : Bool) :
    ".0".toList <:+ literal negative m := by
  have hpos : 0 < k := by omega
  have hfirst := (Magnitude.le_leadingPower_shortest_iff (.inl rfl) h hpos).2 hle
  have hlast := mt (Magnitude.le_leadingPower_shortest_iff (.inr rfl) h hpos).1 (Nat.not_le.2 hlt)
  have hcount : ¬ 16 < Integer.digitCount k := by
    rw [Integer.lt_digitCount (by decide)]
    exact Nat.not_le.2 hlt
  have hscale : 0 ≤ m.shortest.2 := Magnitude.shortest_scale_nonneg h hpos (by omega)
  have hplace : style.isPositional m.shortest.2
      (DecimalStyle.leadingPower (Integer.naturalText m.shortest.1) m.shortest.2) = true := by
    simp only [style, Bool.and_eq_true, decide_eq_true_eq]
    omega
  have htext : ".0".toList <:+ style.text (Integer.naturalText m.shortest.1) m.shortest.2 := by
    rw [DecimalStyle.text, if_pos hplace, DecimalStyle.positional, if_pos hscale]
    exact List.suffix_append _ _
  rw [literal_of_le h hle]
  cases negative with
  | false => exact htext
  | true => exact htext.trans (List.suffix_cons _ _)

/-- From seventeen digits on a power is marked. -/
private theorem not_pointZero_suffix_literal (h : m.value = k) (hle : 10 ^ 16 ≤ k) (negative : Bool) :
    ¬ ".0".toList <:+ literal negative m := by
  have hlast := (Magnitude.le_leadingPower_shortest_iff (.inr rfl) h (by omega)).2 hle
  have hplace : ¬ style.isPositional m.shortest.2
      (DecimalStyle.leadingPower (Integer.naturalText m.shortest.1) m.shortest.2) = true := by
    simp only [style, Bool.and_eq_true, decide_eq_true_eq, not_and]
    omega
  have hpower : ∃ p, (numeral negative m).power = some p := by
    rw [numeral, DecimalStyle.numeral, if_neg hplace]
    exact ⟨_, rfl⟩
  obtain ⟨p, hp⟩ := hpower
  rw [literal_of_le h (by omega), ← text_numeral]
  exact (isPrinted_numeral negative m).not_pointZero_suffix hp

/-- A literal of a whole number ends in a point and a zero exactly if the number has sixteen digits. -/
theorem pointZero_suffix_literal_iff (h : m.value = k) (negative : Bool) :
    ".0".toList <:+ literal negative m ↔ 10 ^ 15 ≤ k ∧ k < 10 ^ 16 := by
  by_cases hlow : k < 10 ^ 15
  · refine iff_of_false ?_ (by omega)
    rw [literal_of_lt h hlow]
    exact not_pointZero_suffix (Integer.point_not_mem_text _)
  by_cases hhigh : k < 10 ^ 16
  · exact iff_of_true (pointZero_suffix_literal h (Nat.not_lt.1 hlow) hhigh negative) ⟨Nat.not_lt.1 hlow, hhigh⟩
  · exact iff_of_false (not_pointZero_suffix_literal h (Nat.not_lt.1 hhigh) negative) (by omega)

end Binary64

/-! ### Slots -/

/-- A whole number goes into plain and float slots alike, as an integer below `10 ^ 15`; a point and a zero stand at the
end of its text exactly from there on and below `10 ^ 16`. -/
theorem Kind.format_whole {m : Binary64.Magnitude} {k : Nat} (h : m.value = k) (negative : Bool) (escape : Escape) :
    ∃ t : Text,
      Kind.plain.format (.float (.finite negative m)) escape = ⟨[], .ok t⟩ ∧
      Kind.float.format (.float (.finite negative m)) escape = ⟨[], .ok t⟩ ∧
      (k < 10 ^ 15 → t = Integer.text (Integer.negateIf negative k)) ∧
      (".0".toList <:+ t ↔ 10 ^ 15 ≤ k ∧ k < 10 ^ 16) := by
  refine ⟨Binary64.literal negative m, Draft.fill_fixed escape _, Draft.fill_ofExcept _ escape, fun hk => ?_,
    Binary64.pointZero_suffix_literal_iff h negative⟩
  rw [Binary64.literal_of_lt h hk, Binary64.truncated, Binary64.Magnitude.floor_of_value h]

/-- The last whole number below `10 ^ 16`, with a minus. -/
theorem Kind.format_whole_sixteen_digits :
    Binary64.Magnitude.value ⟨4999999999999999, 1075, by decide⟩ = (9999999999999998 : Nat) ∧
    (Kind.float.format (.float (.finite true ⟨4999999999999999, 1075, by decide⟩)) .backslash).outcome =
      .ok "-9999999999999998.0".toList ∧
    ".0".toList <:+ "-9999999999999998.0".toList := by
  have hvalue : Binary64.Magnitude.value ⟨4999999999999999, 1075, by decide⟩ = (9999999999999998 : Nat) :=
    Binary64.Magnitude.value_eq_natCast_iff.2 (by decide +kernel)
  have htext : (Kind.float.format (.float (.finite true ⟨4999999999999999, 1075, by decide⟩)) .backslash).outcome =
      .ok "-9999999999999998.0".toList := by
    decide +kernel
  obtain ⟨t, -, hfloat, -, hending⟩ := Kind.format_whole hvalue true .backslash
  rw [hfloat] at htext
  obtain rfl := Except.ok.inj htext
  exact ⟨hvalue, congrArg Filled.outcome hfloat, hending.2 (by decide)⟩

/-- `10 ^ 15` is whole, and its text ends in a point and a zero in plain and in float slots. -/
theorem Kind.format_ten_pow_fifteen :
    Binary64.Magnitude.value ⟨8000000000000000, 1071, by decide⟩ = (10 ^ 15 : Nat) ∧
    (Kind.plain.format (.float (.finite false ⟨8000000000000000, 1071, by decide⟩)) .backslash).outcome =
      .ok "1000000000000000.0".toList ∧
    (Kind.float.format (.float (.finite false ⟨8000000000000000, 1071, by decide⟩)) .backslash).outcome =
      .ok "1000000000000000.0".toList ∧
    ".0".toList <:+ "1000000000000000.0".toList :=
  ⟨Binary64.Magnitude.value_eq_natCast_iff.2 (by decide +kernel), by decide +kernel, by decide +kernel, by decide⟩

end SqlTemplate
