import SqlTemplate.Proofs.TextIntegers

/-!
# Exact numbers

Integers, binary numbers, decimals and texts stand for numbers (`Value.Denotes`), and a float slot is meant to write
the binary number nearest to that number, whatever it was written as, and to refuse one that has none (`FloatText`).
It does so for all of them but integers past the largest binary number, signalling decimals and texts with a separator
in front of the number (`Slot.float_nearest`).
-/

namespace SqlTemplate

/-! ### Signs -/

/-- Minus the number, if that is asked for. -/
def withSign (negative : Bool) (q : ℚ) : ℚ := if negative then -q else q

private theorem abs_withSign (negative : Bool) {q : ℚ} (hq : 0 ≤ q) : |withSign negative q| = q := by
  cases negative with
  | false => exact abs_of_nonneg hq
  | true => exact (abs_neg q).trans (abs_of_nonneg hq)

private theorem withSign_lt_zero (negative : Bool) {q : ℚ} (hq : 0 < q) :
    withSign negative q < 0 ↔ negative = true := by
  cases negative with
  | false => exact iff_of_false (not_lt.2 hq.le) Bool.false_ne_true
  | true => exact iff_of_true (neg_lt_zero.2 hq) rfl

private theorem withSign_natAbs (n : Int) : withSign (n < 0) n.natAbs = n := by
  rw [withSign, Nat.cast_natAbs]
  simp only [decide_eq_true_eq]
  split
  · rename_i hneg
    rw [abs_of_neg hneg, Int.cast_neg, neg_neg]
  · rename_i hnonneg
    rw [abs_of_nonneg (not_lt.1 hnonneg)]

/-! ### Rounding to a magnitude, if there is one -/

namespace Binary64

/-- The magnitude nearest to a number, which is missing from half a step past the largest one on. -/
structure Rounds (m? : Option Magnitude) (q : ℚ) : Prop where
  isNearest : ∀ m, m? = some m → m.IsNearest q
  eq_none_iff : m? = none ↔ (overflowBound : ℚ) ≤ q

theorem rounds_ofDecimal? (coefficient : Nat) (scale : Int) :
    Rounds (Magnitude.ofDecimal? coefficient scale) (coefficient * 10 ^ scale) :=
  ⟨fun _ => Magnitude.isNearest_of_ofDecimal?, Magnitude.ofDecimal?_eq_none_iff coefficient scale⟩

private theorem rounds_nearest?_one (n : Nat) : Rounds (Magnitude.nearest? n 1) n := by
  refine ⟨fun m hm => ?_, ?_⟩
  · have hnearest := Magnitude.isNearest_of_nearest? Nat.one_pos hm
    rwa [Nat.cast_one, div_one] at hnearest
  · rw [nearest?_one_eq_none_iff, Nat.cast_le]

namespace Magnitude

private theorem value_nonneg (m : Magnitude) : 0 ≤ m.value := div_nonneg (Nat.cast_nonneg _) (Nat.cast_nonneg _)

private theorem steps_le (m : Magnitude) : m.steps ≤ (mantissaLimit - 1) * 2 ^ maxScale := by
  have hmantissa := m.canonical.1
  exact Nat.mul_le_mul (by omega) (Nat.pow_le_pow_right Nat.two_pos m.canonical.2.2)

private theorem value_lt_overflowBound (m : Magnitude) : m.value < overflowBound := by
  have hunit : (0 : ℚ) < stepsPerUnit := Nat.cast_pos.2 stepsPerUnit_pos
  rw [← not_le, value, le_div_iff₀ hunit, ← Nat.cast_mul, Nat.cast_le,
    ← nearest?_eq_none_iff_le m.steps stepsPerUnit_pos, nearest?_eq_none_iff stepsPerUnit_pos]
  intro hlarge
  have hsteps := m.steps_le
  have htop : 0 < 2 ^ maxScale := Nat.two_pow_pos _
  have hlimit : 0 < mantissaLimit := by decide
  generalize 2 ^ maxScale = top at *
  have hcancel : (2 * mantissaLimit - 1) * top ≤ 2 * m.steps := by
    refine Nat.le_of_mul_le_mul_right ?_ stepsPerUnit_pos
    calc (2 * mantissaLimit - 1) * top * stepsPerUnit = (2 * mantissaLimit - 1) * (stepsPerUnit * top) := by ring
      _ ≤ 2 * (m.steps * stepsPerUnit) := hlarge
      _ = 2 * m.steps * stepsPerUnit := by ring
  have hodd : 2 * mantissaLimit - 1 = 2 * (mantissaLimit - 1) + 1 := by omega
  have hdouble : (2 * mantissaLimit - 1) * top = 2 * ((mantissaLimit - 1) * top) + top := by
    rw [hodd]
    ring
  omega

@[simp] theorem value_zero : zero.value = 0 := by
  rw [value, steps_zero, Nat.cast_zero, zero_div]

theorem zero_isNearest_zero : zero.IsNearest 0 := value_zero ▸ zero.isNearest_value

end Magnitude

theorem rounds_some (m : Magnitude) : Rounds (some m) m.value := by
  refine ⟨fun m' hm => ?_, iff_of_false nofun (not_le.2 m.value_lt_overflowBound)⟩
  obtain rfl := Option.some.inj hm
  exact m.isNearest_value

/-- Zero has no sign when it is written. -/
theorem literal_zero (negative : Bool) : literal negative .zero = ['0'] := by
  cases negative <;> decide +kernel

end Binary64

/-! ### Integers as numerals -/

private theorem Text.digitValue?_of_isDigit {c : Char} (h : c.isDigit = true) :
    digitValue? c = some (c.toNat - '0'.toNat) := by
  obtain ⟨hzero, hnine⟩ := Char.isDigit_iff_toNat.1 h
  have hrow : zeros.find? (fun start => start ≤ c.toNat && c.toNat < start + 10) = some 0x30 := by
    have h0 : '0'.toNat = 0x30 := rfl
    have h9 : '9'.toNat = 0x39 := rfl
    refine List.find?_cons_of_pos ?_
    simp only [Bool.and_eq_true, decide_eq_true_eq]
    omega
  rw [digitValue?, hrow]
  rfl

theorem Text.isDigit_of_isDigit {c : Char} (h : c.isDigit = true) : isDigit c = true := by
  rw [isDigit, digitValue?_of_isDigit h]
  rfl

namespace Integer

theorem digitsValue_naturalText (n : Nat) : Text.digitsValue (naturalText n) = n := by
  refine Eq.trans (List.foldl_ext _ _ 0 fun value c hc => ?_) (ofDigitChars_naturalText n)
  rw [Text.digitValue?_of_isDigit (isDigit_of_mem_naturalText hc)]
  rfl

/-- What an integer is written as. -/
def numeral (n : Int) : Numeral := ⟨[], if n < 0 then some .minus else none, naturalText n.natAbs, none, none⟩

theorem text_numeral (n : Int) : (numeral n).text = text n := by
  by_cases hneg : n < 0 <;> simp [numeral, Numeral.text, text, signed, Sign.text, hneg]

theorem isNegative_numeral (n : Int) : (numeral n).isNegative = decide (n < 0) := by
  by_cases hneg : n < 0 <;> simp [numeral, Numeral.isNegative, hneg]

theorem size_numeral (n : Int) : (numeral n).size = n.natAbs := by
  have hwhole : Text.digitsValue (numeral n).whole = n.natAbs := digitsValue_naturalText _
  rw [Numeral.size, hwhole]
  simp [numeral, Text.digitsValue]

theorem value_numeral (n : Int) : (numeral n).value = n := by
  rw [← withSign_natAbs n, ← size_numeral, ← isNegative_numeral]
  rfl

theorem isProper_numeral (n : Int) : (numeral n).IsProper :=
  ⟨nofun, fun _ hc => Text.isDigit_of_isDigit (isDigit_of_mem_naturalText hc), nofun, .inl Nat.toDigits_ne_nil, nofun⟩

private theorem isLongestIn_numeral (n : Int) : (numeral n).IsLongestIn (text n) :=
  text_numeral n ▸ (isProper_numeral n).isLongestIn_text

end Integer

/-! ### What a float slot is meant to make of a number -/

/-- The text of the nearest binary number; a type mismatch if there is none, or no number. -/
inductive FloatText (shown : Text) : Option ℚ → Except Fault Text → Prop
  | nearest {q : ℚ} {m : Binary64.Magnitude} (hsmall : |q| < Binary64.overflowBound) (hm : m.IsNearest |q|) :
    FloatText shown (some q) (.ok (Binary64.literal (q < 0) m))
  | overflow {q : ℚ} (hlarge : (Binary64.overflowBound : ℚ) ≤ |q|) :
    FloatText shown (some q) (.error (Slot.nonFinite .float shown))
  | notFinite : FloatText shown none (.error (Slot.nonFinite .float shown))

namespace FloatText

variable {shown shown' : Text} {q : ℚ}

theorem isQuery {number : Option ℚ} {f : Fault} (h : FloatText shown number (.error f)) : f.isQuery = true := by
  cases h <;> rfl

/-- A number that is not too large has one text, however the value is shown. -/
private theorem eq_of_lt {r r' : Except Fault Text} (hsmall : |q| < Binary64.overflowBound)
    (h : FloatText shown (some q) r) (h' : FloatText shown' (some q) r') : r = r' := by
  cases h with
  | overflow hlarge => exact absurd hlarge (not_le.2 hsmall)
  | nearest _ hm =>
    cases h' with
    | overflow hlarge => exact absurd hlarge (not_le.2 hsmall)
    | nearest _ hm' => rw [hm.unique hm']

private theorem eq_of_le {r : Except Fault Text} (hlarge : (Binary64.overflowBound : ℚ) ≤ |q|)
    (h : FloatText shown (some q) r) : r = .error (Slot.nonFinite .float shown) := by
  cases h with
  | overflow _ => rfl
  | nearest hsmall _ => exact absurd hlarge (not_le.2 hsmall)

end FloatText

namespace Slot

/-- Rounding without regard to the sign, and putting the sign in front, gives the text of the number. -/
private theorem floatText_of_rounds {m? : Option Binary64.Magnitude} {q : ℚ} (h : Binary64.Rounds m? q) (hq : 0 ≤ q)
    (negative : Bool) (shown : Text) :
    FloatText shown (some (withSign negative q)) (floatText shown (Binary64.ofMagnitude? negative m?)) := by
  have habs := abs_withSign negative hq
  cases m? with
  | none => exact .overflow (habs.symm ▸ h.eq_none_iff.1 rfl)
  | some m =>
    have hsmall : q < Binary64.overflowBound := by
      by_contra hlarge
      cases h.eq_none_iff.2 (not_lt.1 hlarge)
    have hm : m.IsNearest q := h.isNearest m rfl
    have hliteral : Binary64.literal negative m = Binary64.literal (withSign negative q < 0) m := by
      rcases hq.eq_or_lt with hzero | hpos
      · have hmagnitude : m = .zero := hm.unique (hzero ▸ Binary64.Magnitude.zero_isNearest_zero)
        rw [hmagnitude, Binary64.literal_zero, Binary64.literal_zero]
      · congr 1
        rw [Bool.eq_iff_iff, decide_eq_true_eq]
        exact (withSign_lt_zero negative hpos).symm
    rw [Binary64.ofMagnitude?, floatText, hliteral]
    exact .nearest (habs.symm ▸ hsmall) (habs.symm ▸ hm)

end Slot

/-! ### Values as numbers -/

/-- The number that a value stands for, if it does for one, and how messages show the value. -/
inductive Value.Denotes : Value → Text → Option ℚ → Prop
  | bool (b : Bool) (shown : Text) : Denotes (.bool b) shown (some b.toNat)
  | int (n : Int) : Denotes (.int n) (Integer.text n) (some n)
  | float (negative : Bool) (m : Binary64.Magnitude) :
    Denotes (.float (.finite negative m)) (Binary64.finite negative m).text (some (withSign negative m.value))
  | floatInfinite (negative : Bool) :
    Denotes (.float (.infinite negative)) (Binary64.infinite negative).text none
  | floatNan : Denotes (.float .nan) Binary64.nan.text none
  | decimal (negative : Bool) (coefficient : Nat) (scale : Int) :
    Denotes (.decimal (.finite negative coefficient scale)) (Decimal.finite negative coefficient scale).shown
      (some (withSign negative (coefficient * 10 ^ scale)))
  | decimalInfinite (negative : Bool) :
    Denotes (.decimal (.infinite negative)) (Decimal.infinite negative).shown none
  | decimalNan (negative signalling : Bool) :
    Denotes (.decimal (.nan negative signalling)) (Decimal.nan negative signalling).shown none
  | text {t : Text} {n : Numeral} (h : n.IsLongestIn t) : Denotes (.text t) t.quoted (some n.value)
  | textWithoutNumeral {t : Text} (h : ∀ n : Numeral, n.IsProper → ¬ n.text <+: t) :
    Denotes (.text t) t.quoted (some 0)

/-- Numbers and texts all stand for a number, or for none. -/
theorem Value.exists_denotes {v : Value} (h : v.number?.isSome = true ∨ ∃ t, v = .text t) :
    ∃ shown number, v.Denotes shown number := by
  cases v with
  | bool b => exact ⟨[], _, .bool b []⟩
  | int n => exact ⟨_, _, .int n⟩
  | float x =>
    cases x with
    | nan => exact ⟨_, _, .floatNan⟩
    | infinite negative => exact ⟨_, _, .floatInfinite negative⟩
    | finite negative m => exact ⟨_, _, .float negative m⟩
  | decimal d =>
    cases d with
    | finite negative coefficient scale => exact ⟨_, _, .decimal negative coefficient scale⟩
    | infinite negative => exact ⟨_, _, .decimalInfinite negative⟩
    | nan negative signalling => exact ⟨_, _, .decimalNan negative signalling⟩
  | text t =>
    cases hscan : Numeral.scan t with
    | none => exact ⟨_, _, .textWithoutNumeral (Numeral.scan_eq_none_iff.1 hscan)⟩
    | some n => exact ⟨_, _, .text (Numeral.scan_eq_some_iff.1 hscan)⟩
  | _ => simp [number?] at h

private theorem Value.denotes_text_integer (n : Int) :
    (Value.text (Integer.text n)).Denotes (Integer.text n).quoted (some n) := by
  have h := Denotes.text (Integer.isLongestIn_numeral n)
  rwa [Integer.value_numeral] at h

/-- An integer as a decimal. -/
def Decimal.ofInt (n : Int) : Decimal := .finite (n < 0) n.natAbs 0

private theorem Value.denotes_ofInt (n : Int) :
    (Value.decimal (.ofInt n)).Denotes (Decimal.ofInt n).shown (some n) := by
  have h := Denotes.decimal (n < 0) n.natAbs 0
  rwa [zpow_zero, mul_one, withSign_natAbs] at h

namespace Slot

private theorem float_int_of_lt {n : Int} (h : n.natAbs < Binary64.overflowBound) (shown : Text) :
    FloatText shown (some n) (float (.int n)) := by
  have hrounds := floatText_of_rounds (Binary64.rounds_nearest?_one n.natAbs) (Nat.cast_nonneg _) (n < 0) shown
  obtain ⟨m, hm⟩ : ∃ m, Binary64.Magnitude.nearest? n.natAbs 1 = some m := by
    rw [← Option.ne_none_iff_exists', ne_eq, Binary64.nearest?_one_eq_none_iff]
    exact Nat.not_le.2 h
  rw [withSign_natAbs, hm] at hrounds
  rw [float, Binary64.ofInt, hm]
  exact hrounds

theorem readFloat_of_isReadable {t : Text} {n : Numeral} (hscan : Numeral.scan t = some n)
    (hreadable : n.isReadable = true) : readFloat t = .ok (.ofDecimal n.isNegative n.coefficient n.scale) := by
  simp only [readFloat, hscan, Numeral.toBinary64, hreadable, if_pos]

private theorem float_text_of_isReadable {t : Text} {n : Numeral} (hscan : Numeral.scan t = some n)
    (hreadable : n.isReadable = true) :
    float (.text t) = floatText t.quoted (.ofDecimal n.isNegative n.coefficient n.scale) := by
  rw [float, readFloat_of_isReadable hscan hreadable]
  rfl

/-- A float slot makes of a value what it is meant to make of the number, unless the value is one that it cannot
write. -/
private theorem floatText_float {v : Value} {shown : Text} {number : Option ℚ} (h : v.Denotes shown number)
    (hwritable : ∀ f, ¬ Unwritable .float v f) : FloatText shown number (float v) := by
  cases h with
  | bool b =>
    have hint : float (.bool b) = float (.int b.toNat) := by
      cases b <;> decide +kernel
    have hsmall : (b.toNat : Int).natAbs < Binary64.overflowBound := by
      cases b <;> decide +kernel
    have hfloat := float_int_of_lt hsmall shown
    rw [Int.cast_natCast] at hfloat
    rwa [hint]
  | int n =>
    refine float_int_of_lt ?_ _
    by_contra hlarge
    exact hwritable _ (.overflow (Nat.not_lt.1 hlarge))
  | float negative m => exact floatText_of_rounds (Binary64.rounds_some m) m.value_nonneg negative _
  | floatInfinite negative => exact .notFinite
  | floatNan => exact .notFinite
  | decimal negative coefficient scale =>
    exact floatText_of_rounds (Binary64.rounds_ofDecimal? coefficient scale) (by positivity) negative _
  | decimalInfinite negative => exact .notFinite
  | decimalNan negative signalling =>
    cases signalling with
    | true => exact absurd .signalling (hwritable _)
    | false => exact .notFinite
  | @text t n hlongest =>
    have hscan : Numeral.scan t = some n := Numeral.scan_eq_some_iff.2 hlongest
    have hreadable : n.isReadable = true := by
      by_contra hnot
      have hlead : n.lead.any Text.isSeparator = true := by simpa [Numeral.isReadable] using hnot
      exact hwritable _ (.separator (.inr rfl) hscan hlead)
    have hrounds := floatText_of_rounds (Binary64.rounds_ofDecimal? n.coefficient n.scale) (by positivity)
      n.isNegative t.quoted
    rw [← Numeral.size_eq] at hrounds
    rw [float_text_of_isReadable hscan hreadable]
    exact hrounds
  | @textWithoutNumeral t hnone =>
    have hzero := floatText_of_rounds (Binary64.rounds_some .zero) (le_of_eq Binary64.Magnitude.value_zero.symm) false
      t.quoted
    rw [Binary64.Magnitude.value_zero] at hzero
    rw [float, readFloat, Numeral.scan_eq_none_iff.2 hnone]
    exact hzero

private theorem float_of_unwritable {v : Value} {f : Fault} (h : Unwritable .float v f) : float v = .error f :=
  (float_eq_error_iff h.isQuery_eq_false v).2 h

private theorem floatText_float_iff {v : Value} {shown : Text} {number : Option ℚ} (h : v.Denotes shown number) :
    FloatText shown number (float v) ↔ ∀ f, ¬ Unwritable .float v f := by
  refine ⟨fun hfloat f hf => ?_, floatText_float h⟩
  -- what is wrong with a value that cannot be written is no query error
  rw [float_of_unwritable hf] at hfloat
  have hquery := hfloat.isQuery
  rw [hf.isQuery_eq_false] at hquery
  cases hquery

private theorem floatText_float_ofInt (n : Int) :
    FloatText (Decimal.ofInt n).shown (some n) (float (.decimal (.ofInt n))) := by
  refine floatText_float (Value.denotes_ofInt n) fun f hf => ?_
  cases hf

private theorem floatText_float_text (n : Int) :
    FloatText (Integer.text n).quoted (some n) (float (.text (Integer.text n))) := by
  refine floatText_float (Value.denotes_text_integer n) fun f hf => ?_
  cases hf with
  | separator _ hscan hlead =>
    rw [Numeral.scan_eq_some_iff.2 (Integer.isLongestIn_numeral n)] at hscan
    obtain rfl := Option.some.inj hscan
    cases hlead

private theorem abs_lt_overflowBound_iff (n : Int) :
    |(n : ℚ)| < Binary64.overflowBound ↔ n.natAbs < Binary64.overflowBound := by
  rw [← Int.cast_abs, ← Nat.cast_natAbs, Nat.cast_lt]

/-- Unless the value cannot be written, a float slot writes the binary number nearest to the number that the value
stands for, or refuses the value for want of one. -/
theorem float_of_denotes {v : Value} {shown : Text} {number : Option ℚ} (hv : v.Denotes shown number) :
    (FloatText shown number (float v) ↔ ∀ f, ¬ Unwritable .float v f) ∧
      ∀ f, Unwritable .float v f → float v = .error f :=
  ⟨floatText_float_iff hv, fun _ => float_of_unwritable⟩

/-- Up to the largest binary number, an integer, the same as a decimal and its text are written alike. -/
theorem float_alike_of_lt {n : Int} (hn : n.natAbs < Binary64.overflowBound) :
    float (.decimal (.ofInt n)) = float (.int n) ∧ float (.text (Integer.text n)) = float (.int n) := by
  have hsmall := (abs_lt_overflowBound_iff n).2 hn
  have hint := float_int_of_lt hn []
  exact ⟨(floatText_float_ofInt n).eq_of_lt hsmall hint, (floatText_float_text n).eq_of_lt hsmall hint⟩

/-- Past the largest binary number, the decimal and the text are refused in another way than the integer. -/
theorem float_of_le {n : Int} (hn : Binary64.overflowBound ≤ n.natAbs) :
    float (.int n) = .error .integerTooLarge ∧
      float (.decimal (.ofInt n)) = .error (nonFinite .float (Decimal.ofInt n).shown) ∧
      float (.text (Integer.text n)) = .error (nonFinite .float (Integer.text n).quoted) := by
  have hlarge := not_lt.1 (mt (abs_lt_overflowBound_iff n).1 (Nat.not_lt.2 hn))
  exact ⟨float_of_unwritable (.overflow hn), (floatText_float_ofInt n).eq_of_le hlarge,
    (floatText_float_text n).eq_of_le hlarge⟩

/-- Every number and every text stands for a number, or for none.  A float slot writes the binary number nearest to that
number, or refuses the value for want of one, exactly if the value is not one of those that cannot be written.  An
integer, the same as a decimal and its text come out alike up to the largest binary number; past it, the integer alone
is not refused as the others are. -/
theorem float_nearest (v : Value) (n : Int) :
    ((v.number?.isSome = true ∨ ∃ t, v = .text t) → ∃ shown number, v.Denotes shown number) ∧
    (∀ shown number, v.Denotes shown number →
      (FloatText shown number (float v) ↔ ∀ f, ¬ Unwritable .float v f) ∧
      ∀ f, Unwritable .float v f → float v = .error f) ∧
    (n.natAbs < Binary64.overflowBound →
      float (.decimal (.ofInt n)) = float (.int n) ∧ float (.text (Integer.text n)) = float (.int n)) ∧
    (Binary64.overflowBound ≤ n.natAbs →
      float (.int n) = .error .integerTooLarge ∧
      float (.decimal (.ofInt n)) = .error (nonFinite .float (Decimal.ofInt n).shown) ∧
      float (.text (Integer.text n)) = .error (nonFinite .float (Integer.text n).quoted)) :=
  ⟨Value.exists_denotes, fun _ _ => float_of_denotes, float_alike_of_lt, float_of_le⟩

/-- The number lies in the middle of two binary numbers, of which the even one is written, also for the decimal. -/
theorem float_nearest_tie :
    (Value.text "9007199254740993.0kg".toList).Denotes (Text.quoted "9007199254740993.0kg".toList)
      (some 9007199254740993) ∧
    FloatText (Text.quoted "9007199254740993.0kg".toList) (some 9007199254740993)
      (float (.text "9007199254740993.0kg".toList)) ∧
    float (.text "9007199254740993.0kg".toList) = .ok "9007199254740992.0".toList ∧
    float (.decimal (.ofInt 9007199254740993)) = .ok "9007199254740992.0".toList := by
  have hscan : Numeral.scan "9007199254740993.0kg".toList =
      some ⟨[], none, "9007199254740993".toList, some ['0'], none⟩ := by
    decide +kernel
  have hvalue : Numeral.value ⟨[], none, "9007199254740993".toList, some ['0'], none⟩ = 9007199254740993 := by
    have hcoefficient :
        Numeral.coefficient ⟨[], none, "9007199254740993".toList, some ['0'], none⟩ = 90071992547409930 := by
      decide +kernel
    have hscale : Numeral.scale ⟨[], none, "9007199254740993".toList, some ['0'], none⟩ = -1 := by decide +kernel
    rw [Numeral.value, if_neg (by decide), Numeral.size_eq, hcoefficient, hscale]
    norm_num
  have hdenotes : (Value.text "9007199254740993.0kg".toList).Denotes (Text.quoted "9007199254740993.0kg".toList)
      (some 9007199254740993) :=
    hvalue ▸ .text (Numeral.scan_eq_some_iff.1 hscan)
  have hwritable : ∀ f, ¬ Unwritable .float (.text "9007199254740993.0kg".toList) f := by
    intro f hf
    cases hf with
    | separator _ hscan' hlead =>
      rw [hscan] at hscan'
      obtain rfl := Option.some.inj hscan'
      cases hlead
  have hint : float (.int 9007199254740993) = .ok "9007199254740992.0".toList := by decide +kernel
  obtain ⟨-, hfloat, hsame, -⟩ := float_nearest (.text "9007199254740993.0kg".toList) 9007199254740993
  refine ⟨hdenotes, (hfloat _ _ hdenotes).1.2 hwritable, by decide +kernel, ?_⟩
  rw [(hsame (by decide +kernel)).1, hint]

/-- An integer past the largest binary number is refused in another way than the decimal. -/
theorem float_large_integer :
    (Value.int (10 ^ 309)).Denotes (Integer.text (10 ^ 309)) (some ((10 ^ 309 : Int) : ℚ)) ∧
    float (.int (10 ^ 309)) = .error .integerTooLarge ∧
    ¬ FloatText (Integer.text (10 ^ 309)) (some ((10 ^ 309 : Int) : ℚ)) (float (.int (10 ^ 309))) ∧
    float (.decimal (.ofInt (10 ^ 309))) = .error (nonFinite .float (Decimal.ofInt (10 ^ 309)).shown) := by
  have hint : float (.int (10 ^ 309)) = .error .integerTooLarge := by decide +kernel
  refine ⟨.int _, hint, fun h => ?_, by decide +kernel⟩
  rw [hint] at h
  cases h.isQuery

end Slot

end SqlTemplate
