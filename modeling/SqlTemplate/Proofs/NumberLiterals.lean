import SqlTemplate.Proofs.NumberGrammar
import SqlTemplate.Proofs.ShortestDecimals

/-!
# Number literals keep the number

A plain slot writes a number as a numeral from end to end (`Text.Writes`).  Digits with a power of ten stay the same
number in either notation of a style (`DecimalStyle.size_numeral`), so that an integer and a decimal are written
exactly; what is written for a binary number is nearest to that number, and a float slot that takes the text for its
argument writes it again (`Kind.format_keepsNumber`).
-/

namespace SqlTemplate

/-- The text is a numeral from end to end, and the numeral writes the number. -/
def Text.Writes (t : Text) (q : ℚ) : Prop := ∃ n : Numeral, n.IsLongestIn t ∧ n.text = t ∧ n.value = q

namespace Numeral

private theorem value_lt_zero_iff (n : Numeral) : n.value < 0 ↔ n.isNegative = true ∧ n.size ≠ 0 := by
  have hsize := n.size_nonneg
  unfold value
  split
  · rename_i hnegative
    rw [neg_lt_zero, hsize.lt_iff_ne']
    exact (and_iff_right hnegative).symm
  · rename_i hnegative
    exact iff_of_false (not_lt.2 hsize) fun h => hnegative h.1

private theorem IsProper.writes_text {n : Numeral} (h : n.IsProper) : n.text.Writes n.value :=
  ⟨n, h.isLongestIn_text, rfl, rfl⟩

theorem OfDigits.isProper {n : Numeral} (h : n.OfDigits) (hmark : ∀ p ∈ n.power, p.mark = 'e' ∨ p.mark = 'E') :
    n.IsProper := by
  have hdigits : ∀ {t : Text}, IsDigits t → ∀ c ∈ t, Text.isDigit c = true := fun ht c hc =>
    Text.isDigit_of_isDigit (ht.isDigit c hc)
  refine ⟨?_, hdigits h.whole, fun f hf => hdigits (h.fraction f hf), .inl h.whole.ne_nil, fun p hp => ?_⟩
  · rw [h.lead]
    nofun
  · exact ⟨hmark p hp, hdigits (h.power p hp), (h.power p hp).ne_nil⟩

end Numeral

/-! ### Digits and powers -/

namespace Text

private theorem digitsValue_zeros (n : Nat) : digitsValue (List.replicate n '0') = 0 := by
  induction n with
  | zero => rfl
  | succ n ih =>
    have hzero : digitsValue ['0'] = 0 := by decide
    rw [List.replicate_succ', digitsValue_append, ih, hzero, Nat.zero_mul]

private theorem digitsValue_leftpad (width : Nat) (t : Text) : digitsValue (t.leftpad width '0') = digitsValue t := by
  rw [List.leftpad, digitsValue_append, digitsValue_zeros, Nat.zero_mul, Nat.zero_add]

end Text

namespace DecimalStyle

variable {style : DecimalStyle}

private theorem value_powerOfTen (n : Int) : (style.powerOfTen n).value = n := by
  have hdigits : (Text.digitsValue (style.powerOfTen n).digits : Int) = n.natAbs := by
    rw [powerOfTen, Text.digitsValue_leftpad, Integer.digitsValue_naturalText]
  have hsign : (style.powerOfTen n).sign = some .minus ↔ n < 0 := by
    unfold powerOfTen
    by_cases hneg : n < 0 <;> simp [hneg]
  rw [PowerOfTen.value, hdigits]
  by_cases hneg : n < 0
  · rw [if_pos (hsign.2 hneg)]
    omega
  · rw [if_neg (mt hsign.1 hneg)]
    omega

/-- With the point in place, zeros among the digits and behind them make up for the scale. -/
private theorem size_positionalNumeral (hending : Text.digitsValue (style.wholeFraction.getD []) = 0)
    (sign : Option Sign) (digits : Text) (scale : Int) :
    (style.positionalNumeral sign digits scale).size = Text.digitsValue digits * 10 ^ scale := by
  unfold positionalNumeral
  by_cases hscale : 0 ≤ scale
  · obtain ⟨zeros, rfl⟩ := Int.eq_ofNat_of_zero_le hscale
    rw [if_pos hscale, Numeral.size]
    dsimp only [Option.elim_none]
    rw [hending, Text.digitsValue_append, Text.digitsValue_zeros, List.length_replicate, Int.toNat_natCast,
      Nat.cast_zero, zero_div, add_zero, Nat.add_zero, zpow_zero, mul_one, zpow_natCast]
    push_cast
    rfl
  rw [if_neg hscale, Numeral.size_eq]
  by_cases hin : scale.natAbs < digits.length
  · rw [if_pos hin, Numeral.coefficient, Numeral.scale]
    dsimp only [Option.getD_some, Option.elim_none]
    have hlength : 0 - ((digits.drop (digits.length - scale.natAbs)).length : Int) = scale := by
      rw [List.length_drop]
      omega
    rw [List.take_append_drop, hlength]
  · rw [if_neg hin, Numeral.coefficient, Numeral.scale]
    dsimp only [Option.getD_some, Option.elim_none]
    have hlength : 0 - ((digits.leftpad scale.natAbs '0').length : Int) = scale := by
      rw [List.length_leftpad]
      omega
    have hzero : Text.digitsValue ['0'] = 0 := by decide
    rw [Text.digitsValue_append, hzero, Nat.zero_mul, Nat.zero_add, Text.digitsValue_leftpad, hlength]

/-- Behind the first digit, the power makes up for all but one of the digits. -/
private theorem size_scientificNumeral (sign : Option Sign) {digits : Text} (hdigits : digits ≠ []) (scale : Int) :
    (style.scientificNumeral sign digits scale).size = Text.digitsValue digits * 10 ^ scale := by
  have hpos : 0 < digits.length := List.length_pos_of_ne_nil hdigits
  have hfraction : (style.scientificNumeral sign digits scale).fraction.getD [] = digits.drop 1 := by
    unfold scientificNumeral
    split
    · rename_i hone
      exact (List.drop_eq_nil_iff.2 hone).symm
    · rfl
  have hcoefficient : (style.scientificNumeral sign digits scale).coefficient = Text.digitsValue digits := by
    rw [Numeral.coefficient, hfraction]
    exact congrArg Text.digitsValue (List.take_append_drop 1 digits)
  have hscale : (style.scientificNumeral sign digits scale).scale = scale := by
    have hpower : (style.powerOfTen (leadingPower digits scale)).value = scale + digits.length - 1 :=
      value_powerOfTen _
    rw [Numeral.scale, hfraction, List.length_drop]
    dsimp only [scientificNumeral, Option.elim_some]
    rw [hpower]
    omega
  rw [Numeral.size_eq, hcoefficient, hscale]

/-- The numeral writes the digits times the power of ten. -/
theorem size_numeral (hending : Text.digitsValue (style.wholeFraction.getD []) = 0) (sign : Option Sign)
    {digits : Text} (hdigits : digits ≠ []) (scale : Int) :
    (style.numeral sign digits scale).size = Text.digitsValue digits * 10 ^ scale := by
  unfold numeral
  split
  · exact size_positionalNumeral hending sign digits scale
  · exact size_scientificNumeral sign hdigits scale

theorem isProper_numeral (hmark : style.mark = 'e' ∨ style.mark = 'E')
    (hfraction : ∀ f ∈ style.wholeFraction, IsDigits f) (sign : Option Sign) {digits : Text}
    (hdigits : IsDigits digits) (scale : Int) : (style.numeral sign digits scale).IsProper := by
  refine (ofDigits_numeral hfraction sign hdigits scale).isProper fun p hp => ?_
  rw [eq_powerOfTen hp]
  exact hmark

theorem isNegative_numeral (negative : Bool) (digits : Text) (scale : Int) :
    (style.numeral (if negative then some .minus else none) digits scale).isNegative = negative := by
  rw [Numeral.isNegative, sign_numeral]
  cases negative <;> rfl

end DecimalStyle

/-! ### Integers and decimals -/

private theorem Integer.writes_text (n : Int) : (text n).Writes n := by
  have hwrites := (isProper_numeral n).writes_text
  rwa [text_numeral, value_numeral] at hwrites

namespace Decimal

/-- What a finite decimal is written as. -/
def numeral (negative : Bool) (coefficient : Nat) (scale : Int) : Numeral :=
  style.numeral (if negative then some .minus else none) (Integer.naturalText coefficient) scale

variable (negative : Bool) (coefficient : Nat) (scale : Int)

theorem text_numeral : (numeral negative coefficient scale).text = (finite negative coefficient scale).text :=
  DecimalStyle.text_numeral_signed rfl negative _ _

theorem isProper_numeral : (numeral negative coefficient scale).IsProper := by
  refine DecimalStyle.isProper_numeral (.inr rfl) ?_ _ (Integer.isDigits_naturalText _) _
  rintro f ⟨⟩

theorem value_numeral : (numeral negative coefficient scale).value = withSign negative (coefficient * 10 ^ scale) := by
  have hsize : (numeral negative coefficient scale).size = coefficient * 10 ^ scale := by
    rw [numeral, DecimalStyle.size_numeral rfl _ (Integer.isDigits_naturalText _).ne_nil,
      Integer.digitsValue_naturalText]
  have hnegative : (numeral negative coefficient scale).isNegative = negative :=
    DecimalStyle.isNegative_numeral _ _ _
  rw [Numeral.value, hnegative, hsize]
  rfl

private theorem writes_text :
    (finite negative coefficient scale).text.Writes (withSign negative (coefficient * 10 ^ scale)) := by
  have hwrites := (isProper_numeral negative coefficient scale).writes_text
  rwa [text_numeral, value_numeral] at hwrites

end Decimal

/-! ### Binary numbers -/

namespace Binary64

theorem isProper_numeral (negative : Bool) (m : Magnitude) : (numeral negative m).IsProper := by
  refine (ofDigits_numeral negative m).isProper fun p hp => .inl ?_
  exact ((isPrinted_numeral negative m).power p hp).1

theorem size_numeral (negative : Bool) (m : Magnitude) : (numeral negative m).size = m.shortestValue := by
  have hending : Text.digitsValue (style.wholeFraction.getD []) = 0 := by decide
  rw [numeral, DecimalStyle.size_numeral hending _ (Integer.isDigits_naturalText _).ne_nil,
    Integer.digitsValue_naturalText]
  rfl

namespace Magnitude

variable {m : Magnitude}

private theorem value_of_isWhole (h : m.isWhole = true) : m.value = m.floor := by
  have hrest : m.steps % stepsPerUnit = 0 := by simpa [isWhole] using h
  exact value_eq_natCast_iff.2 (Nat.div_mul_cancel (Nat.dvd_of_mod_eq_zero hrest)).symm

private theorem floor_eq_zero_iff (h : m.isWhole = true) : m.floor = 0 ↔ m = zero := by
  constructor
  · intro hfloor
    refine eq_of_value_eq ?_
    rw [value_of_isWhole h, hfloor, value_zero, Nat.cast_zero]
  · rintro rfl
    rw [floor, steps_zero, Nat.zero_div]

end Magnitude

private theorem natAbs_truncated (negative : Bool) (m : Magnitude) : (truncated negative m).natAbs = m.floor := by
  cases negative with
  | false => rfl
  | true => exact Int.natAbs_neg _

private theorem truncated_lt_zero_iff (negative : Bool) {m : Magnitude} (h : m.isWhole = true) :
    truncated negative m < 0 ↔ negative = true ∧ m ≠ .zero := by
  rw [ne_eq, ← Magnitude.floor_eq_zero_iff h, truncated]
  cases negative with
  | false => simp [Integer.negateIf]
  | true => simp [Integer.negateIf, Nat.pos_iff_ne_zero]

/-- The numeral that a literal is.  It has a minus unless the number is zero, and rounds to the number. -/
private theorem exists_numeral_literal (negative : Bool) (m : Magnitude) :
    ∃ n : Numeral, n.IsProper ∧ n.lead = [] ∧ n.text = literal negative m ∧
      n.isNegative = (negative && m ≠ .zero) ∧ Rounds (some m) n.size := by
  by_cases hinteger : (m.isWhole && m.floor < wholeLimit) = true
  · obtain ⟨hwhole, -⟩ := Bool.and_eq_true_iff.1 hinteger
    have hnegative : decide (truncated negative m < 0) = (negative && m ≠ .zero) := by
      rw [Bool.eq_iff_iff, Bool.and_eq_true, decide_eq_true_eq, decide_eq_true_eq]
      exact truncated_lt_zero_iff negative hwhole
    refine ⟨Integer.numeral (truncated negative m), Integer.isProper_numeral _, rfl, ?_, ?_, ?_⟩
    · rw [Integer.text_numeral, literal, if_pos hinteger]
    · rw [Integer.isNegative_numeral, hnegative]
    · rw [Integer.size_numeral, natAbs_truncated, ← Magnitude.value_of_isWhole hwhole]
      exact rounds_some m
  · have hnonzero : m ≠ .zero := by
      rintro rfl
      exact hinteger (by decide +kernel)
    refine ⟨numeral negative m, isProper_numeral negative m, (ofDigits_numeral negative m).lead, ?_, ?_, ?_⟩
    · rw [text_numeral, literal, if_neg hinteger]
    · rw [numeral, DecimalStyle.isNegative_numeral, decide_eq_true hnonzero, Bool.and_true]
    · rw [size_numeral]
      exact rounds_shortest m

private theorem exists_writes_literal (negative : Bool) (m : Magnitude) :
    ∃ q : ℚ, (literal negative m).Writes q ∧ m.IsNearest |q| ∧ (q < 0 ↔ negative = true ∧ m ≠ .zero) := by
  obtain ⟨n, hproper, -, htext, hnegative, hrounds⟩ := exists_numeral_literal negative m
  have hnearest : m.IsNearest n.size := hrounds.isNearest m rfl
  have hsize : m ≠ .zero → n.size ≠ 0 := fun hm hzero =>
    hm (hnearest.unique (hzero ▸ Magnitude.zero_isNearest_zero))
  refine ⟨n.value, htext ▸ hproper.writes_text, ?_, ?_⟩
  · rwa [Numeral.abs_value]
  · rw [Numeral.value_lt_zero_iff, hnegative, Bool.and_eq_true, decide_eq_true_eq]
    exact and_iff_left_of_imp fun h => hsize h.2

private theorem literal_and_ne_zero (negative : Bool) (m : Magnitude) :
    literal (negative && m ≠ .zero) m = literal negative m := by
  by_cases hzero : m = .zero
  · rw [hzero, literal_zero, literal_zero]
  · rw [decide_eq_true hzero, Bool.and_true]

end Binary64

/-! ### Reading a numeral again -/

namespace Slot

private theorem readFloat_text {n : Numeral} {m : Binary64.Magnitude} (hn : n.IsProper) (hlead : n.lead = [])
    (hm : Binary64.Rounds (some m) n.size) : readFloat n.text = .ok (.finite n.isNegative m) := by
  have hscan : Numeral.scan n.text = some n := Numeral.scan_eq_some_iff.2 hn.isLongestIn_text
  have hreadable : n.isReadable = true := by
    rw [Numeral.isReadable, hlead]
    rfl
  have hround : Binary64.Magnitude.ofDecimal? n.coefficient n.scale = some m := by
    refine Binary64.Rounds.ofDecimal?_eq ?_
    rwa [← Numeral.size_eq]
  rw [readFloat_of_isReadable hscan hreadable, Binary64.ofDecimal, hround, Binary64.ofMagnitude?]

/-- Reading a literal gives the number again, but zero without its sign. -/
private theorem readFloat_literal (negative : Bool) (m : Binary64.Magnitude) :
    readFloat (Binary64.literal negative m) = .ok (.finite (negative && m ≠ .zero) m) := by
  obtain ⟨n, hproper, hlead, htext, hnegative, hrounds⟩ := Binary64.exists_numeral_literal negative m
  rw [← htext, ← hnegative]
  exact readFloat_text hproper hlead hrounds

private theorem float_text_literal (negative : Bool) (m : Binary64.Magnitude) :
    float (.text (Binary64.literal negative m)) = .ok (Binary64.literal negative m) := by
  rw [float, readFloat_literal]
  exact congrArg Except.ok (Binary64.literal_and_ne_zero negative m)

end Slot

/-! ### Literals -/

/-- A plain slot writes an integer, unless it has too many digits, and a decimal as a numeral of the same number.  What
it writes for a binary number is a numeral to which that number is nearest, with a minus unless it is zero, so that
reading it gives the number again, zero without a sign, and a float slot writes the text that it is given. -/
theorem Kind.format_keepsNumber (escape : Escape) :
    (∀ n : Int, Integer.digitCount n.natAbs ≤ Integer.digitLimit →
      ∃ t : Text, Kind.plain.format (.int n) escape = ⟨[], .ok t⟩ ∧ t.Writes n) ∧
    (∀ (negative : Bool) (coefficient : Nat) (scale : Int),
      ∃ t : Text, Kind.plain.format (.decimal (.finite negative coefficient scale)) escape = ⟨[], .ok t⟩ ∧
        t.Writes (withSign negative (coefficient * 10 ^ scale))) ∧
    ∀ (negative : Bool) (m : Binary64.Magnitude),
      ∃ (t : Text) (q : ℚ), Kind.plain.format (.float (.finite negative m)) escape = ⟨[], .ok t⟩ ∧
        t.Writes q ∧ m.IsNearest |q| ∧ (q < 0 ↔ negative = true ∧ m ≠ .zero) ∧
        Slot.readFloat t = .ok (.finite (negative && m ≠ .zero) m) ∧
        Kind.float.format (.text t) escape = ⟨[], .ok t⟩ := by
  refine ⟨fun n hn => ?_, fun negative coefficient scale => ?_, fun negative m => ?_⟩
  · have htext : Slot.integerText n = .ok (Integer.text n) := if_neg (Nat.not_lt.2 hn)
    refine ⟨Integer.text n, ?_, Integer.writes_text n⟩
    rw [← htext]
    exact Draft.fill_ofExcept _ escape
  · exact ⟨_, Draft.fill_fixed escape _, Decimal.writes_text negative coefficient scale⟩
  · obtain ⟨q, hwrites, hnearest, hsign⟩ := Binary64.exists_writes_literal negative m
    refine ⟨Binary64.literal negative m, q, Draft.fill_fixed escape _, hwrites, hnearest, hsign,
      Slot.readFloat_literal negative m, ?_⟩
    rw [← Slot.float_text_literal negative m]
    exact Draft.fill_ofExcept _ escape

/-- An integer, a decimal with a power of ten and a zero at the end, and the least binary number. -/
theorem Kind.format_keepsNumber_least :
    Integer.digitCount (Int.natAbs (-120)) ≤ Integer.digitLimit ∧
    Text.Writes "-120".toList ((-120 : Int) : ℚ) ∧
    Text.Writes "-4.70E-8".toList (withSign true ((470 : Nat) * 10 ^ (-10 : Int))) ∧
    Slot.readFloat "5e-324".toList = .ok (.finite false ⟨1, 0, by decide⟩) ∧
    (Kind.float.format (.text "5e-324".toList) .backslash).outcome = .ok "5e-324".toList := by
  have heq : ∀ {filled : Filled} {t u : Text}, filled = ⟨[], .ok t⟩ → filled.outcome = .ok u → t = u := by
    rintro _ t u rfl hu
    exact Except.ok.inj hu
  have hdigits : Integer.digitCount (Int.natAbs (-120)) ≤ Integer.digitLimit := by decide
  obtain ⟨hint, hdecimal, hfloat⟩ := Kind.format_keepsNumber .backslash
  obtain ⟨t, ht, hwrites⟩ := hint (-120) hdigits
  obtain ⟨u, hu, hwrites'⟩ := hdecimal true 470 (-10)
  obtain ⟨w, -, hw, -, -, -, hread, hagain⟩ := hfloat false ⟨1, 0, by decide⟩
  obtain rfl : t = "-120".toList := heq ht (by decide +kernel)
  obtain rfl : u = "-4.70E-8".toList := heq hu (by decide +kernel)
  obtain rfl : w = "5e-324".toList := heq hw (by decide +kernel)
  exact ⟨hdigits, hwrites, hwrites', hread, congrArg Filled.outcome hagain⟩

end SqlTemplate
