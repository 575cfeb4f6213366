import SqlTemplate.Proofs.ExactNumbers

/-!
# The grammar of numeric slots

What an integer slot writes is `NULL` or a canonical integer.  A float slot writes `NULL` or a printed numeral: a minus
or no sign, digits, perhaps a point and digits, perhaps a power with its sign and two digits or more
(`Binary64.exists_isPrinted_literal`).  Whatever the argument, no text of it goes in, and no escape is called
(`Kind.format_numeric`).
-/

namespace SqlTemplate

/-- One or more digits of the first row. -/
structure IsDigits (t : Text) : Prop where
  ne_nil : t ≠ []
  isDigit : t.All Char.isDigit

theorem IsDigits.zero : IsDigits ['0'] := ⟨List.cons_ne_nil _ _, .replicate 1 rfl⟩

theorem IsDigits.leftpad {t : Text} (width : Nat) (ht : IsDigits t) : IsDigits (t.leftpad width '0') :=
  ⟨List.append_ne_nil_of_right_ne_nil _ ht.ne_nil, ht.isDigit.leftpad width rfl⟩

theorem Integer.isDigits_naturalText (n : Nat) : IsDigits (naturalText n) :=
  ⟨Nat.toDigits_ne_nil, fun _ => isDigit_of_mem_naturalText⟩

/-- A numeral as float slots print it. -/
structure Numeral.IsPrinted (n : Numeral) : Prop where
  lead : n.lead = []
  sign : n.sign ≠ some .plus
  whole : IsDigits n.whole
  fraction : ∀ digits ∈ n.fraction, IsDigits digits
  power : ∀ p ∈ n.power, p.mark = 'e' ∧ p.sign.isSome = true ∧ IsDigits p.digits ∧ 2 ≤ p.digits.length

theorem Integer.isPrinted_numeral (n : Int) : (numeral n).IsPrinted := by
  refine ⟨rfl, ?_, isDigits_naturalText _, nofun, nofun⟩
  unfold numeral
  split <;> simp

/-- A numeral with nothing in front and digits of the first row in all its parts. -/
structure Numeral.OfDigits (n : Numeral) : Prop where
  lead : n.lead = []
  whole : IsDigits n.whole
  fraction : ∀ digits ∈ n.fraction, IsDigits digits
  power : ∀ p ∈ n.power, IsDigits p.digits

/-! ### Decimal notation, part by part -/

namespace DecimalStyle

/-- The digits behind the point of a whole number in place, if it has a point. -/
def wholeFraction (style : DecimalStyle) : Option Text :=
  match style.wholeEnding with
  | [] => none
  | _ :: digits => some digits

/-- The power of ten that marks the place of the first digit. -/
def powerOfTen (style : DecimalStyle) (n : Int) : PowerOfTen :=
  ⟨style.mark, some (if n < 0 then .minus else .plus),
    (Integer.naturalText n.natAbs).leftpad style.powerWidth '0'⟩

variable {style : DecimalStyle}

def positionalNumeral (style : DecimalStyle) (sign : Option Sign) (digits : Text) (scale : Int) : Numeral :=
  if 0 ≤ scale then ⟨[], sign, digits ++ List.replicate scale.toNat '0', style.wholeFraction, none⟩
  else if scale.natAbs < digits.length then
    ⟨[], sign, digits.take (digits.length - scale.natAbs), some (digits.drop (digits.length - scale.natAbs)), none⟩
  else ⟨[], sign, ['0'], some (digits.leftpad scale.natAbs '0'), none⟩

def scientificNumeral (style : DecimalStyle) (sign : Option Sign) (digits : Text) (scale : Int) : Numeral :=
  ⟨[], sign, digits.take 1, if digits.length ≤ 1 then none else some (digits.drop 1),
    some (style.powerOfTen (leadingPower digits scale))⟩

/-- The digits with a power of ten as the numeral that the style writes for them. -/
def numeral (style : DecimalStyle) (sign : Option Sign) (digits : Text) (scale : Int) : Numeral :=
  if style.isPositional scale (leadingPower digits scale) then style.positionalNumeral sign digits scale
  else style.scientificNumeral sign digits scale

private theorem text_powerOfTen (n : Int) : (style.powerOfTen n).text = style.power n := by
  unfold powerOfTen power PowerOfTen.text
  split <;> rfl

private theorem text_positionalNumeral (hending : style.wholeEnding = style.wholeFraction.elim [] ('.' :: ·))
    (sign : Option Sign) (digits : Text) (scale : Int) :
    (style.positionalNumeral sign digits scale).text = sign.elim [] Sign.text ++ style.positional digits scale := by
  unfold positionalNumeral positional
  split
  · simp [Numeral.text, hending]
  split <;> simp [Numeral.text]

private theorem text_scientificNumeral (sign : Option Sign) (digits : Text) (scale : Int) :
    (style.scientificNumeral sign digits scale).text = sign.elim [] Sign.text ++ style.scientific digits scale := by
  unfold scientificNumeral scientific
  match digits with
  | [] | [_] | first :: second :: rest => simp [Numeral.text, text_powerOfTen]

theorem text_numeral (hending : style.wholeEnding = style.wholeFraction.elim [] ('.' :: ·)) (sign : Option Sign)
    (digits : Text) (scale : Int) :
    (style.numeral sign digits scale).text = sign.elim [] Sign.text ++ style.text digits scale := by
  unfold numeral text
  split
  · exact text_positionalNumeral hending sign digits scale
  · exact text_scientificNumeral sign digits scale

/-- With a minus or without a sign, as numbers are written. -/
theorem text_numeral_signed (hending : style.wholeEnding = style.wholeFraction.elim [] ('.' :: ·)) (negative : Bool)
    (digits : Text) (scale : Int) :
    (style.numeral (if negative then some .minus else none) digits scale).text =
      Integer.signed negative (style.text digits scale) := by
  rw [text_numeral hending]
  cases negative <;> rfl

private theorem ofDigits_positionalNumeral (hfraction : ∀ f ∈ style.wholeFraction, IsDigits f) (sign : Option Sign)
    {digits : Text} (hdigits : IsDigits digits) (scale : Int) :
    (style.positionalNumeral sign digits scale).OfDigits := by
  unfold positionalNumeral
  split
  · have hwhole : IsDigits (digits ++ List.replicate scale.toNat '0') :=
      ⟨List.append_ne_nil_of_left_ne_nil hdigits.ne_nil _, hdigits.isDigit.append (.replicate _ rfl)⟩
    exact ⟨rfl, hwhole, hfraction, nofun⟩
  split
  · -- at least one digit stands on each side of the point
    rename_i hneg hlt
    have htake : digits.take (digits.length - scale.natAbs) ≠ [] := by
      rw [ne_eq, List.take_eq_nil_iff, not_or]
      exact ⟨by omega, hdigits.ne_nil⟩
    have hdrop : digits.drop (digits.length - scale.natAbs) ≠ [] := by
      rw [ne_eq, List.drop_eq_nil_iff]
      omega
    refine ⟨rfl, ⟨htake, hdigits.isDigit.of_subset fun _ => List.mem_of_mem_take⟩, ?_, nofun⟩
    rintro f ⟨⟩
    exact ⟨hdrop, hdigits.isDigit.of_subset fun _ => List.mem_of_mem_drop⟩
  · refine ⟨rfl, .zero, ?_, nofun⟩
    rintro f ⟨⟩
    exact hdigits.leftpad _

private theorem ofDigits_scientificNumeral (sign : Option Sign) {digits : Text} (hdigits : IsDigits digits)
    (scale : Int) :
    (style.scientificNumeral sign digits scale).OfDigits := by
  have htake : digits.take 1 ≠ [] := by
    rw [ne_eq, List.take_eq_nil_iff, not_or]
    exact ⟨by decide, hdigits.ne_nil⟩
  refine ⟨rfl, ⟨htake, hdigits.isDigit.of_subset fun _ => List.mem_of_mem_take⟩, ?_, ?_⟩
  · unfold scientificNumeral
    intro f hf
    split at hf
    · cases hf
    · rename_i hlength
      cases hf
      have hdrop : digits.drop 1 ≠ [] := by
        rw [ne_eq, List.drop_eq_nil_iff]
        omega
      exact ⟨hdrop, hdigits.isDigit.of_subset fun _ => List.mem_of_mem_drop⟩
  · rintro p ⟨⟩
    exact (Integer.isDigits_naturalText _).leftpad _

theorem ofDigits_numeral (hfraction : ∀ f ∈ style.wholeFraction, IsDigits f) (sign : Option Sign) {digits : Text}
    (hdigits : IsDigits digits) (scale : Int) : (style.numeral sign digits scale).OfDigits := by
  unfold numeral
  split
  · exact ofDigits_positionalNumeral hfraction sign hdigits scale
  · exact ofDigits_scientificNumeral sign hdigits scale

theorem sign_numeral (sign : Option Sign) (digits : Text) (scale : Int) :
    (style.numeral sign digits scale).sign = sign := by
  unfold numeral
  split
  · unfold positionalNumeral
    split
    · rfl
    split <;> rfl
  · rfl

/-- If there is a power in the numeral, it is that of the first digit. -/
theorem eq_powerOfTen {sign : Option Sign} {digits : Text} {scale : Int} {p : PowerOfTen}
    (h : p ∈ (style.numeral sign digits scale).power) : p = style.powerOfTen (leadingPower digits scale) := by
  unfold numeral at h
  split at h
  · unfold positionalNumeral at h
    split at h
    · cases h
    split at h <;> cases h
  · cases h
    rfl

end DecimalStyle

/-! ### Binary numbers as numerals -/

namespace Binary64

open DecimalStyle

/-- A number in place has a point in it or behind it, and every other one has a power. -/
private theorem isInteger_numeral (sign : Option Sign) (digits : Text) (scale : Int) :
    (style.numeral sign digits scale).isInteger = false := by
  unfold DecimalStyle.numeral positionalNumeral scientificNumeral
  split
  · split
    · rfl
    split <;> rfl
  · exact Bool.and_false _

/-- What a binary number is written as, unless it is written as an integer. -/
def numeral (negative : Bool) (m : Magnitude) : Numeral :=
  style.numeral (if negative then some .minus else none) (Integer.naturalText m.shortest.1) m.shortest.2

theorem text_numeral (negative : Bool) (m : Magnitude) : (numeral negative m).text = (finite negative m).text :=
  DecimalStyle.text_numeral_signed rfl negative _ _

theorem ofDigits_numeral (negative : Bool) (m : Magnitude) : (numeral negative m).OfDigits := by
  refine DecimalStyle.ofDigits_numeral ?_ _ (Integer.isDigits_naturalText _) _
  rintro f ⟨⟩
  exact .zero

theorem isPrinted_numeral (negative : Bool) (m : Magnitude) : (numeral negative m).IsPrinted := by
  have hparts := ofDigits_numeral negative m
  refine ⟨hparts.lead, ?_, hparts.whole, hparts.fraction, fun p hp => ?_⟩
  · rw [numeral, sign_numeral]
    cases negative <;> decide
  · have hdigits := hparts.power p hp
    obtain rfl := eq_powerOfTen hp
    refine ⟨rfl, rfl, hdigits, ?_⟩
    rw [powerOfTen, List.length_leftpad]
    exact le_max_left _ _

end Binary64

/-- A point or a mark tells the numeral from a bare zero with a minus. -/
private theorem Numeral.IsPrinted.text_ne {n : Numeral} (h : n.IsPrinted) (hn : n.isInteger = false) :
    n.text ≠ ['-', '0'] := by
  intro htext
  cases hfraction : n.fraction with
  | some digits =>
    have hpoint : '.' ∈ n.text := by simp [text, hfraction]
    rw [htext] at hpoint
    exact absurd hpoint (by decide)
  | none =>
    cases hpower : n.power with
    | some p =>
      have hmark : 'e' ∈ n.text := by simp [text, hpower, PowerOfTen.text, (h.power p hpower).1]
      rw [htext] at hmark
      exact absurd hmark (by decide)
    | none => simp [isInteger, hfraction, hpower] at hn

namespace Binary64

/-- A literal is a printed numeral, and zero has no sign in it. -/
theorem exists_isPrinted_literal (negative : Bool) (m : Magnitude) :
    literal negative m ≠ ['-', '0'] ∧ ∃ n : Numeral, n.IsPrinted ∧ n.text = literal negative m := by
  unfold literal
  split
  · refine ⟨fun h => ?_, Integer.numeral _, Integer.isPrinted_numeral _, Integer.text_numeral _⟩
    have hcanonical := Integer.isCanonical_text (truncated negative m)
    rw [h] at hcanonical
    cases hcanonical
  · have hprinted := isPrinted_numeral negative m
    have htext := text_numeral negative m
    exact ⟨htext ▸ hprinted.text_ne (isInteger_numeral _ _ _), _, hprinted, htext⟩

end Binary64

/-! ### Slots -/

theorem Draft.fill_ofExcept (r : Except Fault Text) (escape : Escape) : (ofExcept r).fill escape = ⟨[], r⟩ := by
  cases r with
  | ok t => exact fill_fixed escape t
  | error f => rfl

/-- Whatever the value and the escape, a numeric slot does not call the escape; if it has a text, this is `NULL` or, in
an integer slot, a canonical integer, and in a float slot a printed numeral, which is not a zero with a sign. -/
theorem Kind.format_numeric (v : Value) (escape : Escape) :
    ((Kind.integer.format v escape).escaped = [] ∧
      ∀ t, (Kind.integer.format v escape).outcome = .ok t → t = "NULL".toList ∨ Integer.isCanonical t = true) ∧
    (Kind.float.format v escape).escaped = [] ∧
      ∀ t, (Kind.float.format v escape).outcome = .ok t →
        (t = "NULL".toList ∨ ∃ n : Numeral, n.IsPrinted ∧ n.text = t) ∧
        t ∉ ["-0".toList, "nan".toList, "inf".toList] := by
  have hinteger : Kind.integer.format v escape = ⟨[], Slot.integer v⟩ := Draft.fill_ofExcept _ escape
  have hfloat : Kind.float.format v escape = ⟨[], Slot.float v⟩ := Draft.fill_ofExcept _ escape
  rw [hinteger, hfloat]
  refine ⟨⟨rfl, fun t ht => ?_⟩, rfl, fun t ht => ?_⟩
  · rcases Slot.integer_eq_ok ht with hnull | ⟨n, rfl⟩
    · exact .inl hnull
    · exact .inr (Integer.isCanonical_text n)
  · rcases Slot.float_eq_ok ht with rfl | ⟨negative, m, rfl⟩
    · exact ⟨.inl rfl, by decide⟩
    · obtain ⟨hzero, hprinted⟩ := Binary64.exists_isPrinted_literal negative m
      refine ⟨.inr hprinted, ?_⟩
      have hletter : 'n' ∉ Binary64.literal negative m := fun hn =>
        absurd (Binary64.isNumeric_literal negative m 'n' hn) (by decide)
      simp only [List.mem_cons, List.not_mem_nil, or_false, not_or]
      refine ⟨hzero, fun h => hletter ?_, fun h => hletter ?_⟩ <;> rw [h] <;> decide

/-- White space, a sign, a digit of another script, a power, and a unit behind it. -/
theorem Kind.format_numeric_scripts :
    (Kind.integer.format (.text "\u2003-٣.9e20kg".toList) .backslash).outcome = .ok "-390000000000000000000".toList ∧
    Integer.isCanonical "-390000000000000000000".toList = true ∧
    (Kind.float.format (.text "\u2003-٣.9e20kg".toList) .backslash).outcome = .ok "-3.9e+20".toList ∧
    ∃ n : Numeral, n.IsPrinted ∧ n.text = "-3.9e+20".toList := by
  have hinteger : (Kind.integer.format (.text "\u2003-٣.9e20kg".toList) .backslash).outcome =
      .ok "-390000000000000000000".toList := by
    decide +kernel
  have hfloat : (Kind.float.format (.text "\u2003-٣.9e20kg".toList) .backslash).outcome = .ok "-3.9e+20".toList := by
    decide +kernel
  obtain ⟨⟨-, hcanonical⟩, -, hprinted⟩ := Kind.format_numeric (.text "\u2003-٣.9e20kg".toList) .backslash
  exact ⟨hinteger, (hcanonical _ hinteger).resolve_left (by decide), hfloat,
    (hprinted _ hfloat).1.resolve_left (by decide)⟩

end SqlTemplate
