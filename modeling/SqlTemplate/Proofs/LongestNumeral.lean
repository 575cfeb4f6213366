import Mathlib.Data.List.TakeWhile
import SqlTemplate.Number.Numeral

/-!
# The longest numeral

A numeral is proper if it is made as numerals are: white space, a sign, digits with a point behind, among or before
them, and a power of ten.  `Numeral.scan` reads greedily and never goes back, and what it finds is the longest proper
numeral that the text starts with (`Numeral.scan_eq_some_iff`), if it starts with any (`Numeral.scan_eq_none_iff`).
-/

namespace SqlTemplate

namespace Text

/-- No row of digits meets a range of white space. -/
private theorem isBlank_eq_false_of_isDigit {c : Char} (h : isDigit c = true) : isBlank c = false := by
  have hapart : ∀ start ∈ zeros, ∀ range ∈ blankRanges, start + 10 ≤ range.1 ∨ range.2 < start := by decide
  simp only [isDigit, digitValue?, Option.isSome_map, List.find?_isSome, Bool.and_eq_true, decide_eq_true_eq] at h
  obtain ⟨start, hstart, hle, hlt⟩ := h
  simp only [isBlank, inRanges, List.any_eq_false, Bool.and_eq_true, decide_eq_true_eq]
  intro range hrange hin
  have := hapart start hstart range hrange
  omega

end Text

/-- Digits, and at least one, behind an `e`. -/
structure PowerOfTen.IsProper (p : PowerOfTen) : Prop where
  mark : p.mark = 'e' ∨ p.mark = 'E'
  digits : ∀ c ∈ p.digits, Text.isDigit c = true
  nonempty : p.digits ≠ []

namespace Numeral

/-- A numeral as numbers are written: the parts are white space and digits, and a digit stands before or behind the
point. -/
structure IsProper (n : Numeral) : Prop where
  lead : ∀ c ∈ n.lead, Text.isBlank c = true
  whole : ∀ c ∈ n.whole, Text.isDigit c = true
  fraction : ∀ digits ∈ n.fraction, ∀ c ∈ digits, Text.isDigit c = true
  nonempty : n.whole ≠ [] ∨ ∃ digits ∈ n.fraction, digits ≠ []
  power : ∀ p ∈ n.power, p.IsProper

/-- The longest proper numeral that the text starts with. -/
structure IsLongestIn (n : Numeral) (t : Text) : Prop where
  isProper : n.IsProper
  starts : n.text <+: t
  longest : ∀ m : Numeral, m.IsProper → m.text <+: t → m.text.length ≤ n.text.length

/-! ### What is read stands in front -/

private theorem elim_scanSign_append (t : Text) : (scanSign t).1.elim [] Sign.text ++ (scanSign t).2 = t := by
  unfold scanSign
  split <;> rfl

private theorem elim_scanFraction_append (t : Text) :
    (scanFraction t).1.elim [] ('.' :: ·) ++ (scanFraction t).2 = t := by
  unfold scanFraction
  split
  · exact congrArg ('.' :: ·) List.takeWhile_append_dropWhile
  · rfl

private theorem isDigit_of_mem_scanFraction {t digits : Text} (h : digits ∈ (scanFraction t).1) :
    ∀ c ∈ digits, Text.isDigit c = true := by
  unfold scanFraction at h
  split at h
  · obtain rfl := Option.mem_some.1 h
    exact fun _ => List.mem_takeWhile_imp
  · cases h

private theorem scanPower_sound {t : Text} {p : PowerOfTen} (h : scanPower t = some p) : p.IsProper ∧ p.text <+: t := by
  cases t with
  | nil => cases h
  | cons mark rest =>
    simp only [scanPower] at h
    split at h
    · rename_i hmark
      split at h
      · cases h
      · rename_i hdigits
        cases h
        refine ⟨⟨hmark, fun _ => List.mem_takeWhile_imp, by simpa using hdigits⟩, ?_⟩
        have hsign : (scanSign rest).1.elim [] Sign.text ++ (scanSign rest).2.takeWhile Text.isDigit <+: rest := by
          conv => rhs; rw [← elim_scanSign_append rest]
          exact (List.prefix_append_right_inj _).2 (List.takeWhile_prefix _)
        exact (List.cons_prefix_cons).2 ⟨rfl, hsign⟩
    · cases h

/-- What is found is a proper numeral with which the text starts. -/
theorem scan_sound {t : Text} {n : Numeral} (h : scan t = some n) : n.IsProper ∧ n.text <+: t := by
  have hlead := List.takeWhile_append_dropWhile (p := Text.isBlank) (l := t)
  have hsign := elim_scanSign_append (t.dropWhile Text.isBlank)
  unfold scan at h
  dsimp only at h
  -- each part is put back in front of what was left behind it
  generalize scanSign (t.dropWhile Text.isBlank) = signed at *
  have hwhole := List.takeWhile_append_dropWhile (p := Text.isDigit) (l := signed.2)
  have hfraction := elim_scanFraction_append (signed.2.dropWhile Text.isDigit)
  have hdigits := @isDigit_of_mem_scanFraction (signed.2.dropWhile Text.isDigit)
  generalize scanFraction (signed.2.dropWhile Text.isDigit) = fractional at *
  split at h
  · cases h
  · rename_i hnonempty
    obtain rfl := Option.some.inj h
    refine ⟨⟨fun _ => List.mem_takeWhile_imp, fun _ => List.mem_takeWhile_imp, fun _ => hdigits, ?_,
      fun p hp => (scanPower_sound hp).1⟩, ?_⟩
    · -- neither empty whole digits nor empty digits behind the point alone are refused
      by_contra hnone
      simp only [not_or, not_not, not_exists, not_and] at hnone
      rw [hnone.1] at hnonempty
      refine hnonempty ?_
      cases hd : fractional.1 with
      | none => rfl
      | some digits => simp [hnone.2 digits hd]
    · have hpower : (scanPower fractional.2).elim [] PowerOfTen.text <+: fractional.2 := by
        cases hscan : scanPower fractional.2 with
        | none => exact List.nil_prefix
        | some p => exact (scanPower_sound hscan).2
      conv => rhs; rw [← hlead, ← hsign, ← hwhole, ← hfraction]
      simpa only [text, List.append_assoc, List.prefix_append_right_inj] using hpower

/-! ### Nothing longer stands in front -/

/-- No sign is a digit. -/
private theorem ne_of_isDigit {c : Char} (h : Text.isDigit c = true) : c ≠ '+' ∧ c ≠ '-' := by
  constructor <;>
  · rintro rfl
    exact absurd h (by decide +kernel)

/-- A sign is read off whole in front of anything else. -/
private theorem scanSign_append {sign : Option Sign} {t : Text} (h : ∀ c ∈ t.head?, c ≠ '+' ∧ c ≠ '-') :
    scanSign (sign.elim [] Sign.text ++ t) = (sign, t) := by
  cases sign with
  | some s => cases s <;> rfl
  | none =>
    show scanSign t = (none, t)
    unfold scanSign
    split
    · exact absurd rfl (h _ rfl).1
    · exact absurd rfl (h _ rfl).2
    · rfl

/-- A power of ten takes in all digits behind it. -/
private theorem scanPower_append {p : PowerOfTen} (h : p.IsProper) (t : Text) :
    scanPower (p.text ++ t) = some { p with digits := p.digits ++ t.takeWhile Text.isDigit } := by
  obtain ⟨mark, sign, digits⟩ := p
  have hhead : ∀ c ∈ (digits ++ t).head?, c ≠ '+' ∧ c ≠ '-' := by
    intro c hc
    obtain ⟨d, digits, rfl⟩ := List.exists_cons_of_ne_nil h.nonempty
    obtain rfl := Option.some.inj hc
    exact ne_of_isDigit (h.digits _ (List.mem_cons_self ..))
  have hdigits : (digits ++ t).takeWhile Text.isDigit = digits ++ t.takeWhile Text.isDigit :=
    List.takeWhile_append_of_pos h.digits
  have hne : (digits ++ t.takeWhile Text.isDigit).isEmpty = false := by
    simp [h.nonempty]
  show scanPower (mark :: (sign.elim [] Sign.text ++ digits ++ t)) = _
  rw [List.append_assoc]
  simp only [scanPower, if_pos h.mark, scanSign_append hhead, hdigits, hne]
  rfl

/-- White space and a sign are read off in front of a digit or a point. -/
private theorem scan_append {lead t : Text} (sign : Option Sign) (hlead : ∀ c ∈ lead, Text.isBlank c = true)
    (hhead : ∀ c ∈ t.head?, Text.isDigit c = true ∨ c = '.') :
    scan (lead ++ (sign.elim [] Sign.text ++ t)) =
      if (t.takeWhile Text.isDigit).isEmpty && (scanFraction (t.dropWhile Text.isDigit)).1.all List.isEmpty then none
      else some ⟨lead, sign, t.takeWhile Text.isDigit, (scanFraction (t.dropWhile Text.isDigit)).1,
        scanPower (scanFraction (t.dropWhile Text.isDigit)).2⟩ := by
  have hfirst : ∀ c ∈ t.head?, Text.isBlank c = false ∧ c ≠ '+' ∧ c ≠ '-' := by
    intro c hc
    rcases hhead c hc with hdigit | rfl
    · exact ⟨Text.isBlank_eq_false_of_isDigit hdigit, ne_of_isDigit hdigit⟩
    · decide +kernel
  have hblank : ∀ hl : 0 < (sign.elim [] Sign.text ++ t).length,
      ¬ Text.isBlank (sign.elim [] Sign.text ++ t)[0] = true := by
    intro hl
    cases sign with
    | none =>
      have hhead : t.head? = some t[0] := List.head?_eq_getElem?.trans (List.getElem?_eq_getElem hl)
      exact Bool.eq_false_iff.1 (hfirst _ hhead).1
    | some s =>
      have hsigns : ¬ Text.isBlank '+' = true ∧ ¬ Text.isBlank '-' = true := by decide +kernel
      cases s with
      | plus => exact hsigns.1
      | minus => exact hsigns.2
  have hsign : scanSign (sign.elim [] Sign.text ++ t) = (sign, t) := scanSign_append fun c hc => (hfirst c hc).2
  unfold scan
  rw [List.dropWhile_append_of_pos hlead, List.takeWhile_append_of_pos hlead, List.takeWhile_eq_nil_iff.2 hblank,
    List.dropWhile_eq_self_iff.2 hblank, hsign, List.append_nil]

/-- A power makes a numeral longer. -/
private theorem eq_or_longer_of_power (lead : Text) (sign : Option Sign) (whole : Text) (fraction : Option Text)
    (power : Option PowerOfTen) :
    (⟨lead, sign, whole, fraction, power⟩ : Numeral) = ⟨lead, sign, whole, fraction, none⟩ ∨
      (text ⟨lead, sign, whole, fraction, none⟩).length < (text ⟨lead, sign, whole, fraction, power⟩).length := by
  cases power with
  | none => exact .inl rfl
  | some p =>
    right
    simp [text, PowerOfTen.text]

section WithoutPower

variable {n : Numeral} (h : n.IsProper) (hpower : n.power = none)

include h hpower

/-- Behind a point, digits and a power are read. -/
private theorem scan_append_of_point {digits : Text} (hfraction : n.fraction = some digits) (t : Text) :
    scan (n.text ++ t) = some { n with
      fraction := some (digits ++ t.takeWhile Text.isDigit), power := scanPower (t.dropWhile Text.isDigit) } := by
  obtain ⟨lead, sign, whole, fraction, power⟩ := n
  obtain rfl : fraction = some digits := hfraction
  obtain rfl : power = none := hpower
  have hdigits : ∀ c ∈ digits, Text.isDigit c = true := h.fraction digits rfl
  have hhead : ∀ c ∈ (whole ++ '.' :: (digits ++ t)).head?, Text.isDigit c = true ∨ c = '.' := by
    intro c hc
    cases whole with
    | nil => exact .inr (Option.some.inj hc).symm
    | cons d whole =>
      obtain rfl := Option.some.inj hc
      exact .inl (h.whole _ (List.mem_cons_self ..))
  have htext : text ⟨lead, sign, whole, some digits, none⟩ ++ t =
      lead ++ (sign.elim [] Sign.text ++ (whole ++ '.' :: (digits ++ t))) := by
    simp [text]
  have hpoint : ¬ Text.isDigit '.' = true := by decide +kernel
  have hfraction : scanFraction ('.' :: (digits ++ t)) =
      (some (digits ++ t.takeWhile Text.isDigit), t.dropWhile Text.isDigit) := by
    simp only [scanFraction, List.takeWhile_append_of_pos hdigits, List.dropWhile_append_of_pos hdigits]
  have hnonempty : (whole.isEmpty && (digits ++ t.takeWhile Text.isDigit).isEmpty) = false := by
    obtain hne | ⟨_, ⟨⟩, hne⟩ := h.nonempty
    · simp [hne]
    · simp [hne]
  rw [htext, scan_append sign h.lead hhead, List.takeWhile_append_of_pos h.whole,
    List.dropWhile_append_of_pos h.whole, List.takeWhile_cons_of_neg hpoint, List.dropWhile_cons_of_neg hpoint,
    hfraction, List.append_nil, Option.all_some, hnonempty]
  rfl

/-- Behind whole digits, more digits, a point with its digits and a power are read. -/
private theorem scan_append_of_no_point (hfraction : n.fraction = none) (t : Text) :
    scan (n.text ++ t) = some { n with
      whole := n.whole ++ t.takeWhile Text.isDigit
      fraction := (scanFraction (t.dropWhile Text.isDigit)).1
      power := scanPower (scanFraction (t.dropWhile Text.isDigit)).2 } := by
  obtain ⟨lead, sign, whole, fraction, power⟩ := n
  obtain rfl : fraction = none := hfraction
  obtain rfl : power = none := hpower
  obtain hne | ⟨_, ⟨⟩, -⟩ := h.nonempty
  have hhead : ∀ c ∈ (whole ++ t).head?, Text.isDigit c = true ∨ c = '.' := by
    intro c hc
    obtain ⟨d, whole, rfl⟩ := List.exists_cons_of_ne_nil hne
    obtain rfl := Option.some.inj hc
    exact .inl (h.whole _ (List.mem_cons_self ..))
  have htext : text ⟨lead, sign, whole, none, none⟩ ++ t = lead ++ (sign.elim [] Sign.text ++ (whole ++ t)) := by
    simp [text]
  have hnonempty : (whole ++ t.takeWhile Text.isDigit).isEmpty = false := by
    simpa using fun hnil => absurd hnil hne
  rw [htext, scan_append sign h.lead hhead, List.takeWhile_append_of_pos h.whole,
    List.dropWhile_append_of_pos h.whole, hnonempty]
  rfl

/-- Without a power, a numeral is found unless something behind it makes it longer. -/
private theorem scan_text_append (t : Text) :
    ∃ m, scan (n.text ++ t) = some m ∧ (m = n ∨ n.text.length < m.text.length) := by
  obtain ⟨lead, sign, whole, fraction, power⟩ := n
  obtain rfl : power = none := hpower
  cases fraction with
  | some digits =>
    refine ⟨_, scan_append_of_point h rfl rfl t, ?_⟩
    -- more digits make the numeral longer, and a power does where there are none
    cases t.takeWhile Text.isDigit with
    | nil =>
      rw [List.append_nil]
      exact eq_or_longer_of_power _ _ _ _ _
    | cons c more =>
      right
      simp [text]
  | none =>
    refine ⟨_, scan_append_of_no_point h rfl rfl t, ?_⟩
    generalize scanFraction (t.dropWhile Text.isDigit) = fractional
    obtain ⟨_ | digits, rest⟩ := fractional
    · cases t.takeWhile Text.isDigit with
      | nil =>
        rw [List.append_nil]
        exact eq_or_longer_of_power _ _ _ _ _
      | cons c more =>
        right
        simp [text]
    · right
      simp only [text, Option.elim_some, Option.elim_none, List.length_append, List.length_cons, List.length_nil]
      omega

/-- A power is read off whole, with the digits behind it. -/
private theorem scan_append_of_power {p : PowerOfTen} (hp : p.IsProper) (t : Text) :
    scan (n.text ++ (p.text ++ t)) =
      some { n with power := some { p with digits := p.digits ++ t.takeWhile Text.isDigit } } := by
  have hmark : ¬ Text.isDigit p.mark = true ∧ p.mark ≠ '.' := by
    rcases hp.mark with hmark | hmark <;>
    · rw [hmark]
      decide +kernel
  have htake : (p.text ++ t).takeWhile Text.isDigit = [] := List.takeWhile_cons_of_neg hmark.1
  have hdrop : (p.text ++ t).dropWhile Text.isDigit = p.text ++ t := List.dropWhile_cons_of_neg hmark.1
  have hnone : scanFraction (p.text ++ t) = (none, p.text ++ t) := by
    unfold scanFraction
    split
    · rename_i hpoint
      exact absurd (List.cons.inj hpoint).1 hmark.2
    · rfl
  cases hfraction : n.fraction with
  | some digits =>
    rw [scan_append_of_point h hpower hfraction, htake, hdrop, scanPower_append hp, List.append_nil]
  | none =>
    rw [scan_append_of_no_point h hpower hfraction, htake, hdrop, hnone, scanPower_append hp, List.append_nil]

end WithoutPower

/-- Where a proper numeral stands in front, it is found, unless what is behind it makes it longer. -/
theorem scan_of_isProper {n : Numeral} (h : n.IsProper) (t : Text) :
    ∃ m, scan (n.text ++ t) = some m ∧ (m = n ∨ n.text.length < m.text.length) := by
  obtain ⟨lead, sign, whole, fraction, power⟩ := n
  cases power with
  | none => exact scan_text_append h rfl t
  | some p =>
    have hbody : IsProper ⟨lead, sign, whole, fraction, none⟩ := ⟨h.lead, h.whole, h.fraction, h.nonempty, nofun⟩
    have htext : text ⟨lead, sign, whole, fraction, some p⟩ ++ t =
        text ⟨lead, sign, whole, fraction, none⟩ ++ (p.text ++ t) := by
      simp [text]
    refine ⟨_, htext ▸ scan_append_of_power hbody rfl (h.power p rfl) t, ?_⟩
    cases t.takeWhile Text.isDigit with
    | nil =>
      rw [List.append_nil]
      exact .inl rfl
    | cons c more =>
      right
      simp [text, PowerOfTen.text]

/-! ### The longest numeral -/

private theorem isLongestIn_of_scan {t : Text} {n : Numeral} (h : scan t = some n) : n.IsLongestIn t := by
  obtain ⟨hproper, hstarts⟩ := scan_sound h
  refine ⟨hproper, hstarts, ?_⟩
  rintro m hm ⟨rest, rfl⟩
  obtain ⟨m', hm', hlonger⟩ := scan_of_isProper hm rest
  obtain rfl : m' = n := Option.some.inj (hm'.symm.trans h)
  rcases hlonger with rfl | hlt
  · exact Nat.le_refl _
  · exact hlt.le

/-- The scan finds the longest proper numeral in front. -/
theorem scan_eq_some_iff {t : Text} {n : Numeral} : scan t = some n ↔ n.IsLongestIn t := by
  refine ⟨isLongestIn_of_scan, fun h => ?_⟩
  obtain ⟨rest, rfl⟩ := h.starts
  obtain ⟨m, hm, rfl | hlt⟩ := scan_of_isProper h.isProper rest
  · exact hm
  · -- the numeral found would be a longer one
    obtain ⟨hproper, hstarts⟩ := scan_sound hm
    exact absurd (h.longest m hproper hstarts) (Nat.not_le.2 hlt)

/-- In its own text no numeral is longer. -/
theorem IsProper.isLongestIn_text {n : Numeral} (h : n.IsProper) : n.IsLongestIn n.text :=
  ⟨h, List.prefix_rfl, fun _ _ hm => hm.length_le⟩

/-- The scan finds nothing where no proper numeral stands in front. -/
theorem scan_eq_none_iff {t : Text} : scan t = none ↔ ∀ n : Numeral, n.IsProper → ¬ n.text <+: t := by
  constructor
  · rintro hnone n hn ⟨rest, rfl⟩
    obtain ⟨m, hm, -⟩ := scan_of_isProper hn rest
    rw [hm] at hnone
    cases hnone
  · intro h
    cases hscan : scan t with
    | none => rfl
    | some n =>
      obtain ⟨hproper, hstarts⟩ := scan_sound hscan
      exact absurd hstarts (h n hproper)

end Numeral

end SqlTemplate
