import Mathlib.Computability.Language
import SqlTemplate.Proofs.LongestNumeral

/-!
# The language of numerals

How numbers are written in front of a text, as a regular language: white space, a sign, digits that may have a point
with digits behind them or a point with digits, and a power of ten.  Its texts are those of the proper numerals
(`Numeral.mem_language_iff`), so that the scan finds the longest text of the language that another text starts with
(`Numeral.scan_language`).
-/

open scoped Computability

namespace SqlTemplate

namespace Text

/-- The texts of one character that passes a test. -/
def oneOf (p : Char → Bool) : Language Char := {t | ∃ c, p c = true ∧ t = [c]}

variable {p : Char → Bool} {t : Text}

private theorem mem_oneOf_mul {l : Language Char} : t ∈ oneOf p * l ↔ ∃ c u, p c = true ∧ u ∈ l ∧ t = c :: u := by
  rw [Language.mem_mul]
  constructor
  · rintro ⟨_, ⟨c, hc, rfl⟩, u, hu, rfl⟩
    exact ⟨c, u, hc, hu, rfl⟩
  · rintro ⟨c, u, hc, hu, rfl⟩
    exact ⟨[c], ⟨c, hc, rfl⟩, u, hu, rfl⟩

/-- Any number of characters. -/
private theorem mem_kstar_oneOf : t ∈ (oneOf p)∗ ↔ ∀ c ∈ t, p c = true := by
  constructor
  · rintro ⟨parts, rfl, hparts⟩ c hc
    obtain ⟨u, hu, hcu⟩ := List.mem_flatten.1 hc
    obtain ⟨d, hd, rfl⟩ := hparts u hu
    rwa [List.mem_singleton.1 hcu]
  · intro h
    refine ⟨t.map fun c => [c], (List.flatMap_singleton' t).symm, ?_⟩
    intro u hu
    obtain ⟨c, hc, rfl⟩ := List.mem_map.1 hu
    exact ⟨c, h c hc, rfl⟩

/-- At least one character. -/
private theorem mem_oneOf_mul_kstar : t ∈ oneOf p * (oneOf p)∗ ↔ t ≠ [] ∧ ∀ c ∈ t, p c = true := by
  rw [mem_oneOf_mul]
  constructor
  · rintro ⟨c, u, hc, hu, rfl⟩
    exact ⟨List.cons_ne_nil c u, List.forall_mem_cons.2 ⟨hc, mem_kstar_oneOf.1 hu⟩⟩
  · rintro ⟨hne, h⟩
    obtain ⟨c, u, rfl⟩ := List.exists_cons_of_ne_nil hne
    obtain ⟨hc, hu⟩ := List.forall_mem_cons.1 h
    exact ⟨c, u, hc, mem_kstar_oneOf.2 hu, rfl⟩

end Text

open Text

namespace Numeral

def signs : Language Char := oneOf (· ∈ ['+', '-'])

def points : Language Char := oneOf (· = '.')

def marks : Language Char := oneOf (· ∈ ['e', 'E'])

/-- At least one decimal digit of any script. -/
def digits : Language Char := oneOf isDigit * (oneOf isDigit)∗

/-- Digits with or without a point behind or among them, or digits behind a point. -/
def mantissas : Language Char := digits * (1 + points * (oneOf isDigit)∗) + points * digits

def exponents : Language Char := marks * (1 + signs) * digits

/-- The texts that write a number. -/
def language : Language Char := (oneOf isBlank)∗ * (1 + signs) * mantissas * (1 + exponents)

/-! ### The parts of a numeral -/

private theorem mem_one_add_signs {t : Text} : t ∈ 1 + signs ↔ ∃ s : Option Sign, t = s.elim [] Sign.text := by
  rw [Language.mem_add, Language.mem_one]
  constructor
  · rintro (rfl | ⟨c, hc, rfl⟩)
    · exact ⟨none, rfl⟩
    · rcases (by simpa using hc : c = '+' ∨ c = '-') with rfl | rfl
      · exact ⟨some .plus, rfl⟩
      · exact ⟨some .minus, rfl⟩
  · rintro ⟨_ | s, rfl⟩
    · exact .inl rfl
    · right
      cases s with
      | plus => exact ⟨'+', rfl, rfl⟩
      | minus => exact ⟨'-', rfl, rfl⟩

private theorem mem_one_add_exponents {t : Text} :
    t ∈ 1 + exponents ↔ ∃ power : Option PowerOfTen, (∀ p ∈ power, p.IsProper) ∧ t = power.elim [] PowerOfTen.text := by
  rw [Language.mem_add, Language.mem_one, exponents, mul_assoc, marks, mem_oneOf_mul]
  constructor
  · rintro (rfl | ⟨c, _, hc, ⟨u, hu, v, hv, rfl⟩, rfl⟩)
    · exact ⟨none, nofun, rfl⟩
    · obtain ⟨s, rfl⟩ := mem_one_add_signs.1 hu
      obtain ⟨hne, hdigits⟩ := mem_oneOf_mul_kstar.1 hv
      refine ⟨some ⟨c, s, v⟩, ?_, rfl⟩
      rintro _ ⟨⟩
      exact ⟨by simpa using hc, hdigits, hne⟩
  · rintro ⟨_ | p, hp, rfl⟩
    · exact .inl rfl
    · obtain ⟨hmark, hdigits, hne⟩ := hp p rfl
      exact .inr ⟨p.mark, _, by simpa using hmark, ⟨_, mem_one_add_signs.2 ⟨p.sign, rfl⟩, p.digits,
        mem_oneOf_mul_kstar.2 ⟨hne, hdigits⟩, rfl⟩, rfl⟩

/-- Whole digits and digits behind a point, with a digit among them. -/
private theorem mem_mantissas {t : Text} :
    t ∈ mantissas ↔ ∃ (whole : Text) (fraction : Option Text), (∀ c ∈ whole, isDigit c = true) ∧
      (∀ behind ∈ fraction, ∀ c ∈ behind, isDigit c = true) ∧ (whole ≠ [] ∨ ∃ behind ∈ fraction, behind ≠ []) ∧
      t = whole ++ fraction.elim [] ('.' :: ·) := by
  rw [mantissas, Language.mem_add, Language.mem_mul, points, mem_oneOf_mul]
  constructor
  · rintro (⟨whole, hwhole, rest, hrest, rfl⟩ | ⟨c, behind, hc, hbehind, rfl⟩)
    · obtain ⟨hne, hdigits⟩ := mem_oneOf_mul_kstar.1 hwhole
      rcases hrest with rfl | hrest
      · exact ⟨whole, none, hdigits, nofun, .inl hne, rfl⟩
      · obtain ⟨c, behind, hc, hbehind, rfl⟩ := mem_oneOf_mul.1 hrest
        obtain rfl : c = '.' := by simpa using hc
        refine ⟨whole, some behind, hdigits, ?_, .inl hne, rfl⟩
        rintro _ ⟨⟩
        exact mem_kstar_oneOf.1 hbehind
    · obtain rfl : c = '.' := by simpa using hc
      obtain ⟨hne, hdigits⟩ := mem_oneOf_mul_kstar.1 hbehind
      refine ⟨[], some behind, nofun, ?_, .inr ⟨behind, rfl, hne⟩, rfl⟩
      rintro _ ⟨⟩
      exact hdigits
  · rintro ⟨whole, fraction, hwhole, hfraction, hnonempty, rfl⟩
    by_cases hne : whole = []
    · -- the digits stand behind the point then
      obtain ⟨behind, hbehind, hne'⟩ := hnonempty.resolve_left (not_not.2 hne)
      obtain rfl := Option.mem_def.1 hbehind
      subst hne
      exact .inr ⟨'.', behind, by simp, mem_oneOf_mul_kstar.2 ⟨hne', hfraction behind rfl⟩, rfl⟩
    · refine .inl ⟨whole, mem_oneOf_mul_kstar.2 ⟨hne, hwhole⟩, _, ?_, rfl⟩
      cases fraction with
      | none => exact .inl rfl
      | some behind =>
        exact .inr (mem_oneOf_mul.2 ⟨'.', behind, by simp, mem_kstar_oneOf.2 (hfraction behind rfl), rfl⟩)

/-- The texts of the language are those of the proper numerals. -/
theorem mem_language_iff {t : Text} : t ∈ language ↔ ∃ n : Numeral, n.IsProper ∧ n.text = t := by
  constructor
  · rintro ⟨_, ⟨_, ⟨lead, hlead, u, hu, rfl⟩, v, hv, rfl⟩, w, hw, rfl⟩
    obtain ⟨s, rfl⟩ := mem_one_add_signs.1 hu
    obtain ⟨whole, fraction, hwhole, hfraction, hnonempty, rfl⟩ := mem_mantissas.1 hv
    obtain ⟨power, hpower, rfl⟩ := mem_one_add_exponents.1 hw
    refine ⟨⟨lead, s, whole, fraction, power⟩,
      ⟨mem_kstar_oneOf.1 hlead, hwhole, hfraction, hnonempty, hpower⟩, ?_⟩
    simp only [text, List.append_assoc]
  · rintro ⟨n, hn, rfl⟩
    have hlead : n.lead ∈ (oneOf isBlank)∗ := mem_kstar_oneOf.2 hn.lead
    have hsign : n.sign.elim [] Sign.text ∈ 1 + signs := mem_one_add_signs.2 ⟨n.sign, rfl⟩
    have hmantissa : n.whole ++ n.fraction.elim [] ('.' :: ·) ∈ mantissas :=
      mem_mantissas.2 ⟨n.whole, n.fraction, hn.whole, hn.fraction, hn.nonempty, rfl⟩
    have hpower : n.power.elim [] PowerOfTen.text ∈ 1 + exponents := mem_one_add_exponents.2 ⟨n.power, hn.power, rfl⟩
    rw [text, List.append_assoc (n.lead ++ _)]
    exact Language.append_mem_mul (Language.append_mem_mul (Language.append_mem_mul hlead hsign) hmantissa) hpower

/-- What the scan finds is the longest text of the language that the text starts with; it finds nothing if and only if
the text starts with none. -/
theorem scan_language (t : Text) :
    (∀ found, (scan t).map text = some found ↔
      found <+: t ∧ found ∈ language ∧ ∀ other, other <+: t → other ∈ language → other.length ≤ found.length) ∧
    ((scan t).map text = none ↔ ∀ other, other <+: t → other ∉ language) := by
  constructor
  · intro found
    rw [Option.map_eq_some_iff]
    constructor
    · rintro ⟨n, hscan, rfl⟩
      obtain ⟨hproper, hstarts, hlongest⟩ := scan_eq_some_iff.1 hscan
      refine ⟨hstarts, mem_language_iff.2 ⟨n, hproper, rfl⟩, fun other hother hmem => ?_⟩
      obtain ⟨m, hm, rfl⟩ := mem_language_iff.1 hmem
      exact hlongest m hm hother
    · rintro ⟨hstarts, hmem, hlongest⟩
      obtain ⟨n, hproper, rfl⟩ := mem_language_iff.1 hmem
      refine ⟨n, scan_eq_some_iff.2 ⟨hproper, hstarts, fun m hm hstarts' => ?_⟩, rfl⟩
      exact hlongest m.text hstarts' (mem_language_iff.2 ⟨m, hm, rfl⟩)
  · rw [Option.map_eq_none_iff, scan_eq_none_iff]
    constructor
    · intro hnone other hother hmem
      obtain ⟨n, hproper, rfl⟩ := mem_language_iff.1 hmem
      exact hnone n hproper hother
    · intro hnone n hproper hstarts
      exact hnone n.text hstarts (mem_language_iff.2 ⟨n, hproper, rfl⟩)

end Numeral

end SqlTemplate
