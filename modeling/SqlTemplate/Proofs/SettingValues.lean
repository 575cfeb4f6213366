import Mathlib.Data.List.Basic
import Mathlib.Data.List.Nodup
import Mathlib.Data.List.TakeWhile
import SqlTemplate.Proofs.NumberText
import SqlTemplate.Settings

/-!
# Values of settings

The values that a setting can have are those that fit it, its default among them, and each is read from the text that
writes it (`Setting.fits_default`, `Settings.exists_read_eq_ok_iff`).  Variables give each setting the value that is
read from its text, or its default if there is none, unless a text is refused; what is refused is told with the setting
that the text is for (`Settings.ofVariables_eq_ok_iff`, `Settings.mem_problems_iff`).  Settings are read back from the
variables that write them, and variables from the lines of a file (`Settings.ofVariables_written`,
`Settings.fileVariables_lines`).  A connection is opened with the values of the settings where no parameter of the same
name is given instead (`Settings.value_opening`).
-/

namespace SqlTemplate

/-- A text with no such character at either end is left alone. -/
private theorem Text.trim_eq_self {outside : Char → Bool} {t : Text} (hhead : ∀ c ∈ t.head?, outside c = false)
    (hlast : ∀ c ∈ t.getLast?, outside c = false) : trim outside t = t := by
  have hdrop : ∀ u : Text, (∀ c ∈ u.head?, outside c = false) → u.dropWhile outside = u := by
    intro u hu
    apply List.dropWhile_eq_self_iff.2
    intro hl
    exact Bool.eq_false_iff.1 (hu _ (List.head?_eq_getElem?.trans (List.getElem?_eq_getElem hl)))
  rw [trim, hdrop t hhead, hdrop t.reverse (by rwa [List.head?_reverse]), List.reverse_reverse]

/-! ### Integers of settings -/

namespace SettingInteger

open Integer

private theorem splitMinus_naturalText (n : Nat) : splitMinus (naturalText n) = (false, naturalText n) := by
  unfold splitMinus
  split
  · rename_i rest h
    exact absurd h (naturalText_ne_minus_cons n rest)
  · rfl

private theorem signed_splitMinus (t : Text) : signed (splitMinus t).1 (splitMinus t).2 = t := by
  unfold splitMinus
  split <;> rfl

private theorem plain?_text (n : Int) : plain? (text n) = some n := by
  rcases natural_or_negative n with ⟨m, rfl⟩ | ⟨m, hm, rfl⟩
  · have hdigits : naturalText m = ['0'] ∨ isPositiveText (naturalText m) = true := by
      rcases Nat.eq_zero_or_pos m with rfl | hm
      · exact .inl rfl
      · exact .inr (isPositiveText_naturalText hm)
    rw [text_natCast, plain?, splitMinus_naturalText]
    simp only [if_pos hdigits, ofDigitChars_naturalText]
    rfl
  · have hsplit : splitMinus ('-' :: naturalText m) = (true, naturalText m) := rfl
    rw [text_neg_natCast hm, plain?, hsplit]
    simp only [if_pos (Or.inr (isPositiveText_naturalText hm)), ofDigitChars_naturalText]
    rfl

/-- The bare form is how integers are written, but a zero may have a minus. -/
theorem plain?_eq_some_iff {t : Text} {n : Int} : plain? t = some n ↔ text n = t ∨ n = 0 ∧ t = ['-', '0'] := by
  constructor
  · intro h
    have ht := signed_splitMinus t
    unfold plain? at h
    rcases hsplit : splitMinus t with ⟨negative, digits⟩
    rw [hsplit] at h ht
    dsimp only at h ht
    split at h
    · rename_i hdigits
      obtain rfl := Option.some.inj h
      rw [← ht]
      -- a zero is the only number whose digits start with one, and the only one that loses its minus
      rcases hdigits with rfl | hpositive
      · cases negative
        · exact .inl rfl
        · exact .inr ⟨rfl, rfl⟩
      · obtain ⟨m, hm, rfl⟩ := exists_naturalText hpositive
        rw [ofDigitChars_naturalText]
        left
        cases negative
        · exact text_natCast m
        · exact text_neg_natCast hm
    · cases h
  · rintro (rfl | ⟨rfl, rfl⟩)
    · exact plain?_text n
    · decide

private theorem isBlank_of_isDigit {c : Char} (h : c.isDigit = true) : Text.isBlank c = false := by
  have hcode := Char.isDigit_iff_toNat.1 h
  have h0 : '0'.toNat = 48 := rfl
  have h9 : '9'.toNat = 57 := rfl
  have hapart : ∀ range ∈ Text.blankRanges, range.2 < 48 ∨ 57 < range.1 := by decide
  simp only [Text.isBlank, Text.inRanges, List.any_eq_false, Bool.and_eq_true, decide_eq_true_eq]
  intro range hrange hin
  have := hapart range hrange
  omega

section Positive

variable {digits : Text} (h : isPositiveText digits = true)

include h

private theorem all_isDigit_of_isPositiveText : digits.All Char.isDigit := by
  obtain ⟨n, -, rfl⟩ := exists_naturalText h
  exact fun c hc => isDigit_of_mem_naturalText hc

private theorem exists_cons_of_isPositiveText : ∃ d rest, digits = d :: rest ∧ d.isDigit = true ∧ d ≠ '0' := by
  cases digits with
  | nil => cases h
  | cons d rest =>
    simp only [isPositiveText, Bool.and_eq_true, bne_iff_ne] at h
    exact ⟨d, rest, rfl, h.1.1, h.1.2⟩

private theorem notMem_of_isPositiveText {c : Char} (hc : c.isDigit = false) : c ∉ digits := by
  intro hmem
  rw [all_isDigit_of_isPositiveText h c hmem] at hc
  cases hc

private theorem trim_signed (negative : Bool) :
    Text.trim (fun c => Text.isBlank c && !Text.isSeparator c) (signed negative digits) = signed negative digits := by
  have hinside : ∀ c ∈ signed negative digits, (Text.isBlank c && !Text.isSeparator c) = false := by
    intro c hc
    have hblank : Text.isBlank c = false := by
      cases negative with
      | false => exact isBlank_of_isDigit (all_isDigit_of_isPositiveText h c hc)
      | true =>
        rcases List.mem_cons.1 hc with rfl | hc
        · decide
        · exact isBlank_of_isDigit (all_isDigit_of_isPositiveText h c hc)
    rw [hblank, Bool.false_and]
  exact Text.trim_eq_self (fun c hc => hinside c (List.mem_of_head? hc))
    (fun c hc => hinside c (List.mem_of_getLast? hc))

private theorem splitSign_signed (negative : Bool) :
    splitSign (signed negative digits) = (if negative then ['-'] else [], digits) := by
  cases negative with
  | true => rfl
  | false =>
    show splitSign digits = ([], digits)
    unfold splitSign
    -- digits start with no sign
    split
    · exact absurd List.mem_cons_self (notMem_of_isPositiveText h rfl)
    · exact absurd List.mem_cons_self (notMem_of_isPositiveText h rfl)
    · rfl

/-- Nothing stands around digits that is not theirs. -/
private theorem bare?_signed (negative : Bool) : bare? (signed negative digits) = some (signed negative digits) := by
  obtain ⟨d, rest, hcons, hd, hzero⟩ := exists_cons_of_isPositiveText h
  have hhead : digits.head?.any Char.isDigit = true := by
    rw [hcons]
    exact hd
  have hleading : withoutLeadingZeros digits = digits := by
    rw [hcons]
    simp [withoutLeadingZeros, hzero]
  have hfraction : withoutZeroFraction digits = digits := by
    have hdrop : digits.dropWhile (· ≠ '.') = [] := by
      rw [List.dropWhile_eq_nil_iff]
      intro c hc
      simpa using ne_of_mem_of_not_mem hc (notMem_of_isPositiveText h rfl)
    simp only [withoutZeroFraction, hdrop]
    rfl
  have hunderscores : withoutUnderscores digits = digits := by
    rw [withoutUnderscores, List.splitOn_eq_singleton (notMem_of_isPositiveText h rfl)]
    simp
  rw [bare?, trim_signed h, splitSign_signed h]
  simp only [hhead, hleading, hfraction, hunderscores]
  cases negative <;> rfl

end Positive

/-- How an integer is written is a bare form. -/
private theorem bare?_text (n : Int) : bare? (text n) = some (text n) := by
  rcases natural_or_negative n with ⟨m, rfl⟩ | ⟨m, hm, rfl⟩
  · rw [text_natCast]
    rcases Nat.eq_zero_or_pos m with rfl | hm
    · decide +kernel
    · exact bare?_signed (isPositiveText_naturalText hm) false
  · rw [text_neg_natCast hm]
    exact bare?_signed (isPositiveText_naturalText hm) true

/-- An integer is read from how it is written. -/
theorem read?_text (n : Int) : read? (text n) = some n := by
  rw [read?, bare?_text]
  exact plain?_text n

private theorem length_digits_text (n : Int) :
    ((splitMinus (text n)).2.takeWhile Char.isDigit).length = digitCount n.natAbs := by
  have hsplit : (splitMinus (text n)).2 = naturalText n.natAbs := by
    rcases natural_or_negative n with ⟨m, rfl⟩ | ⟨m, hm, rfl⟩
    · rw [text_natCast, splitMinus_naturalText, Int.natAbs_natCast]
    · rw [text_neg_natCast hm, Int.natAbs_neg, Int.natAbs_natCast]
      rfl
  have hall : (naturalText n.natAbs).takeWhile Char.isDigit = naturalText n.natAbs :=
    List.takeWhile_eq_self_iff.2 fun c => isDigit_of_mem_naturalText
  rw [hsplit, hall, digitCount]

private theorem isOverlong_text (n : Int) : isOverlong (text n) = decide (digitLimit < digitCount n.natAbs) := by
  rw [isOverlong, bare?_text, Option.any_some, length_digits_text]

/-- What is read has no more digits than an integer may be written with. -/
theorem digitCount_le_of_read? {t : Text} {n : Int} (hread : read? t = some n) (hlong : isOverlong t = false) :
    digitCount n.natAbs ≤ digitLimit := by
  obtain ⟨bare, hbare, hplain⟩ := Option.bind_eq_some_iff.1 hread
  rcases plain?_eq_some_iff.1 hplain with rfl | ⟨rfl, -⟩
  · rw [isOverlong, hbare, Option.any_some, length_digits_text, decide_eq_false_iff_not] at hlong
    omega
  · decide

end SettingInteger

/-! ### One setting -/

namespace Setting

/-- The values that a setting can have: texts, or the integers that can be written and are not too small. -/
inductive Fits : Setting → Parameter → Prop
  | text {setting : Setting} (h : setting.isInteger = false) (t : Text) : Fits setting (.text t)
  | int {setting : Setting} {n : Int} (h : setting.isInteger = true) (hleast : ∀ least ∈ setting.least?, least ≤ n)
    (hdigits : Integer.digitCount n.natAbs ≤ Integer.digitLimit) : Fits setting (.int n)

/-- Every default passes the check of its setting. -/
theorem fits_default (setting : Setting) : setting.Fits setting.default := by
  cases setting with
  | port => exact .int rfl nofun (by decide)
  | connectTimeout => exact .int rfl (by decide) (by decide)
  | cacheSize => exact .int rfl (by decide) (by decide)
  | _ => exact .text rfl _

theorem mem_all (setting : Setting) : setting ∈ all := by
  cases setting <;> decide

/-- Also in lower case, no two settings have the same variable. -/
theorem lowerName_injective :
    Function.Injective fun setting : Setting => setting.variableName.toList.map Char.toLower := by
  have hnodup : (all.map fun setting => setting.variableName.toList.map Char.toLower).Nodup := by decide +kernel
  intro a b h
  exact List.inj_on_of_nodup_map hnodup (mem_all a) (mem_all b) h

end Setting

namespace Settings

variable {setting : Setting} {value : Parameter}

/-- A value that fits is read from the text that writes it. -/
theorem read_written (h : setting.Fits value) : read setting value.written = .ok value := by
  cases h with
  | text h t => simp [read, h, Parameter.written]
  | @int n h hleast hdigits =>
    have hlong : SettingInteger.isOverlong (Integer.text n) = false := by
      rw [SettingInteger.isOverlong_text, decide_eq_false_iff_not]
      omega
    have hlarge : setting.least?.any (fun least => decide (n < least)) = false := by
      rw [Option.any_eq_false]
      intro least hmem
      simpa using hleast least hmem
    show read setting (Integer.text n) = _
    simp [read, h, hlong, SettingInteger.read?_text, hlarge]

/-- The values that some text gives to a setting are those that fit. -/
theorem exists_read_eq_ok_iff : (∃ t, read setting t = .ok value) ↔ setting.Fits value := by
  constructor
  · rintro ⟨t, h⟩
    unfold read at h
    split at h
    · rename_i htext
      cases h
      exact .text (by simpa using htext) t
    split at h
    · cases h
    split at h
    · cases h
    split at h
    · cases h
    · rename_i hkind hlong _ n hread hleast
      cases h
      refine .int (by simpa using hkind) (fun least hmem => ?_)
        (SettingInteger.digitCount_le_of_read? hread (by simpa using hlong))
      by_contra hlt
      exact hleast ((Option.any_eq_true _ _).2 ⟨least, hmem, by simpa using hlt⟩)
  · exact fun h => ⟨_, read_written h⟩

/-! ### All settings -/

/-- The text that a setting is given, by the environment or else by the file. -/
def given? (environment file : Bindings Text) (setting : Setting) : Option Text :=
  (valueIn? environment setting).or (valueIn? file setting)

section Variables

variable {environment file : Bindings Text}

private theorem problem?_eq_some_iff {t? : Option Text} {p : SettingProblem} :
    problem? setting t? = some p ↔ ∃ t, t? = some t ∧ read setting t = .error p := by
  cases t? with
  | none => simp [problem?]
  | some t => cases h : read setting t <;> simp [problem?, h]

private theorem fst_filterMap_sublist {α β : Type} (f : α → Option β) (l : List α) :
    ((l.filterMap fun a => (f a).map (a, ·)).map Prod.fst).Sublist l := by
  induction l with
  | nil => exact .refl _
  | cons a l ih =>
    rw [List.filterMap_cons]
    cases f a with
    | none => exact ih.cons a
    | some b => exact ih.cons_cons a

/-- The settings whose texts are refused, each with what is wrong with its text. -/
private def problems (environment file : Bindings Text) : List (Setting × SettingProblem) :=
  Setting.all.filterMap fun setting => (problem? setting (given? environment file setting)).map (setting, ·)

private theorem mem_problems {p : SettingProblem} :
    (setting, p) ∈ problems environment file ↔
      ∃ t, given? environment file setting = some t ∧ read setting t = .error p := by
  rw [problems, List.mem_filterMap, ← problem?_eq_some_iff]
  constructor
  · rintro ⟨other, -, h⟩
    obtain ⟨_, hp, heq⟩ := Option.map_eq_some_iff.1 h
    cases heq
    exact hp
  · intro h
    exact ⟨setting, setting.mem_all, by rw [h]; rfl⟩

/-- The value of a setting where no text is refused. -/
private def valueOf (environment file : Bindings Text) : Settings := fun setting =>
  match (given? environment file setting).map (read setting) with
  | some (.ok value) => value
  | _ => setting.default

private theorem ofVariables_eq (environment file : Bindings Text) :
    ofVariables environment file =
      if (problems environment file).isEmpty then .ok (valueOf environment file)
      else .error ⟨problems environment file⟩ :=
  rfl

private theorem isEmpty_problems_iff : (problems environment file).isEmpty = true ↔
    ∀ setting t, given? environment file setting = some t → ∃ value, read setting t = .ok value := by
  rw [List.isEmpty_iff, List.eq_nil_iff_forall_not_mem]
  constructor
  · intro h setting t ht
    cases hread : read setting t with
    | ok value => exact ⟨value, rfl⟩
    | error p => exact absurd (mem_problems.2 ⟨t, ht, hread⟩) (h (setting, p))
  · intro h ⟨setting, p⟩ hmem
    obtain ⟨t, ht, hread⟩ := mem_problems.1 hmem
    obtain ⟨value, hvalue⟩ := h setting t ht
    cases hvalue.symm.trans hread

private theorem valueOf_of_none (h : given? environment file setting = none) :
    valueOf environment file setting = setting.default := by
  simp only [valueOf, h, Option.map_none]

private theorem valueOf_of_read {t : Text} (ht : given? environment file setting = some t)
    (hread : read setting t = .ok value) : valueOf environment file setting = value := by
  simp only [valueOf, ht, Option.map_some, hread]

/-- Settings are given if and only if no text is refused: each has the value of its text, or its default. -/
theorem ofVariables_eq_ok_iff {s : Settings} :
    ofVariables environment file = .ok s ↔ ∀ setting,
      (given? environment file setting = none ∧ s setting = setting.default) ∨
        ∃ t, given? environment file setting = some t ∧ read setting t = .ok (s setting) := by
  rw [ofVariables_eq]
  constructor
  · intro h setting
    split at h
    · rename_i hnone
      obtain rfl := Except.ok.inj h
      cases ht : given? environment file setting with
      | none => exact .inl ⟨rfl, valueOf_of_none ht⟩
      | some t =>
        obtain ⟨value, hread⟩ := isEmpty_problems_iff.1 hnone setting t ht
        exact .inr ⟨t, rfl, by rw [valueOf_of_read ht hread, hread]⟩
    · cases h
  · intro h
    have hnone : (problems environment file).isEmpty = true := by
      apply isEmpty_problems_iff.2
      intro setting t ht
      rcases h setting with ⟨hgiven, -⟩ | ⟨u, hgiven, hread⟩
      · cases hgiven.symm.trans ht
      · cases hgiven.symm.trans ht
        exact ⟨_, hread⟩
    rw [if_pos hnone]
    congr 1
    funext setting
    rcases h setting with ⟨hgiven, hdefault⟩ | ⟨t, hgiven, hread⟩
    · rw [valueOf_of_none hgiven, hdefault]
    · exact valueOf_of_read hgiven hread

/-- What is refused is told with the setting that the text is for, each setting once and in order. -/
theorem mem_problems_iff {e : InvalidSettings} (h : ofVariables environment file = .error e) :
    e.problems ≠ [] ∧ (e.problems.map Prod.fst).Sublist Setting.all ∧
      ∀ setting p, (setting, p) ∈ e.problems ↔
        ∃ t, given? environment file setting = some t ∧ read setting t = .error p := by
  rw [ofVariables_eq] at h
  split at h
  · cases h
  · rename_i hsome
    obtain rfl := Except.error.inj h
    refine ⟨by simpa using hsome, ?_, fun setting p => mem_problems⟩
    exact fst_filterMap_sublist (fun setting => problem? setting (given? environment file setting)) Setting.all

/-- Whatever the variables are, the settings have values that fit. -/
theorem fits_of_ofVariables {s : Settings} (h : ofVariables environment file = .ok s) (setting : Setting) :
    setting.Fits (s setting) := by
  rcases ofVariables_eq_ok_iff.1 h setting with ⟨-, hdefault⟩ | ⟨t, -, hread⟩
  · rw [hdefault]
    exact setting.fits_default
  · exact exists_read_eq_ok_iff.1 ⟨t, hread⟩

end Variables

/-- A later value of a variable counts before the earlier ones, unless it is empty. -/
theorem valueIn?_concat (bindings : Bindings Text) (name value : Text) (setting : Setting) :
    valueIn? (bindings ++ [(name, value)]) setting =
      if name.map Char.toLower = setting.variableName.toList.map Char.toLower ∧ value ≠ [] then some value
      else valueIn? bindings setting := by
  unfold valueIn?
  dsimp only
  rw [List.reverse_append, List.reverse_singleton, List.singleton_append, List.find?_cons]
  by_cases hname : name.map Char.toLower = setting.variableName.toList.map Char.toLower
  · by_cases hvalue : value = []
    · simp [hvalue]
    · have hfilled : value.isEmpty = false := List.isEmpty_eq_false_iff.2 hvalue
      simp [hname, hvalue, hfilled]
  · simp [hname]

/-- The variables that write the settings. -/
def written (s : Settings) : Bindings Text :=
  Setting.all.map fun setting => (setting.variableName.toList, (s setting).written)

theorem valueIn?_written (s : Settings) (setting : Setting) :
    valueIn? s.written setting = if (s setting).written = [] then none else some (s setting).written := by
  -- names do not differ in case only, so that a variable is found by its setting
  have hfind : valueIn? s.written setting =
      (Setting.all.reverse.find? fun other => other = setting && !(s other).written.isEmpty).map
        fun other => (s other).written := by
    simp only [valueIn?, written, ← List.map_reverse, List.find?_map, Option.map_map, Function.comp_def,
      Setting.lowerName_injective.eq_iff]
  rw [hfind]
  split
  · rename_i hempty
    rw [Option.map_eq_none_iff, List.find?_eq_none]
    intro other _ hother
    simp only [Bool.and_eq_true, decide_eq_true_eq] at hother
    obtain ⟨rfl, hother⟩ := hother
    simp [hempty] at hother
  · rename_i hwritten
    cases hfound : Setting.all.reverse.find? fun other => other = setting && !(s other).written.isEmpty with
    | none =>
      have hnot := List.find?_eq_none.1 hfound setting (List.mem_reverse.2 setting.mem_all)
      simp [hwritten] at hnot
    | some other =>
      have hother := List.find?_some hfound
      simp only [Bool.and_eq_true, decide_eq_true_eq] at hother
      rw [hother.1]
      rfl

/-- Settings are read back from the variables that write them, if only defaults are empty. -/
theorem ofVariables_written {s : Settings} (hfits : ∀ setting : Setting, setting.Fits (s setting))
    (hempty : ∀ setting, (s setting).written = [] → s setting = setting.default) :
    ofVariables s.written [] = .ok s := by
  rw [ofVariables_eq_ok_iff]
  intro setting
  have hgiven : given? s.written [] setting = valueIn? s.written setting := Option.or_none
  rw [hgiven, valueIn?_written]
  by_cases hwritten : (s setting).written = []
  · exact .inl ⟨if_pos hwritten, hempty setting hwritten⟩
  · exact .inr ⟨_, if_neg hwritten, read_written (hfits setting)⟩

/-! ### Files -/

/-- What a line can bind: a name and a value without line breaks and with no white space at their ends, an equals sign
in the value only, and nothing in the value that looks like a comment. -/
structure IsPlain (name value : Text) : Prop where
  unbroken : ∀ c ∈ name ++ value, c ≠ '\n' ∧ c ≠ '\r'
  unequal : '=' ∉ name
  trimmedName : Text.trim Text.isBlank name = name
  trimmedValue : Text.trim Text.isBlank value = value
  uncommented : withoutComment value = value

private theorem mem_of_mem_intercalate {separator : Text} {lines : List Text} {c : Char}
    (h : c ∈ separator.intercalate lines) : c ∈ separator ∨ ∃ line ∈ lines, c ∈ line := by
  induction lines with
  | nil => cases h
  | cons line lines ih =>
    cases lines with
    | nil => exact .inr ⟨line, List.mem_cons_self, by simpa using h⟩
    | cons second rest =>
      rw [List.intercalate_cons_cons, List.mem_append, List.mem_append] at h
      rcases h with (hline | hseparator) | hrest
      · exact .inr ⟨line, List.mem_cons_self, hline⟩
      · exact .inl hseparator
      · rcases ih hrest with hseparator | ⟨other, hother, hc⟩
        · exact .inl hseparator
        · exact .inr ⟨other, List.mem_cons_of_mem _ hother, hc⟩

/-- Lines without breaks are read back, and a carriage return is a break as well. -/
private theorem splitOn_lines {lines : List Text} (hne : lines ≠ [])
    (h : ∀ line ∈ lines, ∀ c ∈ line, c ≠ '\n' ∧ c ≠ '\r') :
    ((['\n'].intercalate lines).map fun c => if c = '\r' then '\n' else c).splitOn '\n' = lines := by
  have hkept : (['\n'].intercalate lines).map (fun c => if c = '\r' then '\n' else c) = ['\n'].intercalate lines := by
    refine (List.map_congr_left fun c hc => if_neg ?_).trans (List.map_id _)
    rcases mem_of_mem_intercalate hc with hbreak | ⟨line, hline, hmem⟩
    · rw [List.mem_singleton.1 hbreak]
      decide
    · exact (h line hline c hmem).2
  rw [hkept]
  exact List.splitOn_intercalate '\n' (fun line hline hmem => (h line hline '\n' hmem).1 rfl) hne

private theorem IsPlain.line_unbroken {name value : Text} (h : IsPlain name value) :
    ∀ c ∈ name ++ '=' :: value, c ≠ '\n' ∧ c ≠ '\r' := by
  intro c hc
  rcases List.mem_append.1 hc with hname | hrest
  · exact h.unbroken c (List.mem_append_left _ hname)
  · rcases List.mem_cons.1 hrest with rfl | hvalue
    · decide
    · exact h.unbroken c (List.mem_append_right _ hvalue)

/-- The variables of a file are those that its lines bind, and where two lines bind a name, the later one counts. -/
theorem fileVariables_lines {bindings : List (Text × Text)} (h : ∀ b ∈ bindings, IsPlain b.1 b.2) :
    fileVariables (['\n'].intercalate (bindings.map fun b => b.1 ++ '=' :: b.2)) = Bindings.setAll [] bindings := by
  -- a file without lines has one line all the same, which is empty
  by_cases hnil : bindings = []
  · subst hnil
    rfl
  have hlines := @splitOn_lines (bindings.map fun b => b.1 ++ '=' :: b.2) (by simpa using hnil) <| by
    intro line hline
    obtain ⟨b, hb, rfl⟩ := List.mem_map.1 hline
    exact (h b hb).line_unbroken
  simp only [fileVariables, hlines, List.filterMap_map]
  congr 1
  refine (List.filterMap_congr fun b hb => ?_).trans List.filterMap_some
  obtain ⟨-, hunequal, hname, hvalue, huncommented⟩ := h b hb
  have hbefore : ∀ c ∈ b.1, decide (c ≠ '=') = true := by
    intro c hc
    simpa using ne_of_mem_of_not_mem hc hunequal
  simp only [Function.comp_apply, List.dropWhile_append_of_pos hbefore, List.takeWhile_append_of_pos hbefore]
  simp [hname, hvalue, huncommented]

end Settings

/-! ### Parameters of a connection -/

namespace Bindings

variable {α : Type}

private theorem get?_cons (b : Text × α) (bs : Bindings α) (name : Text) :
    get? (b :: bs) name = if b.1 = name then some b.2 else bs.get? name := by
  unfold get?
  by_cases h : b.1 = name <;> simp [h]

private theorem get?_append (bs cs : Bindings α) (name : Text) :
    get? (bs ++ cs) name = (bs.get? name).or (cs.get? name) := by
  unfold get?
  rw [List.find?_append, Option.map_or]

private theorem get?_replaced (bs : Bindings α) (name other : Text) (value : α) :
    get? (bs.map fun b => if b.1 = name then (name, value) else b) other =
      if other = name then (bs.get? name).map fun _ => value else bs.get? other := by
  induction bs with
  | nil => by_cases h : other = name <;> simp [get?, h]
  | cons b bs ih =>
    rw [List.map_cons, get?_cons, get?_cons, get?_cons, ih]
    by_cases hb : b.1 = name
    · by_cases hother : other = name
      · simp [hb, hother]
      · simp [hb, hother, Ne.symm hother]
    · by_cases hother : other = name
      · simp [hb, hother]
      · simp [hb, hother]

/-- Binding a name changes what it is bound to, and no other name. -/
theorem get?_set (bs : Bindings α) (name other : Text) (value : α) :
    (bs.set name value).get? other = if other = name then some value else bs.get? other := by
  unfold set
  split
  · rename_i hbound
    obtain ⟨old, hold⟩ := Option.isSome_iff_exists.1 hbound
    rw [get?_replaced, hold, Option.map_some]
  · rename_i hfree
    rw [get?_append, get?_cons]
    by_cases hother : other = name
    · rw [hother, Option.not_isSome_iff_eq_none.1 hfree, if_pos rfl, if_pos rfl, Option.none_or]
    · rw [if_neg hother, if_neg (Ne.symm hother)]
      exact Option.or_none

/-- Of the values that a name is bound to, the last one counts. -/
theorem get?_setAll (bs : Bindings α) (values : List (Text × α)) (name : Text) :
    (bs.setAll values).get? name = (get? values.reverse name).or (bs.get? name) := by
  -- the first value is set before all others, so that it counts behind them
  induction values generalizing bs with
  | nil => rfl
  | cons b values ih =>
    have hstep : bs.setAll (b :: values) = (bs.set b.1 b.2).setAll values := rfl
    rw [hstep, ih, get?_set, List.reverse_cons, get?_append, Option.or_assoc, get?_cons]
    by_cases h : name = b.1
    · simp [h]
    · simp [h, Ne.symm h, get?]

end Bindings

namespace Settings

private theorem get?_parameters (s : Settings) {setting : Setting} {name : String}
    (hname : setting.parameterName? = some name) : s.parameters.get? name.toList = some (s setting) := by
  cases setting <;> cases hname <;> rfl

/-- A connection is opened with the value that is given for a parameter, the last one if there are several, and
otherwise with that of the setting. -/
theorem value_opening {s : Settings} {overrides : List (Text × Parameter)} {o : Opening}
    (h : s.opening overrides = .ok o) {setting : Setting} {name : String}
    (hname : setting.parameterName? = some name) :
    o.value name = (Bindings.get? overrides.reverse name.toList).getD (s setting) := by
  have ho : o = ⟨s.parameters.setAll overrides⟩ := by
    unfold opening at h
    dsimp only at h
    split at h
    · cases h
    · exact (Except.ok.inj h).symm
  rw [ho, Opening.value, Bindings.get?_setAll, get?_parameters s hname]
  cases Bindings.get? overrides.reverse name.toList <;> rfl

/-- A connection is opened unless its host, its user or its database is blank. -/
theorem opening_cases (s : Settings) (overrides : List (Text × Parameter)) :
    (∃ o, s.opening overrides = .ok o ∧ ∀ name ∈ ["host", "user", "database"], (o.value name).isBlank = false) ∨
      ∃ name ∈ ["host", "user", "database"], s.opening overrides = .error ⟨name⟩ ∧
        ((⟨s.parameters.setAll overrides⟩ : Opening).value name).isBlank = true := by
  unfold opening
  dsimp only
  split
  · rename_i name hfound
    have hblank := List.find?_some hfound
    exact .inr ⟨name, List.mem_of_find?_eq_some hfound, rfl, hblank⟩
  · rename_i hnone
    refine .inl ⟨_, rfl, fun name hname => ?_⟩
    simpa using List.find?_eq_none.1 hnone name hname

end Settings

end SqlTemplate
