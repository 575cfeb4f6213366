import SqlTemplate.Proofs.ArrayEntries
import SqlTemplate.Proofs.StringLiterals

/-!
# Unambiguous lists

The entries of an array and the names of an identifier slot are written with commas between them, and commas, quotes
and backticks may stand in the texts among them.  Still the SQL shows where an entry ends: a text in quotes where a
server takes it to end, a name at the next backtick, and anything else at the next comma (`delimited_entry`,
`delimited_identifier`).  So values that are written alike have the same entries, apart from keys that stand for no
name and from items with one literal (`Kind.format_unambiguous`).
-/

namespace SqlTemplate

/-- Two items that a plain slot writes alike.  If one of them is a text, then the other is the same text. -/
structure SameItem (escape : Escape) (item item' : Value) : Prop where
  written : ∃ u, (Kind.plain.format item escape).outcome = .ok u ∧ (Kind.plain.format item' escape).outcome = .ok u
  text : ∀ s, item = .text s ↔ item' = .text s

/-- Two entries with the same name or both without one, and with items written alike. -/
structure SameEntry (escape : Escape) (e e' : Value × Value) : Prop where
  key : e.1.IsPositional ∧ e'.1.IsPositional ∨
    ∃ name, ¬(Value.text name).IsPositional ∧ e.1 = .text name ∧ e'.1 = .text name
  item : SameItem escape e.2 e'.2

/-- What an identifier slot looks for names in: a text, the items of a list, or the items of a mapping. -/
def Value.candidates? : Value → Option (List Value)
  | .text t => some [.text t]
  | .mapping _ entries => some (entries.map Prod.snd)
  | .sequence _ items => some items
  | _ => none

/-- The value stands for the names in an identifier slot. -/
def Value.StandsFor (v : Value) (names : List Text) : Prop := v.candidates? = some (names.map .text)

/-! ### Texts with commas between them -/

/-- A rest of a list: it is empty or starts with a comma. -/
def AtComma (r : Text) : Prop := ∀ c ∈ r.head?, c = ','

private theorem AtComma.head?_ne {r : Text} (h : AtComma r) {c : Char} (hc : c ≠ ',') : r.head? ≠ some c :=
  fun hr => hc (h c hr)

private theorem atComma_flatMap (texts : List Text) : AtComma (texts.flatMap (", ".toList ++ ·)) := by
  cases texts with
  | nil => simp [AtComma]
  | cons u texts => simp [AtComma]

private theorem intercalate_cons_eq (u : Text) (texts : List Text) :
    ", ".toList.intercalate (u :: texts) = u ++ texts.flatMap (", ".toList ++ ·) := by
  induction texts generalizing u with
  | nil => simp
  | cons u' texts ih => rw [List.intercalate_cons_cons, ih, List.flatMap_cons, List.append_assoc, List.append_assoc]

/-- Where one character ends two texts that do not have it, they are the same if the texts begin alike. -/
private theorem append_inj_of_notMem {c : Char} {u u' r r' : Text} (hu : c ∉ u) (hu' : c ∉ u')
    (hr : ∀ d ∈ r.head?, d = c) (hr' : ∀ d ∈ r'.head?, d = c) (h : u ++ r = u' ++ r') : u = u' ∧ r = r' := by
  have htake : ∀ {u r : Text}, c ∉ u → (∀ d ∈ r.head?, d = c) → (u ++ r).takeWhile (· != c) = u := by
    intro u r hu hr
    have hall : ∀ d ∈ u, (d != c) = true := by
      intro d hd
      rw [bne_iff_ne]
      rintro rfl
      exact hu hd
    have hstop : r.takeWhile (· != c) = [] := by
      cases r with
      | nil => rfl
      | cons d r =>
        obtain rfl : d = c := hr d rfl
        simp
    rw [List.takeWhile_append_of_pos hall, hstop, List.append_nil]
  have heq : u = u' := by rw [← htake hu hr, h, htake hu' hr']
  subst heq
  exact ⟨rfl, List.append_cancel_left h⟩

section Delimited

variable {α : Type} {R : α → Text → Prop} {S : α → α → Prop}

/-- Texts of items show where they end, up to the next comma: where two of them begin alike, the items match and what
follows the texts is the same. -/
def Delimited (R : α → Text → Prop) (S : α → α → Prop) : Prop :=
  ∀ a a' u u' r r', R a u → R a' u' → AtComma r → AtComma r' → u ++ r = u' ++ r' → S a a' ∧ r = r'

namespace Delimited

private theorem forall₂_of_flatMap_eq (hR : Delimited R S) {items items' : List α} {texts texts' : List Text}
    (h : List.Forall₂ R items texts) (h' : List.Forall₂ R items' texts')
    (heq : texts.flatMap (", ".toList ++ ·) = texts'.flatMap (", ".toList ++ ·)) : List.Forall₂ S items items' := by
  induction h generalizing items' texts' with
  | nil =>
    cases h' with
    | nil => exact .nil
    | cons => simp at heq
  | cons ha _ ih =>
    cases h' with
    | nil => simp at heq
    | cons ha' hrest' =>
      simp only [List.flatMap_cons, List.append_assoc, List.append_cancel_left_eq] at heq
      obtain ⟨hsame, hrest⟩ := hR _ _ _ _ _ _ ha ha' (atComma_flatMap _) (atComma_flatMap _) heq
      exact .cons hsame (ih hrest' hrest)

/-- Texts with commas between them show which items they are of. -/
private theorem forall₂_of_intercalate_eq (hR : Delimited R S) {items items' : List α} {texts texts' : List Text}
    (h : List.Forall₂ R items texts) (h' : List.Forall₂ R items' texts') (hitems : items ≠ []) (hitems' : items' ≠ [])
    (heq : ", ".toList.intercalate texts = ", ".toList.intercalate texts') : List.Forall₂ S items items' := by
  cases h with
  | nil => exact absurd rfl hitems
  | cons ha hrest =>
    cases h' with
    | nil => exact absurd rfl hitems'
    | cons ha' hrest' =>
      rw [intercalate_cons_eq, intercalate_cons_eq] at heq
      obtain ⟨hsame, htexts⟩ := hR _ _ _ _ _ _ ha ha' (atComma_flatMap _) (atComma_flatMap _) heq
      exact .cons hsame (hR.forall₂_of_flatMap_eq hrest hrest' htexts)

end Delimited

end Delimited

/-! ### Items -/

/-- A text without commas, single quotes and backticks. -/
def IsBare (u : Text) : Prop := ∀ c ∈ u, c ∉ [',', '\'', '\x60']

private theorem IsNumeric.isBare {u : Text} (h : IsNumeric u) : IsBare u := by
  rintro c hc hspecial
  have hnumeric := h c hc
  simp only [List.mem_cons, List.not_mem_nil, or_false] at hspecial
  rcases hspecial with rfl | rfl | rfl <;> exact absurd hnumeric (by decide)

private theorem IsBare.comma_notMem {u : Text} (h : IsBare u) : ',' ∉ u := fun hc => h _ hc (by decide)

private theorem IsBare.head?_ne {u r : Text} (hu : IsBare u) (hr : AtComma r) {c : Char} (hc : c ∈ ['\'', '\x60']) :
    (u ++ r).head? ≠ some c := by
  cases u with
  | nil => exact hr.head?_ne (by rintro rfl; exact absurd hc (by decide))
  | cons d u =>
    intro h
    cases h
    exact hu c (List.mem_cons_self ..) (List.mem_cons_of_mem _ hc)

section Items

variable {mode : ServerMode}

/-- What a plain slot writes is a text in quotes or bare. -/
private theorem plain_text_cases {item : Value} {u : Text} (h : (Kind.plain.format item mode.escape).outcome = .ok u) :
    (∃ s, item = .text s ∧ u = '\'' :: (s.flatMap mode.escapedChar ++ ['\''])) ∨
      (∀ s, item ≠ .text s) ∧ IsBare u := by
  have hfixed : ∀ {t : Text}, ((Draft.fixed t).fill mode.escape).outcome = .ok u → IsBare t → IsBare u := by
    intro t ht hbare
    rw [Draft.fill_fixed] at ht
    cases ht
    exact hbare
  cases item with
  | null => exact .inr ⟨nofun, hfixed h (by simp [IsBare])⟩
  | bool b => exact .inr ⟨nofun, hfixed h (by cases b <;> simp [IsBare])⟩
  | text s =>
    have hquoted := congrArg Filled.outcome (Kind.format_plain_text (mode.escape_eq s))
    exact .inl ⟨s, rfl, Except.ok.inj (h.symm.trans hquoted)⟩
  | int n =>
    have htext : Slot.integerText n = .ok u := Draft.outcome_ofExcept_eq_ok.1 h
    exact .inr ⟨nofun, (Slot.isNumeric_integerText htext).isBare⟩
  | float x =>
    cases x with
    | finite negative m => exact .inr ⟨nofun, hfixed h (Binary64.isNumeric_literal negative m).isBare⟩
    | _ => cases h
  | decimal d =>
    cases d with
    | finite negative coefficient scale =>
      exact .inr ⟨nofun, hfixed h (Decimal.isNumeric_text negative coefficient scale).isBare⟩
    | _ => cases h
  | _ => cases h

/-- No item starts with a backtick. -/
private theorem head?_plain_text {item : Value} {u r : Text} (h : (Kind.plain.format item mode.escape).outcome = .ok u)
    (hr : AtComma r) : (u ++ r).head? ≠ some '\x60' := by
  rcases plain_text_cases h with ⟨s, -, rfl⟩ | ⟨-, hbare⟩
  · simp
  · exact hbare.head?_ne hr (by decide)

/-- A text in quotes ends where it is read to end, and another item at the next comma. -/
private theorem delimited_item :
    Delimited (fun item u => (Kind.plain.format item mode.escape).outcome = .ok u) (SameItem mode.escape) := by
  intro item item' u u' r r' hu hu' hr hr' h
  have hwritten : u = u' → ∃ u, (Kind.plain.format item mode.escape).outcome = .ok u ∧
      (Kind.plain.format item' mode.escape).outcome = .ok u := by
    rintro rfl
    exact ⟨u, hu, hu'⟩
  -- a text in quotes and a bare one differ in their first character
  rcases plain_text_cases hu with ⟨s, rfl, rfl⟩ | ⟨hitem, hbare⟩
  · rcases plain_text_cases hu' with ⟨s', rfl, rfl⟩ | ⟨-, hbare'⟩
    · have hread := mode.readInside_escaped s (hr.head?_ne (by decide))
      have hread' := mode.readInside_escaped s' (hr'.head?_ne (by decide))
      have hinside : s.flatMap mode.escapedChar ++ '\'' :: r = s'.flatMap mode.escapedChar ++ '\'' :: r' := by
        simpa using h
      rw [hinside, hread'] at hread
      cases hread
      exact ⟨⟨hwritten rfl, fun _ => Iff.rfl⟩, rfl⟩
    · exact absurd (congrArg List.head? h).symm (hbare'.head?_ne hr' (by decide))
  · rcases plain_text_cases hu' with ⟨s', rfl, rfl⟩ | ⟨hitem', hbare'⟩
    · exact absurd (congrArg List.head? h) (hbare.head?_ne hr (by decide))
    · obtain ⟨hsame, hrest⟩ := append_inj_of_notMem hbare.comma_notMem hbare'.comma_notMem hr hr' h
      refine ⟨⟨hwritten hsame, fun s => ?_⟩, hrest⟩
      exact ⟨fun hs => absurd hs (hitem s), fun hs => absurd hs (hitem' s)⟩

/-- The escape leaves a name as it is, and the name ends at the next backtick. -/
private theorem name_cancel {name name' s s' r r' : Text} (hname : Slot.isName name = true)
    (hname' : Slot.isName name' = true)
    (hs : mode.escape name = .ok s) (hs' : mode.escape name' = .ok s') (h : s ++ '\x60' :: r = s' ++ '\x60' :: r') :
    name = name' ∧ r = r' := by
  rw [mode.escape_of_isName hname] at hs
  rw [mode.escape_of_isName hname'] at hs'
  cases hs
  cases hs'
  have hend : ∀ {t : Text}, Slot.isName t = true → '\x60' ∉ t := fun ht => Slot.notMem_of_isName ht rfl
  obtain ⟨hsame, hrest⟩ := append_inj_of_notMem (hend hname) (hend hname') (by simp) (by simp) h
  exact ⟨hsame, List.tail_eq_of_cons_eq hrest⟩

theorem delimited_entry : Delimited (EntryText mode.escape) (SameEntry mode.escape) := by
  intro e e' u u' r r' hu hu' hr hr' h
  cases hu with
  | positional hkey hitem =>
    cases hu' with
    | positional hkey' hitem' =>
      obtain ⟨hsame, hrest⟩ := delimited_item _ _ _ _ _ _ hitem hitem' hr hr' h
      exact ⟨⟨.inl ⟨hkey, hkey'⟩, hsame⟩, hrest⟩
    | named => exact absurd (congrArg List.head? h) (head?_plain_text hitem hr)
  | named hkey hname hs hitem =>
    cases hu' with
    | positional _ hitem' => exact absurd (congrArg List.head? h).symm (head?_plain_text hitem' hr')
    | named hkey' hname' hs' hitem' =>
      simp only [List.cons_append, List.append_assoc, List.cons.injEq, true_and] at h
      obtain ⟨rfl, hrest⟩ := name_cancel hname hname' hs hs' h
      obtain ⟨hsame, hrest⟩ := delimited_item _ _ _ _ _ _ hitem hitem' hr hr' (List.append_cancel_left hrest)
      exact ⟨⟨.inr ⟨_, hkey, rfl, rfl⟩, hsame⟩, hrest⟩

/-- A name between backticks. -/
theorem delimited_identifier :
    Delimited (fun name u => ((Slot.identifier (.text name)).fill mode.escape).outcome = .ok u) Eq := by
  intro name name' u u' r r' hu hu' _ _ h
  obtain ⟨_, s, ⟨⟩, hname, hs, rfl⟩ := Slot.outcome_identifier_eq_ok.1 hu
  obtain ⟨_, s', ⟨⟩, hname', hs', rfl⟩ := Slot.outcome_identifier_eq_ok.1 hu'
  simp only [List.cons_append, List.append_assoc, List.cons.injEq, true_and] at h
  exact name_cancel hname hname' hs hs' h

end Items

/-! ### Arrays and names -/

namespace Slot

variable {escape : Escape}

private theorem identifiers_eq_listing {v : Value} {candidates : List Value} (h : v.candidates? = some candidates) :
    identifiers v = listing .identifier (candidates.map identifier) := by
  cases v with
  | text t =>
    cases h
    rfl
  | mapping form entries =>
    cases h
    rw [identifiers, List.map_map]
    rfl
  | sequence form items =>
    cases h
    rfl
  | _ => cases h

private theorem exists_names_of_forall₂ {vs : List Value} {texts : List Text}
    (h : List.Forall₂ (fun v u => ((identifier v).fill escape).outcome = .ok u) vs texts) :
    ∃ names, vs = List.map .text names := by
  induction h with
  | nil => exact ⟨[], rfl⟩
  | cons hv _ ih =>
    obtain ⟨name, s, rfl, -⟩ := outcome_identifier_eq_ok.1 hv
    obtain ⟨names, rfl⟩ := ih
    exact ⟨name :: names, rfl⟩

/-- What is written in an identifier slot is names, at least one. -/
theorem exists_names_of_identifiers {v : Value} {t : Text} (h : ((identifiers v).fill escape).outcome = .ok t) :
    ∃ names texts, v.StandsFor names ∧ names ≠ [] ∧
      List.Forall₂ (fun name u => ((identifier (.text name)).fill escape).outcome = .ok u) names texts ∧
      t = ", ".toList.intercalate texts := by
  cases hcandidates : v.candidates? with
  | none => cases v <;> cases hcandidates <;> cases h
  | some candidates =>
    rw [identifiers_eq_listing hcandidates, outcome_listing_eq_ok, Draft.outcome_commaSeparated_eq_ok] at h
    obtain ⟨hnonempty, texts, htexts, rfl⟩ := h
    rw [List.forall₂_map_left_iff] at htexts
    obtain ⟨names, rfl⟩ := exists_names_of_forall₂ htexts
    rw [List.forall₂_map_left_iff] at htexts
    exact ⟨names, texts, hcandidates, by simpa using hnonempty, htexts, rfl⟩

end Slot

/-- Two values that an array slot writes alike have as many entries, and these match; two values that an identifier
slot writes alike stand for the same names.  This holds with the escape of either mode. -/
theorem Kind.format_unambiguous (mode : ServerMode) {v w : Value} {t : Text} :
    ((Kind.array.format v mode.escape).outcome = .ok t → (Kind.array.format w mode.escape).outcome = .ok t →
      ∃ entries entries', v.entries? = some entries ∧ w.entries? = some entries' ∧
        List.Forall₂ (SameEntry mode.escape) entries entries') ∧
    ((Kind.identifier.format v mode.escape).outcome = .ok t →
      (Kind.identifier.format w mode.escape).outcome = .ok t → ∃ names, v.StandsFor names ∧ w.StandsFor names) := by
  constructor
  · intro hv hw
    obtain ⟨entries, texts, hentries, hnonempty, htexts, rfl⟩ := Slot.outcome_array_eq_ok.1 hv
    obtain ⟨entries', texts', hentries', hnonempty', htexts', heq⟩ := Slot.outcome_array_eq_ok.1 hw
    exact ⟨entries, entries', hentries, hentries',
      delimited_entry.forall₂_of_intercalate_eq htexts htexts' hnonempty hnonempty' heq⟩
  · intro hv hw
    obtain ⟨names, texts, hnames, hnonempty, htexts, rfl⟩ := Slot.exists_names_of_identifiers hv
    obtain ⟨names', texts', hnames', hnonempty', htexts', heq⟩ := Slot.exists_names_of_identifiers hw
    have hsame := delimited_identifier.forall₂_of_intercalate_eq htexts htexts' hnonempty hnonempty' heq
    rw [List.forall₂_eq_eq_eq] at hsame
    exact ⟨names, hnames, hsame ▸ hnames'⟩

/-- A text that looks like the end of one entry and the start of the next is still one text, and the entries that are
written `1` match although one item is a truth value. -/
theorem Kind.format_unambiguous_quoted :
    (Kind.array.format (.mapping .plain [(.text "a".toList, .text "x', \x60b\x60 = ".toList), (.int 0, .bool true)])
      .backslash).outcome = .ok "\x60a\x60 = 'x\\', \x60b\x60 = ', 1".toList ∧
    (Kind.array.format (.mapping .ordered [(.text "a".toList, .text "x', \x60b\x60 = ".toList),
      (.text "-3".toList, .int 1)]) .backslash).outcome = .ok "\x60a\x60 = 'x\\', \x60b\x60 = ', 1".toList ∧
    List.Forall₂ (SameEntry .backslash)
      [(.text "a".toList, .text "x', \x60b\x60 = ".toList), (.int 0, .bool true)]
      [(.text "a".toList, .text "x', \x60b\x60 = ".toList), (.text "-3".toList, .int 1)] ∧
    (Kind.identifier.format (.text "id".toList) .backslash).outcome = .ok "\x60id\x60".toList ∧
    (Kind.identifier.format (.mapping .plain [(.null, .text "id".toList)]) .backslash).outcome =
      .ok "\x60id\x60".toList ∧
    ∃ names, (Value.text "id".toList).StandsFor names ∧
      (Value.mapping .plain [(.null, .text "id".toList)]).StandsFor names := by
  have hv : (Kind.array.format (.mapping .plain [(.text "a".toList, .text "x', \x60b\x60 = ".toList),
      (.int 0, .bool true)]) .backslash).outcome = .ok "\x60a\x60 = 'x\\', \x60b\x60 = ', 1".toList := by
    decide +kernel
  have hw : (Kind.array.format (.mapping .ordered [(.text "a".toList, .text "x', \x60b\x60 = ".toList),
      (.text "-3".toList, .int 1)]) .backslash).outcome = .ok "\x60a\x60 = 'x\\', \x60b\x60 = ', 1".toList := by
    decide +kernel
  have hname : (Kind.identifier.format (.text "id".toList) .backslash).outcome = .ok "\x60id\x60".toList := by
    decide +kernel
  have hnames : (Kind.identifier.format (.mapping .plain [(.null, .text "id".toList)]) .backslash).outcome =
      .ok "\x60id\x60".toList := by
    decide +kernel
  obtain ⟨entries, entries', ⟨⟩, ⟨⟩, hsame⟩ := (Kind.format_unambiguous .backslashEscapes).1 hv hw
  exact ⟨hv, hw, hsame, hname, hnames, (Kind.format_unambiguous .backslashEscapes).2 hname hnames⟩

end SqlTemplate
