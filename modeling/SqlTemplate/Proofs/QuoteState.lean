import Mathlib.Data.List.Basic
import SqlTemplate.Proofs.Filling
import SqlTemplate.Proofs.NumberText
import SqlTemplate.Proofs.Positional

/-!
# Quote states

A server that reads SQL knows at each point whether it stands inside quotes.  No argument of a query changes that: where
the placeholders of a template stand outside quotes, the server is in the same state after each piece of the SQL as it
is after the text of the template alone (`build_quoteState`).  This needs the escape that goes with the mode of the
server.
-/

namespace SqlTemplate

/-! ### Reading quotes -/

/-- Whether the backslash is special in the string literals of a server. -/
inductive ServerMode
  | backslashEscapes
  | noBackslashEscapes
  deriving DecidableEq

def ServerMode.escape : ServerMode → Escape
  | .backslashEscapes => .backslash
  | .noBackslashEscapes => .doubling

/-- Where a server stands: outside quotes, inside those that a character opened, or there behind a backslash that takes
the meaning from the next character. -/
inductive QuoteState
  | outside
  | inside (quote : Char)
  | inert (quote : Char)
  deriving DecidableEq

def isQuote (c : Char) : Bool := c ∈ ['\'', '"', '\x60']

theorem Slot.notMem_of_isName {t : Text} (h : isName t = true) {c : Char} (hc : (c.isAlphanum || c == '_') = false) :
    c ∉ t := by
  intro hmem
  have hall := List.all_eq_true.1 (Bool.and_eq_true_iff.1 h).2 c hmem
  rw [hc] at hall
  cases hall

namespace QuoteState

def next (mode : ServerMode) : QuoteState → Char → QuoteState
  | .outside, c => if isQuote c then .inside c else .outside
  | .inside quote, c =>
    if c = quote then .outside
    else if mode = .backslashEscapes ∧ quote ≠ '\x60' ∧ c = '\\' then .inert quote
    else .inside quote
  | .inert quote, _ => .inside quote

/-- The state behind a text. -/
def after (mode : ServerMode) (s : QuoteState) (t : Text) : QuoteState := t.foldl (next mode) s

variable {mode : ServerMode}

@[simp] theorem after_nil (s : QuoteState) : after mode s [] = s := rfl

@[simp] private theorem after_cons (s : QuoteState) (c : Char) (t : Text) :
    after mode s (c :: t) = after mode (next mode s c) t :=
  rfl

theorem after_append (s : QuoteState) (t u : Text) : after mode s (t ++ u) = after mode (after mode s t) u :=
  List.foldl_append

private theorem after_outside_of_unquoted {t : Text} (h : ∀ c ∈ t, !isQuote c) : after mode .outside t = .outside := by
  induction t with
  | nil => rfl
  | cons c t ih =>
    have hc : isQuote c = false := by simpa using h c (List.mem_cons_self ..)
    simpa [next, hc] using ih fun d hd => h d (List.mem_cons_of_mem _ hd)

private theorem after_outside_of_numeric {t : Text} (h : IsNumeric t) : after mode .outside t = .outside := by
  refine after_outside_of_unquoted fun c hc => ?_
  have hn := h c hc
  by_cases hq : c = '\'' ∨ c = '"' ∨ c = '\x60'
  · rcases hq with rfl | rfl | rfl <;> exact absurd hn (by decide)
  · simpa [isQuote] using hq

/-- Each character of an escaped text leads back into the single quotes, so the text never closes them: a marked
character by way of the inert state, a doubled quote by way of the outside. -/
private theorem after_inside_escapedChar (c : Char) :
    after .backslashEscapes (.inside '\'') (backslashedChar c) = .inside '\'' ∧
      after .noBackslashEscapes (.inside '\'') (doubledChar c) = .inside '\'' := by
  constructor
  · unfold backslashedChar
    split_ifs with h0 h1 h2 h3 h4
    · rfl
    · rfl
    · rfl
    · rfl
    -- the character behind the backslash is read in the inert state
    · simp [next]
    · have hquote : c ≠ '\'' := fun h => h4 (.inr (.inl h))
      have hslash : c ≠ '\\' := fun h => h4 (.inr (.inr h))
      simp [next, hquote, hslash]
  · unfold doubledChar
    split_ifs with h
    -- out by the first of the two quotes and in again by the second
    · rfl
    · simp [next, h]

private theorem after_inside_flatMap {f : Char → Text} {s : QuoteState} (h : ∀ c, after mode s (f c) = s) (t : Text) :
    after mode s (t.flatMap f) = s := by
  induction t with
  | nil => rfl
  | cons c t ih => rw [List.flatMap_cons, after_append, h c, ih]

/-- An escaped text in single quotes is closed by the quote behind it and not before. -/
private theorem after_outside_quoted (t : Text) :
    ∃ s, mode.escape t = .ok s ∧ after mode .outside ('\'' :: (s ++ ['\''])) = .outside := by
  have hopen : next mode .outside '\'' = .inside '\'' := rfl
  cases mode with
  | backslashEscapes =>
    refine ⟨backslashed t, rfl, ?_⟩
    rw [after_cons, hopen, after_append, backslashed,
      after_inside_flatMap fun c => (after_inside_escapedChar c).1]
    rfl
  | noBackslashEscapes =>
    refine ⟨doubled t, rfl, ?_⟩
    rw [after_cons, hopen, after_append, doubled, after_inside_flatMap fun c => (after_inside_escapedChar c).2]
    rfl

/-- Between backticks the backslash has no meaning, and a name has no backtick. -/
private theorem after_outside_name {t : Text} (h : Slot.isName t) :
    after mode .outside ('\x60' :: (t ++ ['\x60'])) = .outside := by
  have hstay : ∀ {u : Text}, '\x60' ∉ u → after mode (.inside '\x60') u = .inside '\x60' := by
    intro u hu
    induction u with
    | nil => rfl
    | cons c u ih =>
      rw [List.mem_cons, not_or] at hu
      have hnext : next mode (.inside '\x60') c = .inside '\x60' := by simp [next, Ne.symm hu.1]
      rw [after_cons, hnext, ih hu.2]
  have hopen : next mode .outside '\x60' = .inside '\x60' := rfl
  rw [after_cons, hopen, after_append, hstay (Slot.notMem_of_isName h rfl)]
  rfl

end QuoteState

/-! ### Drafts -/

theorem ServerMode.escape_of_isName (mode : ServerMode) {t : Text} (h : Slot.isName t) : mode.escape t = .ok t := by
  have hplain : ∀ c ∈ t, ∀ d : Char, (d.isAlphanum || d == '_') = false → c ≠ d := by
    rintro c hc d hd rfl
    exact Slot.notMem_of_isName h hd hc
  have hflat : ∀ f : Char → Text, (∀ c ∈ t, f c = [c]) → t.flatMap f = t := by
    intro f hf
    rw [List.flatMap_congr hf, List.flatMap_singleton']
  cases mode with
  | backslashEscapes =>
    refine congrArg Except.ok (hflat _ fun c hc => ?_)
    have hne := hplain c hc
    simp [backslashedChar, hne '\x00' rfl, hne '\n' rfl, hne '\r' rfl, hne '\x1a' rfl, hne '"' rfl, hne '\'' rfl,
      hne '\\' rfl]
  | noBackslashEscapes =>
    refine congrArg Except.ok (hflat _ fun c hc => ?_)
    simp [doubledChar, hplain c hc '\'' rfl]

/-- Filled with the escape of the mode, the draft leads from outside quotes to outside quotes. -/
def Draft.Closed (mode : ServerMode) (d : Draft) : Prop :=
  ∀ t, (d.fill mode.escape).outcome = .ok t → QuoteState.after mode .outside t = .outside

namespace Draft.Closed

variable {mode : ServerMode}

theorem fixed {t : Text} (h : QuoteState.after mode .outside t = .outside) : Closed mode (Draft.fixed t) := by
  intro u hu
  rw [fill_fixed] at hu
  cases hu
  exact h

theorem failed (f : Fault) : Closed mode (Draft.failed f) := by
  intro t ht
  simp at ht

theorem ofExcept {e : Except Fault Text} (h : ∀ t, e = .ok t → QuoteState.after mode .outside t = .outside) :
    Closed mode (Draft.ofExcept e) := by
  cases e with
  | error f => exact failed f
  | ok t => exact fixed (h t rfl)

theorem append {d e : Draft} (hd : Closed mode d) (he : Closed mode e) : Closed mode (d ++ e) := by
  intro t ht
  obtain ⟨u, v, hu, hv, rfl⟩ := outcome_append_eq_ok.1 ht
  rw [QuoteState.after_append, hd u hu, he v hv]

theorem commaSeparated {drafts : List Draft} (h : ∀ d ∈ drafts, Closed mode d) :
    Closed mode (Draft.commaSeparated drafts) := by
  induction drafts with
  | nil =>
    intro t ht
    cases ht
    rfl
  | cons d rest ih =>
    cases rest with
    | nil => exact h d (List.mem_cons_self ..)
    | cons e rest =>
      have hcomma : QuoteState.after mode .outside [',', ' '] = .outside := rfl
      have hrest := ih fun x hx => h x (List.mem_cons_of_mem _ hx)
      exact (h d (List.mem_cons_self ..)).append ((fixed hcomma).append hrest)

/-- A text between two fixed quotes, of which the escape makes `s`. -/
theorem quoted {t s : Text} {quote : Char} (hs : mode.escape t = .ok s)
    (h : QuoteState.after mode .outside (quote :: (s ++ [quote])) = .outside) :
    Closed mode (Draft.fixed [quote] ++ Draft.hole t ++ Draft.fixed [quote]) := by
  intro u hu
  rw [fill_append, fill_append, fill_fixed, fill_hole hs] at hu
  cases hu
  exact h

end Draft.Closed

namespace Slot

variable {mode : ServerMode}

private theorem closed_literal (v : Value) : (literal v).Closed mode := by
  cases v with
  | null => exact .fixed rfl
  | bool b => cases b <;> exact .fixed rfl
  | text t =>
    obtain ⟨s, hs, hafter⟩ := @QuoteState.after_outside_quoted mode t
    exact .quoted hs hafter
  | int n => exact .ofExcept fun t ht => QuoteState.after_outside_of_numeric (isNumeric_integerText ht)
  | float x =>
    cases x with
    | finite negative m => exact .fixed (QuoteState.after_outside_of_numeric (Binary64.isNumeric_literal negative m))
    | _ => exact .failed _
  | decimal d =>
    cases d with
    | finite negative coefficient scale =>
      exact .fixed (QuoteState.after_outside_of_numeric (Decimal.isNumeric_text negative coefficient scale))
    | _ => exact .failed _
  | _ => exact .failed _

private theorem closed_identifier (v : Value) : (identifier v).Closed mode := by
  cases v with
  | text t =>
    by_cases hname : isName t
    · simp only [identifier, hname, ↓reduceIte]
      exact .quoted (mode.escape_of_isName hname) (QuoteState.after_outside_name hname)
    · simp only [identifier, hname]
      exact .failed _
  | _ => exact .failed _

private theorem closed_entry (key item : Value) : (entry key item).Closed mode := by
  unfold entry
  split
  · exact closed_literal item
  · exact closed_literal item
  · split
    · exact closed_literal item
    · exact ((closed_identifier _).append (.fixed rfl)).append (closed_literal item)
  · exact .failed _

private theorem closed_listing (l : Listing) {drafts : List Draft} (h : ∀ d ∈ drafts, d.Closed mode) :
    (listing l drafts).Closed mode := by
  unfold listing
  split
  · exact .failed _
  · exact .commaSeparated h

private theorem closed_array (v : Value) : (array v).Closed mode := by
  cases v with
  | mapping form entries =>
    refine closed_listing _ fun d hd => ?_
    obtain ⟨e, -, rfl⟩ := List.mem_map.1 hd
    exact closed_entry e.1 e.2
  | sequence form items =>
    refine closed_listing _ fun d hd => ?_
    obtain ⟨item, -, rfl⟩ := List.mem_map.1 hd
    exact closed_literal item
  | _ => exact .failed _

private theorem closed_identifiers (v : Value) : (identifiers v).Closed mode := by
  cases v with
  | text t => exact closed_identifier (.text t)
  | mapping form entries =>
    refine closed_listing _ fun d hd => ?_
    obtain ⟨e, -, rfl⟩ := List.mem_map.1 hd
    exact closed_identifier e.2
  | sequence form items =>
    refine closed_listing _ fun d hd => ?_
    obtain ⟨item, -, rfl⟩ := List.mem_map.1 hd
    exact closed_identifier item
  | _ => exact .failed _

end Slot

theorem Kind.closed_draft (mode : ServerMode) (kind : Kind) (v : Value) : (kind.draft v).Closed mode := by
  have hnumeric : ∀ t : Text, t = "NULL".toList ∨ IsNumeric t → QuoteState.after mode .outside t = .outside := by
    rintro t (rfl | ht)
    · rfl
    · exact QuoteState.after_outside_of_numeric ht
  cases kind with
  | plain => exact Slot.closed_literal v
  | integer => exact .ofExcept fun t ht => hnumeric t (Slot.isNumeric_integer ht)
  | float => exact .ofExcept fun t ht => hnumeric t (Slot.isNumeric_float ht)
  | array => exact Slot.closed_array v
  | identifier => exact Slot.closed_identifiers v

/-! ### Emissions -/

/-- A piece of SQL as it is put out: text of the template, or what a placeholder became. -/
inductive Emission
  | literal (t : Text)
  | slot (sql : Text)
  deriving DecidableEq

namespace Emission

def text : Emission → Text
  | .literal t => t
  | .slot sql => sql

/-- The text that is left when placeholders are deleted. -/
def literalText : Emission → Text
  | .literal t => t
  | .slot _ => []

def isSlot : Emission → Bool
  | .literal _ => false
  | .slot _ => true

def output (es : List Emission) : Text := es.flatMap text

def literals (es : List Emission) : Text := es.flatMap literalText

end Emission

def Segment.emission (args : List Value) (escape : Escape) (s : Segment) (i : Nat) : Emission :=
  match s with
  | .text t => .literal t
  | .placeholder .. => .slot ((s.textAt args escape i).toOption.getD [])

/-- A dropped block puts out nothing. -/
def Block.emissions (args : List Value) (escape : Escape) (b : Block) (start : Nat) : List Emission :=
  match b.filledAt args escape start with
  | .ok _ => (placed Segment.width start b.segments).map fun p => p.1.emission args escape p.2
  | .error _ => []

def Part.emissions (args : List Value) (escape : Escape) : Part → Nat → List Emission
  | .segment s, i => [s.emission args escape i]
  | .block b, i => b.emissions args escape i

def Template.emissions (args : List Value) (escape : Escape) (t : Template) : List Emission :=
  (placed Part.width 0 t.parts).flatMap fun p => p.1.emissions args escape p.2

private theorem Segment.text_emission {args : List Value} {escape : Escape} {s : Segment} {i : Nat} {t : Text}
    (h : s.textAt args escape i = .ok t) : (s.emission args escape i).text = t := by
  cases s with
  | text u =>
    cases h
    rfl
  | placeholder kind offset => simp [emission, Emission.text, h, Except.toOption]

private theorem Part.output_emissions {args : List Value} {escape : Escape} {p : Part} {i : Nat} {t : Text}
    (h : p.textAt args escape i = .ok t) : Emission.output (p.emissions args escape i) = t := by
  cases p with
  | segment s =>
    have hs : s.textAt args escape i = .ok t := Part.textAt_segment_eq_ok.1 h
    simp [emissions, Emission.output, Segment.text_emission hs]
  | block b =>
    simp only [emissions, Block.emissions]
    rcases Block.textAt_eq_ok.1 h with hfilled | ⟨hskip, rfl⟩
    · simp only [hfilled, Emission.output, List.flatMap_map]
      exact flatMap_eq_of_inSequence (fun _ _ => Segment.text_emission) hfilled
    · simp only [hskip]
      rfl

/-- The SQL of a template is what is put out. -/
private theorem Template.output_emissions {args : List Value} {escape : Escape} {t : Template} {sql : Text}
    (h : t.textAt args escape = .ok sql) : Emission.output (t.emissions args escape) = sql := by
  rw [Emission.output, emissions, List.flatMap_assoc]
  exact flatMap_eq_of_inSequence (fun _ _ => Part.output_emissions) h

/-! ### Slots stay closed -/

/-- Each placeholder that is put out stands outside quotes in the text that is left without placeholders. -/
def SlotsOutside (mode : ServerMode) (es : List Emission) : Prop :=
  ∀ n : Fin es.length, es[n].isSlot → QuoteState.after mode .outside (Emission.literals (es.take n)) = .outside

instance (mode : ServerMode) (es : List Emission) : Decidable (SlotsOutside mode es) :=
  inferInstanceAs (Decidable (∀ n : Fin es.length, es[n].isSlot →
    QuoteState.after mode .outside (Emission.literals (es.take n)) = .outside))

/-- Each slot leads from outside quotes to outside quotes. -/
def SlotsClosed (mode : ServerMode) (es : List Emission) : Prop :=
  ∀ sql, .slot sql ∈ es → QuoteState.after mode .outside sql = .outside

private theorem Segment.closed_emission {mode : ServerMode} {args : List Value} {s : Segment} {i : Nat} {sql : Text}
    (h : s.emission args mode.escape i = .slot sql) : QuoteState.after mode .outside sql = .outside := by
  cases s with
  | text t => cases h
  | placeholder kind offset =>
    cases ht : (placeholder kind offset).textAt args mode.escape i with
    | error e =>
      -- the emission is empty where there is no text
      simp only [emission, ht] at h
      cases h
      rfl
    | ok t =>
      simp only [emission, ht] at h
      cases h
      obtain ⟨v, -, hv⟩ := Segment.exists_format_of_textAt ht
      exact kind.closed_draft mode v t hv

private theorem Template.slotsClosed_emissions (mode : ServerMode) (args : List Value) (t : Template) :
    SlotsClosed mode (t.emissions args mode.escape) := by
  intro sql hsql
  obtain ⟨⟨p, i⟩, -, hp⟩ := List.mem_flatMap.1 hsql
  cases p with
  | segment s => exact Segment.closed_emission (List.mem_singleton.1 hp).symm
  | block b =>
    simp only [Part.emissions, Block.emissions] at hp
    split at hp
    · obtain ⟨⟨s, j⟩, -, hs⟩ := List.mem_map.1 hp
      exact Segment.closed_emission hs
    · simp at hp

/-- Closed slots outside quotes make no difference to the state behind the first `n` pieces. -/
private theorem after_output_eq_after_literals {mode : ServerMode} {es : List Emission} (hout : SlotsOutside mode es)
    (hclosed : SlotsClosed mode es) (n : Nat) :
    QuoteState.after mode .outside (Emission.output (es.take n)) =
      QuoteState.after mode .outside (Emission.literals (es.take n)) := by
  induction n with
  | zero => rfl
  | succ n ih =>
    by_cases hn : n < es.length
    · have hslot := hout ⟨n, hn⟩
      have hmem : es[n] ∈ es := List.getElem_mem hn
      rw [List.take_succ_eq_append_getElem hn]
      simp only [Emission.output, Emission.literals, List.flatMap_append, List.flatMap_singleton,
        QuoteState.after_append] at ih hslot ⊢
      rw [ih]
      cases he : es[n] with
      | literal t => rfl
      | slot sql =>
        rw [he] at hmem
        rw [hslot (by simp [he, Emission.isSlot])]
        exact hclosed sql hmem
    · -- no piece is left
      have hlen : es.length ≤ n := Nat.le_of_not_lt hn
      rw [List.take_of_length_le (Nat.le_succ_of_le hlen)]
      rwa [List.take_of_length_le hlen] at ih

/-- If the placeholders put out stand outside quotes, the server is in the same state after each piece of the SQL as
after the template's text up to there. -/
theorem build_quoteState (mode : ServerMode) {source : Text} {args : Value} {sql : Text}
    (h : (build source args mode.escape).outcome = .ok sql) :
    ∃ t items, Template.compile source = .ok t ∧ args.items? = some items ∧
      Emission.output (t.emissions items mode.escape) = sql ∧
      (SlotsOutside mode (t.emissions items mode.escape) →
        ∀ n, QuoteState.after mode .outside (Emission.output ((t.emissions items mode.escape).take n)) =
          QuoteState.after mode .outside (Emission.literals ((t.emissions items mode.escape).take n))) := by
  obtain ⟨t, items, ht, hitems, htext⟩ := exists_textAt_of_build h
  exact ⟨t, items, ht, hitems, t.output_emissions htext,
    fun hout => after_output_eq_after_literals hout (t.slotsClosed_emissions mode items)⟩

/-- Quotes in the template and in the arguments, a block dropped behind a value, and two strings side by side. -/
theorem build_quoteState_strings :
    ∃ (t : Template) (items : List Value),
      Emission.output (t.emissions items ServerMode.backslashEscapes.escape) =
        "'a\\'' = '\\\\\\' OR \\'''\\''".toList ∧
      SlotsOutside .backslashEscapes (t.emissions items ServerMode.backslashEscapes.escape) ∧
      QuoteState.after .backslashEscapes .outside "'a\\'' = '\\\\\\' OR \\'''\\''".toList =
        QuoteState.after .backslashEscapes .outside "'a\\'' = ".toList := by
  have hbuild : (build "'a\\'' = \x7b?d ?\x7d??".toList
      (.sequence .list [.int 1, .skip, .text "\\' OR '".toList, .text ['\'']])
      ServerMode.backslashEscapes.escape).outcome = .ok "'a\\'' = '\\\\\\' OR \\'''\\''".toList := by
    decide +kernel
  obtain ⟨t, items, ht, hitems, houtput, hstate⟩ := build_quoteState .backslashEscapes hbuild
  have hcompile : Template.compile "'a\\'' = \x7b?d ?\x7d??".toList =
      .ok (.ofText "'a\\'' = \x7b?d ?\x7d??".toList) := by
    decide +kernel
  obtain rfl := Except.ok.inj (hcompile.symm.trans ht)
  obtain rfl := Option.some.inj hitems
  have hout : SlotsOutside .backslashEscapes ((Template.ofText "'a\\'' = \x7b?d ?\x7d??".toList).emissions
      [.int 1, .skip, .text "\\' OR '".toList, .text ['\'']] ServerMode.backslashEscapes.escape) := by
    decide +kernel
  refine ⟨_, _, houtput, hout, ?_⟩
  have hall := hstate hout 4
  rw [List.take_of_length_le (by decide +kernel), houtput] at hall
  rw [hall]
  decide +kernel

end SqlTemplate
