import SqlTemplate.Proofs.Scanning

/-!
# Canonical phrases

Phrases are what a template is made of, without the offsets.  They are canonical if no literal text can be taken for
anything else and nothing that stands side by side can be taken together.  The template that canonical phrases are
written as is accepted (`Phrase.hasLonePair_nesting`), and the phrases are read back from it, each at the offset where
it is written (`Phrase.split_source`, `Phrase.compile_source`).
-/

namespace SqlTemplate

/-- Literal text or a placeholder. -/
inductive Lexeme
  | text (t : Text)
  | placeholder (kind : Kind)
  deriving DecidableEq

/-- A lexeme or a block of lexemes. -/
inductive Phrase
  | lexeme (l : Lexeme)
  | block (body : List Lexeme)
  deriving DecidableEq

section LaidOut

variable {α β : Type}

/-- Puts each item where it stands when all are written one behind the other from `start` on. -/
def laidOut (source : α → Text) (place : Nat → α → β) (start : Nat) : List α → List β
  | [] => []
  | a :: rest => place start a :: laidOut source place (start + (source a).length) rest

private theorem head?_laidOut (source : α → Text) (place : Nat → α → β) (start : Nat) (items : List α) :
    (laidOut source place start items).head? = items.head?.map (place start) := by
  cases items <;> rfl

end LaidOut

namespace Lexeme

def source : Lexeme → Text
  | .text t => t
  | .placeholder kind => kind.token

def segmentAt (start : Nat) : Lexeme → Segment
  | .text t => .text t
  | .placeholder kind => .placeholder kind start

/-- The lexemes as the segments of a text. -/
def segments (lexemes : List Lexeme) : List Segment := laidOut source segmentAt 0 lexemes

/-- Literal text is not empty and has none of the characters that mark placeholders and blocks. -/
def IsProper : Lexeme → Prop
  | .text t => t ≠ [] ∧ '?' ∉ t ∧ '\x7b' ∉ t ∧ '\x7d' ∉ t
  | .placeholder _ => True

/-- Literal text stands neither behind other literal text nor, if it starts with the letter of a kind, behind a bare
question mark. -/
def MayPrecede : Lexeme → Lexeme → Prop
  | .text _, .text _ => False
  | .placeholder .plain, .text t => ∀ c ∈ t.head?, c ∉ ['d', 'f', 'a', '#']
  | _, _ => True

private theorem source_ne_nil {l : Lexeme} (h : l.IsProper) : l.source ≠ [] := by
  cases l with
  | text t => exact h.1
  | placeholder kind => cases kind <;> simp [source, Kind.token]

private theorem braces_source {l : Lexeme} (h : l.IsProper) : braces l.source = [] := by
  cases l with
  | text t =>
    obtain ⟨-, -, hopen, hclose⟩ := h
    apply List.filter_eq_nil_iff.2
    intro c hc hbrace
    rcases eq_of_isBrace hbrace with rfl | rfl
    · exact hopen hc
    · exact hclose hc
  | placeholder kind => cases kind <;> rfl

/-- What may stand behind literal text is no literal text. -/
private theorem text?_segmentAt_of_mayPrecede {t : Text} {l : Lexeme} (h : (text t).MayPrecede l) (start : Nat) :
    Segment.writing.text? (l.segmentAt start) = none := by
  cases l with
  | text u => exact h.elim
  | placeholder kind => rfl

/-- What may stand behind a bare question mark does not turn it into a placeholder of another kind. -/
private theorem ofSpecifier?_of_mayPrecede {l : Lexeme} (h : (placeholder .plain).MayPrecede l) :
    ∀ c ∈ l.source.head?, Kind.ofSpecifier? c = none := by
  cases l with
  | text t =>
    intro c hc
    have hletter := h c hc
    unfold Kind.ofSpecifier?
    split <;> simp_all
  | placeholder kind => cases kind <;> simp [source, Kind.token, Kind.ofSpecifier?]

end Lexeme

namespace Phrase

def source : Phrase → Text
  | .lexeme l => l.source
  | .block body => '\x7b' :: body.flatMap Lexeme.source ++ ['\x7d']

def lexeme? : Phrase → Option Lexeme
  | .lexeme l => some l
  | .block _ => none

def partAt (start : Nat) : Phrase → Part
  | .lexeme l => .segment (l.segmentAt start)
  | .block body => .block ⟨body.flatMap Lexeme.source, Lexeme.segments body, start⟩

/-- The phrases as the parts of a template. -/
def parts (phrases : List Phrase) : List Part := laidOut source partAt 0 phrases

end Phrase

/-! ### Canonical rows -/

/-- The lexemes among the items are proper and may stand as they do. -/
structure IsCanonical {α : Type} (lexeme? : α → Option Lexeme) (items : List α) : Prop where
  proper : ∀ a ∈ items, ∀ l ∈ lexeme? a, l.IsProper
  chain : items.IsChain fun a b => ∀ l ∈ lexeme? a, ∀ m ∈ lexeme? b, l.MayPrecede m

private theorem isCanonical_cons {α : Type} {lexeme? : α → Option Lexeme} {a : α} {items : List α} :
    IsCanonical lexeme? (a :: items) ↔
      (∀ l ∈ lexeme? a, l.IsProper) ∧
        (∀ b ∈ items.head?, ∀ l ∈ lexeme? a, ∀ m ∈ lexeme? b, l.MayPrecede m) ∧ IsCanonical lexeme? items := by
  constructor
  · rintro ⟨hproper, hchain⟩
    obtain ⟨hnext, hchain⟩ := List.isChain_cons.1 hchain
    exact ⟨hproper a List.mem_cons_self, hnext, fun b hb => hproper b (List.mem_cons_of_mem a hb), hchain⟩
  · rintro ⟨ha, hnext, hproper, hchain⟩
    refine ⟨?_, List.isChain_cons.2 ⟨hnext, hchain⟩⟩
    intro b hb
    rcases List.mem_cons.1 hb with rfl | hb
    · exact ha
    · exact hproper b hb

/-- Phrases of which the lexemes and the bodies of the blocks are canonical. -/
structure Phrase.Canonical (phrases : List Phrase) : Prop where
  outside : IsCanonical Phrase.lexeme? phrases
  inside : ∀ body, .block body ∈ phrases → IsCanonical some body

/-- What holds of the first character of the next item holds of the first character behind. -/
private theorem forall_head?_flatMap {α : Type} {source : α → Text} {P : Char → Prop} {items : List α}
    (hne : ∀ a ∈ items, source a ≠ []) (h : ∀ a ∈ items.head?, ∀ c ∈ (source a).head?, P c) :
    ∀ c ∈ (items.flatMap source).head?, P c := by
  cases items with
  | nil => simp
  | cons a items =>
    rw [List.flatMap_cons, List.head?_append_of_ne_nil _ (hne a List.mem_cons_self)]
    exact h a rfl

/-! ### Reading what was written -/

/-- Canonical lexemes are read back. -/
theorem Lexeme.split_source {lexemes : List Lexeme} (h : IsCanonical some lexemes) (start : Nat) :
    Segment.split start (lexemes.flatMap source) = laidOut source segmentAt start lexemes := by
  induction lexemes generalizing start with
  | nil => rfl
  | cons l rest ih =>
    obtain ⟨hproper, hnext, hrest⟩ := isCanonical_cons.1 h
    have hl : l.IsProper := hproper l rfl
    have hbehind : ∀ m ∈ rest.head?, l.MayPrecede m := fun m hm => hnext m hm l rfl m rfl
    rw [List.flatMap_cons, laidOut, ← ih hrest]
    cases l with
    | text t =>
      refine Segment.split_text_append hl.1 hl.2.1 start ?_
      rw [ih hrest, head?_laidOut]
      intro s hs
      obtain ⟨m, hm, rfl⟩ := Option.map_eq_some_iff.1 hs
      exact text?_segmentAt_of_mayPrecede (hbehind m hm) _
    | placeholder kind =>
      refine Segment.split_token_append ?_ start
      rintro rfl
      refine forall_head?_flatMap (fun m hm => source_ne_nil (hrest.proper m hm m rfl)) ?_
      exact fun m hm => ofSpecifier?_of_mayPrecede (hbehind m hm)

private theorem Lexeme.braces_flatMap_source {lexemes : List Lexeme} (h : IsCanonical some lexemes) :
    braces (lexemes.flatMap source) = [] := by
  apply List.filter_eq_nil_iff.2
  intro c hc
  obtain ⟨l, hl, hc⟩ := List.mem_flatMap.1 hc
  exact List.filter_eq_nil_iff.1 (braces_source (h.proper l hl l rfl)) c hc

/-- Canonical phrases are read back. -/
theorem Phrase.split_source {phrases : List Phrase} (h : Canonical phrases) (start : Nat) :
    Part.split start (phrases.flatMap source) = laidOut source partAt start phrases := by
  obtain ⟨houtside, hinside⟩ := h
  induction phrases generalizing start with
  | nil => rfl
  | cons p rest ih =>
    obtain ⟨hproper, hnext, hrest⟩ := isCanonical_cons.1 houtside
    have hread : ∀ offset, Part.split offset (rest.flatMap source) = laidOut source partAt offset rest :=
      fun offset => ih offset hrest fun body hbody => hinside body (List.mem_cons_of_mem p hbody)
    rw [List.flatMap_cons, laidOut, ← hread]
    cases p with
    | block body =>
      have hbody : IsCanonical some body := hinside body List.mem_cons_self
      have hsource : (block body).source ++ rest.flatMap source =
          '\x7b' :: body.flatMap Lexeme.source ++ '\x7d' :: rest.flatMap source := by
        simp [source]
      have hlength : start + (block body).source.length = start + (body.flatMap Lexeme.source).length + 2 := by
        simp only [source, List.length_append, List.length_cons, List.length_nil]
        omega
      rw [hsource, hlength, Part.split_block_append (Lexeme.braces_flatMap_source hbody), Lexeme.split_source hbody 0]
      rfl
    | lexeme l =>
      have hl : l.IsProper := hproper l rfl
      cases l with
      | text t =>
        refine Part.split_text_append hl.1 hl.2.1 (Lexeme.braces_source hl) start ?_
        -- the part behind the text is no text, so that the two are not joined
        rw [hread, head?_laidOut]
        intro p hp
        obtain ⟨q, hq, rfl⟩ := Option.map_eq_some_iff.1 hp
        cases q with
        | block body => rfl
        | lexeme m => exact Lexeme.text?_segmentAt_of_mayPrecede (hnext _ hq _ rfl m rfl) _
      | placeholder kind =>
        refine Part.split_token_append ?_ start
        -- only a bare question mark could take in the letter behind it
        rintro rfl
        refine forall_head?_flatMap ?_ ?_
        · intro q hq
          cases q with
          | block body => simp [source]
          | lexeme m => exact Lexeme.source_ne_nil (hrest.proper _ hq m rfl)
        · intro q hq
          cases q with
          | block body => simp [source, Kind.ofSpecifier?]
          | lexeme m => exact Lexeme.ofSpecifier?_of_mayPrecede (hnext _ hq _ rfl m rfl)

/-! ### What was written is accepted -/

namespace Phrase

/-- The blocks among the phrases, side by side. -/
def nesting : List Phrase → Nesting
  | [] => .none
  | .lexeme _ :: rest => nesting rest
  | .block _ :: rest => .block .none (nesting rest)

theorem hasLonePair_nesting (phrases : List Phrase) : (nesting phrases).hasLonePair = false := by
  induction phrases with
  | nil => rfl
  | cons p rest ih =>
    cases p with
    | lexeme l => exact ih
    | block body => simp [nesting, Nesting.hasLonePair, ih]

private theorem braces_source {phrases : List Phrase} (h : Canonical phrases) :
    braces (phrases.flatMap source) = (nesting phrases).written := by
  obtain ⟨houtside, hinside⟩ := h
  induction phrases with
  | nil => rfl
  | cons p rest ih =>
    obtain ⟨hproper, -, hrest⟩ := isCanonical_cons.1 houtside
    have hbehind : braces (rest.flatMap source) = (nesting rest).written :=
      ih hrest fun body hbody => hinside body (List.mem_cons_of_mem p hbody)
    rw [List.flatMap_cons, braces_append, hbehind]
    cases p with
    | lexeme l =>
      have hnone : braces (lexeme l).source = [] := Lexeme.braces_source (hproper l rfl)
      rw [hnone]
      rfl
    | block body =>
      have hnone : braces (body.flatMap Lexeme.source) = [] :=
        Lexeme.braces_flatMap_source (hinside body List.mem_cons_self)
      have hblock : braces (block body).source = ['\x7b', '\x7d'] := by
        rw [source, List.cons_append, braces_cons_of_isBrace rfl, braces_append, hnone]
        rfl
      rw [hblock]
      rfl

/-- Canonical phrases are read back from what they are written as: it is accepted, and it is taken apart into the same
phrases, each where it was written. -/
theorem compile_source {phrases : List Phrase} (h : Canonical phrases) :
    Template.validate (phrases.flatMap source) = .ok () ∧
      Template.compile (phrases.flatMap source) = .ok ⟨phrases.flatMap source, parts phrases⟩ := by
  have hvalidate : Template.validate (phrases.flatMap source) = .ok () := by
    rw [Template.validate_eq_of_braces (braces_source h), hasLonePair_nesting]
    rfl
  have hparts : (Template.ofText (phrases.flatMap source)).parts = parts phrases := split_source h 0
  refine ⟨hvalidate, ?_⟩
  rw [Template.compile, hvalidate, ← hparts]
  rfl

/-- Nothing stands between a bare question mark and another placeholder, between two blocks, or in the first of
them. -/
theorem compile_source_adjacent :
    Canonical [.lexeme (.text ['n']), .lexeme (.placeholder .plain), .lexeme (.placeholder .integer), .block [],
      .block [.placeholder .plain, .text ['x']], .lexeme (.placeholder .plain), .lexeme (.text [' ', 'd'])] ∧
    Template.compile "n??d\x7b\x7d\x7b?x\x7d? d".toList = .ok ⟨"n??d\x7b\x7d\x7b?x\x7d? d".toList,
      [.segment (.text ['n']), .segment (.placeholder .plain 1), .segment (.placeholder .integer 2),
        .block ⟨[], [], 4⟩, .block ⟨['?', 'x'], [.placeholder .plain 0, .text ['x']], 6⟩,
        .segment (.placeholder .plain 10), .segment (.text [' ', 'd'])]⟩ := by
  have h : Canonical [.lexeme (.text ['n']), .lexeme (.placeholder .plain), .lexeme (.placeholder .integer),
      .block [], .block [.placeholder .plain, .text ['x']], .lexeme (.placeholder .plain),
      .lexeme (.text [' ', 'd'])] := by
    refine ⟨⟨?_, ?_⟩, ?_⟩
    · simp [lexeme?, Lexeme.IsProper]
    · simp [lexeme?, Lexeme.MayPrecede]
    · intro body hbody
      have hbodies : body = [] ∨ body = [.placeholder .plain, .text ['x']] := by simpa using hbody
      rcases hbodies with rfl | rfl
      · exact ⟨by simp, .nil⟩
      · exact ⟨by simp [Lexeme.IsProper], by simp [Lexeme.MayPrecede]⟩
  exact ⟨h, (compile_source h).2⟩

end Phrase

end SqlTemplate
