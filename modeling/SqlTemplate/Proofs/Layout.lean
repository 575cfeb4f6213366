import Mathlib.Data.List.Chain
import SqlTemplate.Template.Basic

/-!
# Layouts

The segments of a text and the parts of a template are rows of items that are written one behind the other.  A row is
a layout of a text if it is written as the text, if every offset in it is the length of what stands in front, and if
literal text is never empty, never next to other literal text and never has a question mark.  Splitting lays out any
text (`Segment.isLayout_split`), and so does taking a template apart (`Part.isLayout_ofCut`), in which each block lays
out its body again (`Template.compile_layout`).
-/

namespace SqlTemplate

/-- How items of a kind are written, and the offset or the literal text that an item has. -/
structure Writing (α : Type) where
  source : α → Text
  offset? : α → Option Nat
  text? : α → Option Text

def Segment.writing : Writing Segment where
  source := Segment.source
  offset?
    | .text _ => none
    | .placeholder _ offset => some offset
  text?
    | .text t => some t
    | .placeholder .. => none

def Part.writing : Writing Part where
  source := Part.source
  offset?
    | .segment s => Segment.writing.offset? s
    | .block b => some b.offset
  text?
    | .segment s => Segment.writing.text? s
    | .block _ => none

/-! ### Rows of items -/

section Rows

variable {α : Type}

/-- Literal texts are not empty, have no question mark, and do not stand next to each other. -/
structure TextsApart (text? : α → Option Text) (items : List α) : Prop where
  ne_nil : ∀ a ∈ items, ∀ t, text? a = some t → t ≠ []
  unmarked : ∀ a ∈ items, ∀ t, text? a = some t → '?' ∉ t
  apart : items.IsChain fun a b => text? a = none ∨ text? b = none

private theorem textsApart_nil (text? : α → Option Text) : TextsApart text? [] :=
  ⟨by simp, by simp, .nil⟩

private theorem textsApart_cons {text? : α → Option Text} {a : α} {items : List α} :
    TextsApart text? (a :: items) ↔
      (∀ t, text? a = some t → t ≠ [] ∧ '?' ∉ t) ∧ (∀ b ∈ items.head?, text? a = none ∨ text? b = none) ∧
        TextsApart text? items := by
  constructor
  · rintro ⟨hne, hmark, hchain⟩
    obtain ⟨hhead, htail⟩ := List.isChain_cons.1 hchain
    have hrest : ∀ b ∈ items, b ∈ a :: items := fun b hb => List.mem_cons_of_mem a hb
    exact ⟨fun t ht => ⟨hne a List.mem_cons_self t ht, hmark a List.mem_cons_self t ht⟩, hhead,
      fun b hb => hne b (hrest b hb), fun b hb => hmark b (hrest b hb), htail⟩
  · rintro ⟨ha, hhead, hne, hmark, htail⟩
    refine ⟨?_, ?_, List.isChain_cons.2 ⟨hhead, htail⟩⟩
    · intro b hb t ht
      rcases List.mem_cons.1 hb with rfl | hb
      · exact (ha t ht).1
      · exact hne b hb t ht
    · intro b hb t ht
      rcases List.mem_cons.1 hb with rfl | hb
      · exact (ha t ht).2
      · exact hmark b hb t ht

namespace Writing

variable {w : Writing α}

/-- The offset of each item is the length of what is written in front of it, from `start` on. -/
def OffsetsFrom (w : Writing α) (start : Nat) (items : List α) : Prop :=
  ∀ before a after offset, items = before ++ a :: after → w.offset? a = some offset →
    offset = start + (before.flatMap w.source).length

private theorem offsetsFrom_cons {start : Nat} {a : α} {items : List α} :
    w.OffsetsFrom start (a :: items) ↔
      (∀ offset, w.offset? a = some offset → offset = start) ∧
        w.OffsetsFrom (start + (w.source a).length) items := by
  constructor
  · intro h
    refine ⟨fun offset ha => by simpa using h [] a items offset rfl ha, ?_⟩
    intro before b after offset hitems hb
    have hoffset := h (a :: before) b after offset (by rw [hitems, List.cons_append]) hb
    simpa [Nat.add_assoc] using hoffset
  · rintro ⟨ha, hrest⟩ before b after offset hitems hb
    cases before with
    | nil =>
      obtain ⟨rfl, -⟩ : a = b ∧ items = after := by simpa using hitems
      simpa using ha offset hb
    | cons c before =>
      obtain ⟨rfl, rfl⟩ : a = c ∧ items = before ++ b :: after := by simpa using hitems
      simpa [Nat.add_assoc] using hrest before b after offset rfl hb

/-- The items are the text, taken apart: written one behind the other from `start` on they are the text, they know
their offsets, and their literal texts are apart. -/
structure IsLayout (w : Writing α) (start : Nat) (items : List α) (t : Text) : Prop where
  written : items.flatMap w.source = t
  offsets : w.OffsetsFrom start items
  texts : TextsApart w.text? items

private theorem isLayout_nil (start : Nat) : w.IsLayout start [] [] :=
  ⟨rfl, fun before a after _ h => by simp at h, textsApart_nil w.text?⟩

private theorem isLayout_cons {start : Nat} {a : α} {items : List α} {t : Text} :
    w.IsLayout start (a :: items) t ↔
      ∃ u, t = w.source a ++ u ∧ w.IsLayout (start + (w.source a).length) items u ∧
        (∀ offset, w.offset? a = some offset → offset = start) ∧
        (∀ l, w.text? a = some l → l ≠ [] ∧ '?' ∉ l) ∧
        (∀ b ∈ items.head?, w.text? a = none ∨ w.text? b = none) := by
  constructor
  · rintro ⟨rfl, hoffsets, htexts⟩
    obtain ⟨hoffset, hoffsets⟩ := offsetsFrom_cons.1 hoffsets
    obtain ⟨htext, hnext, htexts⟩ := textsApart_cons.1 htexts
    exact ⟨items.flatMap w.source, by rw [List.flatMap_cons], ⟨rfl, hoffsets, htexts⟩, hoffset, htext, hnext⟩
  · rintro ⟨u, rfl, ⟨rfl, hoffsets, htexts⟩, hoffset, htext, hnext⟩
    exact ⟨List.flatMap_cons, offsetsFrom_cons.2 ⟨hoffset, hoffsets⟩, textsApart_cons.2 ⟨htext, hnext, htexts⟩⟩

/-- Layouts are put one behind the other where the second one does not start with a literal text. -/
theorem IsLayout.append {start : Nat} {items : List α} {b : α} {rest : List α} {t u : Text}
    (h : w.IsLayout start items t) (hrest : w.IsLayout (start + t.length) (b :: rest) u) (hb : w.text? b = none) :
    w.IsLayout start (items ++ b :: rest) (t ++ u) := by
  induction items generalizing start t with
  | nil =>
    obtain rfl : [] = t := h.written
    simpa using hrest
  | cons a items ih =>
    obtain ⟨v, rfl, hitems, hoffset, htext, hnext⟩ := isLayout_cons.1 h
    rw [List.length_append, ← Nat.add_assoc] at hrest
    rw [List.cons_append, List.append_assoc]
    refine isLayout_cons.2 ⟨v ++ u, rfl, ih hitems hrest, hoffset, htext, ?_⟩
    cases items with
    | nil =>
      intro c hc
      obtain rfl : b = c := by simpa using hc
      exact .inr hb
    | cons c items => exact hnext

/-- Items may be taken for items of another kind that are written alike. -/
theorem IsLayout.map {β : Type} {v : Writing β} {f : β → α} (hsource : ∀ b, w.source (f b) = v.source b)
    (hoffset : ∀ b, w.offset? (f b) = v.offset? b) (htext : ∀ b, w.text? (f b) = v.text? b)
    {start : Nat} {items : List β} {t : Text} (h : v.IsLayout start items t) :
    w.IsLayout start (items.map f) t := by
  induction items generalizing start t with
  | nil =>
    obtain rfl : [] = t := h.written
    exact isLayout_nil start
  | cons b items ih =>
    obtain ⟨u, rfl, hitems, hb, hbtext, hnext⟩ := isLayout_cons.1 h
    rw [List.map_cons]
    refine isLayout_cons.2 ⟨u, by rw [hsource], ?_, by rwa [hoffset], by rwa [htext], ?_⟩
    · rw [hsource]
      exact ih hitems
    · cases items with
      | nil => simp
      | cons c items =>
        rw [List.map_cons, htext]
        intro d hd
        obtain rfl : f c = d := by simpa using hd
        rw [htext]
        exact hnext c rfl

end Writing

end Rows

/-! ### Segments -/

namespace Segment

open Writing

theorem split_cons_of_ne {c : Char} (h : c ≠ '?') (offset : Nat) (t : Text) :
    split offset (c :: t) = prependChar c (split (offset + 1) t) := by
  rw [split]
  all_goals simp_all

/-- A placeholder with what is laid out behind it. -/
private theorem isLayout_placeholder (kind : Kind) {offset : Nat} {segments : List Segment} {t : Text}
    (h : writing.IsLayout (offset + kind.token.length) segments t) :
    writing.IsLayout offset (.placeholder kind offset :: segments) (kind.token ++ t) := by
  refine isLayout_cons.2 ⟨t, rfl, h, ?_, ?_, fun _ _ => .inl rfl⟩
  · intro i hi
    exact (Option.some.inj hi).symm
  · intro l hl
    cases hl

/-- A literal text with what is laid out behind it. -/
private theorem isLayout_text {offset : Nat} {l : Text} {segments : List Segment} {t : Text} (hne : l ≠ [])
    (hmark : '?' ∉ l) (hnext : ∀ b ∈ segments.head?, writing.text? b = none)
    (h : writing.IsLayout (offset + l.length) segments t) :
    writing.IsLayout offset (.text l :: segments) (l ++ t) := by
  refine isLayout_cons.2 ⟨t, rfl, h, ?_, ?_, fun b hb => .inr (hnext b hb)⟩
  · intro i hi
    cases hi
  · intro l' hl
    obtain rfl : l = l' := Option.some.inj hl
    exact ⟨hne, hmark⟩

private theorem isLayout_prependChar {offset : Nat} {c : Char} {segments : List Segment} {t : Text} (hc : c ≠ '?')
    (h : writing.IsLayout (offset + 1) segments t) :
    writing.IsLayout offset (prependChar c segments) (c :: t) := by
  have hmark : '?' ∉ [c] := by simpa using Ne.symm hc
  cases segments with
  | nil => exact isLayout_text (by simp) hmark (by simp) h
  | cons s rest =>
    cases s with
    | placeholder kind i => exact isLayout_text (by simp) hmark (fun b hb => by cases hb; rfl) h
    | text l =>
      obtain ⟨u, rfl, hrest, -, htext, hnext⟩ := isLayout_cons.1 h
      have hstart : offset + (c :: l).length = offset + 1 + l.length := by
        simp only [List.length_cons]
        omega
      refine isLayout_text (l := c :: l) (by simp) ?_ ?_ (hstart ▸ hrest)
      · simp [Ne.symm hc, (htext l rfl).2]
      · -- a text is next to no other one
        intro b hb
        rcases hnext b hb with hl | hb
        · cases hl
        · exact hb

/-- A text is laid out by its split. -/
theorem isLayout_split (offset : Nat) (t : Text) : writing.IsLayout offset (split offset t) t := by
  fun_induction split offset t with
  | case1 offset => exact isLayout_nil offset
  | case2 offset c rest kind h ih =>
    have htoken : kind.token = ['?', c] := Kind.token_of_ofSpecifier? h
    have hrest : writing.IsLayout (offset + kind.token.length) (split (offset + 2) rest) rest := by
      rw [htoken]
      exact ih
    have hall := isLayout_placeholder kind hrest
    rw [htoken] at hall
    exact hall
  | case3 offset c rest h ih => exact isLayout_placeholder .plain ih
  | case4 offset => exact isLayout_placeholder .plain (isLayout_nil _)
  | case5 offset c rest hfollowed hlast ih =>
    refine isLayout_prependChar ?_ ih
    rintro rfl
    cases rest with
    | nil => exact hlast rfl rfl
    | cons d rest => exact hfollowed d rest rfl rfl

end Segment

/-! ### Parts -/

namespace Part

open Writing

private theorem isLayout_map_split (offset : Nat) (t : Text) :
    writing.IsLayout offset ((Segment.split offset t).map .segment) t :=
  (Segment.isLayout_split offset t).map (f := segment) (fun _ => rfl) (fun _ => rfl) fun _ => rfl

/-- A cut text that starts at an offset is laid out by its parts. -/
theorem isLayout_ofCut (offset : Nat) (lead : Text) (blocks : List (Text × Text)) :
    writing.IsLayout offset (ofCut offset lead blocks) (Block.joined lead blocks) := by
  induction blocks generalizing offset lead with
  | nil => simpa [ofCut, Block.joined] using isLayout_map_split offset lead
  | cons b blocks ih =>
    obtain ⟨body, follow⟩ := b
    have hfollow := ih (offset + lead.length + body.length + 2) follow
    have hjoined : Block.joined lead ((body, follow) :: blocks) =
        lead ++ (('\x7b' :: body ++ ['\x7d']) ++ Block.joined follow blocks) := by
      simp [Block.joined]
    rw [hjoined]
    refine (isLayout_map_split offset lead).append (isLayout_cons.2 ⟨_, rfl, ?_, ?_, ?_, ?_⟩) rfl
    · have hstart : offset + lead.length +
          (source (.block ⟨body, Segment.split 0 body, offset + lead.length⟩)).length =
            offset + lead.length + body.length + 2 := by
        simp [source]
        omega
      exact hstart ▸ hfollow
    · intro i hi
      exact (Option.some.inj hi).symm
    · intro l hl
      cases hl
    · exact fun _ _ => .inl rfl

/-- The segments of each block come from splitting its body. -/
private theorem segments_eq_of_mem_ofCut {offset : Nat} {lead : Text} {blocks : List (Text × Text)} {b : Block}
    (h : .block b ∈ ofCut offset lead blocks) : b.segments = Segment.split 0 b.body := by
  induction blocks generalizing offset lead with
  | nil => simp [ofCut] at h
  | cons c blocks ih =>
    obtain ⟨body, follow⟩ := c
    simp only [ofCut, List.mem_append, List.mem_map, List.mem_cons, block.injEq] at h
    rcases h with ⟨s, -, hs⟩ | rfl | h
    · cases hs
    · rfl
    · exact ih h

end Part

namespace Template

theorem eq_ofText_of_compile {source : Text} {t : Template} (h : compile source = .ok t) : t = ofText source := by
  unfold compile at h
  cases hv : validate source with
  | error e => rw [hv] at h; cases h
  | ok u => rw [hv] at h; exact (Except.ok.inj h).symm

theorem isLayout_parts (source : Text) : Part.writing.IsLayout 0 (ofText source).parts source := by
  have hparts := Part.isLayout_ofCut 0 (Block.cut source).1 (Block.cut source).2
  rw [Block.joined_cut] at hparts
  exact hparts

theorem isLayout_body {source : Text} {b : Block} (hb : .block b ∈ (ofText source).parts) :
    Segment.writing.IsLayout 0 b.segments b.body := by
  have hsegments : b.segments = Segment.split 0 b.body := Part.segments_eq_of_mem_ofCut hb
  rw [hsegments]
  exact Segment.isLayout_split 0 b.body

/-- Compiling loses nothing and knows where everything stands: the parts are a layout of the template, and the segments
of every block are one of its body, in which offsets start anew. -/
theorem compile_layout {source : Text} {t : Template} (h : compile source = .ok t) :
    t.source = source ∧ Part.writing.IsLayout 0 t.parts source ∧
      ∀ b, .block b ∈ t.parts → Segment.writing.IsLayout 0 b.segments b.body := by
  obtain rfl := eq_ofText_of_compile h
  exact ⟨rfl, isLayout_parts source, fun b hb => isLayout_body hb⟩

/-- A block, and behind it a brace of each kind that no block has. -/
theorem compile_layout_stray :
    compile "a?d\x7bb?\x7d\x7d\x7b?".toList = .ok ⟨"a?d\x7bb?\x7d\x7d\x7b?".toList,
      [.segment (.text ['a']), .segment (.placeholder .integer 1),
        .block ⟨['b', '?'], [.text ['b'], .placeholder .plain 1], 3⟩, .segment (.text ['\x7d', '\x7b']),
        .segment (.placeholder .plain 9)]⟩ ∧
    Part.writing.IsLayout 0 (ofText "a?d\x7bb?\x7d\x7d\x7b?".toList).parts "a?d\x7bb?\x7d\x7d\x7b?".toList ∧
    Segment.writing.IsLayout 0 [.text ['b'], .placeholder .plain 1] ['b', '?'] := by
  have h : compile "a?d\x7bb?\x7d\x7d\x7b?".toList = .ok (ofText "a?d\x7bb?\x7d\x7d\x7b?".toList) := by decide
  obtain ⟨-, hparts, hblocks⟩ := compile_layout h
  exact ⟨h.trans (by decide), hparts, hblocks ⟨['b', '?'], [.text ['b'], .placeholder .plain 1], 3⟩ (by decide)⟩

end Template

end SqlTemplate
