import Mathlib.Data.List.TakeWhile
import SqlTemplate.Proofs.Flat

/-!
# Innermost pairs

An opening brace whose next brace is a closing one is the start of a block, wherever it stands, and no block starts
anywhere else (`Part.block_mem_split_iff`).  What is left of an accepted template is text and placeholders: a brace of
no such pair is part of a text, and a question mark outside of the pairs is a placeholder
(`Template.compile_innermost`).
-/

namespace SqlTemplate

/-- An opening brace at `i` and a closing one at `j`, which is the next brace behind it. -/
structure IsInnermostPair (t : Text) (i j : Nat) : Prop where
  lt : i < j
  opens : t[i]? = some '\x7b'
  closes : t[j]? = some '\x7d'
  next : ∀ k, i < k → k < j → ∀ c ∈ t[k]?, isBrace c = false

/-- The text between the characters at `i` and `j`. -/
def between (t : Text) (i j : Nat) : Text := (t.drop (i + 1)).take (j - (i + 1))

section Lists

variable {α : Type}

private theorem take_append_cons_drop {l : List α} {i : Nat} {a : α} (h : l[i]? = some a) :
    l.take i ++ a :: l.drop (i + 1) = l ∧ (l.take i).length = i := by
  obtain ⟨hi, rfl⟩ := List.getElem?_eq_some_iff.1 h
  refine ⟨by simp, ?_⟩
  rw [List.length_take]
  omega

private theorem getElem?_append_cons (l : List α) (a : α) (r : List α) (m : Nat) :
    (l ++ a :: r)[l.length + 1 + m]? = r[m]? := by
  have hindex : l.length + 1 + m = l.length + (m + 1) := by omega
  rw [hindex, List.getElem?_append_right (by omega), Nat.add_sub_cancel_left, List.getElem?_cons_succ]

end Lists

/-- A pair takes a text apart into what stands in front of it, between its braces and behind it. -/
theorem isInnermostPair_iff {t body : Text} {i j : Nat} :
    IsInnermostPair t i j ∧ body = between t i j ↔
      ∃ before after, t = before ++ '\x7b' :: (body ++ '\x7d' :: after) ∧ braces body = [] ∧
        before.length = i ∧ i + 1 + body.length = j := by
  constructor
  · rintro ⟨⟨hlt, hopens, hcloses, hnext⟩, rfl⟩
    -- the text is taken apart at the opening brace, and what is behind it at the closing one
    obtain ⟨hsplit, hlength⟩ := take_append_cons_drop hopens
    have hrest : (t.drop (i + 1))[j - (i + 1)]? = some '\x7d' := by
      rw [List.getElem?_drop, Nat.add_sub_cancel' hlt]
      exact hcloses
    obtain ⟨hsplit', hlength'⟩ := take_append_cons_drop hrest
    refine ⟨t.take i, (t.drop (i + 1)).drop (j - (i + 1) + 1), ?_, ?_, hlength, ?_⟩
    · rw [between, hsplit', hsplit]
    · rw [braces_eq_nil_iff]
      intro c hc
      obtain ⟨m, hm⟩ := List.mem_iff_getElem?.1 hc
      have hmlt : m < j - (i + 1) := by
        rw [← hlength']
        exact (List.getElem?_eq_some_iff.1 hm).1
      rw [between, List.getElem?_take_of_lt hmlt, List.getElem?_drop] at hm
      exact hnext (i + 1 + m) (by omega) (by omega) c hm
    · rw [between, hlength']
      omega
  · rintro ⟨before, after, rfl, hbody, rfl, rfl⟩
    have hdrop : (before ++ '\x7b' :: (body ++ '\x7d' :: after)).drop (before.length + 1) =
        body ++ '\x7d' :: after := by
      rw [List.drop_length_add_append, List.drop_succ_cons, List.drop_zero]
    refine ⟨⟨by omega, ?_, ?_, ?_⟩, ?_⟩
    · simp
    · rw [getElem?_append_cons]
      simp
    · intro k hik hkj c hc
      obtain ⟨m, rfl⟩ : ∃ m, k = before.length + 1 + m := ⟨k - (before.length + 1), by omega⟩
      rw [getElem?_append_cons, List.getElem?_append_left (by omega)] at hc
      exact braces_eq_nil_iff.1 hbody c (List.mem_of_getElem? hc)
    · rw [between, hdrop, Nat.add_sub_cancel_left, List.take_left]

/-! ### Blocks -/

namespace Block

/-- The block is written somewhere in a text that starts at an offset, with no brace in its body. -/
def StandsIn (b : Block) (offset : Nat) (t : Text) : Prop :=
  ∃ before after, t = before ++ '\x7b' :: (b.body ++ '\x7d' :: after) ∧ braces b.body = [] ∧
    offset + before.length = b.offset ∧ b.segments = Segment.split 0 b.body

private theorem standsIn_cons (b : Block) (offset : Nat) (c : Char) (t : Text) :
    b.StandsIn offset (c :: t) ↔
      (c = '\x7b' ∧ (∃ after, t = b.body ++ '\x7d' :: after) ∧ braces b.body = [] ∧ offset = b.offset ∧
        b.segments = Segment.split 0 b.body) ∨ b.StandsIn (offset + 1) t := by
  constructor
  · rintro ⟨before, after, ht, hbody, hoffset, hsegments⟩
    cases before with
    | nil =>
      obtain ⟨rfl, rfl⟩ := List.cons.inj ht
      exact .inl ⟨rfl, ⟨after, rfl⟩, hbody, hoffset, hsegments⟩
    | cons d before =>
      obtain ⟨rfl, rfl⟩ := List.cons.inj ht
      rw [List.length_cons] at hoffset
      exact .inr ⟨before, after, rfl, hbody, by omega, hsegments⟩
  · rintro (⟨rfl, ⟨after, rfl⟩, hbody, hoffset, hsegments⟩ | ⟨before, after, rfl, hbody, hoffset, hsegments⟩)
    · exact ⟨[], after, rfl, hbody, hoffset, hsegments⟩
    · refine ⟨c :: before, after, rfl, hbody, ?_, hsegments⟩
      rw [List.length_cons]
      omega

/-- From its offset on the block is read in the text, with its braces. -/
theorem StandsIn.isPrefix_drop {b : Block} {t : Text} (h : b.StandsIn 0 t) :
    '\x7b' :: (b.body ++ ['\x7d']) <+: t.drop b.offset := by
  obtain ⟨before, after, rfl, -, hoffset, -⟩ := h
  rw [← hoffset, Nat.zero_add, List.drop_left]
  exact ⟨after, by simp⟩

/-- Up to its next brace a text can be read in one way. -/
private theorem eq_of_append_close {body body' after after' : Text} (h : braces body = []) (h' : braces body' = [])
    (heq : body ++ '\x7d' :: after = body' ++ '\x7d' :: after') : body = body' := by
  have hinside : ∀ u : Text, braces u = [] → ∀ v, (u ++ '\x7d' :: v).takeWhile (!isBrace ·) = u := by
    intro u hu v
    have hnot : ∀ c ∈ u, (!isBrace c) = true := by simpa using braces_eq_nil_iff.1 hu
    rw [List.takeWhile_append_of_pos hnot]
    simp [isBrace]
  rw [← hinside body h after, heq, hinside body' h' after']

/-- A character at which no pair starts is put in front of the text before the first block. -/
private theorem cut_cons_of_not_open {c : Char} {t : Text}
    (h : c = '\x7b' → ∀ body after, t = body ++ '\x7d' :: after → braces body ≠ []) :
    cut (c :: t) = (c :: (cut t).1, (cut t).2) := by
  have hjoined := joined_cut t
  rcases hcut : cut t with ⟨lead, blocks⟩
  rw [hcut] at hjoined
  rw [cut, hcut]
  dsimp only
  split
  · rename_i hc
    split
    · rename_i follow hdrop
      -- the text would start with the body of a block and a closing brace
      have hlead : lead.takeWhile (!isBrace ·) ++ '\x7d' :: follow = lead := by
        rw [← hdrop, List.takeWhile_append_dropWhile]
      have hbody : braces (lead.takeWhile (!isBrace ·)) = [] :=
        braces_eq_nil_iff.2 fun d hd => by simpa using List.mem_takeWhile_imp hd
      rw [joined, ← hlead, List.append_assoc, List.cons_append] at hjoined
      exact absurd hbody (h hc _ _ hjoined.symm)
    · rfl
  · rfl

end Block

namespace Part

def block? : Part → Option Block
  | .segment _ => none
  | .block b => some b

theorem mem_filterMap_block? {parts : List Part} {b : Block} : b ∈ parts.filterMap block? ↔ .block b ∈ parts := by
  rw [List.mem_filterMap]
  constructor
  · rintro ⟨p, hp, hb⟩
    cases p with
    | segment s => cases hb
    | block b' =>
      obtain rfl := Option.some.inj hb
      exact hp
  · intro hb
    exact ⟨.block b, hb, rfl⟩

/-- Of the text before the blocks, only its end counts for them. -/
private theorem filterMap_block?_ofCut {offset offset' : Nat} {lead lead' : Text}
    (h : offset + lead.length = offset' + lead'.length) (blocks : List (Text × Text)) :
    (ofCut offset lead blocks).filterMap block? = (ofCut offset' lead' blocks).filterMap block? := by
  have hsegments : ∀ segments : List Segment, (segments.map segment).filterMap block? = [] := fun segments => by
    simp [block?]
  cases blocks with
  | nil => rw [ofCut, ofCut, hsegments, hsegments]
  | cons b blocks => simp only [ofCut, List.filterMap_append, hsegments, h]

/-- A pair of braces with no brace between them is a block, with the blocks behind its opening brace. -/
private theorem filterMap_block?_split_open {body : Text} (h : braces body = []) (after : Text) (offset : Nat) :
    (split offset ('\x7b' :: (body ++ '\x7d' :: after))).filterMap block? =
      ⟨body, Segment.split 0 body, offset⟩ :: (split (offset + 1) (body ++ '\x7d' :: after)).filterMap block? := by
  have hclose : Block.cut ('\x7d' :: after) = ('\x7d' :: (Block.cut after).1, (Block.cut after).2) :=
    Block.cut_cons_of_not_open fun hc => absurd hc (by decide)
  have hlength : offset + body.length + 2 + (Block.cut after).1.length =
      offset + 1 + (body ++ '\x7d' :: (Block.cut after).1).length := by
    rw [List.length_append, List.length_cons]
    omega
  have hbehind : (split (offset + body.length + 2) after).filterMap block? =
      (split (offset + 1) (body ++ '\x7d' :: after)).filterMap block? := by
    rw [split, split, Block.cut_append h, hclose]
    exact filterMap_block?_ofCut hlength _
  rw [← List.cons_append, split_block_append h, ← hbehind]
  rfl

/-- No block starts at any other character. -/
private theorem filterMap_block?_split_cons {c : Char} {t : Text}
    (h : c = '\x7b' → ∀ body after, t = body ++ '\x7d' :: after → braces body ≠ []) (offset : Nat) :
    (split offset (c :: t)).filterMap block? = (split (offset + 1) t).filterMap block? := by
  rw [split, split, Block.cut_cons_of_not_open h]
  refine filterMap_block?_ofCut ?_ _
  rw [List.length_cons]
  omega

/-- A character starts a pair or it does not. -/
private theorem open_cases (c : Char) (t : Text) :
    (c = '\x7b' ∧ ∃ body after, t = body ++ '\x7d' :: after ∧ braces body = []) ∨
      (c = '\x7b' → ∀ body after, t = body ++ '\x7d' :: after → braces body ≠ []) := by
  by_cases h : c = '\x7b' ∧ ∃ body after, t = body ++ '\x7d' :: after ∧ braces body = []
  · exact .inl h
  · exact .inr fun hc body after ht hbody => h ⟨hc, body, after, ht, hbody⟩

/-- The blocks among the parts are those that stand in the text. -/
theorem block_mem_split_iff {t : Text} {offset : Nat} {b : Block} :
    .block b ∈ split offset t ↔ b.StandsIn offset t := by
  rw [← mem_filterMap_block?]
  -- the first character opens a block, or it leaves the blocks behind it as they are
  induction t generalizing offset with
  | nil =>
    refine iff_of_false List.not_mem_nil ?_
    rintro ⟨before, after, ht, -⟩
    cases before <;> cases ht
  | cons c t ih =>
    rw [Block.standsIn_cons, ← ih]
    rcases open_cases c t with ⟨rfl, body, after, rfl, hbody⟩ | hnot
    · rw [filterMap_block?_split_open hbody, List.mem_cons]
      refine or_congr_left ?_
      constructor
      · rintro rfl
        exact ⟨rfl, ⟨after, rfl⟩, hbody, rfl, rfl⟩
      · rintro ⟨-, ⟨after', ht⟩, hbody', rfl, hsegments⟩
        obtain rfl := Block.eq_of_append_close hbody hbody' ht
        rw [← hsegments]
    · rw [filterMap_block?_split_cons hnot]
      refine (or_iff_right ?_).symm
      rintro ⟨hc, ⟨after, ht⟩, hbody, -⟩
      exact hnot hc _ _ ht hbody

/-- The blocks come in the order of their offsets. -/
theorem pairwise_offset_split (offset : Nat) (t : Text) :
    ((split offset t).filterMap block?).Pairwise fun b b' => b.offset < b'.offset := by
  induction t generalizing offset with
  | nil => exact .nil
  | cons c t ih =>
    rcases open_cases c t with ⟨rfl, body, after, rfl, hbody⟩ | hnot
    · rw [filterMap_block?_split_open hbody, List.pairwise_cons]
      refine ⟨fun b hb => ?_, ih (offset + 1)⟩
      obtain ⟨before, -, -, -, hoffset, -⟩ := block_mem_split_iff.1 (mem_filterMap_block?.1 hb)
      dsimp only
      omega
    · rw [filterMap_block?_split_cons hnot]
      exact ih (offset + 1)

end Part

/-! ### What stands at an offset -/

namespace Writing

variable {α : Type}

/-- The item is written from the offset `start` on, in a row written one item behind the other. -/
def StandsAt (w : Writing α) (items : List α) (a : α) (start : Nat) : Prop :=
  ∃ before after, items = before ++ a :: after ∧ start = (before.flatMap w.source).length

/-- Every character is written by some item. -/
private theorem exists_standsAt {w : Writing α} {items : List α} {k : Nat} {c : Char}
    (h : (items.flatMap w.source)[k]? = some c) :
    ∃ a start m, w.StandsAt items a start ∧ k = start + m ∧ (w.source a)[m]? = some c := by
  induction items generalizing k with
  | nil => cases h
  | cons a items ih =>
    rw [List.flatMap_cons] at h
    rcases Nat.lt_or_ge k (w.source a).length with hlt | hge
    · rw [List.getElem?_append_left hlt] at h
      exact ⟨a, 0, k, ⟨[], items, rfl, rfl⟩, (Nat.zero_add k).symm, h⟩
    · rw [List.getElem?_append_right hge] at h
      obtain ⟨b, start, m, ⟨before, after, rfl, rfl⟩, hk, hm⟩ := ih h
      refine ⟨b, _, m, ⟨a :: before, after, rfl, rfl⟩, ?_, hm⟩
      rw [List.flatMap_cons, List.length_append]
      omega

end Writing

namespace Template

/-- The blocks among the parts, in order. -/
def blocks (t : Template) : List Block := t.parts.filterMap Part.block?

/-- A block is a pair of braces, and every pair with no brace inside is a block. -/
theorem mem_blocks_ofText_iff {source : Text} {i : Nat} {body : Text} :
    (i, body) ∈ (ofText source).blocks.map (fun b => (b.offset, b.body)) ↔
      ∃ j, IsInnermostPair source i j ∧ body = between source i j := by
  have hblocks : ∀ b, b ∈ (ofText source).blocks ↔ b.StandsIn 0 source := fun b =>
    Part.mem_filterMap_block?.trans Part.block_mem_split_iff
  simp only [List.mem_map, hblocks, isInnermostPair_iff]
  constructor
  · rintro ⟨b, ⟨before, after, ht, hbody, hoffset, -⟩, hb⟩
    obtain ⟨rfl, rfl⟩ := Prod.mk.inj hb
    exact ⟨_, before, after, ht, hbody, by omega, rfl⟩
  · rintro ⟨j, before, after, ht, hbody, rfl, -⟩
    exact ⟨⟨body, Segment.split 0 body, before.length⟩, ⟨before, after, ht, hbody, Nat.zero_add _, rfl⟩, rfl⟩

/-- A character of a template is in a text, in a token or in a pair of braces, these included. -/
private theorem part_at {source : Text} {k : Nat} {c : Char} (h : source[k]? = some c) :
    (∃ l start, Part.writing.StandsAt (ofText source).parts (.segment (.text l)) start ∧ start ≤ k ∧
      k < start + l.length ∧ c ∈ l ∧ '?' ∉ l) ∨
    (∃ kind offset m, .segment (.placeholder kind offset) ∈ (ofText source).parts ∧ k = offset + m ∧
      kind.token[m]? = some c) ∨
    ∃ i j, IsInnermostPair source i j ∧ i ≤ k ∧ k ≤ j := by
  have hlayout := isLayout_parts source
  have hwritten : ((ofText source).parts.flatMap Part.source)[k]? = some c := by
    rw [flatMap_source_parts]
    exact h
  obtain ⟨p, start, m, hp, rfl, hm⟩ := Writing.exists_standsAt (w := Part.writing) hwritten
  obtain ⟨before, after, hparts, hstart⟩ := hp
  have hmem : p ∈ (ofText source).parts := by
    rw [hparts]
    exact List.mem_append_right _ (List.mem_cons_self ..)
  have hoffset : ∀ offset, Part.writing.offset? p = some offset → offset = start := by
    intro offset hp
    have hfrom := hlayout.offsets before p after offset hparts hp
    omega
  have hlt : m < p.source.length := (List.getElem?_eq_some_iff.1 hm).1
  -- the part that writes the character decides which of the three it is
  match p with
  | .segment (.text l) =>
    have hl : m < l.length := hlt
    exact .inl ⟨l, start, ⟨before, after, hparts, hstart⟩, by omega, by omega, List.mem_of_getElem? hm,
      hlayout.texts.unmarked _ hmem l rfl⟩
  | .segment (.placeholder kind offset) =>
    obtain rfl := hoffset offset rfl
    exact .inr (.inl ⟨kind, offset, m, hmem, rfl, hm⟩)
  | .block b =>
    obtain rfl := hoffset b.offset rfl
    have hb : (b.offset, b.body) ∈ (ofText source).blocks.map (fun b => (b.offset, b.body)) :=
      List.mem_map.2 ⟨b, Part.mem_filterMap_block?.2 hmem, rfl⟩
    obtain ⟨j, hpair⟩ := mem_blocks_ofText_iff.1 hb
    obtain ⟨-, -, -, -, -, hj⟩ := isInnermostPair_iff.1 hpair
    rw [Part.source, List.length_append, List.length_cons, List.length_singleton] at hlt
    exact .inr (.inr ⟨b.offset, j, hpair.1, by omega, by omega⟩)

/-- An accepted template is compiled.  Its blocks are its pairs of braces with no brace between, in their order, each
with the text between for its body.  Every other brace of the template is part of a text outside of the blocks, and
every question mark that stands in no pair is a placeholder outside of them. -/
theorem compile_innermost {source : Text} (h : validate source = .ok ()) :
    ∃ t, compile source = .ok t ∧
      t.parts.flatMap Part.source = source ∧
      (t.blocks.Pairwise fun b b' => b.offset < b'.offset) ∧
      (∀ i body, (i, body) ∈ t.blocks.map (fun b => (b.offset, b.body)) ↔
        ∃ j, IsInnermostPair source i j ∧ body = between source i j) ∧
      (∀ k c, source[k]? = some c → isBrace c = true → (∀ i j, IsInnermostPair source i j → k ≠ i ∧ k ≠ j) →
        ∃ l start, Part.writing.StandsAt t.parts (.segment (.text l)) start ∧ start ≤ k ∧ k < start + l.length) ∧
      ∀ k, source[k]? = some '?' → (∀ i j, IsInnermostPair source i j → ¬ (i < k ∧ k < j)) →
        ∃ kind, .segment (.placeholder kind k) ∈ t.parts := by
  have hcompiled : compile source = .ok (ofText source) := by
    rw [compile, h]
    rfl
  refine ⟨ofText source, hcompiled, flatMap_source_parts source, Part.pairwise_offset_split 0 source,
    fun i body => mem_blocks_ofText_iff, ?_, ?_⟩
  · intro k c hk hc hother
    rcases part_at hk with ⟨l, start, hl, hle, hlt, -⟩ | ⟨kind, offset, m, -, -, hm⟩ | ⟨i, j, hpair, hi, hj⟩
    · exact ⟨l, start, hl, hle, hlt⟩
    · -- no token has a brace
      have hnone : braces kind.token = [] := by cases kind <;> rfl
      rw [braces_eq_nil_iff.1 hnone c (List.mem_of_getElem? hm)] at hc
      cases hc
    · obtain ⟨hki, hkj⟩ := hother i j hpair
      rw [hpair.next k (by omega) (by omega) c hk] at hc
      cases hc
  · intro k hk houtside
    rcases part_at hk with ⟨l, -, -, -, -, hmem, hmark⟩ | ⟨kind, offset, m, hmem, rfl, hm⟩ | ⟨i, j, hpair, hi, hj⟩
    · exact absurd hmem hmark
    · -- a token has its question mark in front
      have htail : '?' ∉ kind.token.tail := by cases kind <;> decide
      cases m with
      | zero => exact ⟨kind, hmem⟩
      | succ m =>
        rw [← List.getElem?_tail] at hm
        exact absurd (List.mem_of_getElem? hm) htail
    · have hki : k ≠ i := by
        rintro rfl
        cases hk.symm.trans hpair.opens
      have hkj : k ≠ j := by
        rintro rfl
        cases hk.symm.trans hpair.closes
      exact absurd ⟨by omega, by omega⟩ (houtside i j hpair)

/-- A closing brace and an opening one that are no block, question marks between them and in the block. -/
theorem compile_innermost_stray :
    validate "\x7d?\x7ba?\x7bb?d\x7d".toList = .ok () ∧
    compile "\x7d?\x7ba?\x7bb?d\x7d".toList = .ok (ofText "\x7d?\x7ba?\x7bb?d\x7d".toList) ∧
    (ofText "\x7d?\x7ba?\x7bb?d\x7d".toList).blocks.map (fun b => (b.offset, b.body)) = [(5, "b?d".toList)] ∧
    (∃ j, IsInnermostPair "\x7d?\x7ba?\x7bb?d\x7d".toList 5 j ∧
      "b?d".toList = between "\x7d?\x7ba?\x7bb?d\x7d".toList 5 j) ∧
    (∃ l start, Part.writing.StandsAt (ofText "\x7d?\x7ba?\x7bb?d\x7d".toList).parts (.segment (.text l)) start ∧
      start ≤ 2 ∧ 2 < start + l.length) ∧
    ∃ kind, .segment (.placeholder kind 4) ∈ (ofText "\x7d?\x7ba?\x7bb?d\x7d".toList).parts := by
  have hvalid : validate "\x7d?\x7ba?\x7bb?d\x7d".toList = .ok () := by decide
  obtain ⟨t, ht, -, -, hblocks, hbraces, hmarks⟩ := compile_innermost hvalid
  obtain rfl := eq_ofText_of_compile ht
  have hlist : (ofText "\x7d?\x7ba?\x7bb?d\x7d".toList).blocks.map (fun b => (b.offset, b.body)) =
      [(5, "b?d".toList)] := by
    decide
  have honly : ∀ i j, IsInnermostPair "\x7d?\x7ba?\x7bb?d\x7d".toList i j → i = 5 := by
    intro i j hpair
    have hmem := (hblocks i _).2 ⟨j, hpair, rfl⟩
    rw [hlist, List.mem_singleton] at hmem
    exact (Prod.mk.inj hmem).1
  refine ⟨hvalid, ht, hlist, (hblocks 5 _).1 (by rw [hlist]; decide), ?_, ?_⟩
  · refine hbraces 2 '\x7b' (by decide) rfl fun i j hpair => ?_
    have hi := honly i j hpair
    have hlt := hpair.lt
    omega
  · refine hmarks 4 (by decide) fun i j hpair => ?_
    have hi := honly i j hpair
    omega

end Template

end SqlTemplate
