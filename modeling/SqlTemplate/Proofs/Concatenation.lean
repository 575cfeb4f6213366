import SqlTemplate.Proofs.Flat
import SqlTemplate.Proofs.QuestionMarks
import SqlTemplate.Proofs.Rows

/-!
# Templates one behind the other

Two flat templates, written one behind the other and given their arguments one behind the other, are built as each of
them alone (`build_append`), unless a bare question mark at the end of the first takes the first letter of the second.
The SQL of parts in a row comes from the parts one by one (`partsAt_cons`), the first template is split as if nothing
stood behind it (`IsFlat.partsAt_split_append`), and neither template sees the arguments of the other
(`partsAt_append_left`, `alike_partsAt_append_right`).
-/

namespace SqlTemplate

/-! ### Outcomes one behind the other -/

section FollowedBy

variable {ε : Type}

/-- The two texts one behind the other, or the first error. -/
def followedBy (o p : Except ε Text) : Except ε Text := o.bind fun t => p.map (t ++ ·)

@[simp] private theorem nil_followedBy (p : Except ε Text) : followedBy (.ok []) p = p := by
  cases p <;> rfl

private theorem followedBy_assoc (o p q : Except ε Text) :
    followedBy (followedBy o p) q = followedBy o (followedBy p q) := by
  cases o with
  | error e => rfl
  | ok t =>
    cases p with
    | error e => rfl
    | ok u => cases q <;> simp [followedBy, Except.bind, Except.map]

end FollowedBy

/-! ### The SQL of parts -/

section PartsAt

variable {args : List Value} {escape : Escape}

/-- The SQL of parts of which the first argument has the index `start`. -/
def partsAt (args : List Value) (escape : Escape) (parts : List Part) (start : Nat) : Except Fault Text :=
  inSequence ((placed Part.width start parts).map fun p => p.1.textAt args escape p.2)

theorem partsAt_cons (args : List Value) (escape : Escape) (p : Part) (parts : List Part) (start : Nat) :
    partsAt args escape (p :: parts) start =
      followedBy (p.textAt args escape start) (partsAt args escape parts (start + p.width)) := by
  rw [partsAt, placed_cons, List.map_cons, inSequence_cons]
  rfl

private theorem partsAt_text_cons (args : List Value) (escape : Escape) (t : Text) (parts : List Part) (start : Nat) :
    partsAt args escape (.segment (.text t) :: parts) start = followedBy (.ok t) (partsAt args escape parts start) :=
  partsAt_cons args escape (.segment (.text t)) parts start

/-- A character put in front of segments is put in front of their SQL. -/
private theorem partsAt_prependChar (c : Char) (segments : List Segment) (parts : List Part) (start : Nat) :
    partsAt args escape ((Segment.prependChar c segments).map .segment ++ parts) start =
      followedBy (.ok [c]) (partsAt args escape (segments.map .segment ++ parts) start) := by
  cases segments with
  | nil => exact partsAt_text_cons args escape [c] parts start
  | cons s segments =>
    cases s with
    | placeholder kind offset => exact partsAt_text_cons args escape [c] _ start
    | text t =>
      have hboth : followedBy (.ok [c]) (.ok t) = (.ok (c :: t) : Except Fault Text) := rfl
      rw [Segment.prependChar, List.map_cons, List.map_cons, List.cons_append, List.cons_append, partsAt_text_cons,
        partsAt_text_cons, ← followedBy_assoc, hboth]

/-! ### Splitting from the left -/

private theorem partsAt_split_token {kind : Kind} {u : Text}
    (hu : kind = .plain → ∀ c ∈ u.head?, Kind.ofSpecifier? c = none) (offset start : Nat) :
    partsAt args escape (Part.split offset (kind.token ++ u)) start =
      followedBy ((Part.segment (.placeholder kind 0)).textAt args escape start)
        (partsAt args escape (Part.split (offset + kind.token.length) u) (start + 1)) := by
  rw [Part.split_token_append hu, partsAt_cons]
  rfl

private theorem partsAt_split_char {c : Char} (hmark : c ≠ '?') (hbrace : ¬ isBrace c = true) (u : Text)
    (offset start : Nat) :
    partsAt args escape (Part.split offset (c :: u)) start =
      followedBy (.ok [c]) (partsAt args escape (Part.split (offset + 1) u) start) := by
  have hcut : Block.cut (c :: u) = (c :: (Block.cut u).1, (Block.cut u).2) :=
    Block.cut_append (braces_cons_of_not_isBrace hbrace []) u
  rw [Part.split, Part.split, hcut]
  generalize (Block.cut u).1 = lead
  cases (Block.cut u).2 with
  | nil =>
    have happend := @partsAt_prependChar args escape c (Segment.split (offset + 1) lead) [] start
    simpa [Part.ofCut, Segment.split_cons_of_ne hmark] using happend
  | cons b blocks =>
    have hlength : offset + (c :: lead).length = offset + 1 + lead.length := by
      simp only [List.length_cons]
      omega
    rw [Part.ofCut, Part.ofCut, Segment.split_cons_of_ne hmark, hlength, partsAt_prependChar]

private theorem width_block (body : Text) (offset : Nat) :
    (Part.block ⟨body, Segment.split 0 body, offset⟩).width = body.count '?' := by
  rw [← Kind.length_listed, ← Segment.filterMap_kind?_split 0]
  rfl

private theorem partsAt_split_block {body : Text} (hbody : braces body = []) (u : Text) (offset start : Nat) :
    partsAt args escape (Part.split offset ('\x7b' :: body ++ '\x7d' :: u)) start =
      followedBy ((Part.block ⟨body, Segment.split 0 body, 0⟩).textAt args escape start)
        (partsAt args escape (Part.split (offset + body.length + 2) u) (start + body.count '?')) := by
  rw [Part.split_block_append hbody, partsAt_cons, width_block]
  rfl

end PartsAt

/-! ### Flat templates -/

/-- Flat templates are written with placeholders, characters of text and blocks, from the right to the left. -/
theorem IsFlat.induction {P : Text → Prop} (nil : P [])
    (token : ∀ kind t, (kind = Kind.plain → ∀ c ∈ t.head?, Kind.ofSpecifier? c = none) → P t → P (kind.token ++ t))
    (char : ∀ c t, c ≠ '?' → ¬ isBrace c = true → P t → P (c :: t))
    (block : ∀ body t, braces body = [] → P t → P ('\x7b' :: body ++ '\x7d' :: t)) {s : Text} (h : IsFlat s) : P s := by
  -- text without braces in front of something that starts with the letter of no kind
  have hlead : ∀ lead u, braces lead = [] → (∀ c ∈ u.head?, Kind.ofSpecifier? c = none) → P u → P (lead ++ u) := by
    intro lead u hbraces hu hP
    have hrest : ∀ c t, braces (c :: t) = [] → ¬ isBrace c = true ∧ braces t = [] := by
      intro c t ht
      rw [braces_eq_nil_iff] at ht
      exact ⟨by simp [ht c List.mem_cons_self], braces_eq_nil_iff.2 fun d hd => ht d (List.mem_cons_of_mem c hd)⟩
    induction (0 : Nat), lead using Segment.split.induct with
    | case1 => exact hP
    | case2 offset c rest kind hkind ih =>
      have htoken : kind.token = ['?', c] := Kind.token_of_ofSpecifier? hkind
      have hmarked := token kind (rest ++ u) (by rintro rfl; cases htoken) (ih (hrest c rest (hrest '?' _ hbraces).2).2)
      rwa [htoken] at hmarked
    | case3 offset c rest hnone ih =>
      refine token .plain (c :: rest ++ u) ?_ (ih (hrest '?' _ hbraces).2)
      rintro - d hd
      obtain rfl : c = d := by simpa using hd
      exact hnone
    | case4 => exact token .plain u (fun _ => hu) hP
    | case5 offset c rest hfollowed hlast ih =>
      refine char c (rest ++ u) ?_ (hrest c rest hbraces).1 (ih (hrest c rest hbraces).2)
      rintro rfl
      cases rest with
      | nil => exact hlast rfl rfl
      | cons d rest => exact hfollowed d rest rfl rfl
  obtain ⟨lead, blocks, rfl, hbraces, hblocks⟩ := h
  -- the text behind the last block comes first
  induction blocks generalizing lead with
  | nil => simpa [Block.joined] using hlead lead [] hbraces (by simp) nil
  | cons b blocks ih =>
    obtain ⟨hbody, hfollow⟩ := hblocks b List.mem_cons_self
    have hbehind := block b.1 _ hbody (ih b.2 hfollow fun b' hb' => hblocks b' (List.mem_cons_of_mem b hb'))
    have hjoined : Block.joined lead (b :: blocks) = lead ++ ('\x7b' :: b.1 ++ '\x7d' :: Block.joined b.2 blocks) := by
      simp [Block.joined]
    rw [hjoined]
    refine hlead lead _ hbraces ?_ hbehind
    rintro c hc
    obtain rfl : '\x7b' = c := by simpa using hc
    rfl

/-- No bare question mark at the end of the first text is in front of the letter of a kind. -/
def StaysApart (t u : Text) : Prop := ¬ (t.getLast? = some '?' ∧ ∃ c ∈ u.head?, c ∈ ['d', 'f', 'a', '#'])

theorem StaysApart.of_append {s t u : Text} (h : StaysApart (s ++ t) u) : StaysApart t u := by
  rintro ⟨hlast, hletter⟩
  refine h ⟨?_, hletter⟩
  rw [List.getLast?_append, hlast]
  rfl

theorem StaysApart.ofSpecifier? {t u : Text} (h : StaysApart t u) (hlast : t.getLast? = some '?') :
    ∀ c ∈ u.head?, Kind.ofSpecifier? c = none := by
  intro c hc
  by_contra hsome
  refine h ⟨hlast, c, hc, ?_⟩
  unfold Kind.ofSpecifier? at hsome
  split at hsome <;> simp_all

section Splitting

variable {args : List Value} {escape : Escape}

/-- The SQL of a flat template does not depend on where it starts in a longer one. -/
private theorem IsFlat.partsAt_split_offset {s : Text} (h : IsFlat s) (offset offset' start : Nat) :
    partsAt args escape (Part.split offset s) start = partsAt args escape (Part.split offset' s) start := by
  revert offset offset' start
  refine IsFlat.induction (P := fun s => ∀ offset offset' start, partsAt args escape (Part.split offset s) start =
    partsAt args escape (Part.split offset' s) start) ?_ ?_ ?_ ?_ h
  · intro offset offset' start
    rfl
  · intro kind t ht ih offset offset' start
    rw [partsAt_split_token ht, partsAt_split_token ht, ih]
  · intro c t hmark hbrace ih offset offset' start
    rw [partsAt_split_char hmark hbrace, partsAt_split_char hmark hbrace, ih]
  · intro body t hbody ih offset offset' start
    rw [partsAt_split_block hbody, partsAt_split_block hbody, ih]

/-- A flat template is split as if nothing stood behind it. -/
theorem IsFlat.partsAt_split_append {s u : Text} (h : IsFlat s) (hapart : StaysApart s u) (offset start : Nat) :
    partsAt args escape (Part.split offset (s ++ u)) start =
      followedBy (partsAt args escape (Part.split offset s) start)
        (partsAt args escape (Part.split (offset + s.length) u) (start + s.count '?')) := by
  revert hapart offset start
  refine IsFlat.induction (P := fun s => StaysApart s u → ∀ offset start,
    partsAt args escape (Part.split offset (s ++ u)) start =
      followedBy (partsAt args escape (Part.split offset s) start)
      (partsAt args escape (Part.split (offset + s.length) u) (start + s.count '?'))) ?_ ?_ ?_ ?_ h
  · intro _ offset start
    exact (nil_followedBy _).symm
  · intro kind t ht ih hapart offset start
    have hcount : (kind.token ++ t).count '?' = 1 + t.count '?' := by cases kind <;> simp [Kind.token, Nat.add_comm]
    have hbehind : kind = .plain → ∀ c ∈ (t ++ u).head?, Kind.ofSpecifier? c = none := by
      rintro rfl
      -- what follows the bare question mark starts as `t` does, and as `u` at the seam
      cases t with
      | nil => exact hapart.ofSpecifier? rfl
      | cons c t => exact ht rfl
    rw [List.append_assoc, partsAt_split_token hbehind, partsAt_split_token ht, ih hapart.of_append, followedBy_assoc,
      List.length_append, hcount, Nat.add_assoc, Nat.add_assoc]
  · intro c t hmark hbrace ih hapart offset start
    have hrest : StaysApart t u := hapart.of_append (s := [c])
    rw [List.cons_append, partsAt_split_char hmark hbrace, partsAt_split_char hmark hbrace, ih hrest, followedBy_assoc,
      List.length_cons, List.count_cons_of_ne (by simpa using hmark), Nat.add_assoc, Nat.add_comm 1]
  · intro body t hbody ih hapart offset start
    have hrest : StaysApart t u := by
      refine StaysApart.of_append (s := '\x7b' :: body ++ ['\x7d']) ?_
      simpa using hapart
    have hwritten : '\x7b' :: body ++ '\x7d' :: t ++ u = '\x7b' :: body ++ '\x7d' :: (t ++ u) := by simp
    have hlength : offset + ('\x7b' :: body ++ '\x7d' :: t).length = offset + body.length + 2 + t.length := by
      simp only [List.length_append, List.length_cons]
      omega
    have hcount : start + ('\x7b' :: body ++ '\x7d' :: t).count '?' = start + body.count '?' + t.count '?' := by
      simp [Nat.add_assoc]
    rw [hwritten, hlength, hcount, partsAt_split_block hbody, partsAt_split_block hbody, ih hrest, followedBy_assoc]

end Splitting

/-- Blocks side by side. -/
def Nesting.row : Nat → Nesting
  | 0 => .none
  | n + 1 => .block .none (row n)

namespace Nesting

private theorem hasLonePair_row (n : Nat) : (row n).hasLonePair = false := by
  induction n with
  | zero => rfl
  | succ n ih => simp [row, hasLonePair, ih]

private theorem written_row_add (m n : Nat) : (row (m + n)).written = (row m).written ++ (row n).written := by
  induction m with
  | zero => simp [row, written]
  | succ m ih =>
    rw [Nat.succ_add]
    simp [row, written, ih]

end Nesting

private theorem IsFlat.exists_row {s : Text} (h : IsFlat s) : ∃ n, braces s = (Nesting.row n).written := by
  refine IsFlat.induction (P := fun s => ∃ n, braces s = (Nesting.row n).written) ⟨0, rfl⟩ ?_ ?_ ?_ h
  · rintro kind t - ⟨n, hn⟩
    have hnone : braces kind.token = [] := by cases kind <;> rfl
    exact ⟨n, by rw [braces_append, hnone, hn, List.nil_append]⟩
  · rintro c t - hbrace ⟨n, hn⟩
    exact ⟨n, by rw [braces_cons_of_not_isBrace hbrace, hn]⟩
  · rintro body t hbody ⟨n, hn⟩
    refine ⟨n + 1, ?_⟩
    rw [List.cons_append, braces_cons_of_isBrace rfl, braces_append, hbody, braces_cons_of_isBrace rfl, hn]
    rfl

/-- Flat templates are accepted, also one behind the other. -/
theorem IsFlat.compile_append {s u : Text} (hs : IsFlat s) (hu : IsFlat u) :
    Template.compile (s ++ u) = .ok (.ofText (s ++ u)) := by
  obtain ⟨m, hm⟩ := hs.exists_row
  obtain ⟨n, hn⟩ := hu.exists_row
  have hrow : braces (s ++ u) = (Nesting.row (m + n)).written := by
    rw [braces_append, hm, hn, Nesting.written_row_add]
  rw [Template.compile, Template.validate_eq_of_braces hrow, Nesting.hasLonePair_row]
  rfl

/-! ### The arguments of each -/

section Left

variable {args others : List Value} {escape : Escape}

private theorem Segment.textAt_append_left (s : Segment) {i : Nat} (h : i + s.width ≤ args.length) :
    s.textAt (args ++ others) escape i = s.textAt args escape i := by
  cases s with
  | text t => rfl
  | placeholder kind offset =>
    have hi : i < args.length := h
    have hv : args[i]? = some args[i] := List.getElem?_eq_getElem hi
    exact Segment.textAt_congr ((List.getElem?_append_left hi).trans hv) hv

private theorem Block.textAt_append_left (b : Block) {start : Nat} (h : start + b.size ≤ args.length) :
    b.textAt (args ++ others) escape start = b.textAt args escape start := by
  have hfilled : b.filledAt (args ++ others) escape start = b.filledAt args escape start := by
    unfold filledAt
    congr 1
    refine List.map_congr_left fun p hp => ?_
    have hle := add_width_le_of_mem_placed hp
    rw [b.size_eq_sum] at h
    exact p.1.textAt_append_left (hle.trans h)
  unfold textAt
  rw [hfilled]

private theorem Part.textAt_append_left (p : Part) {i : Nat} (h : i + p.width ≤ args.length) :
    p.textAt (args ++ others) escape i = p.textAt args escape i := by
  cases p with
  | block b => exact b.textAt_append_left h
  | segment s => rw [textAt, textAt, s.textAt_append_left h]

/-- Parts that have enough arguments do not see those behind. -/
theorem partsAt_append_left {parts : List Part} {start : Nat}
    (h : start + (parts.map Part.width).sum ≤ args.length) :
    partsAt (args ++ others) escape parts start = partsAt args escape parts start := by
  unfold partsAt
  congr 1
  refine List.map_congr_left fun p hp => ?_
  exact p.1.textAt_append_left ((add_width_le_of_mem_placed hp).trans h)

end Left

/-- Query errors of one class, or one and the same other fault. -/
def Fault.SameClass : Fault → Fault → Prop
  | .query e, .query e' => e.errorClass = e'.errorClass
  | f, f' => f = f'

theorem Fault.SameClass.refl (f : Fault) : f.SameClass f := by
  cases f <;> rfl

/-- What ends the work on a block: the skip marker in both cases, or faults of one class. -/
def Interruption.SameClass : Interruption → Interruption → Prop
  | .skip, .skip => True
  | .fault f, .fault f' => f.SameClass f'
  | _, _ => False

/-- A skip marker outside a block is refused wherever it stands. -/
theorem Interruption.SameClass.outsideBlock {e e' : Interruption} (h : e.SameClass e') (i j : Nat) :
    (e.outsideBlock i).SameClass (e'.outsideBlock j) := by
  cases e with
  | skip =>
    cases e' with
    | skip => rfl
    | fault f => exact h.elim
  | fault f =>
    cases e' with
    | skip => exact h.elim
    | fault f' => exact h

section Alike

variable {ε : Type}

/-- The same text, or errors that are related. -/
inductive Alike (R : ε → ε → Prop) : Except ε Text → Except ε Text → Prop
  | ok (t : Text) : Alike R (.ok t) (.ok t)
  | error {e e' : ε} (h : R e e') : Alike R (.error e) (.error e')

private theorem Alike.eq_ok {R : ε → ε → Prop} {t : Text} {o : Except ε Text} (h : Alike R (.ok t) o) : o = .ok t := by
  cases h
  rfl

private theorem Alike.exists_eq_error {R : ε → ε → Prop} {e : ε} {o : Except ε Text} (h : Alike R (.error e) o) :
    ∃ e', o = .error e' ∧ R e e' := by
  cases h with
  | error h => exact ⟨_, rfl, h⟩

private theorem Alike.followedBy {R : ε → ε → Prop} {o o' p p' : Except ε Text} (h : Alike R o o') (hp : Alike R p p') :
    Alike R (followedBy o p) (followedBy o' p') := by
  cases h with
  | error h => exact .error h
  | ok t =>
    cases hp with
    | ok u => exact .ok (t ++ u)
    | error hp => exact .error hp

/-- Items that are alike at places that lie `n` apart are alike in a row. -/
private theorem alike_inSequence {α : Type} {R : ε → ε → Prop} {width : α → Nat} {n : Nat}
    {text text' : α → Nat → Except ε Text}
    (h : ∀ a i, Alike R (text a i) (text' a (n + i))) (items : List α) (start : Nat) :
    Alike R (inSequence ((placed width start items).map fun p => text p.1 p.2))
      (inSequence ((placed width (n + start) items).map fun p => text' p.1 p.2)) := by
  induction items generalizing start with
  | nil => exact .ok []
  | cons a items ih =>
    simp only [placed_cons, List.map_cons, inSequence_cons]
    rw [Nat.add_assoc]
    exact (h a start).followedBy (ih (start + width a))

end Alike

section Right

variable (args others : List Value) (escape : Escape)

private theorem Segment.alike_textAt_append_right (s : Segment) (i : Nat) :
    Alike Interruption.SameClass (s.textAt others escape i) (s.textAt (args ++ others) escape (args.length + i)) := by
  cases s with
  | text t => exact .ok t
  | placeholder kind offset =>
    have hright : (args ++ others)[args.length + i]? = others[i]? := by
      rw [List.getElem?_append_right (Nat.le_add_right _ _), Nat.add_sub_cancel_left]
    have hformat : ∀ v, Alike Interruption.SameClass ((kind.format v escape).outcome.mapError .fault)
        ((kind.format v escape).outcome.mapError .fault) := by
      intro v
      cases (kind.format v escape).outcome with
      | ok t => exact .ok t
      | error f => exact .error (Fault.SameClass.refl f)
    rw [textAt, textAt, hright]
    cases others[i]? with
    | none => exact .error rfl
    | some v =>
      cases v with
      | skip => exact .error trivial
      | _ => exact hformat _

private theorem Block.alike_textAt_append_right (b : Block) (start : Nat) :
    Alike Fault.SameClass (b.textAt others escape start) (b.textAt (args ++ others) escape (args.length + start)) := by
  have hfilled : Alike Interruption.SameClass (b.filledAt others escape start)
      (b.filledAt (args ++ others) escape (args.length + start)) :=
    alike_inSequence (Segment.alike_textAt_append_right args others escape) b.segments start
  unfold textAt
  generalize b.filledAt others escape start = o at hfilled ⊢
  generalize b.filledAt (args ++ others) escape (args.length + start) = o' at hfilled ⊢
  -- outcomes that are alike agree on whether the skip marker ended the work
  cases hfilled with
  | ok t => exact .ok t
  | @error e e' h =>
    cases e with
    | skip =>
      cases e' with
      | skip => exact .ok []
      | fault f => exact h.elim
    | fault f =>
      cases e' with
      | skip => exact h.elim
      | fault f' => exact .error h

private theorem Part.alike_textAt_append_right (p : Part) (i : Nat) :
    Alike Fault.SameClass (p.textAt others escape i) (p.textAt (args ++ others) escape (args.length + i)) := by
  cases p with
  | block b => exact b.alike_textAt_append_right args others escape i
  | segment s =>
    have hsegment := s.alike_textAt_append_right args others escape i
    rw [textAt, textAt]
    generalize s.textAt others escape i = o at hsegment ⊢
    generalize s.textAt (args ++ others) escape (args.length + i) = o' at hsegment ⊢
    cases hsegment with
    | ok t => exact .ok t
    | error h => exact .error (h.outsideBlock i (args.length + i))

/-- Parts see their own arguments behind those of others; only what an error says about places is changed. -/
theorem alike_partsAt_append_right (parts : List Part) (start : Nat) :
    Alike Fault.SameClass (partsAt others escape parts start)
      (partsAt (args ++ others) escape parts (args.length + start)) :=
  alike_inSequence (Part.alike_textAt_append_right args others escape) parts start

end Right

/-! ### Building -/

private theorem placeholderCount_ofText (source : Text) :
    (Template.ofText source).placeholderCount = source.count '?' := by
  rw [Template.placeholderCount, Template.kinds_ofText, Kind.length_listed]

private theorem sum_width_parts (source : Text) :
    ((Template.ofText source).parts.map Part.width).sum = source.count '?' := by
  rw [← placeholderCount_ofText]
  exact List.length_flatMap.symm

/-- The SQL of two flat templates comes from that of the first and that of the second, both read from all arguments. -/
private theorem textAt_append {s u : Text} (hs : IsFlat s) (hu : IsFlat u) (hapart : StaysApart s u) (args : List Value)
    (escape : Escape) :
    (Template.ofText (s ++ u)).textAt args escape =
      followedBy ((Template.ofText s).textAt args escape)
        (partsAt args escape (Template.ofText u).parts (s.count '?')) := by
  have hsplit := @IsFlat.partsAt_split_append args escape s u hs hapart 0 0
  rw [Nat.zero_add, Nat.zero_add, hu.partsAt_split_offset _ 0] at hsplit
  exact hsplit

/-- Two flat templates one behind the other, with the arguments of the first in front of those of the second, have the
SQL of both, or fail as the first that fails; where that is the second, places in the message count from the first
argument of all. -/
theorem build_append {s u : Text} {t : Template} (hs : IsFlat s) (hu : IsFlat u)
    (hapart : ¬ (s.getLast? = some '?' ∧ ∃ c ∈ u.head?, c ∈ ['d', 'f', 'a', '#'])) (ht : Template.compile s = .ok t)
    {args others : List Value} (hcount : args.length = t.placeholderCount) (escape : Escape) :
    (∀ f, (build s (.sequence .list args) escape).outcome = .error f →
      (build (s ++ u) (.sequence .list (args ++ others)) escape).outcome = .error f) ∧
    (∀ v w, (build s (.sequence .list args) escape).outcome = .ok v →
      (build u (.sequence .list others) escape).outcome = .ok w →
        (build (s ++ u) (.sequence .list (args ++ others)) escape).outcome = .ok (v ++ w)) ∧
    ∀ v f, (build s (.sequence .list args) escape).outcome = .ok v →
      (build u (.sequence .list others) escape).outcome = .error f →
        ∃ g, (build (s ++ u) (.sequence .list (args ++ others)) escape).outcome = .error g ∧ f.SameClass g := by
  obtain rfl := Template.eq_ofText_of_compile ht
  have hu' : Template.compile u = .ok (.ofText u) := IsFlat.compile_append ⟨[], [], rfl, rfl, by simp⟩ hu
  rw [placeholderCount_ofText] at hcount
  -- the first template gets to no argument of the second, which finds its own ones further behind
  have hfirst : (Template.ofText s).textAt (args ++ others) escape = (Template.ofText s).textAt args escape := by
    refine partsAt_append_left ?_
    rw [sum_width_parts, hcount, Nat.zero_add]
  have hsecond := alike_partsAt_append_right args others escape (Template.ofText u).parts 0
  rw [Nat.add_zero, hcount] at hsecond
  rw [outcome_build ht rfl, outcome_build hu' rfl, outcome_build (hs.compile_append hu) rfl, textAt_append hs hu hapart,
    hfirst]
  change Alike Fault.SameClass ((Template.ofText u).textAt others escape) _ at hsecond
  refine ⟨?_, ?_, ?_⟩
  · intro f hf
    rw [hf]
    rfl
  · intro v w hv hw
    rw [hw] at hsecond
    rw [hv, hsecond.eq_ok]
    rfl
  · intro v f hv hf
    rw [hf] at hsecond
    obtain ⟨g, hg, hclass⟩ := hsecond.exists_eq_error
    rw [hv, hg]
    exact ⟨g, rfl, hclass⟩

/-- The last block of the first template is dropped with the argument behind the skip marker, and text meets text; then
the second template is given the skip marker outside its block. -/
theorem build_append_dropped :
    (build "?#\x7b a = ?d AND ?\x7d b c = ?\x7b, ?f\x7d".toList
      (.sequence .list [.text ['n'], .skip, .int 7, .text ['v'], .skip]) .backslash).outcome =
        .ok "`n` b c = 'v'".toList ∧
    ∃ position, (build "?#\x7b a = ?d AND ?\x7d b c = ?\x7b, ?f\x7d".toList
      (.sequence .list [.text ['n'], .skip, .int 7, .skip, .skip]) .backslash).outcome =
        .error (.query (.misplacedSkip position)) := by
  have hs : IsFlat "?#\x7b a = ?d AND ?\x7d b".toList :=
    ⟨"?#".toList, [(" a = ?d AND ?".toList, " b".toList)], by decide⟩
  have hu : IsFlat " c = ?\x7b, ?f\x7d".toList := ⟨" c = ?".toList, [(", ?f".toList, [])], by decide⟩
  have ht : Template.compile "?#\x7b a = ?d AND ?\x7d b".toList = .ok (.ofText "?#\x7b a = ?d AND ?\x7d b".toList) := by
    decide
  have hfirst : (build "?#\x7b a = ?d AND ?\x7d b".toList (.sequence .list [.text ['n'], .skip, .int 7])
      .backslash).outcome = .ok "`n` b".toList := by
    decide +kernel
  have hsecond : (build " c = ?\x7b, ?f\x7d".toList (.sequence .list [.text ['v'], .skip]) .backslash).outcome =
      .ok " c = 'v'".toList := by
    decide +kernel
  have hmisplaced : (build " c = ?\x7b, ?f\x7d".toList (.sequence .list [.skip, .skip]) .backslash).outcome =
      .error (.query (.misplacedSkip 0)) := by
    decide +kernel
  have hseam : ¬ ("?#\x7b a = ?d AND ?\x7d b".toList.getLast? = some '?' ∧
      ∃ c ∈ " c = ?\x7b, ?f\x7d".toList.head?, c ∈ ['d', 'f', 'a', '#']) := by
    decide
  obtain ⟨-, hok, -⟩ :=
    @build_append _ _ _ hs hu hseam ht [.text ['n'], .skip, .int 7] [.text ['v'], .skip] rfl .backslash
  obtain ⟨-, -, herror⟩ := @build_append _ _ _ hs hu hseam ht [.text ['n'], .skip, .int 7] [.skip, .skip] rfl .backslash
  refine ⟨hok _ _ hfirst hsecond, ?_⟩
  obtain ⟨g, hg, hclass⟩ := herror _ _ hfirst hmisplaced
  cases g with
  | query e =>
    cases e with
    | misplacedSkip position => exact ⟨position, hg⟩
    | template e' => cases e' <;> cases hclass
    | _ => cases hclass
  | _ => cases hclass

end SqlTemplate
