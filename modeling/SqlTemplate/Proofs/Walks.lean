import Mathlib.Data.List.Chain
import SqlTemplate.Proofs.Positional

/-!
# Walks

A walk leaves the cursor behind the arguments of exactly the parts that it has gone through: a block that is dropped
takes up as many of them as one that is kept (`Part.visit_cases`, `endOf_walk`).  While it works on a block, the cursor
stays among the arguments of the block (`Resolution.StaysWithin`), so that it moves back nowhere, not where a block is
dropped and not where it fails (`Template.walk_position`).
-/

namespace SqlTemplate

/-! ### Cursors among the arguments of their items -/

namespace Resolution

variable {α ε : Type} {resolve : α → Cursor → Resolution ε} {width : α → Nat}

/-- Resolving an item leaves the cursor among the arguments of the item, whether it stops or not. -/
def StaysWithin (resolve : α → Cursor → Resolution ε) (width : α → Nat) : Prop :=
  ∀ a c, (resolve a c).cursor.args = c.args ∧ c.position ≤ (resolve a c).cursor.position ∧
    (resolve a c).cursor.position ≤ c.position + width a

/-- A row of items leaves the cursor among the arguments of the row. -/
theorem StaysWithin.inOrder (h : StaysWithin resolve width) :
    StaysWithin (inOrder resolve) fun items => (items.map width).sum := by
  intro items
  induction items with
  | nil => exact fun c => ⟨rfl, Nat.le_refl _, Nat.le_refl _⟩
  | cons a items ih =>
    intro c
    obtain ⟨hargs, hle, hle'⟩ := h a c
    simp only [Resolution.inOrder, List.map_cons, List.sum_cons]
    cases houtcome : (resolve a c).outcome with
    | error e =>
      rw [andThen_of_error houtcome]
      exact ⟨hargs, hle, by omega⟩
    | ok t =>
      obtain ⟨hargs', hrest, hrest'⟩ := ih (resolve a c).cursor
      dsimp only at hrest'
      rw [cursor_andThen_of_ok houtcome]
      exact ⟨hargs'.trans hargs, by omega, by omega⟩

/-- The longer a row, the further the cursor. -/
private theorem StaysWithin.position_le_append (h : StaysWithin resolve width) (items others : List α) (c : Cursor) :
    (Resolution.inOrder resolve items c).cursor.position ≤
      (Resolution.inOrder resolve (items ++ others) c).cursor.position := by
  rw [inOrder_append]
  cases houtcome : (Resolution.inOrder resolve items c).outcome with
  | error e => rw [andThen_of_error houtcome]
  | ok t =>
    rw [cursor_andThen_of_ok houtcome]
    exact (h.inOrder others _).2.1

end Resolution

private theorem Segment.staysWithin_resolve (escape : Escape) :
    Resolution.StaysWithin (Segment.resolve escape) width := by
  intro s c
  cases s with
  | text t => exact ⟨rfl, Nat.le_refl _, Nat.le_refl _⟩
  | placeholder kind offset =>
    have hwidth : (Segment.placeholder kind offset).width = 1 := rfl
    rw [Segment.resolve_placeholder, hwidth]
    cases c.args[c.position]? with
    | none => exact ⟨rfl, Nat.le_refl _, Nat.le_succ _⟩
    | some v =>
      cases v with
      | skip => exact ⟨rfl, Nat.le_refl _, Nat.le_succ _⟩
      | _ => exact ⟨rfl, Nat.le_succ _, Nat.le_refl _⟩

namespace Block

variable (escape : Escape) (b : Block) (c : Cursor)

/-- Where the cursor stands behind the first segments of a block, if the work on the block gets that far. -/
def reached (i : Nat) : Cursor := (Resolution.inOrder (Segment.resolve escape) (b.segments.take i) c).cursor

private theorem position_le_reached (i : Nat) : c.position ≤ (b.reached escape c i).position :=
  ((Segment.staysWithin_resolve escape).inOrder _ c).2.1

theorem reached_mono {i j : Nat} (h : i ≤ j) : (b.reached escape c i).position ≤ (b.reached escape c j).position := by
  obtain ⟨others, happend⟩ : b.segments.take i <+: b.segments.take j := List.take_prefix_take_left h
  rw [reached, reached, ← happend]
  exact (Segment.staysWithin_resolve escape).position_le_append _ _ c

private theorem reached_length : b.reached escape c b.segments.length =
    (Resolution.inOrder (Segment.resolve escape) b.segments c).cursor := by
  rw [reached, List.take_length]

private theorem reached_le_length (i : Nat) :
    (b.reached escape c i).position ≤ (b.reached escape c b.segments.length).position := by
  have hle := (Segment.staysWithin_resolve escape).position_le_append (b.segments.take i) (b.segments.drop i) c
  rw [List.take_append_drop] at hle
  rwa [reached_length]

private theorem reached_le (i : Nat) : (b.reached escape c i).position ≤ c.position + b.size := by
  have hlast := ((Segment.staysWithin_resolve escape).inOrder b.segments c).2.2
  -- the work on the first segments is the start of the work on all of them
  rw [size_eq_sum]
  rw [← reached_length] at hlast
  exact Nat.le_trans (b.reached_le_length escape c i) hlast

/-- From everywhere in a block, the cursor moves forward to the place behind all arguments of the block. -/
private theorem advanceTo_reached (i : Nat) :
    (b.reached escape c i).advanceTo (c.position + b.size : Nat) = .ok (c.forward b.size) := by
  have hargs : (b.reached escape c i).args = c.args := ((Segment.staysWithin_resolve escape).inOrder _ c).1
  have hle := b.reached_le escape c i
  have hforward : ¬ ((c.position + b.size : Nat) : Int) < (b.reached escape c i).position := by omega
  rw [Cursor.advanceTo, if_neg hforward, hargs]
  rfl

/-- Where a block leaves the cursor: behind the arguments that were gone through, or behind all of them. -/
theorem cursor_resolve : (b.resolve escape c).cursor = b.reached escape c b.segments.length ∨
    (b.resolve escape c).cursor = c.forward b.size := by
  rw [reached_length, resolve]
  rcases (Resolution.inOrder (Segment.resolve escape) b.segments c).outcome with (_ | f) | t
  · exact .inr rfl
  · exact .inl rfl
  · exact .inl rfl

private theorem reached_le_resolve (i : Nat) :
    (b.reached escape c i).position ≤ (b.resolve escape c).cursor.position := by
  rcases b.cursor_resolve escape c with h | h <;> rw [h]
  · exact b.reached_le_length escape c i
  · exact b.reached_le escape c i

private theorem position_le_resolve : c.position ≤ (b.resolve escape c).cursor.position :=
  Nat.le_trans (b.position_le_reached escape c 0) (b.reached_le_resolve escape c 0)

end Block

/-! ### Walking over parts -/

/-- No visit of a walk has failed. -/
def Completed (visits : List (Except Fault Visit × Cursor)) : Prop := ∀ x ∈ visits, x.1.isOk = true

/-- The cursor behind the visits of a walk that starts at `c`. -/
def endOf (c : Cursor) (visits : List (Except Fault Visit × Cursor)) : Cursor := visits.getLast?.elim c Prod.snd

private theorem endOf_cons (c : Cursor) (x : Except Fault Visit × Cursor)
    (visits : List (Except Fault Visit × Cursor)) :
    endOf c (x :: visits) = endOf x.2 visits := by
  cases visits with
  | nil => rfl
  | cons y visits =>
    rw [endOf, endOf, List.getLast?_cons_cons, List.getLast?_cons]
    rfl

/-- What a walk does at a part: it passes over text, or takes all arguments of the part, or fails, which does not move
the cursor back. -/
theorem Part.visit_cases (p : Part) (escape : Escape) (c : Cursor) :
    p.visit escape c = none ∧ p.width = 0 ∨
    (∃ visit, p.visit escape c = some (.ok visit, c.forward p.width)) ∨
    ∃ f next, p.visit escape c = some (.error f, next) ∧ c.position ≤ next.position := by
  cases p with
  | segment s =>
    cases s with
    | text t => exact .inl ⟨rfl, rfl⟩
    | placeholder kind offset =>
      right
      obtain ⟨args, i⟩ := c
      simp only [visit, Cursor.take_mk]
      cases args[i]? with
      | none => exact .inr ⟨_, _, rfl, Nat.le_refl _⟩
      | some v => exact .inl ⟨.argument v, rfl⟩
  | block b =>
    right
    simp only [visit]
    cases houtcome : (b.resolve escape c).outcome with
    | error f => exact .inr ⟨f, _, rfl, b.position_le_resolve escape c⟩
    | ok t =>
      rw [b.advances_resolve escape c t houtcome]
      exact .inl ⟨.block t, rfl⟩

/-- A walk over a template starts as the walk over its first parts. -/
private theorem isPrefix_walk_append (escape : Escape) (parts others : List Part) (c : Cursor) :
    walk escape parts c <+: walk escape (parts ++ others) c := by
  induction parts generalizing c with
  | nil => exact List.nil_prefix
  | cons p parts ih =>
    rw [List.cons_append, walk, walk]
    rcases p.visit_cases escape c with ⟨hvisit, -⟩ | ⟨visit, hvisit⟩ | ⟨f, next, hvisit, -⟩
    · simpa only [hvisit] using ih c
    · simpa only [hvisit, List.prefix_cons_inj] using ih (c.forward p.width)
    · -- a walk that has failed does not go on to the other parts
      simp only [hvisit, List.prefix_rfl]

/-- A walk without failure leaves the cursor behind the arguments of all parts. -/
theorem endOf_walk {escape : Escape} {parts : List Part} {c : Cursor} (h : Completed (walk escape parts c)) :
    endOf c (walk escape parts c) = c.forward (parts.flatMap Part.kinds).length := by
  rw [Part.length_flatMap_kinds]
  induction parts generalizing c with
  | nil => rfl
  | cons p parts ih =>
    rw [walk] at h ⊢
    rw [List.map_cons, List.sum_cons]
    rcases p.visit_cases escape c with ⟨hvisit, hwidth⟩ | ⟨visit, hvisit⟩ | ⟨f, next, hvisit, -⟩
    · rw [hvisit] at h ⊢
      rw [hwidth, Nat.zero_add]
      exact ih h
    · rw [hvisit] at h ⊢
      have hrest : Completed (walk escape parts (c.forward p.width)) := fun x hx => h x (List.mem_cons_of_mem _ hx)
      rw [endOf_cons, ih hrest]
      simp [Cursor.forward, Nat.add_assoc]
    · rw [hvisit] at h
      have hfailed := h _ List.mem_cons_self
      cases hfailed

/-- The cursor never moves back from one visit to the next, also if that one fails. -/
private theorem isChain_walk (escape : Escape) (parts : List Part) (c : Cursor) :
    List.IsChain (fun a b => a.position ≤ b.position) (c :: (walk escape parts c).map Prod.snd) := by
  induction parts generalizing c with
  | nil => exact .singleton c
  | cons p parts ih =>
    rw [walk]
    rcases p.visit_cases escape c with ⟨hvisit, -⟩ | ⟨visit, hvisit⟩ | ⟨f, next, hvisit, hle⟩
    all_goals rw [hvisit]
    · exact ih c
    · exact .cons_cons (Nat.le_add_right _ _) (ih _)
    · exact .cons_cons hle (.singleton next)

/-- From any place among the arguments or behind them, a walk over a template ends behind the arguments of the parts
that it has completed, whether their blocks were dropped or not.  The cursor moves back nowhere: not from part to part,
not at a part that fails, and not in a block. -/
theorem Template.walk_position {source : Text} {t : Template} (ht : Template.compile source = .ok t) (escape : Escape)
    (c : Cursor) :
    (∀ j, walk escape (t.parts.take j) c <+: walk escape t.parts c ∧
      (Completed (walk escape (t.parts.take j) c) →
        endOf c (walk escape (t.parts.take j) c) = c.forward ((t.parts.take j).flatMap Part.kinds).length)) ∧
    (∃ kinds, Template.kindsOf source = .ok kinds ∧ kinds.length = t.placeholderCount ∧
      (Completed (walk escape t.parts c) → endOf c (walk escape t.parts c) = c.forward kinds.length)) ∧
    (c :: (walk escape t.parts c).map Prod.snd).Pairwise (fun a b => a.position ≤ b.position) ∧
    ∀ b, .block b ∈ t.parts → ∀ c' : Cursor, c'.position ≤ (b.reached escape c' 0).position ∧
      (∀ i j, i ≤ j → (b.reached escape c' i).position ≤ (b.reached escape c' j).position) ∧
      ∀ i, (b.reached escape c' i).position ≤ (b.resolve escape c').cursor.position ∧
        (b.reached escape c' i).advanceTo (c'.position + b.size : Nat) = .ok (c'.forward b.size) := by
  have htrans : IsTrans Cursor fun a b => a.position ≤ b.position := ⟨fun _ _ _ => Nat.le_trans⟩
  refine ⟨fun j => ⟨?_, endOf_walk⟩, ⟨t.kinds, ?_, rfl, endOf_walk⟩, ?_, fun b _ c' => ⟨?_, ?_, ?_⟩⟩
  · have hstart := isPrefix_walk_append escape (t.parts.take j) (t.parts.drop j) c
    rwa [List.take_append_drop] at hstart
  · rw [kindsOf, ht]
    rfl
  · exact List.isChain_iff_pairwise.1 (isChain_walk escape t.parts c)
  · exact b.position_le_reached escape c' 0
  · exact fun i j hij => b.reached_mono escape c' hij
  · exact fun i => ⟨b.reached_le_resolve escape c' i, b.advanceTo_reached escape c' i⟩

/-- The walk starts at the second argument.  The first block is dropped, which puts the cursor behind all arguments, and
there the second one is kept. -/
theorem Template.walk_position_dropped :
    Completed (walk .backslash (Template.ofText "?#\x7b a > ?f AND b = ?\x7d\x7b c\x7d".toList).parts
      ⟨[.null, .text ['t'], .skip], 1⟩) ∧
    endOf ⟨[.null, .text ['t'], .skip], 1⟩
      (walk .backslash (Template.ofText "?#\x7b a > ?f AND b = ?\x7d\x7b c\x7d".toList).parts
        ⟨[.null, .text ['t'], .skip], 1⟩) = ⟨[.null, .text ['t'], .skip], 4⟩ := by
  have hcompile : Template.compile "?#\x7b a > ?f AND b = ?\x7d\x7b c\x7d".toList =
      .ok (.ofText "?#\x7b a > ?f AND b = ?\x7d\x7b c\x7d".toList) := by
    decide +kernel
  have hcompleted : Completed (walk .backslash
      (Template.ofText "?#\x7b a > ?f AND b = ?\x7d\x7b c\x7d".toList).parts ⟨[.null, .text ['t'], .skip], 1⟩) := by
    unfold Completed
    decide +kernel
  obtain ⟨kinds, hkinds, -, hend⟩ := (walk_position hcompile .backslash ⟨[.null, .text ['t'], .skip], 1⟩).2.1
  have hlength : kinds.length = 3 := by
    cases hkinds
    decide +kernel
  refine ⟨hcompleted, ?_⟩
  rw [hend hcompleted, hlength]
  rfl

end SqlTemplate
