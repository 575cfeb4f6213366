import Mathlib.Algebra.Ring.Nat
import Mathlib.Tactic.Common
import SqlTemplate.Build

/-!
# Positional reading

Every placeholder has one argument of its own: the one whose index is the number of placeholders in front of it,
whatever becomes of the blocks between.  `Template.textAt` reads a template that way, without a cursor, and the
cursor leads to the same SQL and to the same first error (`build_positional`).
-/

namespace SqlTemplate

/-! ### Placing items on the arguments -/

section Placed

variable {α : Type}

/-- How many arguments the items in front of the `j`-th one take up. -/
def argumentsBefore (width : α → Nat) (items : List α) (j : Nat) : Nat := ((items.take j).map width).sum

/-- The items, each with the index of the first of its arguments. -/
def placed (width : α → Nat) (start : Nat) (items : List α) : List (α × Nat) :=
  items.mapIdx fun j a => (a, start + argumentsBefore width items j)

@[simp] theorem placed_nil (width : α → Nat) (start : Nat) : placed width start [] = [] := rfl

@[simp] theorem placed_cons (width : α → Nat) (start : Nat) (a : α) (items : List α) :
    placed width start (a :: items) = (a, start) :: placed width (start + width a) items := by
  simp [placed, List.mapIdx_cons, argumentsBefore, Nat.add_assoc]

theorem fst_mem_of_mem_placed {width : α → Nat} {start : Nat} {items : List α} {p : α × Nat}
    (h : p ∈ placed width start items) : p.1 ∈ items := by
  obtain ⟨i, hi, rfl⟩ := List.mem_mapIdx.1 h
  exact List.getElem_mem hi

theorem exists_mem_placed (width : α → Nat) (start : Nat) {items : List α} {a : α} (h : a ∈ items) :
    ∃ i, (a, i) ∈ placed width start items := by
  obtain ⟨j, hj, rfl⟩ := List.getElem_of_mem h
  exact ⟨_, List.mem_mapIdx.2 ⟨j, hj, rfl⟩⟩

theorem le_of_mem_placed {width : α → Nat} {start : Nat} {items : List α} {p : α × Nat}
    (h : p ∈ placed width start items) : start ≤ p.2 := by
  obtain ⟨i, hi, rfl⟩ := List.mem_mapIdx.1 h
  exact Nat.le_add_right _ _

/-- The arguments of an item lie among those of all. -/
theorem add_width_le_of_mem_placed {width : α → Nat} {start : Nat} {items : List α} {p : α × Nat}
    (h : p ∈ placed width start items) : p.2 + width p.1 ≤ start + (items.map width).sum := by
  induction items generalizing start with
  | nil => cases h
  | cons a items ih =>
    rw [placed_cons] at h
    rw [List.map_cons, List.sum_cons]
    rcases List.mem_cons.1 h with rfl | h
    · show start + width a ≤ _
      omega
    · have hle := ih h
      omega

theorem placed_append (width : α → Nat) (start : Nat) (items others : List α) :
    placed width start (items ++ others) =
      placed width start items ++ placed width (start + (items.map width).sum) others := by
  induction items generalizing start with
  | nil => rfl
  | cons a items ih => simp [ih, Nat.add_assoc]

/-- An item that is in order with all others, but not with itself, has one place. -/
theorem eq_of_mem_placed {width : α → Nat} {start : Nat} {items : List α} {R : α → α → Prop} (h : items.Pairwise R)
    {a : α} (ha : ¬ R a a) {i j : Nat} (hi : (a, i) ∈ placed width start items)
    (hj : (a, j) ∈ placed width start items) : i = j := by
  obtain ⟨m, hm, hmi⟩ := List.mem_mapIdx.1 hi
  obtain ⟨n, hn, hnj⟩ := List.mem_mapIdx.1 hj
  obtain ⟨hma, rfl⟩ := Prod.mk.inj hmi
  obtain ⟨hna, rfl⟩ := Prod.mk.inj hnj
  rw [List.pairwise_iff_getElem] at h
  have hmn : m = n := by
    rcases Nat.lt_trichotomy m n with hlt | heq | hgt
    · have hR := h m n hm hn hlt
      rw [hma, hna] at hR
      exact absurd hR ha
    · exact heq
    · have hR := h n m hn hm hgt
      rw [hma, hna] at hR
      exact absurd hR ha
  rw [hmn]

end Placed

/-! ### Outcomes in a row -/

section Outcomes

variable {ε β : Type}

theorem Except.mapError_eq_ok_iff {α ε' : Type} {o : Except ε α} {f : ε → ε'} {a : α} :
    o.mapError f = .ok a ↔ o = .ok a := by
  cases o <;> simp [Except.mapError]

theorem Interruption.mapError_fault_ne_skip {α : Type} (o : Except Fault α) :
    o.mapError Interruption.fault ≠ .error .skip := by
  cases o <;> simp [Except.mapError]

/-- The error of the first outcome that has one. -/
def firstError? (outcomes : List (Except ε (List β))) : Option ε :=
  outcomes.findSome? fun
    | .ok _ => none
    | .error e => some e

/-- The texts or other lists one behind the other, unless there is an error. -/
def inSequence (outcomes : List (Except ε (List β))) : Except ε (List β) :=
  match firstError? outcomes with
  | some e => .error e
  | none => .ok (outcomes.flatMap fun o => o.toOption.getD [])

@[simp] theorem inSequence_nil : inSequence ([] : List (Except ε (List β))) = .ok [] := rfl

@[simp] theorem inSequence_error_cons (e : ε) (rest : List (Except ε (List β))) :
    inSequence (.error e :: rest) = .error e :=
  rfl

@[simp] theorem inSequence_ok_cons (t : List β) (rest : List (Except ε (List β))) :
    inSequence (.ok t :: rest) = (inSequence rest).map (t ++ ·) := by
  have hfirst : firstError? (.ok t :: rest) = firstError? rest := rfl
  unfold inSequence
  rw [hfirst]
  cases firstError? rest with
  | none => simp [Except.map, Except.toOption]
  | some e => rfl

theorem inSequence_cons (o : Except ε (List β)) (rest : List (Except ε (List β))) :
    inSequence (o :: rest) = o.bind fun t => (inSequence rest).map (t ++ ·) := by
  cases o with
  | error e => rfl
  | ok t => exact inSequence_ok_cons t rest

theorem inSequence_cons_eq_ok {o : Except ε (List β)} {rest : List (Except ε (List β))} {t : List β} :
    inSequence (o :: rest) = .ok t ↔ ∃ u v, o = .ok u ∧ inSequence rest = .ok v ∧ t = u ++ v := by
  cases o with
  | error e => simp
  | ok u =>
    rw [inSequence_ok_cons]
    cases inSequence rest <;> simp [Except.map, eq_comm]

/-- Where all of a row comes out, nothing in it is an error. -/
theorem exists_eq_ok_of_inSequence {outcomes : List (Except ε (List β))} {t : List β} (h : inSequence outcomes = .ok t)
    {o : Except ε (List β)} (ho : o ∈ outcomes) : ∃ u, o = .ok u := by
  induction outcomes generalizing t with
  | nil => cases ho
  | cons p rest ih =>
    obtain ⟨u, v, rfl, hrest, -⟩ := inSequence_cons_eq_ok.1 h
    rcases List.mem_cons.1 ho with rfl | ho
    · exact ⟨u, rfl⟩
    · exact ih hrest ho

/-- What comes out of a row is what comes out of its items, one behind the other. -/
theorem flatMap_eq_of_inSequence {α : Type} {outcome : α → Except ε (List β)} {f : α → List β} {items : List α}
    {t : List β} (hf : ∀ a u, outcome a = .ok u → f a = u) (h : inSequence (items.map outcome) = .ok t) :
    items.flatMap f = t := by
  induction items generalizing t with
  | nil =>
    cases h
    rfl
  | cons a rest ih =>
    rw [List.map_cons] at h
    obtain ⟨u, v, ha, hrest, rfl⟩ := inSequence_cons_eq_ok.1 h
    rw [List.flatMap_cons, hf a u ha, ih hrest]

/-- The error of a row is that of one of its outcomes. -/
theorem mem_of_inSequence_eq_error {outcomes : List (Except ε (List β))} {e : ε} (h : inSequence outcomes = .error e) :
    .error e ∈ outcomes := by
  induction outcomes with
  | nil => cases h
  | cons o rest ih =>
    cases o with
    | error e' =>
      cases h
      exact List.mem_cons_self
    | ok t =>
      have hrest : inSequence rest = .error e := by
        rw [inSequence_ok_cons] at h
        cases hr : inSequence rest with
        | error e' => rwa [hr] at h
        | ok u => simp [hr, Except.map] at h
      exact List.mem_cons_of_mem _ (ih hrest)

end Outcomes

/-! ### Reading by index -/

/-- The text of a segment whose argument, if it is a placeholder, has the index `i`. -/
def Segment.textAt (args : List Value) (escape : Escape) : Segment → Nat → Except Interruption Text
  | .text t, _ => .ok t
  | .placeholder kind _, i =>
    match args[i]? with
    | none => .error (.fault (.query (.missingArgument i args.length)))
    | some .skip => .error .skip
    | some v => (kind.format v escape).outcome.mapError .fault

def Segment.width (s : Segment) : Nat := s.kind?.toList.length

/-- The body of a block with its arguments put in, unless one of them has no text. -/
def Block.filledAt (args : List Value) (escape : Escape) (b : Block) (start : Nat) : Except Interruption Text :=
  inSequence ((placed Segment.width start b.segments).map fun p => p.1.textAt args escape p.2)

/-- The first argument of the block that has no text decides: if it is the skip marker, the block is dropped. -/
def Block.textAt (args : List Value) (escape : Escape) (b : Block) (start : Nat) : Except Fault Text :=
  match b.filledAt args escape start with
  | .ok t => .ok t
  | .error .skip => .ok []
  | .error (.fault f) => .error f

/-- What an interruption is outside blocks, where the skip marker is out of place. -/
def Interruption.outsideBlock (i : Nat) : Interruption → Fault
  | .skip => .query (.misplacedSkip i)
  | .fault f => f

def Part.textAt (args : List Value) (escape : Escape) : Part → Nat → Except Fault Text
  | .segment s, i => (s.textAt args escape i).mapError (Interruption.outsideBlock i)
  | .block b, i => b.textAt args escape i

theorem Block.textAt_eq_ok {args : List Value} {escape : Escape} {b : Block} {start : Nat} {t : Text} :
    b.textAt args escape start = .ok t ↔
      b.filledAt args escape start = .ok t ∨ b.filledAt args escape start = .error .skip ∧ t = [] := by
  unfold textAt
  rcases b.filledAt args escape start with (_ | f) | u <;> simp [eq_comm]

theorem Part.textAt_segment_eq_ok {args : List Value} {escape : Escape} {s : Segment} {i : Nat} {t : Text} :
    (segment s).textAt args escape i = .ok t ↔ s.textAt args escape i = .ok t := by
  rw [textAt]
  exact Except.mapError_eq_ok_iff

def Part.width (p : Part) : Nat := p.kinds.length

theorem Part.length_flatMap_kinds (parts : List Part) : (parts.flatMap kinds).length = (parts.map width).sum :=
  List.length_flatMap

theorem Template.placeholderCount_eq_sum (t : Template) : t.placeholderCount = (t.parts.map Part.width).sum :=
  Part.length_flatMap_kinds t.parts

/-- The SQL of a template, each part read at the index of the first of its arguments; the first part without a text
decides. -/
def Template.textAt (args : List Value) (escape : Escape) (t : Template) : Except Fault Text :=
  inSequence ((placed Part.width 0 t.parts).map fun p => p.1.textAt args escape p.2)

/-! ### Resolving by index -/

namespace Resolution

variable {α ε : Type}

/-- Resolving an item moves the cursor by the width of the item, unless the item stops. -/
def Advances (resolve : α → Cursor → Resolution ε) (width : α → Nat) : Prop :=
  ∀ a c t, (resolve a c).outcome = .ok t → (resolve a c).cursor = c.forward (width a)

/-- Resolutions one behind the other that do not wait for each other's cursor. -/
def chained (c : Cursor) : List (Resolution ε) → Resolution ε
  | [] => written c []
  | r :: rest => r.andThen fun next => chained next rest

private theorem andThen_congr (r : Resolution ε) {f g : Cursor → Resolution ε}
    (h : ∀ t, r.outcome = .ok t → f r.cursor = g r.cursor) : r.andThen f = r.andThen g := by
  unfold andThen
  cases hr : r.outcome with
  | error e => rfl
  | ok t => simp only [h t hr]

theorem outcome_andThen (r : Resolution ε) (next : Cursor → Resolution ε) :
    (r.andThen next).outcome = r.outcome.bind fun t => (next r.cursor).outcome.map (t ++ ·) := by
  unfold andThen
  cases hr : r.outcome with
  | error e => simp [hr, Except.bind]
  | ok t => rfl

section Following

variable {r : Resolution ε} {t : Text}

/-- Behind an error nothing follows. -/
theorem andThen_of_error {e : ε} (h : r.outcome = .error e) (next : Cursor → Resolution ε) : r.andThen next = r := by
  simp only [andThen, h]

theorem cursor_andThen_of_ok (h : r.outcome = .ok t) (next : Cursor → Resolution ε) :
    (r.andThen next).cursor = (next r.cursor).cursor := by
  simp only [andThen, h]

theorem skipped_andThen_of_ok (h : r.outcome = .ok t) (next : Cursor → Resolution ε) :
    (r.andThen next).skipped = r.skipped ++ (next r.cursor).skipped := by
  simp only [andThen, h]

theorem outcome_andThen_of_ok (h : r.outcome = .ok t) (next : Cursor → Resolution ε) :
    (r.andThen next).outcome = (next r.cursor).outcome.map (t ++ ·) := by
  rw [outcome_andThen, h]
  rfl

end Following

/-- Where items advance the cursor by their widths, the cursor at each item is known beforehand. -/
private theorem inOrder_eq_chained {resolve : α → Cursor → Resolution ε} {width : α → Nat} (h : Advances resolve width)
    (items : List α) (c : Cursor) :
    inOrder resolve items c =
      chained c ((placed width c.position items).map fun p => resolve p.1 ⟨c.args, p.2⟩) := by
  induction items generalizing c with
  | nil => rfl
  | cons a rest ih =>
    simp only [inOrder, placed_cons, List.map_cons, chained]
    -- the cursor behind an item matters only where the item has a text
    refine andThen_congr _ fun t ht => ?_
    rw [ih, h a c t ht]
    rfl

private theorem outcome_chained (c : Cursor) (rs : List (Resolution ε)) :
    (chained c rs).outcome = inSequence (rs.map outcome) := by
  induction rs generalizing c with
  | nil => rfl
  | cons r rest ih =>
    rw [chained, outcome_andThen, ih, List.map_cons, inSequence_cons]

/-- A row of items advances the cursor by the sum of their widths. -/
theorem Advances.inOrder {resolve : α → Cursor → Resolution ε} {width : α → Nat} (h : Advances resolve width) :
    Advances (inOrder resolve) fun items => (items.map width).sum := by
  intro items
  induction items with
  | nil => intro c t _; rfl
  | cons a rest ih =>
    intro c t ht
    rw [Resolution.inOrder] at ht ⊢
    cases ha : (resolve a c).outcome with
    | error e =>
      rw [andThen_of_error ha, ha] at ht
      cases ht
    | ok u =>
      -- the rest starts where the first item leaves the cursor
      rw [outcome_andThen_of_ok ha] at ht
      have hc : (resolve a c).cursor = c.forward (width a) := h a c u ha
      cases hrest : (Resolution.inOrder resolve rest (resolve a c).cursor).outcome with
      | error e =>
        rw [hrest] at ht
        cases ht
      | ok w =>
        rw [cursor_andThen_of_ok ha, ih _ w hrest, hc]
        simp [Cursor.forward, Nat.add_assoc]

theorem outcome_inOrder {resolve : α → Cursor → Resolution ε} {width : α → Nat} (h : Advances resolve width)
    {text : α → Nat → Except ε Text} {args : List Value}
    (htext : ∀ a i, (resolve a ⟨args, i⟩).outcome = text a i) (items : List α) (start : Nat) :
    (inOrder resolve items ⟨args, start⟩).outcome =
      inSequence ((placed width start items).map fun p => text p.1 p.2) := by
  rw [inOrder_eq_chained h, outcome_chained, List.map_map]
  congr 1
  exact List.map_congr_left fun p _ => htext p.1 p.2

end Resolution

/-! ### Templates -/

theorem Cursor.take_mk (args : List Value) (i : Nat) :
    (Cursor.mk args i).take =
      match args[i]? with
      | some v => .ok (v, ⟨args, i + 1⟩)
      | none => .error (.query (.missingArgument i args.length)) := by
  unfold Cursor.take Cursor.peek
  cases args[i]? <;> rfl

theorem Segment.resolve_placeholder (args : List Value) (escape : Escape) (kind : Kind) (offset i : Nat) :
    (Segment.placeholder kind offset).resolve escape ⟨args, i⟩ =
      match args[i]? with
      | none => .stopped ⟨args, i⟩ (.fault (.query (.missingArgument i args.length)))
      | some .skip => .stopped ⟨args, i⟩ .skip
      | some v => .ofFilled .fault ⟨args, i + 1⟩ (kind.format v escape) := by
  simp only [Segment.resolve, Cursor.take_mk]
  cases args[i]? with
  | none => rfl
  | some v => cases v <;> rfl

theorem Part.resolve_placeholder (args : List Value) (escape : Escape) (kind : Kind) (offset i : Nat) :
    (Part.segment (.placeholder kind offset)).resolve escape ⟨args, i⟩ =
      match args[i]? with
      | none => .stopped ⟨args, i⟩ (.query (.missingArgument i args.length))
      | some .skip => .stopped ⟨args, i + 1⟩ (.query (.misplacedSkip i))
      | some v => .ofFilled id ⟨args, i + 1⟩ (kind.format v escape) := by
  simp only [Part.resolve, Cursor.take_mk]
  cases args[i]? with
  | none => rfl
  | some v => cases v <;> rfl

theorem Segment.outcome_resolve (args : List Value) (escape : Escape) (s : Segment) (i : Nat) :
    (s.resolve escape ⟨args, i⟩).outcome = s.textAt args escape i := by
  cases s with
  | text t => rfl
  | placeholder kind offset =>
    rw [Segment.resolve_placeholder, Segment.textAt]
    cases args[i]? with
    | none => rfl
    | some v => cases v <;> rfl

/-- A placeholder with a text has an argument that was formatted. -/
theorem Segment.exists_format_of_textAt {args : List Value} {escape : Escape} {kind : Kind} {offset i : Nat} {t : Text}
    (h : (Segment.placeholder kind offset).textAt args escape i = .ok t) :
    ∃ v, args[i]? = some v ∧ (kind.format v escape).outcome = .ok t := by
  simp only [textAt] at h
  split at h
  · cases h
  · cases h
  · rename_i v _ hv
    exact ⟨v, hv, Except.mapError_eq_ok_iff.1 h⟩

theorem Segment.advances_resolve (escape : Escape) : Resolution.Advances (Segment.resolve escape) width := by
  intro s c t ht
  cases s with
  | text u => rfl
  | placeholder kind offset =>
    rw [Segment.resolve_placeholder] at ht ⊢
    cases hv : c.args[c.position]? with
    | none => simp [hv, Resolution.stopped] at ht
    | some v => cases v <;> simp_all [Resolution.stopped, Resolution.ofFilled, Cursor.forward, width, kind?]

theorem Block.outcome_inOrder_segments (args : List Value) (escape : Escape) (b : Block) (start : Nat) :
    (Resolution.inOrder (Segment.resolve escape) b.segments ⟨args, start⟩).outcome = b.filledAt args escape start :=
  Resolution.outcome_inOrder (Segment.advances_resolve escape) (Segment.outcome_resolve args escape) _ _

theorem Block.outcome_resolve (args : List Value) (escape : Escape) (b : Block) (start : Nat) :
    (b.resolve escape ⟨args, start⟩).outcome = b.textAt args escape start := by
  unfold Block.resolve Block.textAt
  simp only [Block.outcome_inOrder_segments]
  rcases b.filledAt args escape start with (_ | f) | t <;> rfl

theorem Block.size_eq_sum (b : Block) : b.size = (b.segments.map Segment.width).sum := by
  unfold Block.size Block.kinds
  induction b.segments with
  | nil => rfl
  | cons s rest ih => cases h : s.kind? <;> simp [h, ih, Segment.width, Nat.add_comm]

/-- A block advances the cursor by its size, whether it is dropped or not. -/
theorem Block.advances_resolve (escape : Escape) : Resolution.Advances (Block.resolve escape) Block.size := by
  intro b c t ht
  unfold Block.resolve at ht ⊢
  cases hinner : (Resolution.inOrder (Segment.resolve escape) b.segments c).outcome with
  | ok u =>
    have hc := (Segment.advances_resolve escape).inOrder b.segments c u hinner
    simp only [hinner, hc, Block.size_eq_sum]
  | error e =>
    cases e with
    | skip => simp only [hinner] -- the cursor is put behind all arguments of the block
    | fault f => simp [hinner] at ht

private theorem Interruption.mapError_outsideBlock (i : Nat) (o : Except Fault Text) :
    (o.mapError Interruption.fault).mapError (outsideBlock i) = o.mapError id := by
  cases o <;> rfl

theorem Part.outcome_resolve (args : List Value) (escape : Escape) (p : Part) (i : Nat) :
    (p.resolve escape ⟨args, i⟩).outcome = p.textAt args escape i := by
  cases p with
  | block b => exact b.outcome_resolve args escape i
  | segment s =>
    cases s with
    | text t => rfl
    | placeholder kind offset =>
      rw [Part.resolve_placeholder, Part.textAt, Segment.textAt]
      cases args[i]? with
      | none => rfl
      | some v =>
        cases v with
        | skip => rfl
        | _ => exact (Interruption.mapError_outsideBlock i _).symm

theorem Part.advances_resolve (escape : Escape) : Resolution.Advances (Part.resolve escape) width := by
  intro p c t ht
  cases p with
  | block b => exact Block.advances_resolve escape b c t ht
  | segment s =>
    cases s with
    | text u => rfl
    | placeholder kind offset =>
      rw [Part.resolve_placeholder] at ht ⊢
      cases hv : c.args[c.position]? with
      | none => simp [hv, Resolution.stopped] at ht
      | some v =>
        cases v <;>
          simp_all [Resolution.stopped, Resolution.ofFilled, Cursor.forward, width, Part.kinds, Segment.kind?]

theorem Template.outcome_resolve (args : List Value) (escape : Escape) (t : Template) :
    (t.resolve escape (.start args)).outcome = t.textAt args escape :=
  Resolution.outcome_inOrder (Part.advances_resolve escape) (Part.outcome_resolve args escape) t.parts 0

theorem Template.outcome_render (args : List Value) (escape : Escape) (t : Template) :
    (t.render args escape).outcome = t.textAt args escape := by
  rw [← Template.outcome_resolve]
  unfold Template.render
  cases h : (t.resolve escape (.start args)).outcome <;> simp only [h]

theorem outcome_build_of_refused {source : Text} {e : TemplateError} (he : Template.compile source = .error e)
    (args : Value) (escape : Escape) : (build source args escape).outcome = .error (.query (.template e)) := by
  simp only [build, renderWith, he, Report.failed]

theorem build_eq_render {source : Text} {t : Template} {args : Value} {items : List Value}
    (ht : Template.compile source = .ok t) (hitems : args.items? = some items) (escape : Escape) :
    build source args escape = t.render items escape := by
  simp only [build, renderWith, ht, hitems]

theorem outcome_build {source : Text} {t : Template} {args : Value} {items : List Value}
    (ht : Template.compile source = .ok t) (hitems : args.items? = some items) (escape : Escape) :
    (build source args escape).outcome = t.textAt items escape := by
  rw [build_eq_render ht hitems, Template.outcome_render]

/-- A build that succeeds has compiled its template, gone through its arguments, and read the template by position. -/
theorem exists_textAt_of_build {source : Text} {args : Value} {escape : Escape} {sql : Text}
    (h : (build source args escape).outcome = .ok sql) :
    ∃ t items, Template.compile source = .ok t ∧ args.items? = some items ∧ t.textAt items escape = .ok sql := by
  unfold build renderWith at h
  cases ht : Template.compile source with
  | error e => simp [ht, Report.failed] at h
  | ok t =>
    cases hitems : args.items? with
    | none => simp [ht, hitems, Report.failed] at h
    | some items =>
      simp only [ht, hitems, Template.outcome_render] at h
      exact ⟨t, items, rfl, rfl, h⟩

/-- The SQL of a build, or the error that keeps it from having one, is what the positions of the arguments say.  A
refused template is refused whatever the arguments are. -/
theorem build_positional (source : Text) (escape : Escape) :
    (∀ e, Template.compile source = .error e →
      ∀ args, (build source args escape).outcome = .error (.query (.template e))) ∧
    ∀ t, Template.compile source = .ok t →
      ∀ args items, args.items? = some items → (build source args escape).outcome = t.textAt items escape := by
  constructor
  · intro e he args
    exact outcome_build_of_refused he args escape
  · intro t ht args items hitems
    exact outcome_build ht hitems escape

/-- The skip marker is met second, so the list behind it is not looked at. -/
theorem build_positional_skip :
    (build "\x7b?d ?f ?f\x7d ?d".toList (.sequence .list [.int 1, .skip, .sequence .list [], .int 4])
      .backslash).outcome = .ok " 4".toList ∧
    (build "\x7b?d".toList .null .backslash).outcome = .error (.query (.template (.unbalancedBlocks 1 0))) := by
  have hcompile : Template.compile "\x7b?d ?f ?f\x7d ?d".toList = .ok (.ofText "\x7b?d ?f ?f\x7d ?d".toList) := by
    decide +kernel
  have hrefused : Template.compile "\x7b?d".toList = .error (.unbalancedBlocks 1 0) := by decide +kernel
  refine ⟨((build_positional _ _).2 _ hcompile _ _ rfl).trans ?_, (build_positional _ _).1 _ hrefused _⟩
  decide +kernel

end SqlTemplate
