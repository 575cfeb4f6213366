import SqlTemplate.Proofs.Positional
import SqlTemplate.Proofs.Unwritable

/-!
# Query errors

With an escape that refuses nothing, a build that has no SQL fails with a `QueryError`, unless the first argument that
has no text is unwritable (`build_outcome_eq_error_iff`, `build_queryError_iff`).
-/

namespace SqlTemplate

/-! ### First failures -/

section FirstAt

variable {α ε : Type} {width : α → Nat} {text : α → Nat → Except ε Text}

/-- `P` holds of an item and the index of the first of its arguments, and each item in front of it has a text. -/
def FirstAt (width : α → Nat) (text : α → Nat → Except ε Text) (start : Nat) (items : List α)
    (P : α → Nat → Prop) : Prop :=
  ∃ before a after, items = before ++ a :: after ∧
    (∀ p ∈ placed width start before, ∃ t, text p.1 p.2 = .ok t) ∧ P a (start + (before.map width).sum)

theorem firstAt_cons (start : Nat) (a : α) (items : List α) (P : α → Nat → Prop) :
    FirstAt width text start (a :: items) P ↔
      P a start ∨ (∃ t, text a start = .ok t) ∧ FirstAt width text (start + width a) items P := by
  constructor
  · rintro ⟨before, b, after, hitems, htexts, hP⟩
    cases before with
    | nil =>
      obtain ⟨rfl, -⟩ : a = b ∧ items = after := by simpa using hitems
      exact .inl (by simpa using hP)
    | cons c before =>
      obtain ⟨rfl, rfl⟩ : a = c ∧ items = before ++ b :: after := by simpa using hitems
      refine .inr ⟨htexts (a, start) (by simp), before, b, after, rfl, fun p hp => htexts p (by simp [hp]), ?_⟩
      simpa [Nat.add_assoc] using hP
  · rintro (hP | ⟨ht, before, b, after, rfl, htexts, hP⟩)
    · exact ⟨[], a, items, rfl, by simp, by simpa using hP⟩
    · refine ⟨a :: before, b, after, rfl, ?_, by simpa [Nat.add_assoc] using hP⟩
      intro p hp
      rw [placed_cons, List.mem_cons] at hp
      rcases hp with rfl | hp
      · exact ht
      · exact htexts p hp

theorem FirstAt.exists_mem_placed {start : Nat} {items : List α} {P : α → Nat → Prop}
    (h : FirstAt width text start items P) : ∃ a i, (a, i) ∈ placed width start items ∧ P a i := by
  obtain ⟨before, a, after, rfl, -, hP⟩ := h
  refine ⟨a, _, ?_, hP⟩
  rw [placed_append, placed_cons]
  exact List.mem_append_right _ List.mem_cons_self

theorem inSequence_placed_eq_error_iff (start : Nat) (items : List α) (e : ε) :
    inSequence ((placed width start items).map fun p => text p.1 p.2) = .error e ↔
      FirstAt width text start items fun a i => text a i = .error e := by
  induction items generalizing start with
  | nil => simp [FirstAt]
  | cons a items ih =>
    rw [firstAt_cons, ← ih, placed_cons, List.map_cons]
    cases ha : text a start with
    | error e' => simp
    | ok t =>
      rw [inSequence_ok_cons]
      cases inSequence ((placed width (start + width a) items).map fun p => text p.1 p.2) <;> simp [Except.map]

/-- What the first item without a text fails for is a property of something that is reached there. -/
theorem firstAt_iff_exists {κ : Type} {start : Nat} {items : List α} {P : α → Nat → Prop} {Q : κ → α → Nat → Prop}
    {U : κ → Prop} (h : ∀ a i, P a i ↔ ∃ x, Q x a i ∧ U x) :
    FirstAt width text start items P ↔ ∃ x, FirstAt width text start items (Q x) ∧ U x := by
  constructor
  · rintro ⟨before, a, after, hitems, htexts, hP⟩
    obtain ⟨x, hQ, hU⟩ := (h _ _).1 hP
    exact ⟨x, ⟨before, a, after, hitems, htexts, hQ⟩, hU⟩
  · rintro ⟨x, ⟨before, a, after, hitems, htexts, hQ⟩, hU⟩
    exact ⟨before, a, after, hitems, htexts, (h _ _).2 ⟨x, hQ, hU⟩⟩

end FirstAt

/-! ### Reaching an argument -/

/-- A value, and the kind of the placeholder that takes it. -/
structure Taking where
  kind : Kind
  value : Value

def Segment.Takes (args : List Value) (x : Taking) (s : Segment) (i : Nat) : Prop :=
  s.kind? = some x.kind ∧ args[i]? = some x.value

/-- All placeholders of the block in front of the one that takes the value have texts. -/
def Block.Reaches (args : List Value) (escape : Escape) (x : Taking) (b : Block) (start : Nat) : Prop :=
  FirstAt Segment.width (Segment.textAt args escape) start b.segments (Segment.Takes args x)

def Part.Reaches (args : List Value) (escape : Escape) (x : Taking) : Part → Nat → Prop
  | .segment s, i => s.Takes args x i
  | .block b, i => b.Reaches args escape x i

/-- All parts in front have texts, a block that is dropped the empty one. -/
def Template.Reaches (args : List Value) (escape : Escape) (x : Taking) (t : Template) : Prop :=
  FirstAt Part.width (Part.textAt args escape) 0 t.parts (Part.Reaches args escape x)

section Always

variable {f : Fault} (hf : f.isQuery = false) (args : List Value) (g : Text → Text)

include hf

private theorem Segment.textAt_eq_fault_iff (s : Segment) (i : Nat) :
    s.textAt args (.always g) i = .error (.fault f) ↔ ∃ x, s.Takes args x i ∧ Unwritable x.kind x.value f := by
  cases s with
  | text t => simp [textAt, Takes, kind?]
  | placeholder kind offset =>
    have hformat : ∀ v, ((kind.format v (.always g)).outcome.mapError Interruption.fault = .error (.fault f)) ↔
        Unwritable kind v f := by
      intro v
      rw [← Kind.fault_draft_iff hf, ← Draft.outcome_fill_always g]
      unfold Kind.format
      cases ((kind.draft v).fill (.always g)).outcome <;> simp [Except.mapError]
    have hvalue : ∀ v, args[i]? = some v →
        ((∃ x, (placeholder kind offset).Takes args x i ∧ Unwritable x.kind x.value f) ↔ Unwritable kind v f) := by
      intro v hv
      constructor
      · rintro ⟨⟨kind', v'⟩, ⟨hkind, hv'⟩, hx⟩
        cases hkind
        cases hv.symm.trans hv'
        exact hx
      · exact fun hx => ⟨⟨kind, v⟩, ⟨rfl, hv⟩, hx⟩
    rw [textAt]
    -- a missing argument and the skip marker are no faults of this kind
    cases hv : args[i]? with
    | none =>
      constructor
      · intro h
        cases h
        cases hf
      · rintro ⟨x, ⟨-, hx⟩, -⟩
        cases hv.symm.trans hx
    | some v =>
      rw [hvalue v hv]
      cases v with
      | skip =>
        constructor
        · intro h
          cases h
        · intro h
          cases h
      | _ => exact hformat _

private theorem Block.textAt_eq_fault_iff (b : Block) (start : Nat) :
    b.textAt args (.always g) start = .error f ↔
      ∃ x, b.Reaches args (.always g) x start ∧ Unwritable x.kind x.value f := by
  have hfilled : b.textAt args (.always g) start = .error f ↔
      b.filledAt args (.always g) start = .error (.fault f) := by
    unfold textAt
    -- the skip marker gives a text, the empty one
    rcases b.filledAt args (.always g) start with (_ | e) | t <;> simp
  rw [hfilled, filledAt, inSequence_placed_eq_error_iff]
  exact firstAt_iff_exists fun s i => Segment.textAt_eq_fault_iff hf args g s i

private theorem Part.textAt_eq_fault_iff (p : Part) (i : Nat) :
    p.textAt args (.always g) i = .error f ↔ ∃ x, p.Reaches args (.always g) x i ∧ Unwritable x.kind x.value f := by
  cases p with
  | block b => exact Block.textAt_eq_fault_iff hf args g b i
  | segment s =>
    refine Iff.trans ?_ (Segment.textAt_eq_fault_iff hf args g s i)
    rw [textAt]
    rcases s.textAt args (.always g) i with (_ | e) | t
    · -- the skip marker outside a block is a query error
      constructor
      · intro h
        cases h
        cases hf
      · intro h
        cases h
    · simp [Except.mapError, Interruption.outsideBlock]
    · simp [Except.mapError]

theorem Template.textAt_eq_fault_iff (t : Template) :
    t.textAt args (.always g) = .error f ↔ ∃ x, t.Reaches args (.always g) x ∧ Unwritable x.kind x.value f := by
  rw [textAt, inSequence_placed_eq_error_iff]
  exact firstAt_iff_exists fun p i => Part.textAt_eq_fault_iff hf args g p i

/-- A fault other than a query error comes from an unwritable value, and from the first argument without a text. -/
theorem build_outcome_eq_error_iff (source : Text) {args : Value} {items : List Value}
    (hitems : args.items? = some items) :
    (build source args (.always g)).outcome = .error f ↔
      ∃ t x, Template.compile source = .ok t ∧ t.Reaches items (.always g) x ∧ Unwritable x.kind x.value f := by
  cases hcompile : Template.compile source with
  | error e =>
    rw [outcome_build_of_refused hcompile]
    constructor
    · intro h
      cases h
      cases hf
    · rintro ⟨t, x, ht, -⟩
      cases ht
  | ok t =>
    rw [outcome_build hcompile hitems, Template.textAt_eq_fault_iff hf]
    simp only [Except.ok.injEq, exists_and_left, exists_eq_left']

end Always

/-- A build has SQL or fails with a query error if and only if the first argument without a text, if there is one, is
not unwritable. -/
theorem build_queryError_iff (source : Text) {args : Value} {items : List Value} (hitems : args.items? = some items)
    (g : Text → Text) :
    ((∃ sql, (build source args (.always g)).outcome = .ok sql) ∨
        ∃ e, (build source args (.always g)).outcome = .error (.query e)) ↔
      ∀ t x f, Template.compile source = .ok t → t.Reaches items (.always g) x → ¬ Unwritable x.kind x.value f := by
  constructor
  · intro houtcome t x f ht hreaches hx
    have hf : f.isQuery = false := hx.isQuery_eq_false
    have herror := (build_outcome_eq_error_iff hf g source hitems).2 ⟨t, x, ht, hreaches, hx⟩
    rcases houtcome with ⟨sql, hsql⟩ | ⟨e, he⟩
    · cases herror.symm.trans hsql
    · cases herror.symm.trans he
      cases hf
  · intro hall
    cases houtcome : (build source args (.always g)).outcome with
    | ok sql => exact .inl ⟨sql, rfl⟩
    | error f =>
      by_cases hf : f.isQuery = true
      · cases f with
        | query e => exact .inr ⟨e, rfl⟩
        | _ => cases hf
      · have hnot : f.isQuery = false := by simpa using hf
        obtain ⟨t, x, ht, hreaches, hx⟩ := (build_outcome_eq_error_iff hnot g source hitems).1 houtcome
        exact absurd hx (hall t x f ht hreaches)

/-- The signalling `nan` stands behind the skip marker and is not reached. -/
theorem build_queryError_dropped :
    (Value.sequence .list [.skip, .decimal (.nan false true), .int 5]).items? =
      some [.skip, .decimal (.nan false true), .int 5] ∧
    ∀ t x f, Template.compile "\x7b?d ?f\x7d ?d".toList = .ok t →
      t.Reaches [.skip, .decimal (.nan false true), .int 5] .backslash x → ¬ Unwritable x.kind x.value f := by
  have hitems : (Value.sequence .list [.skip, .decimal (.nan false true), .int 5]).items? =
      some [.skip, .decimal (.nan false true), .int 5] := rfl
  refine ⟨hitems, (build_queryError_iff _ hitems backslashed).1 (.inl ⟨" 5".toList, ?_⟩)⟩
  decide +kernel

/-- A signalling `nan` in a float slot is neither written nor refused with a query error. -/
theorem build_signallingNaN :
    ¬ ((∃ sql, (build "?f".toList (.sequence .list [.decimal (.nan false true)]) .backslash).outcome = .ok sql) ∨
      ∃ e, (build "?f".toList (.sequence .list [.decimal (.nan false true)]) .backslash).outcome =
        .error (.query e)) := by
  have houtcome : (build "?f".toList (.sequence .list [.decimal (.nan false true)]) .backslash).outcome =
      .error .signallingNaN := by
    decide +kernel
  rw [houtcome]
  rintro (⟨sql, h⟩ | ⟨e, h⟩) <;> cases h

end SqlTemplate
