import Mathlib.Data.List.Chain
import SqlTemplate.Cursor

/-!
# Runs of a cursor

Whatever the steps of a run are, the cursor that each of them finds stands among the same arguments and no further back
than any before it (`Cursor.pairwise_position_run`), and a step that fails leaves it in place (`Cursor.step_of_error`).
A take moves it on, so that the arguments taken stand at increasing indices and none of them is taken twice
(`Cursor.pairwise_takings`, `Cursor.run_takings`).
-/

namespace SqlTemplate.Cursor

/-- The steps of a run, each with the cursor that it finds. -/
def trace (c : Cursor) : List Step → List (Cursor × Step)
  | [] => []
  | s :: rest => (c, s) :: trace (c.step s).2 rest

/-- The argument that a step takes, with its index, if the step takes one. -/
def taking? (x : Cursor × Step) : Option (Nat × Value) :=
  match x.2, (x.1.step x.2).1 with
  | .take, .ok (some v) => some (x.1.position, v)
  | _, _ => none

/-- The arguments that a run takes, in order, each with its index. -/
def takings (c : Cursor) (steps : List Step) : List (Nat × Value) := (c.trace steps).filterMap taking?

/-! ### What a step does -/

/-- Where there is no argument, neither of the steps that look at one succeeds. -/
private theorem step_of_none {c : Cursor} (h : c.args[c.position]? = none) :
    c.step .peek = (.error (.query (.missingArgument c.position c.args.length)), c) ∧
      c.step .take = (.error (.query (.missingArgument c.position c.args.length)), c) := by
  simp only [step, take, peek, h]
  exact ⟨rfl, rfl⟩

/-- Both see the argument at the cursor, and a take moves the cursor behind it. -/
private theorem step_of_some {c : Cursor} {v : Value} (h : c.args[c.position]? = some v) :
    c.step .peek = (.ok (some v), c) ∧ c.step .take = (.ok (some v), c.forward 1) := by
  simp only [step, take, peek, h]
  exact ⟨rfl, rfl⟩

private theorem step_advanceTo (c : Cursor) (target : Int) :
    target < c.position ∧ c.step (.advanceTo target) = (.error (.movedBack c.position target), c) ∨
      ∃ n : Nat, target = n ∧ c.position ≤ n ∧ c.step (.advanceTo target) = (.ok none, ⟨c.args, n⟩) := by
  by_cases h : target < c.position
  · left
    simp only [step, advanceTo, if_pos h]
    exact ⟨h, trivial⟩
  · right
    refine ⟨target.toNat, by omega, by omega, ?_⟩
    simp only [step, advanceTo, if_neg h]

private theorem args_step (c : Cursor) (s : Step) : (c.step s).2.args = c.args := by
  cases s with
  | peek => rfl
  | take =>
    cases hv : c.args[c.position]? with
    | none => rw [(step_of_none hv).2]
    | some v =>
      rw [(step_of_some hv).2]
      rfl
  | advanceTo target => rcases c.step_advanceTo target with ⟨-, h⟩ | ⟨n, -, -, h⟩ <;> rw [h]

/-- A failing step leaves the cursor in place. -/
theorem step_of_error {c : Cursor} {s : Step} {f : Fault} (h : (c.step s).1 = .error f) : (c.step s).2 = c := by
  cases s with
  | peek => rfl
  | take =>
    cases hv : c.args[c.position]? with
    | none => rw [(step_of_none hv).2]
    | some v =>
      rw [(step_of_some hv).2] at h
      cases h
  | advanceTo target =>
    rcases c.step_advanceTo target with ⟨-, hstep⟩ | ⟨n, -, -, hstep⟩
    · rw [hstep]
    · rw [hstep] at h
      cases h

/-- A take is a peek that moves the cursor. -/
private theorem step_peek_eq (c : Cursor) : c.step .peek = ((c.step .take).1, c) := by
  cases hv : c.args[c.position]? with
  | none => rw [(step_of_none hv).1, (step_of_none hv).2]
  | some v => rw [(step_of_some hv).1, (step_of_some hv).2]

theorem exists_step_take_eq_error_iff (c : Cursor) :
    (∃ f, (c.step .take).1 = .error f) ↔ c.args.length ≤ c.position := by
  rw [← List.getElem?_eq_none_iff]
  cases hv : c.args[c.position]? with
  | none => exact iff_of_true ⟨_, congrArg Prod.fst (step_of_none hv).2⟩ rfl
  | some v =>
    refine iff_of_false ?_ nofun
    rintro ⟨f, hf⟩
    rw [(step_of_some hv).2] at hf
    cases hf

/-- What is taken is the argument at the cursor, and the cursor moves behind it. -/
private theorem taking?_eq_some {c : Cursor} {s : Step} {p : Nat × Value} (h : taking? (c, s) = some p) :
    p.1 = c.position ∧ c.args[p.1]? = some p.2 ∧ (c.step s).2.position = c.position + 1 := by
  cases s with
  | take =>
    cases hv : c.args[c.position]? with
    | none => simp [taking?, (step_of_none hv).2] at h
    | some v =>
      simp only [taking?, (step_of_some hv).2, Option.some.injEq] at h
      obtain rfl := h
      exact ⟨rfl, hv, by rw [(step_of_some hv).2]; rfl⟩
  | _ => simp [taking?] at h

/-! ### What a run does -/

theorem run_eq_map_trace (c : Cursor) (steps : List Step) :
    c.run steps = (c.trace steps).map fun x => x.1.step x.2 := by
  induction steps generalizing c with
  | nil => rfl
  | cons s rest ih => rw [run, trace, List.map_cons, ih]

/-- Every step finds the arguments of the first, and a cursor no further back. -/
private theorem of_mem_trace {c : Cursor} {steps : List Step} {x : Cursor × Step} (h : x ∈ c.trace steps) :
    x.1.args = c.args ∧ c.position ≤ x.1.position := by
  induction steps generalizing c with
  | nil => cases h
  | cons s rest ih =>
    rcases List.mem_cons.1 h with rfl | hrest
    · exact ⟨rfl, Nat.le_refl _⟩
    · obtain ⟨hargs, hle⟩ := ih hrest
      exact ⟨hargs.trans (c.args_step s), (c.position_le_step s).trans hle⟩

theorem isChain_position_run (c : Cursor) (steps : List Step) :
    List.IsChain (fun d e => d.position ≤ e.position) (c :: (c.run steps).map Prod.snd) := by
  induction steps generalizing c with
  | nil => exact .singleton c
  | cons s rest ih => exact .cons_cons (c.position_le_step s) (ih _)

/-- The cursor moves back nowhere in a run. -/
theorem pairwise_position_run (c : Cursor) (steps : List Step) :
    (c :: (c.run steps).map Prod.snd).Pairwise fun d e => d.position ≤ e.position := by
  have htrans : IsTrans Cursor fun d e => d.position ≤ e.position := ⟨fun _ _ _ => Nat.le_trans⟩
  exact List.isChain_iff_pairwise.1 (c.isChain_position_run steps)

/-- A run takes no argument in front of its first cursor. -/
private theorem le_of_mem_takings {c : Cursor} {steps : List Step} {p : Nat × Value} (h : p ∈ c.takings steps) :
    c.position ≤ p.1 ∧ c.args[p.1]? = some p.2 := by
  obtain ⟨⟨d, s⟩, hmem, hp⟩ := List.mem_filterMap.1 h
  obtain ⟨hargs, hle⟩ := of_mem_trace hmem
  obtain ⟨hindex, hv, -⟩ := taking?_eq_some hp
  rw [hindex] at hv ⊢
  rw [← hargs]
  exact ⟨hle, hv⟩

/-- The arguments that are taken stand one behind the other. -/
theorem pairwise_takings (c : Cursor) (steps : List Step) :
    (c.takings steps).Pairwise fun p q => p.1 < q.1 := by
  induction steps generalizing c with
  | nil => exact .nil
  | cons s rest ih =>
    rw [takings, trace, List.filterMap_cons]
    cases hp : taking? (c, s) with
    | none => exact ih _
    | some p =>
      refine List.pairwise_cons.2 ⟨fun q hq => ?_, ih _⟩
      obtain ⟨hindex, -, hmoved⟩ := taking?_eq_some hp
      have hle := (le_of_mem_takings hq).1
      omega

/-- In every run over some arguments the position never goes down.  Each step finds a cursor among these arguments; if
it fails, the cursor stays.  There are no more arguments to peek at or to take if and only if the cursor is behind all
of them; a jump leads to its target or fails, the latter if and only if that is in front of the cursor, as every
negative target is.  What is taken is what a peek shows in the same place, and it stands behind all that was taken
before. -/
theorem run_takings (args : List Value) (steps : List Step) :
    (start args).run steps = ((start args).trace steps).map (fun x => x.1.step x.2) ∧
    (start args :: ((start args).run steps).map Prod.snd).Pairwise (fun c d => c.position ≤ d.position) ∧
    (∀ c s, (c, s) ∈ (start args).trace steps →
      c.args = args ∧
      ((∃ f, (c.step s).1 = .error f) → (c.step s).2 = c) ∧
      ((∃ f, (c.step .peek).1 = .error f) ↔ args.length ≤ c.position) ∧
      ((∃ f, (c.step .take).1 = .error f) ↔ args.length ≤ c.position) ∧
      c.step .peek = ((c.step .take).1, c) ∧
      ∀ target : Int, (target < c.position ∧ ∃ f, (c.step (.advanceTo target)).1 = .error f) ∨
        (c.position ≤ target ∧ (c.step (.advanceTo target)).1 = .ok none ∧
          ((c.step (.advanceTo target)).2.position : Int) = target)) ∧
    ((start args).takings steps).Pairwise (fun p q => p.1 < q.1) ∧
    ∀ p ∈ (start args).takings steps, args[p.1]? = some p.2 := by
  refine ⟨run_eq_map_trace _ _, pairwise_position_run _ _, ?_, pairwise_takings _ _,
    fun p hp => (le_of_mem_takings hp).2⟩
  intro c s hmem
  obtain rfl : c.args = args := (of_mem_trace hmem).1
  have hpeek := c.step_peek_eq
  refine ⟨rfl, fun ⟨f, hf⟩ => step_of_error hf, ?_, c.exists_step_take_eq_error_iff, hpeek, fun target => ?_⟩
  · rw [hpeek]
    exact c.exists_step_take_eq_error_iff
  · rcases c.step_advanceTo target with ⟨hlt, hstep⟩ | ⟨n, rfl, hle, hstep⟩
    · exact .inl ⟨hlt, _, congrArg Prod.fst hstep⟩
    · right
      rw [hstep]
      exact ⟨by omega, rfl, rfl⟩

/-- The jump backwards and the take behind the last argument fail, and the run goes on. -/
example :
    ((start [.null, .skip, .int 7]).takings [.take, .advanceTo (-1), .peek, .advanceTo 2, .take, .take]).map Prod.fst =
      [0, 2] := by
  decide +kernel

end SqlTemplate.Cursor
