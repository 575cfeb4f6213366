import SqlTemplate.Fault
import SqlTemplate.Value

/-!
# Argument cursors

A cursor stands at the next argument to be taken.  It moves forward only, possibly past the last argument; the next
one to be taken is then missing.
-/

namespace SqlTemplate

structure Cursor where
  args : List Value
  position : Nat

namespace Cursor

def start (args : List Value) : Cursor := ⟨args, 0⟩

/-- The next argument. -/
def peek (c : Cursor) : Except Fault Value :=
  match c.args[c.position]? with
  | some v => .ok v
  | none => .error (.query (.missingArgument c.position c.args.length))

def forward (c : Cursor) (n : Nat) : Cursor := ⟨c.args, c.position + n⟩

/-- The next argument, and the cursor behind it. -/
def take (c : Cursor) : Except Fault (Value × Cursor) :=
  c.peek.map fun v => (v, c.forward 1)

def advanceTo (c : Cursor) (target : Int) : Except Fault Cursor :=
  if target < c.position then .error (.movedBack c.position target) else .ok ⟨c.args, target.toNat⟩

inductive Step
  | peek
  | take
  | advanceTo (target : Int)
  deriving DecidableEq

/-- Where a step leads: the value that it yields, if it does, and the cursor after it, which a failing step leaves
in place. -/
def step (c : Cursor) : Step → Except Fault (Option Value) × Cursor
  | .peek => (c.peek.map some, c)
  | .take =>
    match c.take with
    | .ok (v, next) => (.ok (some v), next)
    | .error f => (.error f, c)
  | .advanceTo target =>
    match c.advanceTo target with
    | .ok next => (.ok none, next)
    | .error f => (.error f, c)

/-- A cursor never moves back. -/
theorem position_le_step (c : Cursor) (s : Step) : c.position ≤ (c.step s).2.position := by
  cases s with
  | peek => exact Nat.le_refl _
  | take =>
    simp only [step, take]
    cases c.peek <;> simp [Except.map, forward]
  | advanceTo target =>
    by_cases h : target < c.position
    · simp [step, advanceTo, h]
    · simp only [step, advanceTo, h, ↓reduceIte]
      omega

def run (c : Cursor) : List Step → List (Except Fault (Option Value) × Cursor)
  | [] => []
  | s :: rest =>
    let reached := c.step s
    reached :: run reached.2 rest

end Cursor

end SqlTemplate
