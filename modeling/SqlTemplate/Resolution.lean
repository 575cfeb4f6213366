import SqlTemplate.Cursor
import SqlTemplate.Slot
import SqlTemplate.Template.Basic

/-!
# Resolutions

A resolution is what comes of parts of a template: their SQL or why there is none, the cursor behind the arguments
taken, the texts handed to the escape and the blocks dropped.  Resolutions follow one another by `andThen`.  The skip
marker drops the block in which it is reached, and with it the arguments of all of the block's placeholders.
-/

namespace SqlTemplate

/-- `ε` is what can keep the parts from having SQL. -/
structure Resolution (ε : Type) where
  cursor : Cursor
  escaped : List Text
  skipped : List Block
  outcome : Except ε Text

namespace Resolution

variable {ε : Type}

def written (c : Cursor) (t : Text) : Resolution ε := ⟨c, [], [], .ok t⟩

def stopped (c : Cursor) (e : ε) : Resolution ε := ⟨c, [], [], .error e⟩

/-- A filled draft, with what becomes of its fault. -/
def ofFilled (onFault : Fault → ε) (c : Cursor) (f : Filled) : Resolution ε :=
  ⟨c, f.escaped, [], f.outcome.mapError onFault⟩

def andThen (r : Resolution ε) (next : Cursor → Resolution ε) : Resolution ε :=
  match r.outcome with
  | .error _ => r
  | .ok t =>
    let s := next r.cursor
    ⟨s.cursor, r.escaped ++ s.escaped, r.skipped ++ s.skipped, s.outcome.map (t ++ ·)⟩

/-- The parts one after the other, up to the first that stops. -/
def inOrder {α : Type} (resolve : α → Cursor → Resolution ε) : List α → Cursor → Resolution ε
  | [], c => written c []
  | a :: rest, c => (resolve a c).andThen (inOrder resolve rest)

theorem written_nil_andThen (c : Cursor) (next : Cursor → Resolution ε) : (written c []).andThen next = next c := by
  unfold andThen written
  rcases next c with ⟨_, _, _, _ | _⟩ <;> simp [Except.map]

theorem andThen_assoc (r : Resolution ε) (f g : Cursor → Resolution ε) :
    (r.andThen f).andThen g = r.andThen fun c => (f c).andThen g := by
  unfold andThen
  rcases hr : r.outcome with _ | t
  · simp [hr]
  · rcases hf : (f r.cursor).outcome with _ | u
    · simp [hf, Except.map]
    · rcases hg : (g (f r.cursor).cursor).outcome with _ | _ <;> simp [hf, hg, Except.map]

theorem inOrder_append {α : Type} (resolve : α → Cursor → Resolution ε) (xs ys : List α) (c : Cursor) :
    inOrder resolve (xs ++ ys) c = (inOrder resolve xs c).andThen (inOrder resolve ys) := by
  induction xs generalizing c with
  | nil => exact (written_nil_andThen c _).symm
  | cons x xs ih =>
    simp only [List.cons_append, inOrder, andThen_assoc]
    congr
    funext c
    exact ih c

end Resolution

/-- What ends the work on a block early. -/
inductive Interruption
  | skip
  | fault (f : Fault)
  deriving DecidableEq

/-- A segment of a block. -/
def Segment.resolve (escape : Escape) : Segment → Cursor → Resolution Interruption
  | .text t, c => .written c t
  | .placeholder kind _, c =>
    match c.take with
    | .error f => .stopped c (.fault f)
    | .ok (.skip, _) => .stopped c .skip
    | .ok (v, next) => .ofFilled .fault next (kind.format v escape)

def Block.resolve (escape : Escape) (b : Block) (c : Cursor) : Resolution Fault :=
  let inner := Resolution.inOrder (Segment.resolve escape) b.segments c
  match inner.outcome with
  | .ok t => ⟨inner.cursor, inner.escaped, [], .ok t⟩
  | .error .skip => ⟨c.forward b.size, inner.escaped, [b], .ok []⟩
  | .error (.fault f) => ⟨inner.cursor, inner.escaped, [], .error f⟩

def Part.resolve (escape : Escape) : Part → Cursor → Resolution Fault
  | .segment (.text t), c => .written c t
  | .segment (.placeholder kind _), c =>
    match c.take with
    | .error f => .stopped c f
    | .ok (.skip, next) => .stopped next (.query (.misplacedSkip c.position))
    | .ok (v, next) => .ofFilled id next (kind.format v escape)
  | .block b, c => b.resolve escape c

def Template.resolve (escape : Escape) (t : Template) (c : Cursor) : Resolution Fault :=
  Resolution.inOrder (Part.resolve escape) t.parts c

/-- What a walk over a template meets: a block with its SQL, or a placeholder with its argument. -/
inductive Visit
  | block (sql : Text)
  | argument (v : Value)

def Part.visit (escape : Escape) : Part → Cursor → Option (Except Fault Visit × Cursor)
  | .segment (.text _), _ => none
  | .segment (.placeholder ..), c =>
    match c.take with
    | .ok (v, next) => some (.ok (.argument v), next)
    | .error f => some (.error f, c)
  | .block b, c =>
    let r := b.resolve escape c
    some (r.outcome.map .block, r.cursor)

/-- Visits the blocks and placeholders in order and takes their arguments, up to the first failure. -/
def walk (escape : Escape) : List Part → Cursor → List (Except Fault Visit × Cursor)
  | [], _ => []
  | part :: rest, c =>
    match part.visit escape c with
    | none => walk escape rest c
    | some (.error f, next) => [(.error f, next)]
    | some (.ok visit, next) => (.ok visit, next) :: walk escape rest next

end SqlTemplate
