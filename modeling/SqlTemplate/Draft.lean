import SqlTemplate.Escape

/-!
# Drafts

The SQL of a value before escaping: fixed text, with a hole for each text that has to be escaped.  A draft may be
cut short by a fault.  `Draft.fill` puts the escaped texts in, from left to right, and keeps account of what was
handed to the escape, also when a fault follows.
-/

namespace SqlTemplate

inductive Piece
  | fixed (t : Text)
  | hole (t : Text)
  deriving DecidableEq

structure Draft where
  pieces : List Piece
  /-- What follows the pieces instead of more of them. -/
  fault : Option Fault
  deriving DecidableEq

/-- A text, or why there is none, and the texts handed to the escape on the way. -/
structure Filled where
  escaped : List Text
  outcome : Except Fault Text

namespace Draft

def empty : Draft := ⟨[], none⟩

def fixed (t : Text) : Draft := ⟨[.fixed t], none⟩

def hole (t : Text) : Draft := ⟨[.hole t], none⟩

def failed (f : Fault) : Draft := ⟨[], some f⟩

def error (e : QueryError) : Draft := failed (.query e)

def ofExcept : Except Fault Text → Draft
  | .ok t => fixed t
  | .error f => failed f

/-- Nothing follows a fault. -/
def append (d e : Draft) : Draft :=
  match d.fault with
  | none => ⟨d.pieces ++ e.pieces, e.fault⟩
  | some _ => d

instance : Append Draft := ⟨append⟩

theorem mk_none_append (ps : List Piece) (e : Draft) :
    (⟨ps, none⟩ : Draft) ++ e = ⟨ps ++ e.pieces, e.fault⟩ :=
  rfl

theorem mk_some_append (ps : List Piece) (f : Fault) (e : Draft) :
    (⟨ps, some f⟩ : Draft) ++ e = ⟨ps, some f⟩ :=
  rfl

protected theorem append_assoc (d e f : Draft) : d ++ e ++ f = d ++ (e ++ f) := by
  obtain ⟨ps, _ | _⟩ := d <;> obtain ⟨qs, _ | _⟩ := e <;> simp [mk_none_append, mk_some_append]

/-- The drafts one behind the other, with a comma between them. -/
def commaSeparated : List Draft → Draft
  | [] => empty
  | [d] => d
  | d :: rest => d ++ (fixed [',', ' '] ++ commaSeparated rest)

end Draft

def Filled.prepend (t : Text) (f : Filled) : Filled := ⟨f.escaped, f.outcome.map (t ++ ·)⟩

def fillPieces (escape : Escape) (fault : Option Fault) : List Piece → Filled
  | [] => ⟨[], fault.elim (.ok []) .error⟩
  | .fixed t :: rest => (fillPieces escape fault rest).prepend t
  | .hole t :: rest =>
    match escape t with
    | .error e => ⟨[t], .error (.escape e)⟩
    | .ok s =>
      let filled := (fillPieces escape fault rest).prepend s
      ⟨t :: filled.escaped, filled.outcome⟩

def Draft.fill (escape : Escape) (d : Draft) : Filled := fillPieces escape d.fault d.pieces

end SqlTemplate
