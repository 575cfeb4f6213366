import SqlTemplate.Record
import SqlTemplate.Resolution

/-!
# Building queries

`build` compiles a template, takes the arguments one by one, and puts them in.  Its report has the SQL or the first
thing that went wrong, the texts handed to the escape, and the log: a record for each block dropped, then one for the
SQL.
-/

namespace SqlTemplate

structure Report where
  log : List Record
  escaped : List Text
  outcome : Except Fault Text

def Report.failed (f : Fault) : Report := ⟨[], [], .error f⟩

/-- Puts records in front of the log. -/
def Report.logFirst (records : List Record) (r : Report) : Report := ⟨records ++ r.log, r.escaped, r.outcome⟩

def Block.record (b : Block) : Record := .skippedBlock b.offset b.body

def Template.render (t : Template) (args : List Value) (escape : Escape) : Report :=
  let r := t.resolve escape (.start args)
  let skips := r.skipped.map Block.record
  match r.outcome with
  | .ok sql => ⟨skips ++ [.built sql], r.escaped, .ok sql⟩
  | .error f => ⟨skips, r.escaped, .error f⟩

/-- A refused template comes before arguments that one cannot go through. -/
def renderWith (compiled : Except TemplateError Template) (args : Value) (escape : Escape) : Report :=
  match compiled with
  | .error e => .failed (.query (.template e))
  | .ok t =>
    match args.items? with
    | none => .failed (.notIterable args.typeName.full)
    | some items => t.render items escape

def build (source : Text) (args : Value) (escape : Escape) : Report :=
  renderWith (Template.compile source) args escape

end SqlTemplate
