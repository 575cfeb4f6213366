import SqlTemplate.Build

/-!
# Databases

A database is the query builder with the escape of a connection, with one given in its place, or with backslashes.
-/

namespace SqlTemplate

/-- What is known of a connection: the name of its type, and its escape if it has one. -/
structure Connection where
  typeName : String
  escape? : Option Escape

/-- A connection to a MySQL server, whose mode may take the backslash for an ordinary character. -/
def Connection.mysql (noBackslashEscapes : Bool) : Connection :=
  ⟨"Connection", some (if noBackslashEscapes then .doubling else .backslash)⟩

inductive DatabaseError
  | connectionAndEscape
  | noEscape (typeName : String)
  deriving DecidableEq

def DatabaseError.message : DatabaseError → String
  | .connectionAndEscape => "Pass either connection or escape, not both"
  | .noEscape typeName => typeName ++ " does not provide escape_string(); pass a pymysql connection"

def Connection.escapeOf : Option Connection → Except DatabaseError Escape
  | none => .error (.noEscape Value.null.typeName.name)
  | some connection =>
    match connection.escape? with
    | some escape => .ok escape
    | none => .error (.noEscape connection.typeName)

structure Database where
  connection : Option Connection
  escape : Escape

namespace Database

def ofConnection (connection : Option Connection) (escape : Option Escape) : Except DatabaseError Database :=
  match connection, escape with
  | some _, some _ => .error .connectionAndEscape
  | some c, none => (Connection.escapeOf connection).map (⟨some c, ·⟩)
  | none, escape => .ok ⟨none, escape.getD .backslash⟩

def build (db : Database) (source : Text) (args : Value) : Report := SqlTemplate.build source args db.escape

/-- The argument that drops the block it is passed to. -/
def skip (_ : Database) : Value := .skip

end Database

end SqlTemplate
