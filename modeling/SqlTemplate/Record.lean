import SqlTemplate.Text.Basic

/-!
# Log records

What the library tells about its work while it does it.
-/

namespace SqlTemplate

inductive Level
  | debug
  | info
  deriving DecidableEq

inductive Record
  | skippedBlock (offset : Nat) (body : Text)
  | built (sql : Text)
  | evicted (source : Text)
  | opening (host port database : Text)
  deriving DecidableEq

namespace Record

def level : Record → Level
  | .opening .. => .info
  | _ => .debug

/-- How much of an evicted template is told. -/
def excerptLength : Nat := 80

def message : Record → String
  | .skippedBlock offset body =>
    "Skipped conditional block at offset " ++ toString offset ++ ": \x7b" ++ String.ofList body ++ "\x7d"
  | .built sql => "Built SQL: " ++ String.ofList sql
  | .evicted source => "Evicted compiled template from cache: " ++ String.ofList (source.take excerptLength)
  | .opening host port database =>
    "Opening MySQL connection to " ++ String.ofList host ++ ":" ++ String.ofList port ++ "/" ++
      String.ofList database

end Record

end SqlTemplate
