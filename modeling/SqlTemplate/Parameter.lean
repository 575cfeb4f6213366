import SqlTemplate.Number.Integer
import SqlTemplate.Text.Quoted

/-!
# Connection parameters

A parameter has a name and a value of any of the simple kinds.  `Parameter.written` is how a log line shows a value.
-/

namespace SqlTemplate

inductive Parameter
  | null
  | bool (b : Bool)
  | int (n : Int)
  | text (t : Text)
  | list (items : List Parameter)
  | table (entries : List (Text × Parameter))
  deriving Inhabited

namespace Parameter

/-- A value that counts as none given. -/
def isBlank : Parameter → Bool
  | .null => true
  | .bool b => !b
  | .int n => n = 0
  | .text t => t.isEmpty
  | .list items => items.isEmpty
  | .table entries => entries.isEmpty

mutual

def shown : Parameter → Text
  | .null => "None".toList
  | .bool b => (if b then "True" else "False").toList
  | .int n => Integer.text n
  | .text t => t.quoted
  | .list items => '[' :: shownItems items ++ [']']
  | .table entries => '\x7b' :: shownEntries entries ++ ['\x7d']

def shownItems : List Parameter → Text
  | [] => []
  | [p] => p.shown
  | p :: rest => p.shown ++ ',' :: ' ' :: shownItems rest

def shownEntries : List (Text × Parameter) → Text
  | [] => []
  | [(name, p)] => name.quoted ++ ':' :: ' ' :: p.shown
  | (name, p) :: rest => name.quoted ++ ':' :: ' ' :: p.shown ++ ',' :: ' ' :: shownEntries rest

end

def written : Parameter → Text
  | .text t => t
  | p => p.shown

end Parameter

end SqlTemplate
