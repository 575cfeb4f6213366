import SqlTemplate.Draft
import SqlTemplate.Slot.Number

/-!
# Literals, arrays and identifiers

A plain slot takes one value of SQL, an array slot a list of them or of `` `name` = value `` pairs, and an identifier
slot one name or a list of names.  Texts go into holes of the draft, never into its fixed text.
-/

namespace SqlTemplate

namespace Slot

def literal : Value → Draft
  | .null => .fixed "NULL".toList
  | .bool b => .fixed (if b then ['1'] else ['0'])
  | .text t => .fixed ['\''] ++ .hole t ++ .fixed ['\'']
  | .int n => .ofExcept (integerText n)
  | .float (.finite negative m) => .fixed (Binary64.literal negative m)
  | .float x => .error (.unsupportedNumber x.text)
  | .decimal (.finite negative coefficient scale) => .fixed (Decimal.finite negative coefficient scale).text
  | .decimal d => .error (.unsupportedNumber d.shown)
  | v => .error (.unsupportedType v.typeName.name)

/-- A name of ASCII letters, digits and underscores. -/
def isName (t : Text) : Bool := !t.isEmpty && t.all fun c => c.isAlphanum || c == '_'

def identifier : Value → Draft
  | .text t => if isName t then .fixed ['\x60'] ++ .hole t ++ .fixed ['\x60'] else .error (.invalidIdentifier t)
  | v => .error (.mismatch (.identifierName v.typeName.name))

/-- An entry with an integer for its key, or with the text of one, stands for its item alone. -/
def entry (key item : Value) : Draft :=
  match key with
  | .int _ | .bool _ => literal item
  | .text t =>
    if Integer.isCanonical t then literal item
    else identifier key ++ .fixed [' ', '=', ' '] ++ literal item
  | _ => .error (.mismatch (.arrayKey key.typeName.name))

/-- At least one draft, separated by commas. -/
def listing (l : Listing) (drafts : List Draft) : Draft :=
  if drafts.isEmpty then .error (.emptyListing l) else .commaSeparated drafts

def array : Value → Draft
  | .null => .error (.nullListing .array)
  | .mapping _ entries => listing .array (entries.map fun e => entry e.1 e.2)
  | .sequence _ items => listing .array (items.map literal)
  | v => .error (.mismatch (.arrayExpected v.typeName.name))

def identifiers : Value → Draft
  | .null => .error (.nullListing .identifier)
  | .text t => identifier (.text t)
  | .mapping _ entries => listing .identifier (entries.map fun e => identifier e.2)
  | .sequence _ items => listing .identifier (items.map identifier)
  | _ => .error (.mismatch .identifierExpected)

end Slot

end SqlTemplate
