import SqlTemplate.Number.Binary64
import SqlTemplate.Number.Decimal

/-!
# Values

What can be passed as an argument of a query: SQL's own values, arrays of them, the marker that drops a
conditional block, and anything else, known only by the name of its type.
-/

namespace SqlTemplate

/-- The name of a type, and of the module that it lives in unless that is the language's own. -/
structure TypeName where
  name : String
  home : Option String := none
  deriving DecidableEq

def TypeName.full (t : TypeName) : String := t.home.elim t.name (· ++ "." ++ t.name)

inductive SequenceForm
  | list
  | tuple
  deriving DecidableEq

inductive SetForm
  | plain
  | frozen
  deriving DecidableEq

inductive MappingForm
  | plain
  | ordered
  | readOnly
  deriving DecidableEq

inductive Value
  | null
  | skip
  | bool (b : Bool)
  | int (n : Int)
  | float (x : Binary64)
  | decimal (d : Decimal)
  | text (t : Text)
  | sequence (form : SequenceForm) (items : List Value)
  | set (form : SetForm) (items : List Value)
  | mapping (form : MappingForm) (entries : List (Value × Value))
  /-- A value that no placeholder takes, with its items if one can go through them. -/
  | foreign (type : TypeName) (items : Option (List Value))
  deriving Inhabited

namespace Value

def typeName : Value → TypeName
  | .null => ⟨"NoneType", none⟩
  | .skip => ⟨"_SkipMarker", none⟩
  | .bool _ => ⟨"bool", none⟩
  | .int _ => ⟨"int", none⟩
  | .float _ => ⟨"float", none⟩
  | .decimal _ => ⟨"Decimal", some "decimal"⟩
  | .text _ => ⟨"str", none⟩
  | .sequence .list _ => ⟨"list", none⟩
  | .sequence .tuple _ => ⟨"tuple", none⟩
  | .set .plain _ => ⟨"set", none⟩
  | .set .frozen _ => ⟨"frozenset", none⟩
  | .mapping .plain _ => ⟨"dict", none⟩
  | .mapping .ordered _ => ⟨"OrderedDict", none⟩
  | .mapping .readOnly _ => ⟨"mappingproxy", none⟩
  | .foreign type _ => type

/-- The number that a value is, if it is one; the truth values are one and zero. -/
def number? : Value → Option Decimal
  | .bool b => some (.finite false b.toNat 0)
  | .int n => some (.finite (n < 0) n.natAbs 0)
  | .float x => some (.ofBinary64 x)
  | .decimal d => some d
  | _ => none

mutual

/-- Whether two values count as one item of a set. -/
def equals : Value → Value → Bool
  | .null, .null | .skip, .skip => true
  | .text t, .text t' => t = t'
  | .sequence form items, .sequence form' items' => form = form' && itemsEqual items items'
  | .set _ items, .set _ items' => allAmong items items' && items'.all (isAmong items)
  | .foreign type none, .foreign type' none => type = type'
  | .foreign type (some items), .foreign type' (some items') => type = type' && itemsEqual items items'
  | v, v' => (v.number?.bind fun d => v'.number?.map d.equals).getD false

def itemsEqual : List Value → List Value → Bool
  | [], [] => true
  | v :: rest, v' :: rest' => v.equals v' && itemsEqual rest rest'
  | _, _ => false

/-- Whether each of the first items equals one of the second. -/
def allAmong : List Value → List Value → Bool
  | [], _ => true
  | v :: rest, items => items.any (fun v' => v.equals v') && allAmong rest items

/-- Whether one of the items equals the value. -/
def isAmong : List Value → Value → Bool
  | [], _ => false
  | v :: rest, v' => v.equals v' || isAmong rest v'

end

/-- The values without those that equal an earlier one. -/
def distinct : List Value → List Value
  | [] => []
  | v :: rest => v :: (distinct rest).filter fun v' => !v.equals v'

/-- What going through the value yields: its items, each item of a set once, the characters of a text, the keys of
a mapping. -/
def items? : Value → Option (List Value)
  | .text t => some (t.map fun c => .text [c])
  | .sequence _ items => some items
  | .set _ items => some (distinct items)
  | .mapping _ entries => some (entries.map Prod.fst)
  | .foreign _ items => items
  | _ => none

def isSkip : Value → Bool
  | .skip => true
  | _ => false

example : (Value.set .plain [.int 1, .bool true, .text ['a'], .int 1]).items?.map List.length = some 2 := by
  decide +kernel

end Value

end SqlTemplate
