import SqlTemplate.Number.Numeral
import SqlTemplate.Number.Shortest
import SqlTemplate.Value
import SqlTemplate.Fault

/-!
# Numeric slots

An integer slot takes the whole part of its argument and a float slot the nearest binary number, of a text by the
numeral that it starts with.  An array never goes into either, nor does a number that is not finite.
-/

namespace SqlTemplate

namespace Numeral

/-- The integer that the numeral writes digit by digit, if it does and has not too many of them. -/
def toInt? (n : Numeral) : Option Int :=
  if n.isInteger && n.isReadable && n.whole.length ≤ Integer.digitLimit then
    some (Integer.negateIf n.isNegative n.coefficient)
  else none

def toBinary64 (n : Numeral) : Except Fault Binary64 :=
  if n.isReadable then .ok (.ofDecimal n.isNegative n.coefficient n.scale) else .error (.unreadableNumber n.text)

end Numeral

namespace Slot

/-- The text of an integer, unless it has too many digits. -/
def integerText (n : Int) : Except Fault Text :=
  if Integer.digitLimit < Integer.digitCount n.natAbs then .error .tooManyDigits else .ok (Integer.text n)

/-- The text of a decimal's whole part, which is not computed if it has too many digits. -/
def wholeText (negative : Bool) (coefficient : Nat) (scale : Int) : Except Fault Text :=
  if Integer.digitLimit < Decimal.wholeDigits coefficient scale then .error .tooManyDigits
  else .ok (Integer.text (Integer.negateIf negative (Decimal.floor coefficient scale)))

/-- The whole part of the binary number that a text starts with. -/
def wholePart (t : Text) : Binary64 → Except Fault Int
  | .finite negative m => .ok (Binary64.truncated negative m)
  | _ => .error (.query (.mismatch (.integerRange t)))

/-- The whole part of the number that a text starts with; zero if it starts with none. -/
def readInteger (t : Text) : Except Fault Int :=
  match Numeral.scan t with
  | none => .ok 0
  | some n => n.toInt?.elim (n.toBinary64.bind (wholePart t)) .ok

/-- The number that a text starts with; zero if it starts with none. -/
def readFloat (t : Text) : Except Fault Binary64 :=
  match Numeral.scan t with
  | none => .ok (.finite false .zero)
  | some n => n.toBinary64

def nonFinite (target : NumericTarget) (shown : Text) : Fault := .query (.mismatch (.nonFiniteAs target shown))

/-- The text of a number for a float slot; `shown` is how a message shows the argument that it comes from. -/
def floatText (shown : Text) : Binary64 → Except Fault Text
  | .finite negative m => .ok (Binary64.literal negative m)
  | _ => .error (nonFinite .float shown)

/-- The text of the binary number nearest to an integer, unless that is beyond the largest. -/
def nearestText : Binary64 → Except Fault Text
  | .finite negative m => .ok (Binary64.literal negative m)
  | _ => .error .integerTooLarge

def integer : Value → Except Fault Text
  | .null => .ok "NULL".toList
  | .sequence .. | .set .. | .mapping .. => .error (.query (.mismatch (.arrayAs .integer)))
  | .bool b => .ok (if b then ['1'] else ['0'])
  | .int n => integerText n
  | .float (.finite negative m) => .ok (Integer.text (Binary64.truncated negative m))
  | .float x => .error (nonFinite .integer x.text)
  | .decimal (.finite negative coefficient scale) => wholeText negative coefficient scale
  | .decimal d => .error (nonFinite .integer d.shown)
  | .text t => (readInteger t).map Integer.text
  | v => .error (.query (.mismatch (.typeAs .integer v.typeName.name)))

def float : Value → Except Fault Text
  | .null => .ok "NULL".toList
  | .sequence .. | .set .. | .mapping .. => .error (.query (.mismatch (.arrayAs .float)))
  | .bool b => .ok (if b then ['1'] else ['0'])
  | .int n => nearestText (.ofInt n)
  | .float x => floatText x.text x
  | .decimal (.finite negative coefficient scale) =>
    floatText (Decimal.finite negative coefficient scale).shown (.ofDecimal negative coefficient scale)
  | .decimal (.nan _ true) => .error .signallingNaN
  | .decimal d => .error (nonFinite .float d.shown)
  | .text t => (readFloat t).bind (floatText t.quoted)
  | v => .error (.query (.mismatch (.typeAs .float v.typeName.name)))

end Slot

end SqlTemplate
