import SqlTemplate.Text.Basic

/-!
# Decimal integers

The decimal text of an integer, and `isCanonical`, which recognises the texts that it can be.
-/

namespace SqlTemplate

namespace Integer

/-- No integer is written with more digits than this, and none is read from a text with more. -/
def digitLimit : Nat := 4300

def naturalText (n : Nat) : Text := Nat.toDigits 10 n

def digitCount (n : Nat) : Nat := (naturalText n).length

def signed (negative : Bool) (t : Text) : Text := if negative then '-' :: t else t

def text (n : Int) : Text := signed (n < 0) (naturalText n.natAbs)

/-- Minus the number, if that is asked for. -/
def negateIf (negative : Bool) (n : Nat) : Int := if negative then -n else n

/-- Digits, the first of them not zero. -/
def isPositiveText : Text → Bool
  | [] => false
  | d :: rest => d.isDigit && d != '0' && rest.all Char.isDigit

/-- A text that writes an integer in the one way `text` does. -/
def isCanonical : Text → Bool
  | ['0'] => true
  | '-' :: digits => isPositiveText digits
  | digits => isPositiveText digits

example : text (-120) = ['-', '1', '2', '0'] := by decide +kernel
example : isCanonical ['-', '7'] ∧ ¬ isCanonical ['-', '0'] ∧ ¬ isCanonical ['0', '7'] := by decide +kernel

end Integer

end SqlTemplate
