import SqlTemplate.Text.Blank
import SqlTemplate.Text.Digit

/-!
# Numerals

The number that a text starts with: white space, a sign, digits with an optional point among or before them, and
an optional exponent.  `scan` finds it, `Numeral.text` is the part of the text that it takes up, and its value is
`coefficient · 10 ^ scale`, negated if `isNegative`.
-/

namespace SqlTemplate

inductive Sign
  | plus
  | minus
  deriving DecidableEq

def Sign.text : Sign → Text
  | .plus => ['+']
  | .minus => ['-']

/-- A power of ten behind a number: `e-07`. -/
structure PowerOfTen where
  mark : Char
  sign : Option Sign
  digits : Text
  deriving DecidableEq

structure Numeral where
  lead : Text
  sign : Option Sign
  whole : Text
  /-- The digits behind the point, if there is a point. -/
  fraction : Option Text
  power : Option PowerOfTen
  deriving DecidableEq

def PowerOfTen.text (p : PowerOfTen) : Text :=
  p.mark :: (p.sign.elim [] Sign.text ++ p.digits)

def PowerOfTen.value (p : PowerOfTen) : Int :=
  if p.sign = some .minus then -(Text.digitsValue p.digits) else Text.digitsValue p.digits

namespace Numeral

def text (n : Numeral) : Text :=
  n.lead ++ n.sign.elim [] Sign.text ++ n.whole ++ n.fraction.elim [] ('.' :: ·) ++ n.power.elim [] PowerOfTen.text

def isNegative (n : Numeral) : Bool := n.sign = some .minus

def coefficient (n : Numeral) : Nat := Text.digitsValue (n.whole ++ n.fraction.getD [])

def scale (n : Numeral) : Int := n.power.elim 0 PowerOfTen.value - (n.fraction.getD []).length

/-- Neither point nor power: the numeral writes an integer digit by digit. -/
def isInteger (n : Numeral) : Bool := n.fraction.isNone && n.power.isNone

/-- An information separator in front keeps the numeral from being read. -/
def isReadable (n : Numeral) : Bool := !n.lead.any Text.isSeparator

def scanSign (t : Text) : Option Sign × Text :=
  match t with
  | '+' :: rest => (some .plus, rest)
  | '-' :: rest => (some .minus, rest)
  | _ => (none, t)

def scanFraction (t : Text) : Option Text × Text :=
  match t with
  | '.' :: rest => (some (rest.takeWhile Text.isDigit), rest.dropWhile Text.isDigit)
  | _ => (none, t)

def scanPower (t : Text) : Option PowerOfTen :=
  match t with
  | [] => none
  | mark :: rest =>
    if mark = 'e' ∨ mark = 'E' then
      let (sign, afterSign) := scanSign rest
      let digits := afterSign.takeWhile Text.isDigit
      if digits.isEmpty then none else some ⟨mark, sign, digits⟩
    else none

/-- The numeral at the start of a text; there is none unless a digit stands before or behind the point. -/
def scan (t : Text) : Option Numeral :=
  let (sign, afterSign) := scanSign (t.dropWhile Text.isBlank)
  let whole := afterSign.takeWhile Text.isDigit
  let (fraction, afterFraction) := scanFraction (afterSign.dropWhile Text.isDigit)
  if whole.isEmpty && fraction.all List.isEmpty then none
  else some ⟨t.takeWhile Text.isBlank, sign, whole, fraction, scanPower afterFraction⟩

example : (scan " -1.5e3kg".toList).map text = some " -1.5e3".toList := by decide +kernel
example : (scan "1.e+".toList).map text = some "1.".toList ∧ scan ".e5".toList = none := by decide +kernel

end Numeral

end SqlTemplate
