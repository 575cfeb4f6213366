import SqlTemplate.Number.Binary64
import SqlTemplate.Number.DecimalStyle

/-!
# Shortest decimals

`Magnitude.shortest` is the decimal with the fewest digits whose nearest binary number is the given one, and of
those with as many digits the nearest.  `Binary64.text` writes it; a whole number below `10 ^ 15` is written as an
integer by `Binary64.literal`.
-/

namespace SqlTemplate

namespace Binary64

namespace Magnitude

/-- The power of ten of the first digit: the greatest `p` with `10 ^ p` at most the magnitude. -/
def decimalPower (m : Magnitude) : Int :=
  if stepsPerUnit ≤ m.steps then (Integer.digitCount m.floor : Int) - 1
  else (Integer.digitCount (m.steps * Nat.pow 10 324 / stepsPerUnit) : Int) - 325

/-- The magnitude in units of `10 ^ scale`, as a quotient. -/
def inUnits (m : Magnitude) (scale : Int) : Nat × Nat :=
  if 0 ≤ scale then (m.steps, stepsPerUnit * Nat.pow 10 scale.toNat)
  else (m.steps * Nat.pow 10 scale.natAbs, stepsPerUnit)

/-- Of the two multiples of `10 ^ scale` around the magnitude, those that read back; the nearer if both do. -/
def onGrid? (m : Magnitude) (scale : Int) : Option Nat :=
  let (num, den) := m.inUnits scale
  let nearer := roundedQuotient num den
  let farther := if nearer = num / den then nearer + 1 else num / den
  [nearer, farther].find? fun n => ofDecimal? n scale = some m

/-- Cuts zeros off the end of a coefficient, at most `fuel` of them. -/
def withoutZeros (fuel : Nat) (coefficient : Nat) (scale : Int) : Nat × Int :=
  match fuel with
  | 0 => (coefficient, scale)
  | fuel + 1 =>
    if coefficient % 10 = 0 then withoutZeros fuel (coefficient / 10) (scale + 1) else (coefficient, scale)

/-- A coefficient and its power of ten.  Seventeen digits are enough to tell any two numbers apart; the exact
decimal stands behind them. -/
def shortest (m : Magnitude) : Nat × Int :=
  if m.mantissa = 0 then (0, 0)
  else
    let found := (List.range 17).findSome? fun (digits : Nat) =>
      let scale := m.decimalPower - digits
      (m.onGrid? scale).map (withoutZeros 17 · scale)
    found.getD (m.steps * Nat.pow 5 1074, -1074)

end Magnitude

/-- The point is put in place from `0.0001` up to sixteen digits. -/
def style : DecimalStyle where
  isPositional _ leading := -4 ≤ leading && leading < 16
  wholeEnding := ['.', '0']
  mark := 'e'
  powerWidth := 2

def text : Binary64 → Text
  | .nan => "nan".toList
  | .infinite negative => Integer.signed negative "inf".toList
  | .finite negative m =>
    let (coefficient, scale) := m.shortest
    Integer.signed negative (style.text (Integer.naturalText coefficient) scale)

/-- The number without its fraction. -/
def truncated (negative : Bool) (m : Magnitude) : Int := Integer.negateIf negative m.floor

/-- Whole numbers below this are written as integers. -/
def wholeLimit : Nat := Nat.pow 10 15

def literal (negative : Bool) (m : Magnitude) : Text :=
  if m.isWhole && m.floor < wholeLimit then Integer.text (truncated negative m) else text (.finite negative m)

example : (ofDecimal false 1 15).text = "1000000000000000.0".toList := by decide +kernel
example : (ofDecimal true 5 (-324)).text = "-5e-324".toList := by decide +kernel
example : (ofDecimal false 112589990684262425 (-2)).text = "1125899906842624.2".toList := by decide +kernel

end Binary64

end SqlTemplate
