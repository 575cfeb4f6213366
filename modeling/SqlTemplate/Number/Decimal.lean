import SqlTemplate.Number.Binary64
import SqlTemplate.Number.DecimalStyle

/-!
# Decimal floating point

A decimal keeps the digits it was written with, `coefficient · 10 ^ scale`; its text puts the point in place for
scales from zero down and first digits from `10 ^ -6` up.  What is no number keeps its sign and whether it signals; the
digits that it can be given besides are left out, so that `NaN123` is shown as `NaN`.
-/

namespace SqlTemplate

inductive Decimal
  | finite (negative : Bool) (coefficient : Nat) (scale : Int)
  | infinite (negative : Bool)
  | nan (negative signalling : Bool)
  deriving DecidableEq

namespace Decimal

def style : DecimalStyle where
  isPositional scale leading := scale ≤ 0 && -6 ≤ leading
  wholeEnding := []
  mark := 'E'
  powerWidth := 1

def text : Decimal → Text
  | .finite negative coefficient scale =>
    Integer.signed negative (style.text (Integer.naturalText coefficient) scale)
  | .infinite negative => Integer.signed negative "Infinity".toList
  | .nan negative signalling => Integer.signed negative (if signalling then "sNaN" else "NaN").toList

/-- A decimal as messages show it. -/
def shown (d : Decimal) : Text := "Decimal('".toList ++ d.text ++ "')".toList

/-- How many digits stand before the point; none or fewer for a number below one. -/
def wholeDigits (coefficient : Nat) (scale : Int) : Int :=
  if coefficient = 0 then 0 else Integer.digitCount coefficient + scale

/-- The whole part of `coefficient · 10 ^ scale`. -/
def floor (coefficient : Nat) (scale : Int) : Nat :=
  if wholeDigits coefficient scale ≤ 0 then 0
  else if 0 ≤ scale then coefficient * Nat.pow 10 scale.toNat
  else coefficient / Nat.pow 10 scale.natAbs

/-- The decimal that is exactly a binary number: a step, `2 ^ -1074`, is `5 ^ 1074 · 10 ^ -1074`. -/
def ofBinary64 : Binary64 → Decimal
  | .nan => .nan false false
  | .infinite negative => .infinite negative
  | .finite negative m => .finite negative (m.steps * Nat.pow 5 1074) (-1074)

/-- Whether two decimals are one number, however they are written.  What is no number equals nothing. -/
def equals : Decimal → Decimal → Bool
  | .finite negative c scale, .finite negative' c' scale' =>
    if c = 0 ∨ c' = 0 then c = c'
    else if negative ≠ negative' then false
    else if scale = scale' then c = c'
    else
      let digits := Integer.digitCount c
      let digits' := Integer.digitCount c'
      digits + scale = digits' + scale' && c * Nat.pow 10 (digits' - digits) = c' * Nat.pow 10 (digits - digits')
  | .infinite negative, .infinite negative' => negative = negative'
  | _, _ => false

example : (Decimal.finite true 470 (-2)).text = "-4.70".toList := by decide +kernel
example : (Decimal.finite false 1 3).text = "1E+3".toList := by decide +kernel
example : (Decimal.finite false 10 (-1)).equals (.finite false 1 0) := by decide +kernel

end Decimal

end SqlTemplate
