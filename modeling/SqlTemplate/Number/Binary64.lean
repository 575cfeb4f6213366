import SqlTemplate.Text.Basic

/-!
# Binary floating point

The 64-bit binary numbers.  A finite one is a sign and a whole number of steps of `2 ^ -1074`, of which at most 53
bits are significant.  `Magnitude.nearest?` rounds an exact quotient to the nearest one, a tie to the even
mantissa, and has no answer from half a step past the largest one on.
-/

namespace SqlTemplate

namespace Binary64

/-- The number of smallest steps in one. -/
def stepsPerUnit : Nat := Nat.pow 2 1074

def mantissaBits : Nat := 53

/-- The mantissas are below this. -/
def mantissaLimit : Nat := Nat.pow 2 mantissaBits

/-- The least mantissa of full width. -/
def fullMantissa : Nat := Nat.pow 2 (mantissaBits - 1)

def maxScale : Nat := 2045

/-- `mantissa · 2 ^ scale` steps, in the only way that uses the mantissa's width as far as there is a scale. -/
structure Magnitude where
  mantissa : Nat
  scale : Nat
  canonical : mantissa < mantissaLimit ∧ (scale = 0 ∨ fullMantissa ≤ mantissa) ∧ scale ≤ maxScale
  deriving DecidableEq

end Binary64

inductive Binary64
  | nan
  | infinite (negative : Bool)
  | finite (negative : Bool) (magnitude : Binary64.Magnitude)
  deriving DecidableEq

namespace Binary64

/-- The quotient rounded to a whole number, halves to the even one. -/
def roundedQuotient (num den : Nat) : Nat :=
  let floor := num / den
  let rest := num % den
  if 2 * rest < den ∨ (2 * rest = den ∧ floor % 2 = 0) then floor else floor + 1

namespace Magnitude

def zero : Magnitude := ⟨0, 0, by decide⟩

def ofParts? (mantissa scale : Nat) : Option Magnitude :=
  if h : mantissa < mantissaLimit ∧ (scale = 0 ∨ fullMantissa ≤ mantissa) ∧ scale ≤ maxScale then
    some ⟨mantissa, scale, h⟩
  else none

def steps (m : Magnitude) : Nat := m.mantissa * Nat.pow 2 m.scale

/-- The magnitude nearest to `num / den`, unless that is beyond the largest. -/
def nearest? (num den : Nat) : Option Magnitude :=
  let scaled := num * stepsPerUnit
  let scale := (scaled / den).log2 + 1 - mantissaBits
  let mantissa := roundedQuotient scaled (den * Nat.pow 2 scale)
  if mantissa = mantissaLimit then ofParts? fullMantissa (scale + 1) else ofParts? mantissa scale

/-- The magnitude nearest to `coefficient · 10 ^ scale`.  Powers of ten that could only give zero or overflow are
not computed. -/
def ofDecimal? (coefficient : Nat) (scale : Int) : Option Magnitude :=
  if coefficient = 0 then some zero
  else if 400 < scale then none
  else if 0 ≤ scale then nearest? (coefficient * Nat.pow 10 scale.toNat) 1
  else if coefficient.log2 + 1101 < 3 * scale.natAbs then some zero
  else nearest? coefficient (Nat.pow 10 scale.natAbs)

/-- The whole part. -/
def floor (m : Magnitude) : Nat := m.steps / stepsPerUnit

def isWhole (m : Magnitude) : Bool := m.steps % stepsPerUnit = 0

end Magnitude

def ofMagnitude? (negative : Bool) (magnitude : Option Magnitude) : Binary64 :=
  match magnitude with
  | some m => .finite negative m
  | none => .infinite negative

/-- The number nearest to `coefficient · 10 ^ scale` with the sign given. -/
def ofDecimal (negative : Bool) (coefficient : Nat) (scale : Int) : Binary64 :=
  ofMagnitude? negative (Magnitude.ofDecimal? coefficient scale)

def ofInt (n : Int) : Binary64 :=
  ofMagnitude? (n < 0) (Magnitude.nearest? n.natAbs 1)

end Binary64

end SqlTemplate
