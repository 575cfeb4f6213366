import SqlTemplate.Number.Integer

/-!
# Decimal notation

Digits with a power of ten, `d₁d₂…dₙ · 10 ^ scale`, are written with a point among zeros (`0.00012`) or behind the
first digit with the power marked (`1.2e-04`).  A `DecimalStyle` says which, and how.
-/

namespace SqlTemplate

structure DecimalStyle where
  /-- Whether the point is put in place, given the scale and the power of the first digit. -/
  isPositional : (scale leading : Int) → Bool
  /-- Behind a whole number in place. -/
  wholeEnding : Text
  mark : Char
  /-- The fewest digits of a marked power. -/
  powerWidth : Nat

namespace DecimalStyle

/-- The power of ten that the first of the digits stands for. -/
def leadingPower (digits : Text) (scale : Int) : Int := scale + digits.length - 1

def positional (style : DecimalStyle) (digits : Text) (scale : Int) : Text :=
  if 0 ≤ scale then digits ++ List.replicate scale.toNat '0' ++ style.wholeEnding
  else if scale.natAbs < digits.length then
    digits.take (digits.length - scale.natAbs) ++ '.' :: digits.drop (digits.length - scale.natAbs)
  else '0' :: '.' :: digits.leftpad scale.natAbs '0'

def power (style : DecimalStyle) (n : Int) : Text :=
  style.mark :: (if n < 0 then '-' else '+') :: (Integer.naturalText n.natAbs).leftpad style.powerWidth '0'

def scientific (style : DecimalStyle) (digits : Text) (scale : Int) : Text :=
  let significant := match digits with
    | first :: second :: rest => first :: '.' :: second :: rest
    | _ => digits
  significant ++ style.power (leadingPower digits scale)

def text (style : DecimalStyle) (digits : Text) (scale : Int) : Text :=
  if style.isPositional scale (leadingPower digits scale) then style.positional digits scale
  else style.scientific digits scale

end DecimalStyle

end SqlTemplate
