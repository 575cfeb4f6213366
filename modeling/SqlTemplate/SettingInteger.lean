import SqlTemplate.Number.Integer
import SqlTemplate.Text.Blank

/-!
# Integers of settings

How the text of a setting writes an integer.  `plain?` reads the bare form, which is an optional minus and digits
without a zero in front, and `bare?` takes away what may stand around it: white space, a plus, zeros in front, a
fraction of zeros and single underscores.
-/

namespace SqlTemplate.SettingInteger

def splitMinus : Text → Bool × Text
  | '-' :: rest => (true, rest)
  | t => (false, t)

/-- Reads a minus or none, and digits of which the first is not zero unless it is the only one. -/
def plain? (t : Text) : Option Int :=
  let (negative, digits) := splitMinus t
  if digits = ['0'] ∨ Integer.isPositiveText digits then
    some (Integer.negateIf negative (Nat.ofDigitChars 10 digits 0))
  else none

/-- The sign that a text keeps in its bare form, and what stands behind the sign. -/
def splitSign : Text → Text × Text
  | '-' :: rest => (['-'], rest)
  | '+' :: rest => ([], rest)
  | t => ([], t)

/-- A zero in front is dropped with all zeros and underscores behind it, except for the last one of them where
nothing or a point follows.  A minus may follow as well as a digit. -/
def withoutLeadingZeros (t : Text) : Text :=
  let isFiller (c : Char) := c = '0' || c = '_'
  let rest := t.dropWhile isFiller
  if t.head? ≠ some '0' then t
  else if rest.isEmpty || rest.head? = some '.' then (t.takeWhile isFiller).getLast?.toList ++ rest
  else rest

/-- A point is dropped with the zeros behind it; there is at least one of them. -/
def withoutZeroFraction (t : Text) : Text :=
  let fraction := (t.dropWhile (· ≠ '.')).drop 1
  if !fraction.isEmpty && fraction.all (· = '0') then t.takeWhile (· ≠ '.') else t

/-- Underscores are dropped if each stands alone and between other characters. -/
def withoutUnderscores (t : Text) : Text :=
  let groups := t.splitOn '_'
  if groups.any List.isEmpty then t else groups.flatten

/-- The bare form of a text that has a digit in front or behind a sign in front.  The information separators are not
white space here. -/
def bare? (t : Text) : Option Text :=
  let (sign, unsigned) := splitSign (Text.trim (fun c => Text.isBlank c && !Text.isSeparator c) t)
  if unsigned.head?.any Char.isDigit then
    some (sign ++ withoutUnderscores (withoutZeroFraction (withoutLeadingZeros unsigned)))
  else none

/-- A text whose bare form, as far as it goes, has more digits than are read. -/
def isOverlong (t : Text) : Bool :=
  (bare? t).any fun bare => Integer.digitLimit < ((splitMinus bare).2.takeWhile Char.isDigit).length

def read? (t : Text) : Option Int := (bare? t).bind plain?

example : read? " 0_-1_2\t".toList = some (-12) ∧ read? "+0__7.00".toList = some 7 := by decide +kernel
example : read? "-01".toList = some (-1) ∧ read? "1.".toList = none ∧ read? "1__2".toList = none := by decide +kernel

end SqlTemplate.SettingInteger
