import SqlTemplate.Text.Printable

/-!
# Quoted texts

How messages show a text: between single quotes, or between double quotes if it holds a single quote and no
double quote.  The quote in use, the backslash and the line breaks are written with a backslash, and what is not
printable by its code point in two, four or eight hexadecimal digits.
-/

namespace SqlTemplate.Text

/-- A character by its code point. -/
def codePoint (c : Char) : Text :=
  let digits := Nat.toDigits 16 c.toNat
  if c.toNat ≤ 0xff then '\\' :: 'x' :: digits.leftpad 2 '0'
  else if c.toNat ≤ 0xffff then '\\' :: 'u' :: digits.leftpad 4 '0'
  else '\\' :: 'U' :: digits.leftpad 8 '0'

def shownChar (quote c : Char) : Text :=
  if c = quote ∨ c = '\\' then ['\\', c]
  else if c = '\n' then ['\\', 'n']
  else if c = '\r' then ['\\', 'r']
  else if c = '\t' then ['\\', 't']
  else if isPrintable c then [c]
  else codePoint c

/-- The quote that surrounds the text when it is shown. -/
def quoteFor (t : Text) : Char :=
  if '\'' ∈ t ∧ '"' ∉ t then '"' else '\''

def quoted (t : Text) : Text :=
  quoteFor t :: t.flatMap (shownChar (quoteFor t)) ++ [quoteFor t]

example : quoted ['i', 't', '\'', 's'] = ['"', 'i', 't', '\'', 's', '"'] := by decide +kernel

end SqlTemplate.Text
