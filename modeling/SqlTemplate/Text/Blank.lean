import SqlTemplate.Text.Basic

/-!
# White space

`isBlank` is white space of every script, as Unicode lists it.  The four information separators among it may
stand before a number in running text, but no reader of numbers takes them: `isSeparator`.
-/

namespace SqlTemplate.Text

def blankRanges : List (Nat × Nat) :=
  [(0x20, 0x20), (0x09, 0x0d), (0x1c, 0x1f), (0x85, 0x85), (0xa0, 0xa0), (0x1680, 0x1680), (0x2000, 0x200a),
   (0x2028, 0x2029), (0x202f, 0x202f), (0x205f, 0x205f), (0x3000, 0x3000)]

def isBlank (c : Char) : Bool := inRanges blankRanges c

/-- The file, group, record and unit separators. -/
def isSeparator (c : Char) : Bool := 0x1c ≤ c.toNat && c.toNat ≤ 0x1f

end SqlTemplate.Text
