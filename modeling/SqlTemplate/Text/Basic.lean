/-!
# Texts

Templates, arguments and the SQL built from them are texts: lists of code points, so that lengths and offsets
count code points.
-/

namespace SqlTemplate

/-- A text, code point by code point. -/
abbrev Text := List Char

namespace Text

/-- Whether the code point of `c` lies in one of the ranges, whose ends belong to them. -/
def inRanges (ranges : List (Nat × Nat)) (c : Char) : Bool :=
  ranges.any fun range => range.1 ≤ c.toNat && c.toNat ≤ range.2

/-- Cuts the characters that pass a test off both ends. -/
def trim (outside : Char → Bool) (t : Text) : Text :=
  ((t.dropWhile outside).reverse.dropWhile outside).reverse

end Text

end SqlTemplate
