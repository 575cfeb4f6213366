import SqlTemplate.Fault

/-!
# Braces

Conditional blocks are written in braces, one level deep.  `validate` refuses a template that holds a block with
another block in its body, and one in which the braces of the two kinds differ in number.
-/

namespace SqlTemplate

def isBrace (c : Char) : Bool := c == '\x7b' || c == '\x7d'

/-- The text behind the next brace if that is `brace`. -/
def pastBrace? (brace : Char) (t : Text) : Option Text :=
  match t.dropWhile (!isBrace ·) with
  | [] => none
  | c :: rest => if c = brace then some rest else none

/-- Whether a text starts with a block in whose body there is exactly one more block. -/
def startsNested (t : Text) : Bool :=
  match t with
  | '\x7b' :: rest =>
    ((pastBrace? '\x7b' rest).bind (pastBrace? '\x7d') |>.bind (pastBrace? '\x7d')).isSome
  | _ => false

def hasNestedBlock : Text → Bool
  | [] => false
  | c :: rest => startsNested (c :: rest) || hasNestedBlock rest

namespace Template

def validate (source : Text) : Except TemplateError Unit :=
  if hasNestedBlock source then .error .nestedBlock
  else if source.count '\x7b' ≠ source.count '\x7d' then
    .error (.unbalancedBlocks (source.count '\x7b') (source.count '\x7d'))
  else .ok ()

def isValid (source : Text) : Bool := (validate source).isOk

end Template

end SqlTemplate
