import SqlTemplate.Fault

/-!
# Escapes

An escape makes a text safe between quotes.  `backslashed` marks with a backslash what a server's string literals
treat specially; `doubled` writes a single quote twice, which is all that is special where the server takes the
backslash for an ordinary character.
-/

namespace SqlTemplate

/-- An escape may refuse a text. -/
abbrev Escape := Text → Except EscapeFailure Text

def backslashedChar (c : Char) : Text :=
  if c = '\x00' then ['\\', '0']
  else if c = '\n' then ['\\', 'n']
  else if c = '\r' then ['\\', 'r']
  else if c = '\x1a' then ['\\', 'Z']
  else if c = '"' ∨ c = '\'' ∨ c = '\\' then ['\\', c]
  else [c]

def backslashed (t : Text) : Text := t.flatMap backslashedChar

def doubledChar (c : Char) : Text := if c = '\'' then ['\'', '\''] else [c]

def doubled (t : Text) : Text := t.flatMap doubledChar

namespace Escape

/-- An escape that refuses nothing. -/
def always (f : Text → Text) : Escape := fun t => .ok (f t)

def backslash : Escape := always backslashed

def doubling : Escape := always doubled

end Escape

end SqlTemplate
