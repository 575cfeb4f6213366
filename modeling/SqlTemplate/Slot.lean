import SqlTemplate.Slot.Literal
import SqlTemplate.Template.Placeholder

/-!
# Slots

What a placeholder of each kind makes of a value: first a draft, then the SQL.
-/

namespace SqlTemplate

def Kind.draft : Kind → Value → Draft
  | .plain, v => Slot.literal v
  | .integer, v => .ofExcept (Slot.integer v)
  | .float, v => .ofExcept (Slot.float v)
  | .array, v => Slot.array v
  | .identifier, v => Slot.identifiers v

def Kind.format (kind : Kind) (v : Value) (escape : Escape) : Filled := (kind.draft v).fill escape

end SqlTemplate
