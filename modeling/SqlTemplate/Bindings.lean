import SqlTemplate.Text.Basic

/-!
# Bindings

Named values in the order in which the names came up, each name once.
-/

namespace SqlTemplate

abbrev Bindings (α : Type) := List (Text × α)

namespace Bindings

variable {α : Type}

def get? (bs : Bindings α) (name : Text) : Option α := (bs.find? fun b => b.1 = name).map Prod.snd

/-- Binds a name, in its place if it is bound already. -/
def set (bs : Bindings α) (name : Text) (value : α) : Bindings α :=
  if (bs.get? name).isSome then bs.map fun b => if b.1 = name then (name, value) else b
  else bs ++ [(name, value)]

/-- Binds all names of a list, the later ones over the earlier. -/
def setAll (bs : Bindings α) (values : List (Text × α)) : Bindings α :=
  values.foldl (fun acc b => acc.set b.1 b.2) bs

end Bindings

end SqlTemplate
