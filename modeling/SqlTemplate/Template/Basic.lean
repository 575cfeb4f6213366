import SqlTemplate.Template.Braces
import SqlTemplate.Template.Placeholder

/-!
# Templates

A compiled template is a list of parts: text, placeholders, and conditional blocks, which hold text and placeholders
again.  A block is a pair of braces with no brace between them; any other brace is text.  Written one behind the other
the parts are the template (`Template.flatMap_source_parts`).
-/

namespace SqlTemplate

/-- A conditional block: the text between its braces, split, and the offset of the opening brace.  Offsets inside
count from the start of the body. -/
structure Block where
  body : Text
  segments : List Segment
  offset : Nat
  deriving DecidableEq

inductive Part
  | segment (s : Segment)
  | block (b : Block)
  deriving DecidableEq

structure Template where
  source : Text
  parts : List Part
  deriving DecidableEq

namespace Block

def kinds (b : Block) : List Kind := b.segments.filterMap Segment.kind?

/-- How many arguments the block takes up, whether it is dropped or not. -/
def size (b : Block) : Nat := b.kinds.length

/-- Finds the blocks of a text: what stands before the first one, and the body of each with what follows it.  From
the right, an opening brace takes the closing one that it meets as the next brace of the text in front. -/
def cut : Text → Text × List (Text × Text)
  | [] => ([], [])
  | c :: rest =>
    let (lead, blocks) := cut rest
    if c = '\x7b' then
      match lead.dropWhile (!isBrace ·) with
      | '\x7d' :: follow => ([], (lead.takeWhile (!isBrace ·), follow) :: blocks)
      | _ => (c :: lead, blocks)
    else (c :: lead, blocks)

/-- A cut text put together again. -/
def joined (lead : Text) (blocks : List (Text × Text)) : Text :=
  lead ++ blocks.flatMap fun b => '\x7b' :: b.1 ++ '\x7d' :: b.2

theorem joined_cut (t : Text) : joined (cut t).1 (cut t).2 = t := by
  fun_induction cut t with
  | case1 => rfl
  | case2 rest lead blocks hcut follow h ih =>
    rw [hcut] at ih
    rw [← ih]
    have hlead := List.takeWhile_append_dropWhile (p := (!isBrace ·)) (l := lead)
    rw [h] at hlead
    conv => rhs; rw [← hlead]
    simp [joined]
  | case3 _ _ _ hcut _ ih => rw [hcut] at ih; rw [← ih]; rfl
  | case4 _ _ _ _ hcut _ ih => rw [hcut] at ih; rw [← ih]; rfl

end Block

namespace Part

/-- The part as it is written in a template. -/
def source : Part → Text
  | .segment s => s.source
  | .block b => '\x7b' :: b.body ++ ['\x7d']

def kinds : Part → List Kind
  | .segment s => s.kind?.toList
  | .block b => b.kinds

/-- The parts of a cut text that starts at an offset. -/
def ofCut (offset : Nat) (lead : Text) : List (Text × Text) → List Part
  | [] => (Segment.split offset lead).map .segment
  | (body, follow) :: blocks =>
    let start := offset + lead.length
    (Segment.split offset lead).map .segment ++
      .block ⟨body, Segment.split 0 body, start⟩ :: ofCut (start + body.length + 2) follow blocks

theorem flatMap_source_ofCut (offset : Nat) (lead : Text) (blocks : List (Text × Text)) :
    (ofCut offset lead blocks).flatMap source = Block.joined lead blocks := by
  induction blocks generalizing offset lead with
  | nil => simp [ofCut, Block.joined, List.flatMap_map, source, Segment.flatMap_source_split]
  | cons b blocks ih => simp [ofCut, Block.joined, List.flatMap_map, source, Segment.flatMap_source_split, ih]

end Part

namespace Template

/-- The kinds of the placeholders in the order in which they take arguments. -/
def kinds (t : Template) : List Kind := t.parts.flatMap Part.kinds

def placeholderCount (t : Template) : Nat := t.kinds.length

/-- A text taken apart, whether its braces are in order or not. -/
def ofText (source : Text) : Template := ⟨source, Part.ofCut 0 (Block.cut source).1 (Block.cut source).2⟩

theorem flatMap_source_parts (t : Text) : (ofText t).parts.flatMap Part.source = t := by
  rw [ofText, Part.flatMap_source_ofCut, Block.joined_cut]

def compile (source : Text) : Except TemplateError Template := (validate source).map fun _ => ofText source

/-- The kinds of the placeholders of a text, if it is accepted. -/
def kindsOf (source : Text) : Except TemplateError (List Kind) := (compile source).map kinds

end Template

end SqlTemplate
