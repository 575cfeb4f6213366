import SqlTemplate.Text.Quoted

/-!
# Placeholders

A placeholder is a `?`, or a `?` with one of the letters that say what it takes.  `Segment.split` finds the
placeholders of a text with their offsets; what is between them stays text, and nothing is lost
(`flatMap_source_split`).
-/

namespace SqlTemplate

inductive Kind
  | plain
  | integer
  | float
  | array
  | identifier
  deriving DecidableEq

namespace Kind

/-- The kind that a letter behind the question mark stands for. -/
def ofSpecifier? : Char → Option Kind
  | 'd' => some .integer
  | 'f' => some .float
  | 'a' => some .array
  | '#' => some .identifier
  | _ => none

def token : Kind → Text
  | .plain => ['?']
  | .integer => ['?', 'd']
  | .float => ['?', 'f']
  | .array => ['?', 'a']
  | .identifier => ['?', '#']

def ofToken? : Text → Option Kind
  | ['?'] => some .plain
  | ['?', c] => ofSpecifier? c
  | _ => none

/-- Each kind has one token. -/
theorem ofToken?_eq_some_iff {t : Text} {k : Kind} : ofToken? t = some k ↔ k.token = t := by
  constructor
  · intro h
    unfold ofToken? ofSpecifier? at h
    split at h
    · cases h
      rfl
    · split at h
      all_goals cases h
      all_goals rfl
    · cases h
  · rintro rfl
    cases k <;> rfl

theorem token_of_ofSpecifier? {c : Char} {k : Kind} (h : ofSpecifier? c = some k) : k.token = ['?', c] :=
  ofToken?_eq_some_iff.1 h

/-- Why a text names no kind. -/
def unknownMessage (t : Text) : String := String.ofList t.quoted ++ " is not a valid PlaceholderKind"

end Kind

/-- Text, or a placeholder with the offset of its `?`. -/
inductive Segment
  | text (t : Text)
  | placeholder (kind : Kind) (offset : Nat)
  deriving DecidableEq

namespace Segment

/-- The segment as it is written in a template. -/
def source : Segment → Text
  | .text t => t
  | .placeholder kind _ => kind.token

def kind? : Segment → Option Kind
  | .text _ => none
  | .placeholder kind _ => some kind

/-- Puts a character in front of segments, into their first text if they start with one. -/
def prependChar (c : Char) : List Segment → List Segment
  | .text t :: rest => .text (c :: t) :: rest
  | segments => .text [c] :: segments

/-- The segments of a text that starts at an offset. -/
def split (offset : Nat) : Text → List Segment
  | [] => []
  | '?' :: c :: rest =>
    match Kind.ofSpecifier? c with
    | some kind => .placeholder kind offset :: split (offset + 2) rest
    | none => .placeholder .plain offset :: split (offset + 1) (c :: rest)
  | ['?'] => [.placeholder .plain offset]
  | c :: rest => prependChar c (split (offset + 1) rest)

private theorem flatMap_source_prependChar (c : Char) (segments : List Segment) :
    (prependChar c segments).flatMap source = c :: segments.flatMap source := by
  cases segments with
  | nil => rfl
  | cons s rest => cases s <;> simp [prependChar, source]

theorem flatMap_source_split (offset : Nat) (t : Text) : (split offset t).flatMap source = t := by
  fun_induction split offset t with
  | case1 => rfl
  | case2 _ c rest kind h ih => simp [source, ih, Kind.token_of_ofSpecifier? h]
  | case3 _ c rest h ih => simp [source, ih, Kind.token]
  | case4 => rfl
  | case5 _ c rest _ _ ih => rw [flatMap_source_prependChar, ih]

end Segment

end SqlTemplate
