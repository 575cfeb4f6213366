import SqlTemplate.Database
import SqlTemplate.Proofs.QuoteState

/-!
# String literals

A server reads a string literal from its opening quote up to the first quote that is neither doubled nor, where the
backslash is special, marked by one.  It reads an escaped text as the text itself, and no further
(`ServerMode.readInside_escaped`).  So what a database puts in for a text is one complete literal of that text, in
the mode of the server that it is connected to (`Database.literal_readBack`).
-/

namespace SqlTemplate

/-- What a character behind a backslash stands for; the wildcards of patterns keep the backslash. -/
def unescaped : Char → Text
  | '0' => ['\x00']
  | 'b' => ['\x08']
  | 'n' => ['\n']
  | 'r' => ['\r']
  | 't' => ['\t']
  | 'Z' => ['\x1a']
  | '%' => ['\\', '%']
  | '_' => ['\\', '_']
  | c => [c]

namespace ServerMode

/-- The mode of a server by its status. -/
def ofStatus (noBackslashEscapes : Bool) : ServerMode :=
  if noBackslashEscapes then .noBackslashEscapes else .backslashEscapes

/-- The value of a string literal from behind its opening quote, and the text behind its closing quote. -/
def readInside (mode : ServerMode) : Text → Option (Text × Text)
  | [] => none
  | '\'' :: '\'' :: rest => (readInside mode rest).map fun r => ('\'' :: r.1, r.2)
  | '\'' :: rest => some ([], rest)
  | '\\' :: c :: rest =>
    match mode with
    | .backslashEscapes => (readInside mode rest).map fun r => (unescaped c ++ r.1, r.2)
    | .noBackslashEscapes => (readInside mode (c :: rest)).map fun r => ('\\' :: r.1, r.2)
  | c :: rest => (readInside mode rest).map fun r => (c :: r.1, r.2)

def readLiteral (mode : ServerMode) : Text → Option (Text × Text)
  | '\'' :: rest => mode.readInside rest
  | _ => none

def escapedChar : ServerMode → Char → Text
  | .backslashEscapes => backslashedChar
  | .noBackslashEscapes => doubledChar

theorem escape_eq (mode : ServerMode) (t : Text) : mode.escape t = .ok (t.flatMap mode.escapedChar) := by
  cases mode <;> rfl

/-- A quote with no other one behind it ends the literal. -/
private theorem readInside_close (mode : ServerMode) {rest : Text} (h : rest.head? ≠ some '\'') :
    mode.readInside ('\'' :: rest) = some ([], rest) := by
  cases rest with
  | nil => rfl
  | cons c rest =>
    have hc : c ≠ '\'' := fun hc => h (by rw [hc]; rfl)
    rw [readInside]
    simpa using hc

/-- A character that is no quote, nor a special backslash, stands for itself. -/
private theorem readInside_cons {mode : ServerMode} {c : Char} (hquote : c ≠ '\'')
    (hslash : mode = .backslashEscapes → c ≠ '\\') (rest : Text) :
    mode.readInside (c :: rest) = (mode.readInside rest).map fun r => (c :: r.1, r.2) := by
  by_cases hc : c = '\\'
  · subst hc
    cases mode with
    | backslashEscapes => exact absurd rfl (hslash rfl)
    | noBackslashEscapes => cases rest <;> rfl
  · rw [readInside]
    all_goals simp_all

/-- An escaped character is read as the character. -/
private theorem readInside_escapedChar (mode : ServerMode) (c : Char) (rest : Text) :
    mode.readInside (mode.escapedChar c ++ rest) = (mode.readInside rest).map fun r => (c :: r.1, r.2) := by
  cases mode with
  | backslashEscapes =>
    simp only [escapedChar, backslashedChar]
    split_ifs with h0 h1 h2 h3 h4
    · subst h0; rfl
    · subst h1; rfl
    · subst h2; rfl
    · subst h3; rfl
    · rcases h4 with rfl | rfl | rfl <;> rfl
    · have hquote : c ≠ '\'' := fun h => h4 (.inr (.inl h))
      have hslash : c ≠ '\\' := fun h => h4 (.inr (.inr h))
      exact readInside_cons hquote (fun _ => hslash) rest
  | noBackslashEscapes =>
    simp only [escapedChar, doubledChar]
    split_ifs with h
    · subst h; rfl
    · exact readInside_cons h (fun hmode => by cases hmode) rest

/-- An escaped text is read as the text, up to the quote behind it. -/
theorem readInside_escaped (mode : ServerMode) (t : Text) {rest : Text} (h : rest.head? ≠ some '\'') :
    mode.readInside (t.flatMap mode.escapedChar ++ '\'' :: rest) = some (t, rest) := by
  induction t with
  | nil => exact mode.readInside_close h
  | cons c t ih =>
    rw [List.flatMap_cons, List.append_assoc, readInside_escapedChar, ih]
    rfl

end ServerMode

/-- The modes disagree where the literal ends. -/
example : ServerMode.noBackslashEscapes.readLiteral "'a\\' 'b'".toList = some ("a\\".toList, " 'b'".toList) ∧
    ServerMode.backslashEscapes.readLiteral "'a\\' 'b'".toList = some ("a' ".toList, "b'".toList) := by
  decide +kernel

/-! ### Texts in plain slots -/

theorem Kind.format_plain_text {escape : Escape} {v s : Text} (hs : escape v = .ok s) :
    Kind.plain.format (.text v) escape = ⟨[v], .ok ('\'' :: (s ++ ['\'']))⟩ := by
  rw [Kind.format, Kind.draft, Slot.literal, Draft.fill_append, Draft.fill_append, Draft.fill_fixed,
    Draft.fill_hole hs]
  rfl

namespace Database

/-- For the text `v` the database puts one literal into every plain slot, and a server in the mode reads this as `v`,
from its first character to its last. -/
def ReadsBack (db : Database) (mode : ServerMode) (v : Text) : Prop :=
  ∃ literal, (db.build ['?'] (.sequence .list [.text v])).outcome = .ok literal ∧
    (∀ (args : List Value) i offset, args[i]? = some (.text v) →
      (Segment.placeholder .plain offset).textAt args db.escape i = .ok literal) ∧
    mode.readLiteral literal = some (v, [])

theorem readsBack_of_escape {db : Database} {mode : ServerMode} (h : db.escape = mode.escape) (v : Text) :
    db.ReadsBack mode v := by
  have hslot : ∀ (args : List Value) i offset, args[i]? = some (.text v) →
      (Segment.placeholder .plain offset).textAt args db.escape i =
        .ok ('\'' :: (v.flatMap mode.escapedChar ++ ['\''])) := by
    intro args i offset hv
    rw [Segment.textAt, hv, h]
    simp only [Kind.format_plain_text (mode.escape_eq v)]
    rfl
  have hcompile : Template.compile ['?'] = .ok ⟨['?'], [.segment (.placeholder .plain 0)]⟩ := rfl
  have hitems : (Value.sequence .list [.text v]).items? = some [.text v] := rfl
  refine ⟨_, ?_, hslot, mode.readInside_escaped v (by simp)⟩
  rw [build, outcome_build hcompile hitems]
  simp [Template.textAt, Part.textAt, hslot [.text v] 0 0 rfl, Except.mapError, Except.map]

/-- The literal of every text is read back from its first character to its last, by a server of either status through a
connection to it, and by one for which the backslash is special through no connection. -/
theorem literal_readBack (v : Text) :
    (∀ noBackslashEscapes, ∃ db, ofConnection (some (.mysql noBackslashEscapes)) none = .ok db ∧
      db.ReadsBack (.ofStatus noBackslashEscapes) v) ∧
    ∃ db, ofConnection none none = .ok db ∧ db.ReadsBack .backslashEscapes v := by
  refine ⟨?_, _, rfl, readsBack_of_escape rfl v⟩
  intro noBackslashEscapes
  refine ⟨_, rfl, readsBack_of_escape ?_ v⟩
  cases noBackslashEscapes <;> rfl

end Database

end SqlTemplate
