import Mathlib.Data.List.Flatten
import SqlTemplate.Proofs.Filling
import SqlTemplate.Proofs.Positional

/-!
# Holes

An argument reaches the SQL only through the escape or as text that the escape has no part in.  So the SQL of a
template is a row of pieces, fixed texts and holes, that is the same for all escapes that refuse nothing, and so are the
texts that they are called with (`Template.uniform_resolve`, `build_holes`).  `Kind.texts` and `Template.textsAt` say
which texts these are: those of the arguments formatted so far, also in blocks that are dropped.  Of these, all but the
texts of dropped blocks come into the SQL, each in one hole (`Template.holes_of_piecesAt`).
-/

namespace SqlTemplate

/-- The text of a piece, with what the escape makes of a hole. -/
def Piece.filled (f : Text → Text) : Piece → Text
  | .fixed t => t
  | .hole t => f t

def Piece.hole? : Piece → Option Text
  | .fixed _ => none
  | .hole t => some t

/-! ### Texts up to a stop -/

section TextsUntil

variable {α β : Type}

/-- The texts of the items in order, up to the first item that stops, whose texts belong to them. -/
def textsUntil (stops : α → Bool) (texts : α → List Text) : List α → List Text
  | [] => []
  | a :: rest => texts a ++ if stops a then [] else textsUntil stops texts rest

private theorem textsUntil_map (g : β → α) (stops : α → Bool) (texts : α → List Text) (items : List β) :
    textsUntil stops texts (items.map g) = textsUntil (fun b => stops (g b)) (fun b => texts (g b)) items := by
  induction items with
  | nil => rfl
  | cons b rest ih => rw [List.map_cons, textsUntil, textsUntil, ih]

private theorem textsUntil_of_forall {stops : α → Bool} {items : List α} (h : ∀ a ∈ items, stops a = false)
    (texts : α → List Text) : textsUntil stops texts items = items.flatMap texts := by
  induction items with
  | nil => rfl
  | cons a rest ih =>
    rw [List.forall_mem_cons] at h
    simp [textsUntil, h.1, ih h.2]

end TextsUntil

/-! ### Drafts -/

namespace Draft

def holes (d : Draft) : List Text := d.pieces.filterMap Piece.hole?

/-- The pieces of a draft that has no fault. -/
def pieces? (d : Draft) : Except Fault (List Piece) := d.fault.elim (.ok d.pieces) .error

private theorem holes_of_pieces? {d : Draft} {ps : List Piece} (h : d.pieces? = .ok ps) :
    ps.filterMap Piece.hole? = d.holes := by
  obtain ⟨qs, _ | f⟩ := d
  · cases h
    rfl
  · cases h

/-- An escape that refuses nothing is called with the text of each hole, and what it makes of them goes into the holes
if the draft has no fault. -/
private theorem fill_always (f : Text → Text) (d : Draft) :
    d.fill (.always f) = ⟨d.holes, d.pieces?.map (·.flatMap (Piece.filled f))⟩ := by
  obtain ⟨ps, fault⟩ := d
  unfold fill holes pieces?
  simp only
  induction ps with
  | nil => cases fault <;> rfl
  | cons p ps ih =>
    cases p with
    | fixed t =>
      rw [fillPieces, ih]
      cases fault <;> rfl
    | hole t =>
      simp only [fillPieces, Escape.always, ih]
      cases fault <;> rfl

private theorem holes_append (d e : Draft) : (d ++ e).holes = d.holes ++ if d.fault.isSome then [] else e.holes := by
  obtain ⟨ps, _ | f⟩ := d <;> simp [mk_none_append, mk_some_append, holes]

private theorem holes_commaSeparated (drafts : List Draft) :
    (commaSeparated drafts).holes = textsUntil (·.fault.isSome) holes drafts := by
  induction drafts with
  | nil => rfl
  | cons d rest ih =>
    rw [textsUntil, ← ih]
    cases rest with
    | nil => simp [commaSeparated, empty, holes]
    | cons e rest =>
      have hcomma : (fixed [',', ' '] ++ commaSeparated (e :: rest)).holes = (commaSeparated (e :: rest)).holes :=
        holes_append _ _
      rw [commaSeparated, holes_append, hcomma]
      simp

private theorem holes_ofExcept (r : Except Fault Text) : (ofExcept r).holes = [] := by
  cases r <;> rfl

end Draft

/-! ### The texts of a value -/

namespace Slot

def literalTexts : Value → List Text
  | .text t => [t]
  | _ => []

def nameTexts : Value → List Text
  | .text t => if isName t then [t] else []
  | _ => []

/-- The key comes before the item; a key that is no name keeps its item from being formatted. -/
def entryTexts (key item : Value) : List Text :=
  match key with
  | .int _ | .bool _ => literalTexts item
  | .text t =>
    if Integer.isCanonical t then literalTexts item
    else if isName t then t :: literalTexts item
    else []
  | _ => []

def arrayTexts : Value → List Text
  | .mapping _ entries =>
    textsUntil (fun e => (entry e.1 e.2).fault.isSome) (fun e => entryTexts e.1 e.2) entries
  | .sequence _ items => textsUntil (fun v => (literal v).fault.isSome) literalTexts items
  | _ => []

def identifierTexts : Value → List Text
  | .text t => nameTexts (.text t)
  | .mapping _ entries => textsUntil (fun e => (identifier e.2).fault.isSome) (fun e => nameTexts e.2) entries
  | .sequence _ items => textsUntil (fun v => (identifier v).fault.isSome) nameTexts items
  | _ => []

private theorem holes_literal (v : Value) : (literal v).holes = literalTexts v := by
  cases v with
  | int n => exact Draft.holes_ofExcept _
  | float x => cases x <;> rfl
  | decimal d => cases d <;> rfl
  | _ => rfl

private theorem holes_identifier (v : Value) : (identifier v).holes = nameTexts v := by
  cases v with
  | text t =>
    rw [identifier, nameTexts]
    split <;> rfl
  | _ => rfl

private theorem holes_entry (key item : Value) : (entry key item).holes = entryTexts key item := by
  cases key with
  | int n => exact holes_literal item
  | bool b => exact holes_literal item
  | text t =>
    rw [entry, entryTexts]
    by_cases hkey : Integer.isCanonical t
    · rw [if_pos hkey, if_pos hkey, holes_literal]
    · rw [if_neg hkey, if_neg hkey, Draft.holes_append, Draft.holes_append, Draft.fault_append, holes_identifier,
        holes_literal, nameTexts, identifier]
      by_cases hname : isName t
      · rw [if_pos hname, if_pos hname, if_pos hname]
        rfl
      · rw [if_neg hname, if_neg hname, if_neg hname]
        rfl
  | _ => rfl

private theorem holes_listing (l : Listing) (drafts : List Draft) :
    (listing l drafts).holes = textsUntil (·.fault.isSome) Draft.holes drafts := by
  cases drafts with
  | nil => rfl
  | cons d rest => exact Draft.holes_commaSeparated (d :: rest)

private theorem holes_array (v : Value) : (array v).holes = arrayTexts v := by
  cases v with
  | mapping form entries => simp only [array, arrayTexts, holes_listing, textsUntil_map, holes_entry]
  | sequence form items => simp only [array, arrayTexts, holes_listing, textsUntil_map, holes_literal]
  | _ => rfl

private theorem holes_identifiers (v : Value) : (identifiers v).holes = identifierTexts v := by
  cases v with
  | text t => exact holes_identifier (.text t)
  | mapping form entries => simp only [identifiers, identifierTexts, holes_listing, textsUntil_map, holes_identifier]
  | sequence form items => simp only [identifiers, identifierTexts, holes_listing, textsUntil_map, holes_identifier]
  | _ => rfl

end Slot

/-- The texts that an escape is called with for a value in a slot: the value itself if it is a text in a plain slot, the
named keys and the items of an array, and the names among identifiers, up to what does not fit. -/
def Kind.texts : Kind → Value → List Text
  | .plain, v => Slot.literalTexts v
  | .integer, _ | .float, _ => []
  | .array, v => Slot.arrayTexts v
  | .identifier, v => Slot.identifierTexts v

theorem Kind.holes_draft (kind : Kind) (v : Value) : (kind.draft v).holes = kind.texts v := by
  cases kind with
  | plain => exact Slot.holes_literal v
  | integer => exact Draft.holes_ofExcept _
  | float => exact Draft.holes_ofExcept _
  | array => exact Slot.holes_array v
  | identifier => exact Slot.holes_identifiers v

/-! ### The pieces of a template -/

def Segment.piecesAt (args : List Value) : Segment → Nat → Except Interruption (List Piece)
  | .text t, _ => .ok [.fixed t]
  | .placeholder kind _, i =>
    match args[i]? with
    | none => .error (.fault (.query (.missingArgument i args.length)))
    | some .skip => .error .skip
    | some v => (kind.draft v).pieces?.mapError .fault

/-- The texts of the argument of a segment, if it has one and that is formatted. -/
def Segment.textsAt (args : List Value) : Segment → Nat → List Text
  | .text _, _ => []
  | .placeholder kind _, i =>
    match args[i]? with
    | none | some .skip => []
    | some v => kind.texts v

/-- The pieces of the body of a block, unless one of its arguments has none. -/
def Block.piecesInside (args : List Value) (b : Block) (start : Nat) : Except Interruption (List Piece) :=
  inSequence ((placed Segment.width start b.segments).map fun p => p.1.piecesAt args p.2)

def Block.piecesAt (args : List Value) (b : Block) (start : Nat) : Except Fault (List Piece) :=
  match b.piecesInside args start with
  | .ok ps => .ok ps
  | .error .skip => .ok []
  | .error (.fault f) => .error f

/-- The texts of the arguments of a block that are formatted before one of them ends the work on it. -/
def Block.textsAt (args : List Value) (b : Block) (start : Nat) : List Text :=
  textsUntil (fun p => !(p.1.piecesAt args p.2).isOk) (fun p => p.1.textsAt args p.2)
    (placed Segment.width start b.segments)

def Part.piecesAt (args : List Value) : Part → Nat → Except Fault (List Piece)
  | .segment s, i => (s.piecesAt args i).mapError (Interruption.outsideBlock i)
  | .block b, i => b.piecesAt args i

def Part.textsAt (args : List Value) : Part → Nat → List Text
  | .segment s, i => s.textsAt args i
  | .block b, i => b.textsAt args i

def Template.piecesAt (args : List Value) (t : Template) : Except Fault (List Piece) :=
  inSequence ((placed Part.width 0 t.parts).map fun p => p.1.piecesAt args p.2)

/-- The texts of the arguments formatted up to the first part that has no SQL. -/
def Template.textsAt (args : List Value) (t : Template) : List Text :=
  textsUntil (fun p => !(p.1.piecesAt args p.2).isOk) (fun p => p.1.textsAt args p.2) (placed Part.width 0 t.parts)

/-! ### The texts put out -/

section Rows

variable {α ε : Type} {items : List α} {pieces : α → Except ε (List Piece)} {ps : List Piece}

/-- The holes of a row are those of its items. -/
private theorem holes_of_inSequence {texts : α → List Text}
    (hitems : ∀ a qs, pieces a = .ok qs → qs.filterMap Piece.hole? = texts a)
    (h : inSequence (items.map pieces) = .ok ps) : ps.filterMap Piece.hole? = items.flatMap texts := by
  have hrow : (items.flatMap fun a => (pieces a).toOption.getD []) = ps :=
    flatMap_eq_of_inSequence (fun a qs hqs => by rw [hqs]; rfl) h
  rw [← hrow, List.filterMap_flatMap]
  refine List.flatMap_congr fun a ha => ?_
  obtain ⟨qs, hqs⟩ := exists_eq_ok_of_inSequence h (List.mem_map_of_mem ha)
  rw [hqs]
  exact hitems a qs hqs

/-- In a row that has pieces, none of the items stops. -/
private theorem textsUntil_of_inSequence (h : inSequence (items.map pieces) = .ok ps) (texts : α → List Text) :
    textsUntil (fun a => !(pieces a).isOk) texts items = items.flatMap texts := by
  refine textsUntil_of_forall (fun a ha => ?_) texts
  obtain ⟨qs, hqs⟩ := exists_eq_ok_of_inSequence h (List.mem_map_of_mem ha)
  rw [hqs]
  rfl

end Rows

/-- Whether the segment takes the skip marker. -/
def Segment.takesSkip (args : List Value) : Segment → Nat → Bool
  | .text _, _ => false
  | .placeholder .., i =>
    match args[i]? with
    | some .skip => true
    | _ => false

/-- The texts of a block that come into the SQL: none if one of its placeholders takes the skip marker, and otherwise
those of all its arguments. -/
def Block.keptTextsAt (args : List Value) (b : Block) (start : Nat) : List Text :=
  let places := placed Segment.width start b.segments
  if places.any fun p => p.1.takesSkip args p.2 then [] else places.flatMap fun p => p.1.textsAt args p.2

def Part.keptTextsAt (args : List Value) : Part → Nat → List Text
  | .segment s, i => s.textsAt args i
  | .block b, i => b.keptTextsAt args i

/-- The texts of all arguments but those of blocks that are dropped. -/
def Template.keptTextsAt (args : List Value) (t : Template) : List Text :=
  (placed Part.width 0 t.parts).flatMap fun p => p.1.keptTextsAt args p.2

section Kept

variable {args : List Value} {ps : List Piece}

theorem Segment.holes_of_piecesAt {s : Segment} {i : Nat} (h : s.piecesAt args i = .ok ps) :
    ps.filterMap Piece.hole? = s.textsAt args i := by
  cases s with
  | text t =>
    cases h
    rfl
  | placeholder kind offset =>
    simp only [piecesAt] at h
    split at h
    · cases h
    · cases h
    · rename_i v hskip hv
      have htexts : (Segment.placeholder kind offset).textsAt args i = kind.texts v := by simp only [textsAt, hv]
      rw [htexts, Draft.holes_of_pieces? (Except.mapError_eq_ok_iff.1 h), Kind.holes_draft]

private theorem Segment.piecesAt_eq_skip_iff (s : Segment) (i : Nat) :
    s.piecesAt args i = .error .skip ↔ s.takesSkip args i = true := by
  cases s with
  | text t => simp [piecesAt, takesSkip]
  | placeholder kind offset =>
    rw [piecesAt, takesSkip]
    cases args[i]? with
    | none => simp
    | some v => cases v <;> simp [Interruption.mapError_fault_ne_skip]

/-- A block with pieces is kept, with all its texts, or dropped. -/
theorem Block.holes_of_piecesAt {b : Block} {start : Nat} (h : b.piecesAt args start = .ok ps) :
    ps.filterMap Piece.hole? = b.keptTextsAt args start ∧
      (b.keptTextsAt args start).Sublist (b.textsAt args start) := by
  rw [keptTextsAt, textsAt]
  cases hinside : b.piecesInside args start with
  | ok qs =>
    have hskips : ((placed Segment.width start b.segments).any fun p => p.1.takesSkip args p.2) = false := by
      rw [List.any_eq_false]
      intro p hp hskip
      -- a placeholder that takes the skip marker has no pieces
      obtain ⟨rs, hrs⟩ := exists_eq_ok_of_inSequence hinside (List.mem_map_of_mem hp)
      cases hrs.symm.trans ((p.1.piecesAt_eq_skip_iff p.2).2 hskip)
    simp only [piecesAt, hinside] at h
    obtain rfl := Except.ok.inj h
    rw [hskips, textsUntil_of_inSequence hinside]
    exact ⟨holes_of_inSequence (fun p _ => Segment.holes_of_piecesAt) hinside, .refl _⟩
  | error e =>
    cases e with
    | skip =>
      have hskips : ((placed Segment.width start b.segments).any fun p => p.1.takesSkip args p.2) = true := by
        obtain ⟨p, hp, hskip⟩ := List.mem_map.1 (mem_of_inSequence_eq_error hinside)
        exact List.any_eq_true.2 ⟨p, hp, (p.1.piecesAt_eq_skip_iff p.2).1 hskip⟩
      simp only [piecesAt, hinside] at h
      obtain rfl := Except.ok.inj h
      rw [hskips]
      exact ⟨rfl, List.nil_sublist _⟩
    | fault f => simp [piecesAt, hinside] at h

theorem Part.holes_of_piecesAt {p : Part} {i : Nat} (h : p.piecesAt args i = .ok ps) :
    ps.filterMap Piece.hole? = p.keptTextsAt args i ∧ (p.keptTextsAt args i).Sublist (p.textsAt args i) := by
  cases p with
  | block b => exact Block.holes_of_piecesAt h
  | segment s => exact ⟨Segment.holes_of_piecesAt (Except.mapError_eq_ok_iff.1 h), .refl _⟩

/-- Each text that is put out stands in a hole, and it is one that the escape is called with. -/
theorem Template.holes_of_piecesAt {t : Template} (h : t.piecesAt args = .ok ps) :
    ps.filterMap Piece.hole? = t.keptTextsAt args ∧ (t.keptTextsAt args).Sublist (t.textsAt args) := by
  refine ⟨holes_of_inSequence (fun p _ hp => (Part.holes_of_piecesAt hp).1) h, ?_⟩
  rw [keptTextsAt, textsAt, textsUntil_of_inSequence h]
  refine List.Sublist.flatMap_right _ fun p hp => ?_
  obtain ⟨qs, hqs⟩ := exists_eq_ok_of_inSequence h (List.mem_map_of_mem hp)
  exact (Part.holes_of_piecesAt hqs).2

end Kept

/-! ### One resolution for all escapes -/

namespace Resolution

variable {α ε : Type}

/-- Whatever escape is taken that refuses nothing, the outcome comes from the pieces, and the escape is called with
the texts. -/
structure Uniform (r : (Text → Text) → Resolution ε) (pieces : Except ε (List Piece)) (texts : List Text) : Prop where
  outcome : ∀ f, (r f).outcome = pieces.map (·.flatMap (Piece.filled f))
  escaped : ∀ f, (r f).escaped = texts

theorem Uniform.ofFilled (onFault : Fault → ε) (c : Cursor) (kind : Kind) (v : Value) :
    Uniform (fun f => ofFilled onFault c (kind.format v (.always f))) ((kind.draft v).pieces?.mapError onFault)
      (kind.texts v) := by
  constructor
  · intro f
    rw [Resolution.ofFilled, Kind.format, Draft.fill_always]
    cases (kind.draft v).pieces? <;> rfl
  · intro f
    rw [Resolution.ofFilled, Kind.format, Draft.fill_always, Kind.holes_draft]

theorem Uniform.stopped (c : Cursor) (e : ε) : Uniform (fun _ => stopped c e) (.error e) [] :=
  ⟨fun _ => rfl, fun _ => rfl⟩

/-- What follows counts only where the first resolution has pieces. -/
theorem Uniform.andThen {r : (Text → Text) → Resolution ε} {next : (Text → Text) → Cursor → Resolution ε}
    {pieces pieces' : Except ε (List Piece)} {texts texts' : List Text} (hr : Uniform r pieces texts)
    (hnext : ∀ ps, pieces = .ok ps → Uniform (fun f => next f (r f).cursor) pieces' texts') :
    Uniform (fun f => (r f).andThen (next f)) (pieces.bind fun ps => pieces'.map (ps ++ ·))
      (texts ++ if !pieces.isOk then [] else texts') := by
  cases pieces with
  | error e =>
    -- nothing is called behind an error, whatever the escape is
    have hstay : ∀ f, (r f).andThen (next f) = r f := fun f => andThen_of_error (hr.outcome f) (next f)
    constructor
    · intro f
      rw [hstay]
      exact hr.outcome f
    · intro f
      rw [hstay, hr.escaped]
      exact (List.append_nil texts).symm
  | ok ps =>
    obtain ⟨houtcome', hescaped'⟩ := hnext ps rfl
    constructor
    · intro f
      rw [outcome_andThen, hr.outcome f]
      show (next f (r f).cursor).outcome.map (ps.flatMap (Piece.filled f) ++ ·) =
        (pieces'.map (ps ++ ·)).map (·.flatMap (Piece.filled f))
      rw [houtcome' f]
      cases pieces' with
      | error e => rfl
      | ok qs => exact congrArg Except.ok List.flatMap_append.symm
    · intro f
      have houtcome : (r f).outcome = .ok (ps.flatMap (Piece.filled f)) := hr.outcome f
      simp only [Resolution.andThen, houtcome, hr.escaped f, hescaped' f]
      rfl

theorem Uniform.inOrder {resolve : (Text → Text) → α → Cursor → Resolution ε} {width : α → Nat} {args : List Value}
    {pieces : α → Nat → Except ε (List Piece)} {texts : α → Nat → List Text}
    (hwidth : ∀ f, Advances (resolve f) width)
    (h : ∀ a i, Uniform (fun f => resolve f a ⟨args, i⟩) (pieces a i) (texts a i)) (items : List α) (start : Nat) :
    Uniform (fun f => Resolution.inOrder (resolve f) items ⟨args, start⟩)
      (inSequence ((placed width start items).map fun p => pieces p.1 p.2))
      (textsUntil (fun p => !(pieces p.1 p.2).isOk) (fun p => texts p.1 p.2) (placed width start items)) := by
  induction items generalizing start with
  | nil => exact ⟨fun f => rfl, fun f => rfl⟩
  | cons a rest ih =>
    rw [placed_cons, List.map_cons, inSequence_cons]
    refine (h a start).andThen fun ps hps => ?_
    have hcursor : ∀ f, (resolve f a ⟨args, start⟩).cursor = ⟨args, start + width a⟩ := by
      intro f
      refine hwidth f a _ (ps.flatMap (Piece.filled f)) ?_
      rw [(h a start).outcome f, hps]
      rfl
    simp only [hcursor]
    exact ih (start + width a)

end Resolution

open Resolution

private theorem uniform_written {ε : Type} (c : Cursor) (t : Text) :
    Uniform (ε := ε) (fun _ => written c t) (.ok [.fixed t]) [] :=
  ⟨fun f => by simp [written, Except.map, Piece.filled], fun _ => rfl⟩

theorem Segment.uniform_resolve (args : List Value) (s : Segment) (i : Nat) :
    Uniform (fun f => s.resolve (.always f) ⟨args, i⟩) (s.piecesAt args i) (s.textsAt args i) := by
  cases s with
  | text t => exact uniform_written _ t
  | placeholder kind offset =>
    simp only [resolve_placeholder, piecesAt, textsAt]
    cases args[i]? with
    | none => exact .stopped _ _
    | some v =>
      cases v with
      | skip => exact .stopped _ _
      | _ => exact .ofFilled _ _ kind _

/-- A block keeps the texts of its body, also where it is dropped. -/
theorem Block.uniform_resolve (args : List Value) (b : Block) (start : Nat) :
    Uniform (fun f => b.resolve (.always f) ⟨args, start⟩) (b.piecesAt args start) (b.textsAt args start) := by
  have hinner : Uniform (fun f => inOrder (Segment.resolve (.always f)) b.segments ⟨args, start⟩)
      (b.piecesInside args start) (b.textsAt args start) :=
    .inOrder (fun f => Segment.advances_resolve (.always f)) (Segment.uniform_resolve args) b.segments start
  constructor
  · intro f
    have houtcome := hinner.outcome f
    unfold Block.resolve Block.piecesAt
    rcases hpieces : b.piecesInside args start with (_ | e) | ps <;> simp_all [Except.map]
  · intro f
    have houtcome := hinner.outcome f
    have hescaped := hinner.escaped f
    unfold Block.resolve
    rcases hpieces : b.piecesInside args start with (_ | e) | ps <;> simp_all [Except.map]

theorem Part.uniform_resolve (args : List Value) (p : Part) (i : Nat) :
    Uniform (fun f => p.resolve (.always f) ⟨args, i⟩) (p.piecesAt args i) (p.textsAt args i) := by
  cases p with
  | block b => exact b.uniform_resolve args i
  | segment s =>
    cases s with
    | text t => exact uniform_written _ t
    | placeholder kind offset =>
      have hfault : ∀ pieces : Except Fault (List Piece),
          (pieces.mapError Interruption.fault).mapError (Interruption.outsideBlock i) = pieces.mapError id := by
        intro pieces
        cases pieces <;> rfl
      simp only [resolve_placeholder, piecesAt, textsAt, Segment.piecesAt, Segment.textsAt]
      cases args[i]? with
      | none => exact .stopped _ _
      | some v =>
        cases v with
        | skip => exact .stopped _ _
        | _ =>
          simp only [hfault]
          exact .ofFilled id _ kind _

theorem Template.uniform_resolve (args : List Value) (t : Template) :
    Uniform (fun f => t.resolve (.always f) (.start args)) (t.piecesAt args) (t.textsAt args) :=
  .inOrder (fun f => Part.advances_resolve (.always f)) (Part.uniform_resolve args) t.parts 0

theorem Template.escaped_render (args : List Value) (escape : Escape) (t : Template) :
    (t.render args escape).escaped = (t.resolve escape (.start args)).escaped := by
  unfold render
  cases h : (t.resolve escape (.start args)).outcome <;> simp only [h]

/-- For all escapes that refuse nothing the SQL is the pieces of the template with the escaped texts in the holes, or
the error is the same; and they are called with the same texts in the same order, those of the arguments formatted so
far.  The holes are for the texts among these that belong to no dropped block, one for each of them. -/
theorem build_holes {source : Text} {t : Template} {args : Value} {items : List Value}
    (ht : Template.compile source = .ok t) (hitems : args.items? = some items) :
    ((∃ pieces : List Piece, t.piecesAt items = .ok pieces ∧
        (∀ f, (build source args (.always f)).outcome = .ok (pieces.flatMap (Piece.filled f))) ∧
        pieces.filterMap Piece.hole? = t.keptTextsAt items ∧ (t.keptTextsAt items).Sublist (t.textsAt items)) ∨
      ∃ e, t.piecesAt items = .error e ∧ ∀ f, (build source args (.always f)).outcome = .error e) ∧
    ∀ f, (build source args (.always f)).escaped = t.textsAt items := by
  have hbuild : ∀ escape, build source args escape = t.render items escape := build_eq_render ht hitems
  obtain ⟨houtcome, hescaped⟩ := t.uniform_resolve items
  simp only [hbuild, Template.outcome_render, Template.escaped_render, ← Template.outcome_resolve]
  refine ⟨?_, hescaped⟩
  cases hpieces : t.piecesAt items with
  | ok pieces =>
    obtain ⟨hholes, hkept⟩ := Template.holes_of_piecesAt hpieces
    refine .inl ⟨pieces, rfl, fun f => ?_, hholes, hkept⟩
    rw [houtcome f, hpieces]
    rfl
  | error e =>
    refine .inr ⟨e, rfl, fun f => ?_⟩
    rw [houtcome f, hpieces]
    rfl

/-- The name in a block that is dropped behind it is escaped, but has no hole; and the first item of an array is escaped
whose second one does not fit. -/
theorem build_holes_dropped :
    (∃ pieces : List Piece, pieces.filterMap Piece.hole? = [['k'], "it's".toList, ['x']] ∧
      ∀ f, ∃ log, build "?a\x7b ?# = ?\x7d?".toList
        (.sequence .list [.mapping .plain [(.text ['k'], .text "it's".toList)], .text ['n'], .skip, .text ['x']])
        (.always f) = ⟨log, [['k'], "it's".toList, ['n'], ['x']], .ok (pieces.flatMap (Piece.filled f))⟩) ∧
    ∃ e, ∀ f, ∃ log, build "?a?".toList
      (.sequence .list [.sequence .list [.text ['a'], .skip, .text ['b']], .text ['c']]) (.always f) =
        ⟨log, [['a']], .error e⟩ := by
  have hcompile : ∀ source ∈ ["?a\x7b ?# = ?\x7d?".toList, "?a?".toList],
      Template.compile source = .ok (.ofText source) := by
    decide +kernel
  constructor
  · have hitems : (Value.sequence .list [.mapping .plain [(.text ['k'], .text "it's".toList)], .text ['n'], .skip,
        .text ['x']]).items? = some _ := rfl
    obtain ⟨⟨pieces, -, hpieces, hholes, -⟩ | ⟨e, -, he⟩, hescaped⟩ :=
      build_holes (hcompile "?a\x7b ?# = ?\x7d?".toList (by simp)) hitems
    · refine ⟨pieces, hholes.trans ?_,
        fun f => ⟨_, congrArg₂ (Report.mk _) ((hescaped f).trans ?_) (hpieces f)⟩⟩
      · decide +kernel
      · decide +kernel
    · -- with the escape that changes nothing the build succeeds
      cases (he id).symm.trans (by decide +kernel : _ = Except.ok "`k` = 'it's''x'".toList)
  · have hitems : (Value.sequence .list [.sequence .list [.text ['a'], .skip, .text ['b']], .text ['c']]).items? =
        some _ := rfl
    obtain ⟨⟨pieces, -, hpieces, -⟩ | ⟨e, -, he⟩, hescaped⟩ := build_holes (hcompile "?a?".toList (by simp)) hitems
    · cases (hpieces id).symm.trans (by decide +kernel : _ = Except.error (.query (.unsupportedType "_SkipMarker")))
    · refine ⟨e, fun f => ⟨_, congrArg₂ (Report.mk _) ((hescaped f).trans ?_) (he f)⟩⟩
      decide +kernel

end SqlTemplate
