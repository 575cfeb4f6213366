import SqlTemplate.Proofs.ArrayEntries
import SqlTemplate.Proofs.NumberLimits

/-!
# Values without a text

A value that a placeholder does not take is refused with a `QueryError`.  What goes wrong otherwise is that a number
cannot be read or written: `Unwritable` lists the values with which that happens, and `Kind.fault_draft_iff` says that
it happens with no other.
-/

namespace SqlTemplate

def Fault.isQuery : Fault → Bool
  | .query _ => true
  | _ => false

/-- The values that a placeholder has no text for although they are of a type that it takes, with what goes wrong. -/
inductive Unwritable : Kind → Value → Fault → Prop
  | digits {kind : Kind} {n : Int} (hkind : kind = .plain ∨ kind = .integer) (hn : 10 ^ Integer.digitLimit ≤ n.natAbs) :
    Unwritable kind (.int n) .tooManyDigits
  | whole {negative : Bool} {coefficient : Nat} {scale : Int}
    (hfloor : 10 ^ Integer.digitLimit ≤ Decimal.floor coefficient scale) :
    Unwritable .integer (.decimal (.finite negative coefficient scale)) .tooManyDigits
  | overflow {n : Int} (hn : Binary64.overflowBound ≤ n.natAbs) : Unwritable .float (.int n) .integerTooLarge
  | signalling {negative : Bool} : Unwritable .float (.decimal (.nan negative true)) .signallingNaN
  | separator {kind : Kind} {t : Text} {n : Numeral} (hkind : kind = .integer ∨ kind = .float)
    (hscan : Numeral.scan t = some n) (hlead : n.lead.any Text.isSeparator = true) :
    Unwritable kind (.text t) (.unreadableNumber n.text)
  /-- The first item of an array that has no text. -/
  | item {form : SequenceForm} {before after : List Value} {v : Value} {f : Fault}
    (hbefore : ∀ w ∈ before, (Slot.literal w).fault = none) (hitem : Unwritable .plain v f) :
    Unwritable .array (.sequence form (before ++ v :: after)) f
  /-- The first entry of an array that has no text, its key being one that an array may have. -/
  | entry {form : MappingForm} {before after : List (Value × Value)} {key v : Value} {f : Fault}
    (hbefore : ∀ e ∈ before, (Slot.entry e.1 e.2).fault = none) (hkey : (Slot.entry key .null).fault = none)
    (hitem : Unwritable .plain v f) :
    Unwritable .array (.mapping form (before ++ (key, v) :: after)) f

/-! ### Numbers -/

namespace Slot

private theorem integerText_eq_error_iff (n : Int) (f : Fault) :
    integerText n = .error f ↔ 10 ^ Integer.digitLimit ≤ n.natAbs ∧ f = .tooManyDigits := by
  unfold integerText
  rw [← Integer.lt_digitCount (by decide)]
  split <;> simp_all [eq_comm]

private theorem wholeText_eq_error_iff (negative : Bool) (coefficient : Nat) (scale : Int) (f : Fault) :
    wholeText negative coefficient scale = .error f ↔
      10 ^ Integer.digitLimit ≤ Decimal.floor coefficient scale ∧ f = .tooManyDigits := by
  unfold wholeText
  rw [← Decimal.lt_wholeDigits (by decide)]
  split <;> simp_all [eq_comm]

private theorem nearestText_ofInt_eq_error_iff (n : Int) (f : Fault) :
    nearestText (.ofInt n) = .error f ↔ Binary64.overflowBound ≤ n.natAbs ∧ f = .integerTooLarge := by
  rw [← Binary64.nearest?_one_eq_none_iff]
  unfold Binary64.ofInt
  cases Binary64.Magnitude.nearest? n.natAbs 1 <;> simp [Binary64.ofMagnitude?, nearestText, eq_comm]

private theorem isQuery_of_floatText {shown : Text} {x : Binary64} {f : Fault} (h : floatText shown x = .error f) :
    f.isQuery = true := by
  cases x <;> cases h <;> rfl

private theorem isQuery_of_wholePart {t : Text} {x : Binary64} {f : Fault} (h : wholePart t x = .error f) :
    f.isQuery = true := by
  cases x <;> cases h <;> rfl

end Slot

private theorem Numeral.toBinary64_eq_error_iff (n : Numeral) (f : Fault) :
    n.toBinary64 = .error f ↔ n.lead.any Text.isSeparator = true ∧ f = .unreadableNumber n.text := by
  unfold toBinary64 isReadable
  cases n.lead.any Text.isSeparator <;> simp [eq_comm]

private theorem Numeral.toInt?_eq_none {n : Numeral} (h : n.lead.any Text.isSeparator = true) : n.toInt? = none := by
  simp [toInt?, isReadable, h]

private theorem Except.bind_eq_error_iff {ε α β : Type} (x : Except ε α) (g : α → Except ε β) (e : ε) :
    x.bind g = .error e ↔ x = .error e ∨ ∃ a, x = .ok a ∧ g a = .error e := by
  cases x <;> simp [Except.bind]

namespace Slot

theorem readInteger_eq_error_iff {f : Fault} (hf : f.isQuery = false) (t : Text) :
    readInteger t = .error f ↔
      ∃ n, Numeral.scan t = some n ∧ n.lead.any Text.isSeparator = true ∧ f = .unreadableNumber n.text := by
  unfold readInteger
  cases Numeral.scan t with
  | none => simp
  | some n =>
    simp only [Option.some.injEq, exists_eq_left']
    constructor
    · intro h
      cases hint : n.toInt? with
      | some k => simp [hint] at h
      | none =>
        -- a numeral that is no integer is read as a binary number first
        rw [hint, Option.elim_none, Except.bind_eq_error_iff] at h
        rcases h with h | ⟨x, -, h⟩
        · exact (n.toBinary64_eq_error_iff f).1 h
        · simp [isQuery_of_wholePart h] at hf
    · intro h
      rw [Numeral.toInt?_eq_none h.1, Option.elim_none, Except.bind_eq_error_iff]
      exact .inl ((n.toBinary64_eq_error_iff f).2 h)

private theorem readFloat_eq_error_iff (f : Fault) (t : Text) :
    readFloat t = .error f ↔
      ∃ n, Numeral.scan t = some n ∧ n.lead.any Text.isSeparator = true ∧ f = .unreadableNumber n.text := by
  unfold readFloat
  cases Numeral.scan t with
  | none => simp
  | some n => simpa only [Option.some.injEq, exists_eq_left'] using n.toBinary64_eq_error_iff f

end Slot

/-! ### Drafts -/

private theorem Draft.fault_ofExcept (r : Except Fault Text) (f : Fault) :
    (ofExcept r).fault = some f ↔ r = .error f := by
  cases r <;> simp [ofExcept, fixed, failed]

namespace Slot

variable {f : Fault}

private theorem fault_literal_iff (hf : f.isQuery = false) (v : Value) :
    (literal v).fault = some f ↔ Unwritable .plain v f := by
  constructor
  · intro h
    cases v with
    | int n =>
      rw [literal, Draft.fault_ofExcept, integerText_eq_error_iff] at h
      obtain ⟨hn, rfl⟩ := h
      exact .digits (.inl rfl) hn
    | float x => cases x <;> cases h <;> cases hf
    | decimal d => cases d <;> cases h <;> cases hf
    | _ => cases h <;> cases hf
  · intro h
    cases h with
    | digits _ hn => exact (Draft.fault_ofExcept _ _).2 ((integerText_eq_error_iff _ _).2 ⟨hn, rfl⟩)
    | separator hkind => simp at hkind

private theorem integer_eq_error_iff (hf : f.isQuery = false) (v : Value) :
    integer v = .error f ↔ Unwritable .integer v f := by
  constructor
  · intro h
    cases v with
    | int n =>
      obtain ⟨hn, rfl⟩ := (integerText_eq_error_iff n f).1 h
      exact .digits (.inr rfl) hn
    | text t =>
      have hread : readInteger t = .error f := by
        cases hr : readInteger t <;> simp [integer, hr, Except.map] at h
        rw [h]
      obtain ⟨n, hscan, hlead, rfl⟩ := (readInteger_eq_error_iff hf t).1 hread
      exact .separator (.inl rfl) hscan hlead
    | decimal d =>
      cases d with
      | finite negative coefficient scale =>
        obtain ⟨hfloor, rfl⟩ := (wholeText_eq_error_iff negative coefficient scale f).1 h
        exact .whole hfloor
      | _ =>
        cases h
        cases hf
    | float x => cases x <;> cases h <;> cases hf
    | _ => cases h <;> cases hf
  · intro h
    cases h with
    | digits _ hn => exact (integerText_eq_error_iff _ _).2 ⟨hn, rfl⟩
    | whole hfloor => exact (wholeText_eq_error_iff _ _ _ _).2 ⟨hfloor, rfl⟩
    | separator _ hscan hlead =>
      rw [integer, (readInteger_eq_error_iff hf _).2 ⟨_, hscan, hlead, rfl⟩]
      rfl

theorem float_eq_error_iff (hf : f.isQuery = false) (v : Value) :
    float v = .error f ↔ Unwritable .float v f := by
  constructor
  · intro h
    cases v with
    | int n =>
      rw [float, nearestText_ofInt_eq_error_iff] at h
      obtain ⟨hn, rfl⟩ := h
      exact .overflow hn
    | text t =>
      rw [float, Except.bind_eq_error_iff] at h
      rcases h with h | ⟨x, -, h⟩
      · obtain ⟨n, hscan, hlead, rfl⟩ := (readFloat_eq_error_iff f t).1 h
        exact .separator (.inr rfl) hscan hlead
      · simp [isQuery_of_floatText h] at hf
    | decimal d =>
      cases d with
      | finite negative coefficient scale =>
        rw [float] at h
        simp [isQuery_of_floatText h] at hf
      | infinite negative =>
        cases h
        cases hf
      | nan negative signalling =>
        cases signalling with
        | true =>
          cases h
          exact .signalling
        | false =>
          cases h
          cases hf
    | float x => simp [isQuery_of_floatText h] at hf
    | _ => cases h <;> cases hf
  · intro h
    cases h with
    | digits hkind => simp at hkind
    | overflow hn =>
      rw [float, nearestText_ofInt_eq_error_iff]
      exact ⟨hn, rfl⟩
    | signalling => rfl
    | separator _ hscan hlead =>
      rw [float, (readFloat_eq_error_iff _ _).2 ⟨_, hscan, hlead, rfl⟩]
      rfl

private theorem isQuery_of_identifier {v : Value} (h : (identifier v).fault = some f) : f.isQuery = true := by
  cases v with
  | text t =>
    rw [fault_identifier_text] at h
    split at h
    · cases h
    · cases h
      rfl
  | _ => cases h; rfl

private theorem isQuery_of_entry_key {key : Value} (h : (entry key .null).fault = some f) : f.isQuery = true := by
  rw [fault_entry_null, Option.map_eq_some_iff] at h
  obtain ⟨q, -, rfl⟩ := h
  rfl

private theorem fault_entry_iff (hf : f.isQuery = false) (key item : Value) :
    (entry key item).fault = some f ↔ (entry key .null).fault = none ∧ Unwritable .plain item f := by
  rw [fault_entry, Option.or_eq_some_iff, fault_literal_iff hf]
  constructor
  · rintro (h | h)
    · simp [isQuery_of_entry_key h] at hf
    · exact h
  · exact .inr

private theorem fault_listing_iff (hf : f.isQuery = false) (l : Listing) (drafts : List Draft) :
    (listing l drafts).fault = some f ↔ drafts.findSome? Draft.fault = some f := by
  unfold listing
  cases drafts with
  | nil =>
    -- nothing to list is refused with a query error
    constructor
    · intro h
      cases h
      cases hf
    · intro h
      cases h
  | cons d rest => rw [if_neg (by simp), Draft.fault_commaSeparated]

private theorem fault_array_iff (hf : f.isQuery = false) (v : Value) :
    (array v).fault = some f ↔ Unwritable .array v f := by
  constructor
  · intro h
    cases v with
    | sequence form items =>
      rw [array, fault_listing_iff hf, List.findSome?_map, List.findSome?_eq_some_iff] at h
      obtain ⟨before, v, after, rfl, hv, hbefore⟩ := h
      exact .item hbefore ((fault_literal_iff hf v).1 hv)
    | mapping form entries =>
      rw [array, fault_listing_iff hf, List.findSome?_map, List.findSome?_eq_some_iff] at h
      obtain ⟨before, ⟨key, v⟩, after, rfl, hv, hbefore⟩ := h
      obtain ⟨hkey, hitem⟩ := (fault_entry_iff hf key v).1 hv
      exact .entry hbefore hkey hitem
    | _ => cases h; cases hf
  · intro h
    cases h with
    | digits hkind => simp at hkind
    | separator hkind => simp at hkind
    | item hbefore hitem =>
      rw [array, fault_listing_iff hf, List.findSome?_map, List.findSome?_eq_some_iff]
      exact ⟨_, _, _, rfl, (fault_literal_iff hf _).2 hitem, hbefore⟩
    | entry hbefore hkey hitem =>
      rw [array, fault_listing_iff hf, List.findSome?_map, List.findSome?_eq_some_iff]
      exact ⟨_, _, _, rfl, (fault_entry_iff hf _ _).2 ⟨hkey, hitem⟩, hbefore⟩

/-- Names are no numbers, so that an identifier slot refuses what it does not take and writes the rest. -/
private theorem isQuery_of_identifiers {v : Value} (h : (identifiers v).fault = some f) : f.isQuery = true := by
  by_contra hnot
  have hf : f.isQuery = false := by simpa using hnot
  have hnames : ∀ (drafts : List Draft), (∀ d ∈ drafts, ∃ w, d = identifier w) →
      (listing .identifier drafts).fault ≠ some f := by
    intro drafts hdrafts hfault
    rw [fault_listing_iff hf, List.findSome?_eq_some_iff] at hfault
    obtain ⟨before, d, after, rfl, hd, -⟩ := hfault
    obtain ⟨w, rfl⟩ := hdrafts d (by simp)
    exact hnot (isQuery_of_identifier hd)
  cases v with
  | text t => exact hnot (isQuery_of_identifier h)
  | sequence form items =>
    refine hnames _ (fun d hd => ?_) h
    obtain ⟨w, -, rfl⟩ := List.mem_map.1 hd
    exact ⟨w, rfl⟩
  | mapping form entries =>
    refine hnames _ (fun d hd => ?_) h
    obtain ⟨e, -, rfl⟩ := List.mem_map.1 hd
    exact ⟨e.2, rfl⟩
  | _ => cases h; cases hf

end Slot

theorem Kind.fault_draft_iff {f : Fault} (hf : f.isQuery = false) (kind : Kind) (v : Value) :
    (kind.draft v).fault = some f ↔ Unwritable kind v f := by
  cases kind with
  | plain => exact Slot.fault_literal_iff hf v
  | integer => exact (Draft.fault_ofExcept _ f).trans (Slot.integer_eq_error_iff hf v)
  | float => exact (Draft.fault_ofExcept _ f).trans (Slot.float_eq_error_iff hf v)
  | array => exact Slot.fault_array_iff hf v
  | identifier =>
    constructor
    · intro h
      simp [Slot.isQuery_of_identifiers h] at hf
    · intro h
      cases h with
      | digits hkind => simp at hkind
      | separator hkind => simp at hkind

/-- What goes wrong with an unwritable value is no query error. -/
theorem Unwritable.isQuery_eq_false {kind : Kind} {v : Value} {f : Fault} (h : Unwritable kind v f) :
    f.isQuery = false := by
  induction h with
  | item _ _ ih => exact ih
  | entry _ _ _ ih => exact ih
  | _ => rfl

end SqlTemplate
