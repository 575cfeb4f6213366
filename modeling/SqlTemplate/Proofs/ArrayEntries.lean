import SqlTemplate.Proofs.Filling
import SqlTemplate.Proofs.NumberText

/-!
# The entries of an array

An array slot goes through the entries of its array in order, the items of a list counting as entries with their
indices for keys.  The first entry with an error decides, its key before its item; without one the entries are written
with commas between them, an item as in a plain slot and behind its name if its key is one (`ArrayText`,
`Kind.format_array`).  Of a key that stands for no name only this matters.
-/

namespace SqlTemplate

namespace Value

/-- A key that stands for no name: an integer, a truth value or the text of an integer. -/
inductive IsPositional : Value → Prop
  | int (n : Int) : IsPositional (.int n)
  | bool (b : Bool) : IsPositional (.bool b)
  | text (n : Int) : IsPositional (.text (Integer.text n))

theorem isPositional_text_iff (t : Text) : (Value.text t).IsPositional ↔ Integer.isCanonical t = true := by
  constructor
  · intro h
    cases h with
    | text n => exact Integer.isCanonical_text n
  · intro h
    obtain ⟨n, rfl⟩ := Integer.exists_text_of_isCanonical h
    exact .text n

instance (key : Value) : Decidable key.IsPositional :=
  match key with
  | .int n => isTrue (.int n)
  | .bool b => isTrue (.bool b)
  | .text t => decidable_of_iff _ (isPositional_text_iff t).symm
  | .null | .skip | .float _ | .decimal _ | .sequence .. | .set .. | .mapping .. | .foreign .. => isFalse nofun

/-- The items behind their indices. -/
def indexed (items : List Value) : List (Value × Value) := items.zipIdx.map fun p => (.int p.2, p.1)

/-- The entries of an array, which is a list or a mapping. -/
def entries? : Value → Option (List (Value × Value))
  | .sequence _ items => some (indexed items)
  | .mapping _ entries => some entries
  | _ => none

/-- What is wrong with a value as the key of an entry. -/
def keyError (key : Value) : Option QueryError :=
  if key.IsPositional then none
  else
    match key with
    | .text t => if Slot.isName t then none else some (.invalidIdentifier t)
    | _ => some (.mismatch (.arrayKey key.typeName.name))

/-- What is wrong with a value as the item of an entry. -/
def itemError : Value → Option QueryError
  | .null | .bool _ | .text _ | .int _ | .float (.finite ..) | .decimal (.finite ..) => none
  | .float x => some (.unsupportedNumber x.text)
  | .decimal d => some (.unsupportedNumber d.shown)
  | v => some (.unsupportedType v.typeName.name)

/-- An integer among the items has not too many digits. -/
def HasWritableIntegers (v : Value) : Prop :=
  ∀ entries, v.entries? = some entries →
    ∀ e ∈ entries, ∀ n, e.2 = .int n → Integer.digitCount n.natAbs ≤ Integer.digitLimit

end Value

/-- The error of an entry, that of its key before that of its item. -/
def entryError (e : Value × Value) : Option QueryError := e.1.keyError.or e.2.itemError

/-- The text of an entry: that of its item in a plain slot, behind the name if the key is one. -/
inductive EntryText (escape : Escape) : Value × Value → Text → Prop
  | positional {key item : Value} {u : Text} (hkey : key.IsPositional)
    (hitem : (Kind.plain.format item escape).outcome = .ok u) : EntryText escape (key, item) u
  | named {name s u : Text} {item : Value} (hkey : ¬(Value.text name).IsPositional) (hname : Slot.isName name = true)
    (hs : escape name = .ok s) (hitem : (Kind.plain.format item escape).outcome = .ok u) :
    EntryText escape (.text name, item) ('\x60' :: s ++ "\x60 = ".toList ++ u)

/-- What an array slot makes of a value, with an escape that refuses nothing. -/
inductive ArrayText (f : Text → Text) : Value → Except QueryError Text → Prop
  | null : ArrayText f .null (.error (.nullListing .array))
  | noArray {v : Value} (hnull : v ≠ .null) (hentries : v.entries? = none) :
    ArrayText f v (.error (.mismatch (.arrayExpected v.typeName.name)))
  | empty {v : Value} (hentries : v.entries? = some []) : ArrayText f v (.error (.emptyListing .array))
  | firstError {v : Value} {before after : List (Value × Value)} {e : Value × Value} {q : QueryError}
    (hentries : v.entries? = some (before ++ e :: after)) (hbefore : ∀ e' ∈ before, entryError e' = none)
    (he : entryError e = some q) : ArrayText f v (.error q)
  | text {v : Value} {entries : List (Value × Value)} {texts : List Text} (hentries : v.entries? = some entries)
    (hnonempty : entries ≠ []) (hfine : ∀ e ∈ entries, entryError e = none)
    (htexts : List.Forall₂ (EntryText (.always f)) entries texts) :
    ArrayText f v (.ok (", ".toList.intercalate texts))

/-- Two entries with one item, whose keys are the same or stand for no names. -/
def SameButForPosition (e e' : Value × Value) : Prop :=
  e.2 = e'.2 ∧ (e.1 = e'.1 ∨ e.1.IsPositional ∧ e'.1.IsPositional)

/-! ### Entries -/

namespace Slot

variable {escape : Escape}

theorem entry_of_isPositional {key : Value} (hkey : key.IsPositional) (item : Value) :
    entry key item = literal item := by
  cases hkey with
  | int n => rfl
  | bool b => rfl
  | text n => rw [entry, if_pos (Integer.isCanonical_text n)]

theorem entry_of_not_isPositional {name : Text} (hkey : ¬(Value.text name).IsPositional) (item : Value) :
    entry (.text name) item = identifier (.text name) ++ .fixed [' ', '=', ' '] ++ literal item := by
  rw [entry, if_neg (mt (Value.isPositional_text_iff name).2 hkey)]

theorem fault_identifier_text (name : Text) :
    (identifier (.text name)).fault = if isName name then none else some (.query (.invalidIdentifier name)) := by
  rw [identifier]
  split <;> rfl

theorem fault_entry_null (key : Value) : (entry key .null).fault = key.keyError.map .query := by
  unfold Value.keyError
  split
  · rename_i hkey
    rw [entry_of_isPositional hkey]
    rfl
  · rename_i hkey
    cases key with
    | int n => exact absurd (.int n) hkey
    | bool b => exact absurd (.bool b) hkey
    | text name =>
      rw [entry_of_not_isPositional hkey, Draft.fault_append, Draft.fault_append, fault_identifier_text]
      by_cases hname : isName name <;> simp [hname, Draft.fixed, literal]
    | _ => rfl

/-- The item has a say in the fault of an entry only where the key has none. -/
theorem fault_entry (key item : Value) :
    (entry key item).fault = (entry key .null).fault.or (literal item).fault := by
  have hnull : (literal .null).fault = none := rfl
  cases key with
  | int n => simp [entry, hnull]
  | bool b => simp [entry, hnull]
  | text t =>
    unfold entry
    by_cases hcanonical : Integer.isCanonical t = true
    · simp [hcanonical, hnull]
    · -- the name in front has been drafted when the item's turn comes
      simp [hcanonical, Draft.fault_append, Draft.fixed, hnull]
  | _ => rfl

private theorem fault_literal {item : Value}
    (hdigits : ∀ n, item = .int n → Integer.digitCount n.natAbs ≤ Integer.digitLimit) :
    (literal item).fault = item.itemError.map .query := by
  cases item with
  | int n =>
    have htext : integerText n = .ok (Integer.text n) := if_neg (Nat.not_lt.2 (hdigits n rfl))
    rw [literal, htext]
    rfl
  | float x => cases x <;> rfl
  | decimal d => cases d <;> rfl
  | _ => rfl

private theorem fault_entry_eq {e : Value × Value}
    (hdigits : ∀ n, e.2 = .int n → Integer.digitCount n.natAbs ≤ Integer.digitLimit) :
    (entry e.1 e.2).fault = (entryError e).map .query := by
  rw [fault_entry, fault_entry_null, fault_literal hdigits, entryError, Option.map_or]

/-- A name is written between backticks. -/
theorem outcome_identifier_eq_ok {v : Value} {u : Text} :
    ((identifier v).fill escape).outcome = .ok u ↔
      ∃ name s, v = .text name ∧ isName name = true ∧ escape name = .ok s ∧ u = '\x60' :: s ++ ['\x60'] := by
  cases v with
  | text name =>
    unfold identifier
    by_cases hname : isName name = true
    · simp [hname, Draft.outcome_append_eq_ok, Draft.outcome_hole_eq_ok]
    · simp [hname, Draft.error]
  | _ => simp [identifier, Draft.error]

private theorem outcome_entry_eq_ok {e : Value × Value} {u : Text} :
    ((entry e.1 e.2).fill escape).outcome = .ok u ↔ EntryText escape e u := by
  obtain ⟨key, item⟩ := e
  by_cases hkey : key.IsPositional
  · rw [entry_of_isPositional hkey]
    constructor
    · exact .positional hkey
    · intro h
      cases h with
      | positional _ hitem => exact hitem
      | named hnot => exact absurd hkey hnot
  · cases key with
    | int n => exact absurd (.int n) hkey
    | bool b => exact absurd (.bool b) hkey
    | text name =>
      rw [entry_of_not_isPositional hkey, Draft.append_assoc, Draft.outcome_append_eq_ok]
      simp only [Draft.outcome_fixed_append_eq_ok, outcome_identifier_eq_ok]
      constructor
      · rintro ⟨_, _, ⟨_, s, ⟨⟩, hname, hs, rfl⟩, ⟨w, hitem, rfl⟩, rfl⟩
        have htext := EntryText.named hkey hname hs hitem
        simpa using htext
      · intro h
        cases h with
        | positional h => exact absurd h hkey
        | named _ hname hs hitem =>
          refine ⟨_, _, ⟨name, _, rfl, hname, hs, rfl⟩, ⟨_, hitem, rfl⟩, ?_⟩
          simp
    | _ =>
      constructor
      · intro h
        cases h
      · intro h
        cases h with
        | positional h => exact absurd h hkey

private theorem array_eq_listing {v : Value} {entries : List (Value × Value)} (h : v.entries? = some entries) :
    array v = listing .array (entries.map fun e => entry e.1 e.2) := by
  cases v with
  | sequence form items =>
    cases h
    have hitems := calc
      (Value.indexed items).map (fun e => entry e.1 e.2)
      _ = (items.zipIdx.map Prod.fst).map literal := by rw [Value.indexed, List.map_map, List.map_map]; rfl
      _ = items.map literal := by rw [List.zipIdx_map_fst]
    rw [array, hitems]
  | mapping form entries' =>
    cases h
    rfl
  | _ => cases h

theorem outcome_listing_eq_ok {l : Listing} {drafts : List Draft} {t : Text} :
    ((listing l drafts).fill escape).outcome = .ok t ↔
      drafts ≠ [] ∧ ((Draft.commaSeparated drafts).fill escape).outcome = .ok t := by
  cases drafts with
  | nil => simp [listing, Draft.error]
  | cons d rest => simp [listing]

/-- What is written in an array slot is the entries of an array that is not empty. -/
theorem outcome_array_eq_ok {v : Value} {t : Text} :
    ((array v).fill escape).outcome = .ok t ↔
      ∃ entries texts, v.entries? = some entries ∧ entries ≠ [] ∧ List.Forall₂ (EntryText escape) entries texts ∧
        t = ", ".toList.intercalate texts := by
  constructor
  · intro h
    cases hentries : v.entries? with
    | none => cases v <;> cases hentries <;> cases h
    | some entries =>
      rw [array_eq_listing hentries, outcome_listing_eq_ok, Draft.outcome_commaSeparated_eq_ok] at h
      obtain ⟨hnonempty, texts, htexts, rfl⟩ := h
      simp only [List.forall₂_map_left_iff, outcome_entry_eq_ok] at htexts
      exact ⟨entries, texts, rfl, by simpa using hnonempty, htexts, rfl⟩
  · rintro ⟨entries, texts, hentries, hnonempty, htexts, rfl⟩
    rw [array_eq_listing hentries, outcome_listing_eq_ok, Draft.outcome_commaSeparated_eq_ok]
    refine ⟨by simpa using hnonempty, texts, ?_, rfl⟩
    simpa only [List.forall₂_map_left_iff, outcome_entry_eq_ok] using htexts

private theorem array_congr {v w : Value} {entries entries' : List (Value × Value)} (hv : v.entries? = some entries)
    (hw : w.entries? = some entries') (h : List.Forall₂ SameButForPosition entries entries') : array v = array w := by
  have hentry : ∀ e e', SameButForPosition e e' → entry e.1 e.2 = entry e'.1 e'.2 := by
    rintro ⟨key, item⟩ ⟨key', item'⟩ ⟨rfl, rfl | ⟨hkey, hkey'⟩⟩
    · rfl
    · exact (entry_of_isPositional hkey _).trans (entry_of_isPositional hkey' _).symm
  have hdrafts : entries.map (fun e => entry e.1 e.2) = entries'.map fun e => entry e.1 e.2 := by
    rw [← List.forall₂_eq_eq_eq, List.forall₂_map_left_iff, List.forall₂_map_right_iff]
    exact h.imp fun e e' => hentry e e'
  rw [array_eq_listing hv, array_eq_listing hw, hdrafts]

/-- The first entry with an error decides. -/
private theorem fault_array {v : Value} {entries : List (Value × Value)} (hentries : v.entries? = some entries)
    (hnonempty : entries ≠ []) (hdigits : v.HasWritableIntegers) :
    (array v).fault = (entries.findSome? entryError).map .query := by
  have hfault : ∀ e ∈ entries, (entry e.1 e.2).fault = (entryError e).map .query := fun e he =>
    fault_entry_eq (hdigits entries hentries e he)
  rw [array_eq_listing hentries, listing, if_neg (by simpa using hnonempty), Draft.fault_commaSeparated,
    List.findSome?_map, List.map_findSome?, ← List.head?_filterMap, ← List.head?_filterMap]
  exact congrArg List.head? (List.filterMap_congr hfault)

private theorem array_eq_error {v : Value} (hnull : v ≠ .null) (hentries : v.entries? = none) :
    array v = .error (.mismatch (.arrayExpected v.typeName.name)) := by
  cases v with
  | null => exact absurd rfl hnull
  | sequence form items => cases hentries
  | mapping form entries => cases hentries
  | _ => rfl

/-- What the rule says is so. -/
theorem outcome_of_arrayText {f : Text → Text} {v : Value} (hdigits : v.HasWritableIntegers)
    {r : Except QueryError Text} (h : ArrayText f v r) :
    ((array v).fill (.always f)).outcome = r.mapError .query := by
  cases h with
  | null => rfl
  | noArray hnull hentries =>
    rw [array_eq_error hnull hentries]
    rfl
  | empty hentries =>
    rw [array_eq_listing hentries]
    rfl
  | firstError hentries hbefore he =>
    have hfault := fault_array hentries (by simp) hdigits
    rw [List.findSome?_eq_some_iff.2 ⟨_, _, _, rfl, he, hbefore⟩] at hfault
    exact (Draft.outcome_fill_always f _ _).2 hfault
  | text hentries hnonempty _ htexts => exact outcome_array_eq_ok.2 ⟨_, _, hentries, hnonempty, htexts, rfl⟩

/-- The rule has something to say about every value. -/
theorem exists_arrayText (f : Text → Text) {v : Value} (hdigits : v.HasWritableIntegers) : ∃ r, ArrayText f v r := by
  by_cases hnull : v = .null
  · subst hnull
    exact ⟨_, .null⟩
  cases hentries : v.entries? with
  | none => exact ⟨_, .noArray hnull hentries⟩
  | some entries =>
    by_cases hempty : entries = []
    · subst hempty
      exact ⟨_, .empty hentries⟩
    cases hfirst : entries.findSome? entryError with
    | some q =>
      obtain ⟨before, e, after, rfl, he, hbefore⟩ := List.findSome?_eq_some_iff.1 hfirst
      exact ⟨_, .firstError hentries hbefore he⟩
    | none =>
      have hfault := fault_array hentries hempty hdigits
      rw [hfirst] at hfault
      -- without an error there is a text, and its entries are read off it
      cases houtcome : ((array v).fill (.always f)).outcome with
      | error fault =>
        rw [(Draft.outcome_fill_always f _ _).1 houtcome] at hfault
        cases hfault
      | ok t =>
        obtain ⟨entries', texts, hentries', -, htexts, -⟩ := outcome_array_eq_ok.1 houtcome
        obtain rfl : entries = entries' := Option.some.inj (hentries.symm.trans hentries')
        exact ⟨_, .text hentries hempty (List.findSome?_eq_none_iff.1 hfirst) htexts⟩

end Slot

/-- The rule `ArrayText` says of every value what an array slot makes of it.  With any escape it makes no difference
which key an entry has of those that stand for no name, and a list is written as the mapping from its indices to its
items. -/
theorem Kind.format_array :
    (∀ v f, v.HasWritableIntegers → (∃ r, ArrayText f v r) ∧
      ∀ r, ArrayText f v r → (Kind.array.format v (.always f)).outcome = r.mapError .query) ∧
    (∀ v w entries entries' escape, v.entries? = some entries → w.entries? = some entries' →
      List.Forall₂ SameButForPosition entries entries' → Kind.array.format v escape = Kind.array.format w escape) ∧
    ∀ form items form' escape, Kind.array.format (.sequence form items) escape =
      Kind.array.format (.mapping form' (Value.indexed items)) escape := by
  refine ⟨?_, ?_, ?_⟩
  · intro v f hdigits
    exact ⟨Slot.exists_arrayText f hdigits, fun r => Slot.outcome_of_arrayText hdigits⟩
  · intro v w entries entries' escape hv hw h
    rw [Kind.format, Kind.format, Kind.draft, Kind.draft, Slot.array_congr hv hw h]
  · intro form items form' escape
    have hsame : List.Forall₂ SameButForPosition (Value.indexed items) (Value.indexed items) :=
      List.forall₂_same.2 fun e _ => ⟨rfl, .inl rfl⟩
    have harray : Slot.array (.sequence form items) = Slot.array (.mapping form' (Value.indexed items)) :=
      Slot.array_congr rfl rfl hsame
    rw [Kind.format, Kind.format, Kind.draft, Kind.draft, harray]

/-- A name with a blank in it is refused before the item behind it, and one integer key is as good as another. -/
theorem Kind.format_array_blankName :
    (Value.mapping .plain [(.text "a".toList, .int (-7)), (.text "b c".toList, .skip)]).HasWritableIntegers ∧
    ArrayText backslashed (.mapping .plain [(.text "a".toList, .int (-7)), (.text "b c".toList, .skip)])
      (.error (.invalidIdentifier "b c".toList)) ∧
    (Kind.array.format (.mapping .plain [(.text "a".toList, .int (-7)), (.text "b c".toList, .skip)])
      .backslash).outcome = .error (.query (.invalidIdentifier "b c".toList)) ∧
    List.Forall₂ SameButForPosition [(.text "-12".toList, .int 1)] [(.bool true, .int 1)] ∧
    Kind.array.format (.mapping .plain [(.text "-12".toList, .int 1)]) .doubling =
      Kind.array.format (.mapping .ordered [(.bool true, .int 1)]) .doubling := by
  have hdigits :
      (Value.mapping .plain [(.text "a".toList, .int (-7)), (.text "b c".toList, .skip)]).HasWritableIntegers := by
    rintro entries ⟨⟩ e he n hn
    simp only [List.mem_cons, List.not_mem_nil, or_false] at he
    rcases he with rfl | rfl
    · cases hn
      decide
    · cases hn
  have hsame : List.Forall₂ SameButForPosition [(.text "-12".toList, .int 1)] [(.bool true, .int 1)] :=
    .cons ⟨rfl, .inr ⟨(Value.isPositional_text_iff _).2 (by decide), .bool true⟩⟩ .nil
  have hentries :
      (Value.mapping .plain [(.text "a".toList, .int (-7)), (.text "b c".toList, .skip)]).entries? =
        some ([(.text "a".toList, .int (-7))] ++ (.text "b c".toList, .skip) :: []) :=
    rfl
  have hrefused : ArrayText backslashed (.mapping .plain [(.text "a".toList, .int (-7)), (.text "b c".toList, .skip)])
      (.error (.invalidIdentifier "b c".toList)) :=
    .firstError hentries (List.forall_mem_singleton.2 (by decide)) (by decide)
  obtain ⟨-, hformat⟩ := Kind.format_array.1 _ backslashed hdigits
  exact ⟨hdigits, hrefused, hformat _ hrefused, hsame, Kind.format_array.2.1 _ _ _ _ _ rfl rfl hsame⟩

end SqlTemplate
