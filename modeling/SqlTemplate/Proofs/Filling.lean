import Mathlib.Data.List.Forall2
import Mathlib.Tactic.Common
import SqlTemplate.Slot

/-!
# Filling drafts

A draft behind another one is filled behind it (`Draft.fill_append`).  Drafts in a row are written with commas between
their texts (`Draft.outcome_commaSeparated_eq_ok`), and their fault is that of the first one that has a fault
(`Draft.fault_commaSeparated`).  An escape that refuses nothing lets the fault of the draft decide
(`Draft.outcome_fill_always`).
-/

namespace SqlTemplate

/-- What is filled behind a filled text, unless that already failed. -/
def Filled.andThen (f g : Filled) : Filled :=
  match f.outcome with
  | .error _ => f
  | .ok t => ⟨f.escaped ++ g.escaped, g.outcome.map (t ++ ·)⟩

private theorem Filled.outcome_andThen_eq_ok {f g : Filled} {t : Text} :
    (f.andThen g).outcome = .ok t ↔ ∃ u v, f.outcome = .ok u ∧ g.outcome = .ok v ∧ t = u ++ v := by
  unfold Filled.andThen
  cases hf : f.outcome with
  | error e => simp [hf]
  | ok u => cases hg : g.outcome <;> simp [Except.map, eq_comm]

private theorem fillPieces_append (escape : Escape) (fault : Option Fault) (ps qs : List Piece) :
    fillPieces escape fault (ps ++ qs) = (fillPieces escape none ps).andThen (fillPieces escape fault qs) := by
  induction ps with
  | nil =>
    rcases h : fillPieces escape fault qs with ⟨escaped, _ | t⟩ <;> simp [fillPieces, Filled.andThen, h, Except.map]
  | cons p ps ih =>
    cases p with
    | fixed t =>
      simp only [List.cons_append, fillPieces, ih, Filled.prepend, Filled.andThen]
      cases h : (fillPieces escape none ps).outcome <;> cases (fillPieces escape fault qs).outcome <;>
        simp [Except.map, h]
    | hole t =>
      simp only [List.cons_append, fillPieces]
      cases escape t with
      | error e => rfl
      | ok s =>
        simp only [ih, Filled.prepend, Filled.andThen]
        cases h : (fillPieces escape none ps).outcome <;> cases (fillPieces escape fault qs).outcome <;>
          simp [Except.map, h]

private theorem outcome_fillPieces_some (escape : Escape) (f : Fault) (ps : List Piece) :
    ∃ e, (fillPieces escape (some f) ps).outcome = .error e := by
  induction ps with
  | nil => exact ⟨f, rfl⟩
  | cons p ps ih =>
    obtain ⟨e, he⟩ := ih
    cases p with
    | fixed t => exact ⟨e, by simp [fillPieces, Filled.prepend, he, Except.map]⟩
    | hole t =>
      simp only [fillPieces]
      cases escape t with
      | error e' => exact ⟨_, rfl⟩
      | ok s => exact ⟨e, by simp [Filled.prepend, he, Except.map]⟩

namespace Draft

theorem fill_append (escape : Escape) (d e : Draft) :
    (d ++ e).fill escape = (d.fill escape).andThen (e.fill escape) := by
  obtain ⟨ps, _ | f⟩ := d
  · exact fillPieces_append escape e.fault ps e.pieces
  · obtain ⟨x, hx⟩ := outcome_fillPieces_some escape f ps
    simp only [mk_some_append, fill, Filled.andThen, hx]

@[simp] theorem fill_fixed (escape : Escape) (t : Text) : (fixed t).fill escape = ⟨[], .ok t⟩ := by
  simp [fixed, fill, fillPieces, Filled.prepend, Except.map]

@[simp] theorem fill_failed (escape : Escape) (f : Fault) : (failed f).fill escape = ⟨[], .error f⟩ := rfl

theorem fill_hole {escape : Escape} {t s : Text} (h : escape t = .ok s) : (hole t).fill escape = ⟨[t], .ok s⟩ := by
  simp [hole, fill, fillPieces, h, Filled.prepend, Except.map]

theorem fault_append (d e : Draft) : (d ++ e).fault = d.fault.or e.fault := by
  obtain ⟨ps, _ | f⟩ := d <;> rfl

theorem fault_commaSeparated (drafts : List Draft) : (commaSeparated drafts).fault = drafts.findSome? fault := by
  induction drafts with
  | nil => rfl
  | cons d rest ih =>
    cases rest with
    | nil => cases h : d.fault <;> simp [commaSeparated, h]
    | cons e rest =>
      simp only [commaSeparated, fault_append, ih, fixed]
      cases h : d.fault <;> simp [h]

/-- An escape that refuses nothing lets the fault of the draft decide. -/
theorem outcome_fill_always (f : Text → Text) (d : Draft) (e : Fault) :
    (d.fill (.always f)).outcome = .error e ↔ d.fault = some e := by
  obtain ⟨ps, fault⟩ := d
  unfold fill
  simp only
  induction ps with
  | nil => cases fault <;> simp [fillPieces]
  | cons p ps ih =>
    cases p <;> simp only [fillPieces, Escape.always, Filled.prepend, ← ih] <;>
      cases (fillPieces (.always f) fault ps).outcome <;> simp [Except.map]

/-! ### Written texts -/

section Written

variable {escape : Escape}

theorem outcome_append_eq_ok {d e : Draft} {t : Text} :
    ((d ++ e).fill escape).outcome = .ok t ↔
      ∃ u v, (d.fill escape).outcome = .ok u ∧ (e.fill escape).outcome = .ok v ∧ t = u ++ v := by
  rw [fill_append, Filled.outcome_andThen_eq_ok]

theorem outcome_fixed_append_eq_ok {s t : Text} {d : Draft} :
    ((fixed s ++ d).fill escape).outcome = .ok t ↔ ∃ u, (d.fill escape).outcome = .ok u ∧ t = s ++ u := by
  simp [outcome_append_eq_ok]

theorem outcome_hole_eq_ok {name s : Text} : ((hole name).fill escape).outcome = .ok s ↔ escape name = .ok s := by
  cases h : escape name <;> simp [hole, fill, fillPieces, h, Filled.prepend, Except.map]

theorem outcome_ofExcept_eq_ok {x : Except Fault Text} {u : Text} :
    ((ofExcept x).fill escape).outcome = .ok u ↔ x = .ok u := by
  cases x <;> simp [ofExcept]

/-- Drafts in a row are written with commas between their texts. -/
theorem outcome_commaSeparated_eq_ok {drafts : List Draft} {t : Text} :
    ((commaSeparated drafts).fill escape).outcome = .ok t ↔
      ∃ texts, List.Forall₂ (fun d u => (d.fill escape).outcome = .ok u) drafts texts ∧
        t = ", ".toList.intercalate texts := by
  induction drafts generalizing t with
  | nil => simp [commaSeparated, empty, fill, fillPieces, eq_comm]
  | cons d rest ih =>
    cases rest with
    | nil => simp [commaSeparated, List.forall₂_cons_left_iff, eq_comm]
    | cons e rest =>
      have hcomma : commaSeparated (d :: e :: rest) = d ++ (fixed [',', ' '] ++ commaSeparated (e :: rest)) := rfl
      have hjoin : ∀ (u : Text) {texts : List Text},
          List.Forall₂ (fun d u => (d.fill escape).outcome = .ok u) (e :: rest) texts →
          ", ".toList.intercalate (u :: texts) = u ++ ([',', ' '] ++ ", ".toList.intercalate texts) := by
        intro u texts h
        cases h
        rw [List.intercalate_cons_cons, List.append_assoc]
        rfl
      rw [hcomma, outcome_append_eq_ok]
      simp only [outcome_fixed_append_eq_ok, ih]
      constructor
      · rintro ⟨u, _, hu, ⟨_, ⟨texts, htexts, rfl⟩, rfl⟩, rfl⟩
        exact ⟨u :: texts, .cons hu htexts, (hjoin u htexts).symm⟩
      · rintro ⟨_, hall, rfl⟩
        obtain ⟨u, texts, hu, htexts, rfl⟩ := List.forall₂_cons_left_iff.1 hall
        exact ⟨u, _, hu, ⟨_, ⟨texts, htexts, rfl⟩, rfl⟩, hjoin u htexts⟩

end Written

end Draft

end SqlTemplate
