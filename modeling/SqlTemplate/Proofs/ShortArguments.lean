import SqlTemplate.Proofs.DroppedBlocks

/-!
# Too few arguments

Where all arguments fit their placeholders, a template can be built with fewer of them than it has placeholders only if
they end in a block that is given the skip marker, and no placeholder stands behind that block
(`Template.forall_hasEnough_iff`).  Everything else lacks an argument (`build_of_fitting`).
-/

namespace SqlTemplate

/-! ### Parts that have enough arguments -/

/-- A part that takes no argument, or that has all of its arguments, or a block that is given the skip marker. -/
def Part.HasEnough (args : List Value) (p : Part) (i : Nat) : Prop :=
  p.width = 0 ∨ i + p.width ≤ args.length ∨ ∃ b, p = .block b ∧ ∃ j < b.size, args[i + j]? = some .skip

/-- What the placeholders find in the places from `start` on fits them, unless it is the skip marker. -/
def Fitting (args : List Value) (escape : Escape) (kinds : List Kind) (start : Nat) : Prop :=
  ∀ i kind v, kinds[i]? = some kind → args[start + i]? = some v → v.isSkip = false →
    ∃ t, (kind.format v escape).outcome = .ok t

section Parts

variable {args : List Value} {escape : Escape} {kinds : List Kind} {start : Nat}

private theorem Fitting.hasText (h : Fitting args escape kinds start) {i : Nat} (hi : i < kinds.length)
    (hpresent : start + i < args.length) (hskip : args[start + i]? ≠ some .skip) :
    HasText args escape kinds start i := by
  have hkind : kinds[i]? = some kinds[i] := List.getElem?_eq_getElem hi
  have hv : args[start + i]? = some args[start + i] := List.getElem?_eq_getElem hpresent
  have hv' : args[start + i].isSkip = false := by
    generalize args[start + i] = v at hv
    cases v with
    | skip => exact absurd hv hskip
    | _ => rfl
  obtain ⟨t, ht⟩ := h i _ _ hkind hv hv'
  exact ⟨_, _, t, hkind, hv, ht⟩

/-- A block whose arguments fit lacks the first argument that is missing, unless it has enough of them. -/
private theorem Block.textAt_of_fitting {b : Block} (h : Fitting args escape b.kinds start) :
    ((Part.block b).HasEnough args start → ∃ t, b.textAt args escape start = .ok t) ∧
    (¬ (Part.block b).HasEnough args start →
      b.textAt args escape start = .error (.query (.missingArgument (max start args.length) args.length))) := by
  have hsize : (Part.block b).width = b.size := rfl
  rw [← b.outcome_resolve]
  -- the first skip marker ends the work before anything is missing; without one, all arguments are needed
  by_cases hskip : ∃ j < b.size, args[start + j]? = some .skip
  · obtain ⟨k, hk, hskip', hfirst⟩ := exists_first_skip hskip
    have hpresent : start + k < args.length := (List.getElem?_eq_some_iff.1 hskip').1
    obtain ⟨kind, hkind⟩ : ∃ kind, b.kinds[k]? = some kind := ⟨_, List.getElem?_eq_getElem hk⟩
    have htexts : ∀ i < k, HasText args escape b.kinds start i :=
      fun i hi => h.hasText (hi.trans hk) (by omega) (hfirst i hi)
    obtain ⟨houtcome, -, -⟩ := b.resolve_of_skip hkind htexts hskip'
    exact ⟨fun _ => ⟨[], houtcome⟩, fun hnot => absurd (.inr (.inr ⟨b, rfl, hskip⟩)) hnot⟩
  · simp only [not_exists, not_and] at hskip
    by_cases henough : b.size = 0 ∨ start + b.size ≤ args.length
    · have htexts : ∀ i < b.size, HasText args escape b.kinds start i :=
        fun i hi => h.hasText hi (by omega) (hskip i hi)
      exact ⟨fun _ => b.exists_outcome_resolve htexts, fun hnot => absurd (by unfold Part.HasEnough; omega) hnot⟩
    · -- the first missing argument is one of the block's
      obtain ⟨k, hk⟩ : ∃ k, start + k = max start args.length := ⟨max start args.length - start, by omega⟩
      obtain ⟨kind, hkind⟩ : ∃ kind, b.kinds[k]? = some kind :=
        ⟨_, List.getElem?_eq_getElem (show k < b.size by omega)⟩
      have htexts : ∀ i < k, HasText args escape b.kinds start i :=
        fun i hi => h.hasText (show i < b.size by omega) (by omega) (hskip i (by omega))
      have hnone : args[start + k]? = none := List.getElem?_eq_none (by omega)
      refine ⟨fun hnot => ?_, fun _ => hk ▸ b.resolve_of_missing hkind htexts hnone⟩
      rcases hnot with hzero | hle | ⟨b', hb', j, hj, hj'⟩
      · omega
      · omega
      · cases hb'
        exact absurd hj' (hskip j hj)

private theorem Part.textAt_of_fitting {p : Part} (h : Fitting args escape p.kinds start)
    (htop : ∀ kind offset, p = .segment (.placeholder kind offset) → args[start]? ≠ some .skip) :
    (p.HasEnough args start → ∃ t, p.textAt args escape start = .ok t) ∧
    (¬ p.HasEnough args start →
      p.textAt args escape start = .error (.query (.missingArgument (max start args.length) args.length))) := by
  cases p with
  | block b => exact Block.textAt_of_fitting h
  | segment s =>
    cases s with
    | text t => exact ⟨fun _ => ⟨t, rfl⟩, fun hnot => absurd (.inl rfl) hnot⟩
    | placeholder kind offset =>
      have hwidth : (Part.segment (.placeholder kind offset)).width = 1 := rfl
      by_cases hpresent : start < args.length
      · obtain ⟨kind', v, t, hkind, hv, ht⟩ := h.hasText Nat.one_pos hpresent (htop kind offset rfl)
        obtain rfl : kind = kind' := Option.some.inj hkind
        refine ⟨fun _ => ⟨t, ?_⟩, fun hnot => absurd (.inr (.inl hpresent)) hnot⟩
        rw [Nat.add_zero] at hv
        rw [textAt, Segment.textAt_of_format hv ht]
        rfl
      · have hmax : max start args.length = start := by omega
        refine ⟨fun henough => ?_, fun _ => ?_⟩
        · rcases henough with hzero | hle | ⟨b, hb, -⟩
          · omega
          · omega
          · cases hb
        · rw [textAt, Segment.textAt, List.getElem?_eq_none (by omega), hmax]
          rfl

end Parts

/-! ### Templates -/

/-- The arguments end in a block that is given the skip marker, and no placeholder stands behind it. -/
def Template.EndsDropped (args : List Value) (t : Template) : Prop :=
  ∃ before b after, t.parts = before ++ .block b :: after ∧ after.flatMap Part.kinds = [] ∧
    (∀ i, args.length ≤ i → i < t.placeholderCount →
      (before.map Part.width).sum ≤ i ∧ i < (before.map Part.width).sum + b.size) ∧
    ∃ j < b.size, args[(before.map Part.width).sum + j]? = some .skip

private theorem Part.exists_append_of_lt {parts : List Part} {i : Nat} (h : i < (parts.map width).sum) :
    ∃ before p after, parts = before ++ p :: after ∧ (before.map width).sum ≤ i ∧
      i < (before.map width).sum + p.width := by
  induction parts generalizing i with
  | nil => simp at h
  | cons p parts ih =>
    rw [List.map_cons, List.sum_cons] at h
    by_cases hi : i < p.width
    · exact ⟨[], p, parts, rfl, by simp, by simpa using hi⟩
    · obtain ⟨before, q, after, rfl, hle, hlt⟩ := ih (i := i - p.width) (by omega)
      refine ⟨p :: before, q, after, rfl, ?_, ?_⟩ <;>
      · rw [List.map_cons, List.sum_cons]
        omega

private theorem Part.flatMap_kinds_eq_nil_iff {parts : List Part} :
    parts.flatMap kinds = [] ↔ ∀ p ∈ parts, p.width = 0 := by
  simp [List.flatMap_eq_nil_iff, width]

/-- The kinds of a part are those of the template in the places of its arguments. -/
private theorem getElem?_kinds_of_mem_placed {parts : List Part} {start : Nat} {p : Part} {i : Nat}
    (h : (p, start + i) ∈ placed Part.width start parts) {j : Nat} {kind : Kind} (hkind : p.kinds[j]? = some kind) :
    (parts.flatMap Part.kinds)[i + j]? = some kind := by
  induction parts generalizing start i with
  | nil => cases h
  | cons q parts ih =>
    rw [placed_cons] at h
    rw [List.flatMap_cons]
    rcases List.mem_cons.1 h with heq | h
    · obtain ⟨rfl, hi⟩ := Prod.mk.inj heq
      obtain rfl : i = 0 := by omega
      rw [Nat.zero_add, List.getElem?_append_left (List.getElem?_eq_some_iff.1 hkind).1, hkind]
    · obtain ⟨k, rfl⟩ : ∃ k, i = q.width + k := ⟨i - q.width, by have := le_of_mem_placed h; omega⟩
      have hlength : q.kinds.length = q.width := rfl
      rw [← Nat.add_assoc] at h
      rw [Nat.add_assoc, List.getElem?_append_right (by omega), hlength, Nat.add_sub_cancel_left]
      exact ih h

/-- Behind the last argument, only parts that take none have enough. -/
private theorem Part.width_eq_zero_of_hasEnough {args : List Value} {parts : List Part} {start : Nat}
    (hstart : args.length ≤ start) (hall : ∀ p i, (p, i) ∈ placed width start parts → p.HasEnough args i) {p : Part}
    (hp : p ∈ parts) : p.width = 0 := by
  obtain ⟨i, hi⟩ := exists_mem_placed width start hp
  have hle : start ≤ i := le_of_mem_placed hi
  rcases hall p i hi with hzero | henough | ⟨b, -, j, -, hj⟩
  · exact hzero
  · omega
  · have hpresent := (List.getElem?_eq_some_iff.1 hj).1
    omega

/-- Parts that all have enough arguments, although there are too few for the template, end in a dropped block. -/
private theorem Template.endsDropped_of_hasEnough {args : List Value} {t : Template}
    (hall : ∀ p i, (p, i) ∈ placed Part.width 0 t.parts → p.HasEnough args i)
    (hshort : args.length < t.placeholderCount) : t.EndsDropped args := by
  rw [t.placeholderCount_eq_sum] at hshort
  obtain ⟨before, p, after, hparts, hle, hlt⟩ := Part.exists_append_of_lt hshort
  rw [hparts, placed_append, placed_cons, Nat.zero_add] at hall
  have hafter : ∀ q ∈ after, q.width = 0 := fun q =>
    Part.width_eq_zero_of_hasEnough hlt.le fun r i hi =>
      hall r i (List.mem_append_right _ (List.mem_cons_of_mem _ hi))
  have hnone : after.flatMap Part.kinds = [] := Part.flatMap_kinds_eq_nil_iff.2 hafter
  have htotal : t.placeholderCount = (before.map Part.width).sum + p.width := by
    have hzero : (after.map Part.width).sum = 0 := by
      rw [← Part.length_flatMap_kinds, hnone]
      rfl
    rw [t.placeholderCount_eq_sum, hparts, List.map_append, List.map_cons, List.sum_append, List.sum_cons, hzero,
      Nat.add_zero]
  -- the part in which the arguments end takes some and lacks some
  rcases hall p _ (List.mem_append_right _ List.mem_cons_self) with hzero | henough | ⟨b, rfl, hskip⟩
  · omega
  · omega
  · refine ⟨before, b, after, hparts, hnone, fun i hi hi' => ?_, hskip⟩
    have hsize : (Part.block b).width = b.size := rfl
    omega

private theorem Template.EndsDropped.hasEnough {args : List Value} {t : Template} (h : t.EndsDropped args) {p : Part}
    {i : Nat} (hp : (p, i) ∈ placed Part.width 0 t.parts) : p.HasEnough args i := by
  obtain ⟨before, b, after, hparts, hafter, -, j, hj, hskip⟩ := h
  have hpresent := (List.getElem?_eq_some_iff.1 hskip).1
  rw [hparts, placed_append, placed_cons, Nat.zero_add, List.mem_append, List.mem_cons] at hp
  rcases hp with hp | heq | hp
  · have hle : i + p.width ≤ 0 + (before.map Part.width).sum := add_width_le_of_mem_placed hp
    exact .inr (.inl (by omega))
  · obtain ⟨rfl, rfl⟩ := Prod.mk.inj heq
    exact .inr (.inr ⟨b, rfl, j, hj, hskip⟩)
  · exact .inl (Part.flatMap_kinds_eq_nil_iff.1 hafter p (fst_mem_of_mem_placed hp))

/-- All parts have enough arguments if the template has, or if the arguments end in a block that is dropped. -/
theorem Template.forall_hasEnough_iff (t : Template) (args : List Value) :
    (∀ p i, (p, i) ∈ placed Part.width 0 t.parts → p.HasEnough args i) ↔
      t.placeholderCount ≤ args.length ∨ t.EndsDropped args := by
  constructor
  · intro hall
    by_cases hshort : args.length < t.placeholderCount
    · exact .inr (endsDropped_of_hasEnough hall hshort)
    · exact .inl (by omega)
  · rintro (henough | hends) p i hp
    · have hle : i + p.width ≤ 0 + (t.parts.map Part.width).sum := add_width_le_of_mem_placed hp
      rw [← t.placeholderCount_eq_sum] at hle
      exact .inr (.inl (by omega))
    · exact hends.hasEnough hp

section Building

variable {source : Text} {t : Template} {args : Value} {items : List Value} {escape : Escape}

/-- Where all arguments fit, parts have a text or lack an argument. -/
private theorem Template.textAt_part_of_fitting
    (htop : ∀ kind offset i, (.segment (.placeholder kind offset), i) ∈ placed Part.width 0 t.parts →
      items[i]? ≠ some .skip)
    (hfit : ∀ (i : Nat) kind v, t.kinds[i]? = some kind → items[i]? = some v → v.isSkip = false →
      ∃ u, (kind.format v escape).outcome = .ok u) {p : Part} {i : Nat} (hp : (p, i) ∈ placed Part.width 0 t.parts) :
    (p.HasEnough items i → ∃ u, p.textAt items escape i = .ok u) ∧
    (¬ p.HasEnough items i →
      p.textAt items escape i = .error (.query (.missingArgument (max i items.length) items.length))) := by
  refine Part.textAt_of_fitting (fun j kind v hkind hv hskip => ?_) fun kind offset heq => htop kind offset i (heq ▸ hp)
  have hp' : (p, 0 + i) ∈ placed Part.width 0 t.parts := by rwa [Nat.zero_add]
  exact hfit (i + j) kind v (getElem?_kinds_of_mem_placed hp' hkind) hv hskip

/-- With arguments that fit, and no skip marker outside a block, a build has SQL if and only if there are as many
arguments as placeholders, or they end in a block that is given the skip marker and behind which no placeholder stands.
In every other case an argument is missing. -/
theorem build_of_fitting (ht : Template.compile source = .ok t) (hitems : args.items? = some items)
    (htop : ∀ kind offset i, (.segment (.placeholder kind offset), i) ∈ placed Part.width 0 t.parts →
      items[i]? ≠ some .skip)
    (hfit : ∀ (i : Nat) kind v, t.kinds[i]? = some kind → items[i]? = some v → v.isSkip = false →
      ∃ u, (kind.format v escape).outcome = .ok u) :
    ((∃ sql, (build source args escape).outcome = .ok sql) ↔
      t.placeholderCount ≤ items.length ∨ t.EndsDropped items) ∧
    (¬ (t.placeholderCount ≤ items.length ∨ t.EndsDropped items) →
      ∃ position, items.length ≤ position ∧ position < t.placeholderCount ∧
        (build source args escape).outcome = .error (.query (.missingArgument position items.length))) := by
  have hparts := fun {p i} => @Template.textAt_part_of_fitting t items escape htop hfit p i
  rw [outcome_build ht hitems, ← t.forall_hasEnough_iff]
  cases houtcome : t.textAt items escape with
  | ok sql =>
    have hall : ∀ p i, (p, i) ∈ placed Part.width 0 t.parts → p.HasEnough items i := by
      intro p i hp
      by_contra hnot
      obtain ⟨u, hu⟩ := exists_eq_ok_of_inSequence houtcome (List.mem_map_of_mem hp)
      rw [(hparts hp).2 hnot] at hu
      cases hu
    exact ⟨iff_of_true ⟨sql, rfl⟩ hall, fun hnot => absurd hall hnot⟩
  | error f =>
    -- the part that has no text is one that lacks an argument
    obtain ⟨⟨p, i⟩, hp, hf⟩ := List.mem_map.1 (mem_of_inSequence_eq_error houtcome)
    have hnot : ¬ p.HasEnough items i := by
      intro henough
      obtain ⟨u, hu⟩ := (hparts hp).1 henough
      rw [hu] at hf
      cases hf
    have hmissing := (hparts hp).2 hnot
    rw [hf, Except.error.injEq] at hmissing
    have hle : i + p.width ≤ 0 + (t.parts.map Part.width).sum := add_width_le_of_mem_placed hp
    rw [← t.placeholderCount_eq_sum] at hle
    refine ⟨iff_of_false nofun fun hall => hnot (hall p i hp), fun _ =>
      ⟨max i items.length, Nat.le_max_right _ _, ?_, congrArg _ hmissing⟩⟩
    simp only [Part.HasEnough, not_or] at hnot
    omega

/-- The last placeholder is in a dropped block, and a block without placeholders stands behind it; without the skip
marker, the last argument is missing. -/
theorem build_of_fitting_dropped :
    (∃ sql, (build "?d\x7b a = ? AND ?#\x7d b\x7b c\x7d".toList (.sequence .list [.int 1, .skip]) .backslash).outcome =
      .ok sql) ∧
    ∃ position, 2 ≤ position ∧ position < 3 ∧
      (build "?d\x7b a = ? AND ?#\x7d b\x7b c\x7d".toList (.sequence .list [.int 1, .null]) .backslash).outcome =
        .error (.query (.missingArgument position 2)) := by
  have hcompile : Template.compile "?d\x7b a = ? AND ?#\x7d b\x7b c\x7d".toList =
      .ok (.ofText "?d\x7b a = ? AND ?#\x7d b\x7b c\x7d".toList) := by
    decide +kernel
  have hparts : (Template.ofText "?d\x7b a = ? AND ?#\x7d b\x7b c\x7d".toList).parts =
      [.segment (.placeholder .integer 0),
        .block ⟨" a = ? AND ?#".toList, Segment.split 0 " a = ? AND ?#".toList, 2⟩,
        .segment (.text " b".toList), .block ⟨" c".toList, [.text " c".toList], 19⟩] := by
    decide +kernel
  have hkinds : (Template.ofText "?d\x7b a = ? AND ?#\x7d b\x7b c\x7d".toList).kinds =
      [.integer, .plain, .identifier] := by
    decide +kernel
  have hcount : (Template.ofText "?d\x7b a = ? AND ?#\x7d b\x7b c\x7d".toList).placeholderCount = 3 := by decide +kernel
  have htop : ∀ (v : Value) kind offset i, (.segment (.placeholder kind offset), i) ∈
      placed Part.width 0 (Template.ofText "?d\x7b a = ? AND ?#\x7d b\x7b c\x7d".toList).parts →
        [.int 1, v][i]? ≠ some .skip := by
    intro v kind offset i hi
    rw [hparts] at hi
    obtain ⟨-, rfl⟩ : (kind = .integer ∧ offset = 0) ∧ i = 0 := by simpa using hi
    nofun
  have hfit : ∀ (v : Value), (v.isSkip = false → ∃ u, (Kind.plain.format v .backslash).outcome = .ok u) →
      ∀ (i : Nat) kind w, (Template.ofText "?d\x7b a = ? AND ?#\x7d b\x7b c\x7d".toList).kinds[i]? = some kind →
        [.int 1, v][i]? = some w → w.isSkip = false → ∃ u, (kind.format w .backslash).outcome = .ok u := by
    intro v hv i kind w hkind hw hskip
    rw [hkinds] at hkind
    match i with
    | 0 =>
      cases hkind
      cases hw
      exact ⟨['1'], by decide +kernel⟩
    | 1 =>
      cases hkind
      cases hw
      exact hv hskip
    | i + 2 => cases hw
  constructor
  · refine (build_of_fitting hcompile rfl (htop .skip) (hfit .skip nofun)).1.2 (.inr ?_)
    refine ⟨[.segment (.placeholder .integer 0)], _, _, hparts, rfl, fun i hi hi' => ?_, 0, by decide +kernel, rfl⟩
    rw [hcount] at hi'
    obtain rfl : i = 2 := Nat.le_antisymm (Nat.le_of_lt_succ hi') hi
    decide +kernel
  · rw [← hcount]
    refine (build_of_fitting hcompile rfl (htop .null) (hfit .null fun _ => ⟨"NULL".toList, rfl⟩)).2 ?_
    rw [hcount]
    rintro (hle | ⟨before, b, after, -, -, -, j, -, hj⟩)
    · exact absurd hle (by decide)
    · generalize (before.map Part.width).sum + j = i at hj
      match i with
      | 0 | 1 => cases hj
      | i + 2 => cases hj

end Building

end SqlTemplate
