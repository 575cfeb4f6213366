import Mathlib.Data.Nat.Find
import SqlTemplate.Proofs.Rows

/-!
# Dropped blocks

The placeholders of a block are looked at one after the other, and the work on the block ends at the first one whose
argument has no text.  If that argument is the skip marker, the block is dropped with the arguments of all of its
placeholders (`Block.resolve_of_skip`); a missing one or one that does not fit is a fault, also in front of a skip
marker.  So a block that is given the skip marker is dropped if and only if the arguments in front of the first one have
texts (`Block.resolve_of_given_skip`).
-/

namespace SqlTemplate

/-- The `i`-th of the kinds has an argument, and that has a text; the first argument has the index `start`. -/
def HasText (args : List Value) (escape : Escape) (kinds : List Kind) (start i : Nat) : Prop :=
  ∃ kind v t, kinds[i]? = some kind ∧ args[start + i]? = some v ∧ (kind.format v escape).outcome = .ok t

section Rows

variable {args : List Value} {escape : Escape}

private theorem hasText_zero {kind : Kind} {kinds : List Kind} {start : Nat}
    (h : HasText args escape (kind :: kinds) start 0) :
    ∃ v t, args[start]? = some v ∧ (kind.format v escape).outcome = .ok t := by
  obtain ⟨_, v, t, hkind, hv, ht⟩ := h
  obtain rfl := Option.some.inj hkind
  exact ⟨v, t, hv, ht⟩

private theorem hasText_succ {kind : Kind} {kinds : List Kind} {start i : Nat}
    (h : HasText args escape (kind :: kinds) start (i + 1)) : HasText args escape kinds (start + 1) i := by
  obtain ⟨kind', v, t, hkind, hv, ht⟩ := h
  refine ⟨kind', v, t, hkind, ?_, ht⟩
  rwa [show start + 1 + i = start + (i + 1) by omega]

/-- No placeholder has a text for the skip marker. -/
theorem Kind.format_skip_ne_ok (kind : Kind) (escape : Escape) (t : Text) :
    (kind.format .skip escape).outcome ≠ .ok t := by
  cases kind <;> simp [format, draft, Slot.literal, Slot.integer, Slot.float, Slot.array, Slot.identifiers,
    Draft.ofExcept, Draft.error, Draft.failed, Draft.fill, fillPieces]

theorem Segment.textAt_of_format {kind : Kind} {offset i : Nat} {v : Value} {t : Text} (hv : args[i]? = some v)
    (ht : (kind.format v escape).outcome = .ok t) : (Segment.placeholder kind offset).textAt args escape i = .ok t := by
  rw [textAt, hv]
  cases v with
  | skip => exact absurd ht (kind.format_skip_ne_ok escape t)
  | _ =>
    simp only [ht]
    rfl

theorem exists_first_skip {start n : Nat} (h : ∃ i < n, args[start + i]? = some .skip) :
    ∃ k < n, args[start + k]? = some .skip ∧ ∀ j < k, args[start + j]? ≠ some .skip := by
  classical
  obtain ⟨hk, hskip⟩ := Nat.find_spec h
  refine ⟨Nat.find h, hk, hskip, fun j hj hj' => ?_⟩
  exact Nat.find_min h hj ⟨by omega, hj'⟩

/-- A row whose arguments all have texts has a text. -/
private theorem exists_rowAt {segments : List Segment} {start : Nat}
    (h : ∀ i < rowWidth segments, HasText args escape (segments.filterMap Segment.kind?) start i) :
    ∃ t, rowAt args escape segments start = .ok t := by
  induction segments generalizing start with
  | nil => exact ⟨[], rfl⟩
  | cons s segments ih =>
    cases s with
    | text u =>
      have hwidth : rowWidth (.text u :: segments) = rowWidth segments := Nat.zero_add _
      rw [hwidth] at h
      obtain ⟨t, ht⟩ := ih h
      exact ⟨u ++ t, by rw [rowAt_text_cons, ht]; rfl⟩
    | placeholder kind offset =>
      have hwidth : rowWidth (.placeholder kind offset :: segments) = 1 + rowWidth segments := rfl
      rw [hwidth] at h
      obtain ⟨v, t, hv, ht⟩ := hasText_zero (h 0 (by omega))
      obtain ⟨u, hu⟩ := ih fun i hi => hasText_succ (h (i + 1) (by omega))
      exact ⟨t ++ u, rowAt_cons_eq_ok.2 ⟨t, u, Segment.textAt_of_format hv ht, hu, rfl⟩⟩

/-- The placeholder of a row at an index, with what stands in front of it. -/
private theorem Segment.exists_append_placeholder {segments : List Segment} {i : Nat} {kind : Kind}
    (h : (segments.filterMap kind?)[i]? = some kind) :
    ∃ before offset after, segments = before ++ .placeholder kind offset :: after ∧ rowWidth before = i := by
  induction segments generalizing i with
  | nil => cases h
  | cons s segments ih =>
    cases s with
    | text t =>
      obtain ⟨before, offset, after, rfl, hi⟩ := ih h
      exact ⟨.text t :: before, offset, after, rfl, by rw [rowWidth_cons, hi]; exact Nat.zero_add i⟩
    | placeholder kind' offset' =>
      cases i with
      | zero =>
        obtain rfl : kind' = kind := Option.some.inj h
        exact ⟨[], offset', segments, rfl, rfl⟩
      | succ i =>
        obtain ⟨before, offset, after, rfl, hi⟩ := ih h
        refine ⟨.placeholder kind' offset' :: before, offset, after, rfl, ?_⟩
        rw [rowWidth_cons, hi]
        exact Nat.add_comm 1 i

private theorem Segment.length_filterMap_kind? (segments : List Segment) :
    (segments.filterMap kind?).length = rowWidth segments :=
  Block.size_eq_sum ⟨[], segments, 0⟩

end Rows

/-! ### Where the work on a row ends -/

namespace Resolution

variable {α ε : Type} {resolve : α → Cursor → Resolution ε} {width : α → Nat}

/-- Items in a row end as the first one that stops. -/
private theorem inOrder_of_error (h : Advances resolve width) {before after : List α} {a : α} {c : Cursor} {t : Text}
    {e : ε} (hbefore : (inOrder resolve before c).outcome = .ok t)
    (ha : (resolve a (c.forward (before.map width).sum)).outcome = .error e) :
    (inOrder resolve (before ++ a :: after) c).outcome = .error e ∧
      (inOrder resolve (before ++ a :: after) c).cursor = (resolve a (c.forward (before.map width).sum)).cursor := by
  have hcursor : (inOrder resolve before c).cursor = c.forward (before.map width).sum := h.inOrder before c t hbefore
  rw [← hcursor] at ha ⊢
  have hstop : inOrder resolve (a :: after) (inOrder resolve before c).cursor =
      resolve a (inOrder resolve before c).cursor := andThen_of_error ha _
  rw [inOrder_append, outcome_andThen_of_ok hbefore, cursor_andThen_of_ok hbefore, hstop, ha]
  exact ⟨rfl, rfl⟩

end Resolution

open Resolution

namespace Block

variable {args : List Value} {escape : Escape} {b : Block} {start : Nat}

/-- A block whose arguments all have texts has a text. -/
theorem exists_outcome_resolve (h : ∀ i < b.size, HasText args escape b.kinds start i) :
    ∃ t, (b.resolve escape ⟨args, start⟩).outcome = .ok t := by
  rw [b.size_eq_sum] at h
  obtain ⟨t, ht⟩ := exists_rowAt h
  exact ⟨t, by rw [outcome_resolve, textAt_eq_ok]; exact .inl ht⟩

section Stopping

variable {k : Nat} {kind : Kind} (hkind : b.kinds[k]? = some kind)
  (hbefore : ∀ i < k, HasText args escape b.kinds start i)

include hkind hbefore

/-- The work on the segments of a block ends as its first placeholder that stops; where that is written does not
matter. -/
private theorem inOrder_segments_of_error {e : Interruption}
    (he : ((Segment.placeholder kind 0).resolve escape ⟨args, start + k⟩).outcome = .error e) :
    (inOrder (Segment.resolve escape) b.segments ⟨args, start⟩).outcome = .error e ∧
      (inOrder (Segment.resolve escape) b.segments ⟨args, start⟩).cursor =
        ((Segment.placeholder kind 0).resolve escape ⟨args, start + k⟩).cursor := by
  obtain ⟨before, offset, after, hsegments, hwidth⟩ := Segment.exists_append_placeholder hkind
  have hsum : (before.map Segment.width).sum = k := hwidth
  have htexts : ∀ i < rowWidth before, HasText args escape (before.filterMap Segment.kind?) start i := by
    intro i hi
    obtain ⟨kind', v, t, hkind', hv, ht⟩ := hbefore i (by omega)
    have hlength := Segment.length_filterMap_kind? before
    rw [kinds, hsegments, List.filterMap_append, List.getElem?_append_left (by omega)] at hkind'
    exact ⟨kind', v, t, hkind', hv, ht⟩
  obtain ⟨t, ht⟩ := exists_rowAt htexts
  have houtcome : (inOrder (Segment.resolve escape) before ⟨args, start⟩).outcome = .ok t := by
    rw [outcome_inOrder (Segment.advances_resolve escape) (Segment.outcome_resolve args escape)]
    exact ht
  have hstop := @inOrder_of_error _ _ _ _ (Segment.advances_resolve escape) before after
    (.placeholder kind offset) ⟨args, start⟩ t e houtcome
  rw [hsum, ← hsegments] at hstop
  exact hstop he

/-- At the skip marker, the block is dropped with the arguments of all of its placeholders. -/
theorem resolve_of_skip (hskip : args[start + k]? = some .skip) :
    (b.resolve escape ⟨args, start⟩).outcome = .ok [] ∧
      (b.resolve escape ⟨args, start⟩).cursor = ⟨args, start + b.size⟩ ∧
      (b.resolve escape ⟨args, start⟩).skipped = [b] := by
  have hstop : ((Segment.placeholder kind 0).resolve escape ⟨args, start + k⟩).outcome = .error .skip := by
    rw [Segment.resolve_placeholder, hskip]
    rfl
  obtain ⟨houtcome, -⟩ := inOrder_segments_of_error hkind hbefore hstop
  simp only [resolve, houtcome]
  exact ⟨trivial, rfl, trivial⟩

theorem resolve_of_missing (hnone : args[start + k]? = none) :
    (b.resolve escape ⟨args, start⟩).outcome = .error (.query (.missingArgument (start + k) args.length)) := by
  have hstop : ((Segment.placeholder kind 0).resolve escape ⟨args, start + k⟩).outcome =
      .error (.fault (.query (.missingArgument (start + k) args.length))) := by
    rw [Segment.resolve_placeholder, hnone]
    rfl
  obtain ⟨houtcome, -⟩ := inOrder_segments_of_error hkind hbefore hstop
  simp only [resolve, houtcome]

/-- An argument that does not fit is a fault, and the cursor stands behind it. -/
private theorem resolve_of_fault {v : Value} {f : Fault} (hv : args[start + k]? = some v) (hskip : v.isSkip = false)
    (hf : (kind.format v escape).outcome = .error f) :
    (b.resolve escape ⟨args, start⟩).outcome = .error f ∧
      (b.resolve escape ⟨args, start⟩).cursor = ⟨args, start + k + 1⟩ ∧
      (b.resolve escape ⟨args, start⟩).skipped = [] := by
  have hresolve : (Segment.placeholder kind 0).resolve escape ⟨args, start + k⟩ =
      .ofFilled .fault ⟨args, start + k + 1⟩ (kind.format v escape) := by
    rw [Segment.resolve_placeholder, hv]
    cases v with
    | skip => cases hskip
    | _ => rfl
  have hstop : ((Segment.placeholder kind 0).resolve escape ⟨args, start + k⟩).outcome = .error (.fault f) := by
    rw [hresolve, ofFilled, hf]
    rfl
  obtain ⟨houtcome, hcursor⟩ := inOrder_segments_of_error hkind hbefore hstop
  simp only [resolve, houtcome, hcursor, hresolve]
  exact ⟨trivial, rfl, trivial⟩

end Stopping

/-- Among arguments that are there and are no skip markers, the first one without a text is a fault. -/
private theorem exists_resolve_eq_fault {n : Nat} (hsize : n ≤ b.size) (hpresent : start + n ≤ args.length)
    (hskip : ∀ i < n, args[start + i]? ≠ some .skip) (h : ∃ i < n, ¬ HasText args escape b.kinds start i) :
    ∃ i < n, ∃ kind v f, (∀ j < i, HasText args escape b.kinds start j) ∧ b.kinds[i]? = some kind ∧
      args[start + i]? = some v ∧ (kind.format v escape).outcome = .error f ∧
      (b.resolve escape ⟨args, start⟩).outcome = .error f ∧
      (b.resolve escape ⟨args, start⟩).cursor = ⟨args, start + i + 1⟩ := by
  classical
  -- the work ends at the least index without a text
  obtain ⟨hi, hnot⟩ := Nat.find_spec h
  have hbefore : ∀ j < Nat.find h, HasText args escape b.kinds start j := by
    intro j hj
    by_contra hj'
    exact Nat.find_min h hj ⟨by omega, hj'⟩
  generalize Nat.find h = i at hi hnot hbefore
  obtain ⟨kind, hkind⟩ : ∃ kind, b.kinds[i]? = some kind := ⟨_, List.getElem?_eq_getElem (hi.trans_le hsize)⟩
  obtain ⟨v, hv⟩ : ∃ v, args[start + i]? = some v := ⟨_, List.getElem?_eq_getElem (by omega)⟩
  have hv' : v.isSkip = false := by
    cases v with
    | skip => exact absurd hv (hskip i hi)
    | _ => rfl
  cases hf : (kind.format v escape).outcome with
  | ok t => exact absurd ⟨kind, v, t, hkind, hv, hf⟩ hnot
  | error f =>
    obtain ⟨houtcome, hcursor, -⟩ := resolve_of_fault hkind hbefore hv hv' hf
    exact ⟨i, hi, kind, v, f, hbefore, hkind, hv, hf, houtcome, hcursor⟩

/-- A block is dropped for a skip marker among its arguments if and only if those in front of the first one have texts.
Otherwise the first of them without a text is a fault, although the dropped block would not have shown it. -/
theorem resolve_of_given_skip (hskip : ∃ i < b.size, args[start + i]? = some .skip) :
    (((b.resolve escape ⟨args, start⟩).outcome = .ok [] ∧
        (b.resolve escape ⟨args, start⟩).cursor = ⟨args, start + b.size⟩) ↔
      ∀ i, (∀ j ≤ i, args[start + j]? ≠ some .skip) → HasText args escape b.kinds start i) ∧
    ((∃ i, (∀ j ≤ i, args[start + j]? ≠ some .skip) ∧ ¬ HasText args escape b.kinds start i) →
      ∃ i kind v f, (∀ j ≤ i, args[start + j]? ≠ some .skip) ∧ (∀ j < i, HasText args escape b.kinds start j) ∧
        b.kinds[i]? = some kind ∧ args[start + i]? = some v ∧ (kind.format v escape).outcome = .error f ∧
        (b.resolve escape ⟨args, start⟩).outcome = .error f ∧
        (b.resolve escape ⟨args, start⟩).cursor = ⟨args, start + i + 1⟩) := by
  obtain ⟨k, hk, hskip', hfirst⟩ := exists_first_skip hskip
  have hpresent : start + k < args.length := (List.getElem?_eq_some_iff.1 hskip').1
  -- what stands in front of all skip markers stands in front of the first
  have hfront : ∀ i, (∀ j ≤ i, args[start + j]? ≠ some .skip) ↔ i < k := by
    intro i
    constructor
    · intro hi
      by_contra hle
      exact hi k (by omega) hskip'
    · intro hi j hj
      exact hfirst j (by omega)
  have hfault := @exists_resolve_eq_fault args escape b start k hk.le (by omega) hfirst
  simp only [hfront]
  refine ⟨⟨fun hdropped i hi => ?_, fun htexts => ?_⟩, ?_⟩
  · by_contra hnot
    obtain ⟨_, -, _, _, f, -, -, -, -, houtcome, -⟩ := hfault ⟨i, hi, hnot⟩
    rw [hdropped.1] at houtcome
    cases houtcome
  · obtain ⟨kind, hkind⟩ : ∃ kind, b.kinds[k]? = some kind := ⟨_, List.getElem?_eq_getElem hk⟩
    obtain ⟨houtcome, hcursor, -⟩ := resolve_of_skip hkind htexts hskip'
    exact ⟨houtcome, hcursor⟩
  · rintro ⟨i, hi, hnot⟩
    obtain ⟨i, hi, kind, v, f, hrest⟩ := hfault ⟨i, hi, hnot⟩
    exact ⟨i, kind, v, f, hi, hrest⟩

/-- Entered at the second argument, the block is dropped for its second placeholder; the set behind fits none. -/
theorem resolve_of_given_skip_unseen :
    (∃ i < (Block.mk "a = ?d, b = ?f, c = ?".toList (Segment.split 0 "a = ?d, b = ?f, c = ?".toList) 0).size,
      [Value.null, .int 5, .skip, .set .plain []][1 + i]? = some .skip) ∧
    ((Block.mk "a = ?d, b = ?f, c = ?".toList (Segment.split 0 "a = ?d, b = ?f, c = ?".toList) 0).resolve .backslash
        ⟨[.null, .int 5, .skip, .set .plain []], 1⟩).outcome = .ok [] ∧
      ((Block.mk "a = ?d, b = ?f, c = ?".toList (Segment.split 0 "a = ?d, b = ?f, c = ?".toList) 0).resolve .backslash
        ⟨[.null, .int 5, .skip, .set .plain []], 1⟩).cursor = ⟨[.null, .int 5, .skip, .set .plain []], 4⟩ := by
  have hskip : ∃ i < (Block.mk "a = ?d, b = ?f, c = ?".toList (Segment.split 0 "a = ?d, b = ?f, c = ?".toList) 0).size,
      [Value.null, .int 5, .skip, .set .plain []][1 + i]? = some .skip := ⟨1, by decide +kernel, rfl⟩
  refine ⟨hskip, (resolve_of_given_skip hskip).1.2 fun i hi => ?_⟩
  by_cases h : i = 0
  · subst h
    exact ⟨.integer, .int 5, ['5'], by decide +kernel, rfl, by decide +kernel⟩
  · exact absurd rfl (hi 1 (by omega))

/-- A list in front of the skip marker: the block that should be dropped is refused for a value it would not show. -/
theorem resolve_list_before_skip :
    (∃ i < (Block.mk "?d ?".toList (Segment.split 0 "?d ?".toList) 0).size,
      [Value.sequence .list [], .skip][0 + i]? = some .skip) ∧
    ((Block.mk "?d ?".toList (Segment.split 0 "?d ?".toList) 0).resolve .backslash
      ⟨[.sequence .list [], .skip], 0⟩).outcome = .error (.query (.mismatch (.arrayAs .integer))) :=
  ⟨⟨1, by decide +kernel, rfl⟩, by decide +kernel⟩

end Block

end SqlTemplate
