import SqlTemplate.Proofs.Flat
import SqlTemplate.Proofs.Rows

/-!
# Templates without their blocks

Where a build of a flat template succeeds, its blocks can be done without: a dropped block is deleted together with its
arguments, and of any other one only the braces are (`Template.unbraced`, `Template.keptArguments`).  What is left has
the same SQL (`build_unbraced`), unless a bare question mark has come to stand in front of the letter of a kind.
-/

namespace SqlTemplate

/-! ### Indices that dropped items take -/

section Windows

variable {α β : Type} {width : α → Nat}

/-- Whether an index lies among those that a dropped item takes. -/
def isDroppedIndex (drops : α × Nat → Bool) (width : α → Nat) (start : Nat) (items : List α) (i : Nat) : Bool :=
  (placed width start items).any fun p => drops p && p.2 ≤ i && i < p.2 + width p.1

private theorem isDroppedIndex_cons_of_lt {drops : α × Nat → Bool} {start i : Nat} {a : α} {items : List α}
    (hstart : start ≤ i) (hi : i < start + width a) :
    isDroppedIndex drops width start (a :: items) i = drops (a, start) := by
  have hrest : isDroppedIndex drops width (start + width a) items i = false := by
    apply List.any_eq_false.2
    intro p hp
    have hle := le_of_mem_placed hp
    simp only [Bool.and_eq_true, decide_eq_true_eq]
    omega
  rw [isDroppedIndex, placed_cons, List.any_cons, ← isDroppedIndex, hrest]
  simp [hstart, hi]

private theorem isDroppedIndex_cons_of_le {drops : α × Nat → Bool} {start i : Nat} {a : α} {items : List α}
    (hi : start + width a ≤ i) :
    isDroppedIndex drops width start (a :: items) i = isDroppedIndex drops width (start + width a) items i := by
  have hout : ¬ i < start + width a := by omega
  rw [isDroppedIndex, placed_cons, List.any_cons, ← isDroppedIndex]
  simp [hout]

/-- Without those that dropped items take, the values are those that each of the other items takes. -/
private theorem filter_zipIdx_eq_flatMap (width : α → Nat) (drops : α × Nat → Bool) (values : List β) (items : List α)
    (start : Nat) :
    ((((values.drop start).take (items.map width).sum).zipIdx start).filter fun v =>
        !isDroppedIndex drops width start items v.2).map Prod.fst =
      (placed width start items).flatMap fun p => if drops p then [] else (values.drop p.2).take (width p.1) := by
  induction items generalizing start with
  | nil => simp
  | cons a items ih =>
    rw [List.map_cons, List.sum_cons, List.take_add, List.drop_drop, placed_cons, List.flatMap_cons, ← ih]
    generalize hfront : (values.drop start).take (width a) = front
    generalize hback : (values.drop (start + width a)).take (items.map width).sum = back
    have hlength : front.length ≤ width a := by
      rw [← hfront]
      exact List.length_take_le _ _
    -- values stand behind those of the first item only if it has all of its own
    have hzip : back.zipIdx (start + front.length) = back.zipIdx (start + width a) := by
      by_cases hshort : values.length ≤ start + width a
      · rw [← hback, List.drop_eq_nil_of_le hshort]
        simp
      · have hfull : front.length = width a := by
          rw [← hfront, List.length_take, List.length_drop]
          omega
        rw [hfull]
    rw [List.zipIdx_append, hzip, List.filter_append, List.map_append]
    congr 1
    · have hsame : (front.zipIdx start).filter (fun v => !isDroppedIndex drops width start (a :: items) v.2) =
          (front.zipIdx start).filter fun _ => !drops (a, start) := by
        refine List.filter_congr fun v hv => ?_
        have hbounds := List.mem_zipIdx hv
        rw [isDroppedIndex_cons_of_lt hbounds.1 (by omega)]
      rw [hsame]
      cases drops (a, start) <;> simp [List.zipIdx_map_fst]
    · refine congrArg (List.map Prod.fst) (List.filter_congr fun v hv => ?_)
      rw [isDroppedIndex_cons_of_le (List.mem_zipIdx hv).1]

end Windows

/-! ### What is kept -/

/-- A block is dropped if the first of its arguments that has no text is the skip marker. -/
def Part.isDropped (args : List Value) (escape : Escape) : Part → Nat → Bool
  | .segment _, _ => false
  | .block b, i => b.filledAt args escape i = .error .skip

def Part.segments : Part → List Segment
  | .segment s => [s]
  | .block b => b.segments

/-- What comes of the parts that are not dropped, the first argument of them all having the index `start`. -/
def keptFrom {β : Type} (args : List Value) (escape : Escape) (f : Part × Nat → List β) (start : Nat)
    (parts : List Part) : List β :=
  (placed Part.width start parts).flatMap fun p => if p.1.isDropped args escape p.2 then [] else f p

namespace Template

/-- The template with its dropped blocks deleted and the braces of the others erased. -/
def unbraced (args : List Value) (escape : Escape) (t : Template) : Text :=
  keptFrom args escape (fun p => p.1.unbraced) 0 t.parts

def keptSegments (args : List Value) (escape : Escape) (t : Template) : List Segment :=
  keptFrom args escape (fun p => p.1.segments) 0 t.parts

/-- The arguments that the template takes, without those of the blocks that are dropped. -/
def keptArguments (args : List Value) (escape : Escape) (t : Template) : List Value :=
  ((args.take t.placeholderCount).zipIdx.filter fun a =>
    !isDroppedIndex (fun p => p.1.isDropped args escape p.2) Part.width 0 t.parts a.2).map Prod.fst

end Template

section Kept

variable {args : List Value} {escape : Escape}

private theorem keptFrom_cons {β : Type} (args : List Value) (escape : Escape) (f : Part × Nat → List β) (start : Nat)
    (p : Part) (parts : List Part) :
    keptFrom args escape f start (p :: parts) =
      (if p.isDropped args escape start then [] else f (p, start)) ++
        keptFrom args escape f (start + p.width) parts := by
  rw [keptFrom, placed_cons, List.flatMap_cons]
  rfl

/-- The arguments that a part takes. -/
def window (args : List Value) (p : Part × Nat) : List Value := (args.drop p.2).take p.1.width

private theorem Template.keptArguments_eq (args : List Value) (escape : Escape) (t : Template) :
    t.keptArguments args escape = keptFrom args escape (window args) 0 t.parts := by
  have hcount : t.placeholderCount = (t.parts.map Part.width).sum := List.length_flatMap
  have hwindows := filter_zipIdx_eq_flatMap Part.width (fun p => p.1.isDropped args escape p.2) args t.parts 0
  rwa [List.drop_zero, ← hcount] at hwindows

private theorem Part.rowWidth_segments (p : Part) : rowWidth p.segments = p.width := by
  cases p with
  | segment s => rfl
  | block b => exact b.size_eq_sum.symm

/-- A part with a text is dropped and has the empty one, or it has that of its row of segments. -/
theorem Part.textAt_eq_ok {p : Part} {i : Nat} {t : Text} (h : p.textAt args escape i = .ok t) :
    p.isDropped args escape i = true ∧ t = [] ∨
      p.isDropped args escape i = false ∧ rowAt args escape p.segments i = .ok t := by
  cases p with
  | segment s =>
    have hs : s.textAt args escape i = .ok t := Part.textAt_segment_eq_ok.1 h
    exact .inr ⟨rfl, rowAt_cons_eq_ok.2 ⟨t, [], hs, rfl, (List.append_nil t).symm⟩⟩
  | block b =>
    rcases Block.textAt_eq_ok.1 h with hfilled | ⟨hskip, rfl⟩
    · exact .inr ⟨by simp [isDropped, hfilled], hfilled⟩
    · exact .inl ⟨by simp [isDropped, hskip], rfl⟩

/-- The segments that are kept have the SQL of the parts, from the arguments that are kept. -/
private theorem rowAt_kept {parts : List Part} {start : Nat} {sql : Text}
    (h : inSequence ((placed Part.width start parts).map fun p => p.1.textAt args escape p.2) = .ok sql)
    (before : List Value) :
    rowAt (before ++ keptFrom args escape (window args) start parts) escape
      (keptFrom args escape (fun p => p.1.segments) start parts) before.length = .ok sql := by
  induction parts generalizing start sql before with
  | nil =>
    cases h
    rfl
  | cons p parts ih =>
    rw [placed_cons, List.map_cons] at h
    obtain ⟨u, v, hp, hparts, rfl⟩ := inSequence_cons_eq_ok.1 h
    rw [keptFrom_cons, keptFrom_cons]
    -- a dropped part leaves neither segments nor arguments, so that nothing is moved
    rcases Part.textAt_eq_ok hp with ⟨hdropped, rfl⟩ | ⟨hkept, hrow⟩
    · simpa [hdropped] using ih hparts before
    · obtain ⟨hlength, hmoved⟩ := rowAt_window hrow before
        (keptFrom args escape (window args) (start + p.width) parts)
      rw [p.rowWidth_segments] at hlength hmoved
      have hbehind := ih hparts (before ++ window args (p, start))
      have hplace : (before ++ window args (p, start)).length = before.length + rowWidth p.segments := by
        rw [List.length_append, p.rowWidth_segments]
        exact congrArg _ hlength
      rw [hplace] at hbehind
      simp only [hkept, Bool.false_eq_true, if_false]
      rw [← List.append_assoc]
      exact rowAt_append hmoved hbehind

end Kept

/-! ### Building without blocks -/

section Build

variable {source : Text} {t : Template} {args : List Value} {escape : Escape}

private theorem mem_of_mem_keptFrom {β : Type} {f : Part × Nat → List β} {start : Nat} {parts : List Part} {b : β}
    (h : b ∈ keptFrom args escape f start parts) : ∃ p ∈ placed Part.width start parts, b ∈ f p := by
  obtain ⟨p, hp, hb⟩ := List.mem_flatMap.1 h
  refine ⟨p, hp, ?_⟩
  split at hb
  · cases hb
  · exact hb

/-- What is left of a template is written by the segments that are kept. -/
private theorem Template.flatMap_source_keptSegments (ht : compile source = .ok t) :
    (t.keptSegments args escape).flatMap Segment.source = t.unbraced args escape := by
  obtain rfl := eq_ofText_of_compile ht
  rw [keptSegments, unbraced, keptFrom, keptFrom, List.flatMap_assoc]
  refine List.flatMap_congr fun p hp => ?_
  have hpart := fst_mem_of_mem_placed hp
  split
  · rfl
  · cases hcase : p.1 with
    | segment s => simp [Part.segments, Part.unbraced]
    | block b => exact (isLayout_body (hcase ▸ hpart)).written

private theorem Template.unmarked_keptSegments (ht : compile source = .ok t) :
    ∀ l, .text l ∈ t.keptSegments args escape → '?' ∉ l := by
  obtain rfl := eq_ofText_of_compile ht
  intro l hl
  obtain ⟨p, hp, hmem⟩ := mem_of_mem_keptFrom hl
  have hpart := fst_mem_of_mem_placed hp
  cases hcase : p.1 with
  | segment s =>
    rw [hcase] at hpart hmem
    obtain rfl := List.mem_singleton.1 hmem
    exact (isLayout_parts source).texts.unmarked _ hpart l rfl
  | block b =>
    rw [hcase] at hpart hmem
    exact (isLayout_body hpart).texts.unmarked _ hmem l rfl

theorem Template.braces_unbraced (hflat : IsFlat source) (ht : compile source = .ok t) :
    braces (t.unbraced args escape) = [] := by
  obtain rfl := eq_ofText_of_compile ht
  rw [braces_eq_nil_iff]
  intro c hc
  obtain ⟨p, hp, hmem⟩ := mem_of_mem_keptFrom hc
  exact braces_eq_nil_iff.1 (hflat.braces_unbraced (fst_mem_of_mem_placed hp)) c hmem

/-- A row of segments has the same text outside blocks. -/
private theorem inSequence_map_segment {segments : List Segment} {start : Nat} {sql : Text}
    (h : rowAt args escape segments start = .ok sql) :
    inSequence ((placed Part.width start (segments.map .segment)).map fun p => p.1.textAt args escape p.2) =
      .ok sql := by
  induction segments generalizing start sql with
  | nil =>
    cases h
    rfl
  | cons s segments ih =>
    obtain ⟨u, v, hs, hsegments, rfl⟩ := rowAt_cons_eq_ok.1 h
    rw [List.map_cons, placed_cons, List.map_cons]
    exact inSequence_cons_eq_ok.2 ⟨u, v, Part.textAt_segment_eq_ok.2 hs, ih hsegments, rfl⟩

end Build

/-- Where a flat template is built, so is what is left when its dropped blocks are deleted and the braces of the others
erased, with the same SQL from the arguments that are left, unless a bare question mark comes to stand in front of a
letter that makes it a placeholder of another kind. -/
theorem build_unbraced {source : Text} {t : Template} {args : Value} {items : List Value} {escape : Escape} {sql : Text}
    (hflat : IsFlat source) (ht : Template.compile source = .ok t) (hitems : args.items? = some items)
    (hsql : (build source args escape).outcome = .ok sql) (hmarks : MarksApart (t.keptSegments items escape)) :
    (build (t.unbraced items escape) (.sequence .list (t.keptArguments items escape)) escape).outcome = .ok sql := by
  rw [outcome_build ht hitems] at hsql
  have hrow : rowAt (t.keptArguments items escape) escape (t.keptSegments items escape) 0 = .ok sql := by
    rw [t.keptArguments_eq]
    exact rowAt_kept hsql []
  have hsplit : rowAt (t.keptArguments items escape) escape (Segment.split 0 (t.unbraced items escape)) 0 =
      .ok sql := by
    rw [← Template.flatMap_source_keptSegments ht, rowAt_split (Template.unmarked_keptSegments ht) hmarks]
    exact hrow
  have hbraces : braces (t.unbraced items escape) = [] := Template.braces_unbraced hflat ht
  rw [outcome_build (Template.compile_of_braces_eq_nil hbraces) rfl]
  exact inSequence_map_segment hsplit

/-- A block dropped in front of one that is kept, and at the end one whose last argument is missing. -/
theorem build_unbraced_past_end :
    (build "?#\x7b a?d ?f\x7d\x7b,?a\x7d?\x7b?d?\x7d".toList (.sequence .list [.text ['n'], .skip, .int 5,
      .sequence .list [.int 1, .int 2], .text ['v'], .skip]) .backslash).outcome = .ok "`n`,1, 2'v'".toList ∧
    (build "?#,?a?".toList (.sequence .list [.text ['n'], .sequence .list [.int 1, .int 2], .text ['v']])
      .backslash).outcome = .ok "`n`,1, 2'v'".toList := by
  have hbuild : (build "?#\x7b a?d ?f\x7d\x7b,?a\x7d?\x7b?d?\x7d".toList (.sequence .list [.text ['n'], .skip,
      .int 5, .sequence .list [.int 1, .int 2], .text ['v'], .skip]) .backslash).outcome =
        .ok "`n`,1, 2'v'".toList := by
    decide +kernel
  have hflat : IsFlat "?#\x7b a?d ?f\x7d\x7b,?a\x7d?\x7b?d?\x7d".toList :=
    ⟨"?#".toList, [(" a?d ?f".toList, []), (",?a".toList, ['?']), ("?d?".toList, [])], by decide +kernel⟩
  have hcompile : Template.compile "?#\x7b a?d ?f\x7d\x7b,?a\x7d?\x7b?d?\x7d".toList =
      .ok (.ofText "?#\x7b a?d ?f\x7d\x7b,?a\x7d?\x7b?d?\x7d".toList) := by
    decide +kernel
  have hkept : (Template.ofText "?#\x7b a?d ?f\x7d\x7b,?a\x7d?\x7b?d?\x7d".toList).keptSegments
      [.text ['n'], .skip, .int 5, .sequence .list [.int 1, .int 2], .text ['v'], .skip] .backslash =
        [.placeholder .identifier 0, .text [','], .placeholder .array 1, .placeholder .plain 16] := by
    decide +kernel
  have hmarks :
      MarksApart [.placeholder .identifier 0, .text [','], .placeholder .array 1, .placeholder .plain 16] := by
    simp [MarksApart, Segment.kind?]
  have hitems : (Value.sequence .list [.text ['n'], .skip, .int 5, .sequence .list [.int 1, .int 2], .text ['v'],
      .skip]).items? = some [.text ['n'], .skip, .int 5, .sequence .list [.int 1, .int 2], .text ['v'], .skip] := rfl
  exact ⟨hbuild, build_unbraced hflat hcompile hitems hbuild (hkept ▸ hmarks)⟩

end SqlTemplate
