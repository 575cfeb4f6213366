import SqlTemplate.Proofs.Positional
import SqlTemplate.Proofs.Scanning

/-!
# Rows of segments

The SQL of a row of segments depends on what the row is written as and on the arguments of its placeholders, not on
where the row or its arguments stand.  Splitting the written row again gives segments with the same SQL, although texts
that stood side by side are one text then (`rowAt_split`), and the arguments may be moved to another place
(`rowAt_window`).
-/

namespace SqlTemplate

/-- The text of a row of segments of which the first argument has the index `start`. -/
def rowAt (args : List Value) (escape : Escape) (segments : List Segment) (start : Nat) : Except Interruption Text :=
  inSequence ((placed Segment.width start segments).map fun p => p.1.textAt args escape p.2)

/-- How many arguments a row takes. -/
def rowWidth (segments : List Segment) : Nat := (segments.map Segment.width).sum

@[simp] theorem rowWidth_cons (s : Segment) (segments : List Segment) :
    rowWidth (s :: segments) = s.width + rowWidth segments :=
  rfl

section Rows

variable {args : List Value} {escape : Escape} {segments : List Segment} {start : Nat} {t u : Text}

@[simp] theorem rowAt_nil (args : List Value) (escape : Escape) (start : Nat) :
    rowAt args escape [] start = .ok [] := rfl

private theorem rowAt_cons (args : List Value) (escape : Escape) (s : Segment) (segments : List Segment) (start : Nat) :
    rowAt args escape (s :: segments) start =
      (s.textAt args escape start).bind fun t => (rowAt args escape segments (start + s.width)).map (t ++ ·) := by
  rw [rowAt, placed_cons, List.map_cons, inSequence_cons]
  rfl

theorem rowAt_text_cons (args : List Value) (escape : Escape) (t : Text) (segments : List Segment) (start : Nat) :
    rowAt args escape (.text t :: segments) start = (rowAt args escape segments start).map (t ++ ·) :=
  rowAt_cons args escape (.text t) segments start

theorem rowAt_cons_eq_ok {s : Segment} :
    rowAt args escape (s :: segments) start = .ok t ↔
      ∃ u v, s.textAt args escape start = .ok u ∧ rowAt args escape segments (start + s.width) = .ok v ∧
        t = u ++ v := by
  rw [rowAt, placed_cons, List.map_cons]
  exact inSequence_cons_eq_ok

theorem rowAt_append {others : List Segment} (h : rowAt args escape segments start = .ok t)
    (hothers : rowAt args escape others (start + rowWidth segments) = .ok u) :
    rowAt args escape (segments ++ others) start = .ok (t ++ u) := by
  induction segments generalizing start t with
  | nil =>
    cases h
    exact hothers
  | cons s segments ih =>
    obtain ⟨v, w, hs, hsegments, rfl⟩ := rowAt_cons_eq_ok.1 h
    rw [rowWidth_cons, ← Nat.add_assoc] at hothers
    exact rowAt_cons_eq_ok.2 ⟨v, w ++ u, hs, ih hsegments hothers, List.append_assoc v w u⟩

/-! ### Splitting a row that was written -/

private theorem rowAt_prependChar (args : List Value) (escape : Escape) (c : Char) (segments : List Segment)
    (start : Nat) :
    rowAt args escape (Segment.prependChar c segments) start = (rowAt args escape segments start).map (c :: ·) := by
  cases segments with
  | nil => rfl
  | cons s segments =>
    cases s with
    | placeholder kind offset => exact rowAt_text_cons args escape [c] _ start
    | text t =>
      rw [Segment.prependChar, rowAt_text_cons, rowAt_text_cons]
      cases rowAt args escape segments start <;> rfl

/-- Text without question marks goes into the SQL as it is, whatever stands behind it. -/
private theorem rowAt_split_append (hmark : '?' ∉ t) (offset : Nat) :
    rowAt args escape (Segment.split offset (t ++ u)) start =
      (rowAt args escape (Segment.split (offset + t.length) u) start).map (t ++ ·) := by
  induction t generalizing offset with
  | nil => cases h : rowAt args escape (Segment.split offset u) start <;> simp [h, Except.map]
  | cons c t ih =>
    have hc : c ≠ '?' := fun h => hmark (by simp [h])
    have hlength : offset + (c :: t).length = offset + 1 + t.length := by
      simp only [List.length_cons]
      omega
    rw [List.cons_append, Segment.split_cons_of_ne hc, rowAt_prependChar,
      ih (fun h => hmark (List.mem_cons_of_mem c h)), hlength]
    cases rowAt args escape (Segment.split (offset + 1 + t.length) u) start <;> rfl

/-- No bare question mark is followed by the letter of a kind when the segments are written. -/
def MarksApart : List Segment → Prop
  | [] => True
  | s :: rest =>
    (s.kind? = some .plain → ∀ c ∈ (rest.flatMap Segment.source).head?, c ∉ ['d', 'f', 'a', '#']) ∧ MarksApart rest

private theorem ofSpecifier?_eq_none {c : Char} (h : c ∉ ['d', 'f', 'a', '#']) : Kind.ofSpecifier? c = none := by
  unfold Kind.ofSpecifier?
  split <;> simp_all

/-- Written and split again, a row has the same text. -/
theorem rowAt_split (hunmarked : ∀ t, .text t ∈ segments → '?' ∉ t) (hmarks : MarksApart segments) (offset : Nat) :
    rowAt args escape (Segment.split offset (segments.flatMap Segment.source)) start =
      rowAt args escape segments start := by
  induction segments generalizing offset start with
  | nil => rfl
  | cons s segments ih =>
    have hrest : ∀ offset start, rowAt args escape (Segment.split offset (segments.flatMap Segment.source)) start =
        rowAt args escape segments start :=
      fun offset start => ih (fun t ht => hunmarked t (List.mem_cons_of_mem s ht)) hmarks.2 offset
    rw [List.flatMap_cons]
    cases s with
    | text t =>
      rw [Segment.source, rowAt_split_append (hunmarked t List.mem_cons_self), hrest, rowAt_text_cons]
    | placeholder kind i =>
      have hnext : kind = .plain → ∀ c ∈ (segments.flatMap Segment.source).head?, Kind.ofSpecifier? c = none := by
        rintro rfl c hc
        exact ofSpecifier?_eq_none (hmarks.1 rfl c hc)
      rw [Segment.source, Segment.split_token_append hnext, rowAt_cons, rowAt_cons, hrest]
      rfl

/-! ### Moving the arguments of a row -/

/-- Only the argument itself matters to a placeholder that has one. -/
theorem Segment.textAt_congr {others : List Value} {s : Segment} {i j : Nat} {v : Value} (hi : args[i]? = some v)
    (hj : others[j]? = some v) : s.textAt args escape i = s.textAt others escape j := by
  cases s with
  | text t => rfl
  | placeholder kind offset =>
    rw [textAt, textAt, hi, hj]
    cases v <;> rfl

/-- A row that has a text finds all of its arguments, and has the same text where they stand among others. -/
theorem rowAt_window (h : rowAt args escape segments start = .ok t) (before after : List Value) :
    ((args.drop start).take (rowWidth segments)).length = rowWidth segments ∧
      rowAt (before ++ (args.drop start).take (rowWidth segments) ++ after) escape segments before.length =
        .ok t := by
  induction segments generalizing start t before with
  | nil =>
    cases h
    exact ⟨by simp [rowWidth], rfl⟩
  | cons s segments ih =>
    obtain ⟨u, w, hs, hsegments, rfl⟩ := rowAt_cons_eq_ok.1 h
    cases s with
    | text l =>
      obtain ⟨hlength, hrow⟩ := ih hsegments before
      have hwidth : rowWidth (.text l :: segments) = rowWidth segments := Nat.zero_add _
      rw [hwidth]
      exact ⟨hlength, rowAt_cons_eq_ok.2 ⟨u, w, hs, hrow, rfl⟩⟩
    | placeholder kind offset =>
      have hone : (Segment.placeholder kind offset).width = 1 := rfl
      obtain ⟨v, hv, -⟩ := Segment.exists_format_of_textAt hs
      obtain ⟨hlength, hrow⟩ := ih (hone ▸ hsegments) (before ++ [v])
      obtain ⟨hlt, rfl⟩ := List.getElem?_eq_some_iff.1 hv
      have hwindow : (args.drop start).take (rowWidth (.placeholder kind offset :: segments)) =
          args[start] :: (args.drop (start + 1)).take (rowWidth segments) := by
        rw [List.drop_eq_getElem_cons hlt, rowWidth_cons, hone, Nat.add_comm, List.take_succ_cons]
      have hmoved :
          (before ++ args[start] :: (args.drop (start + 1)).take (rowWidth segments) ++ after)[before.length]? =
            some args[start] := by
        simp
      rw [hwindow]
      constructor
      · rw [List.length_cons, hlength, rowWidth_cons, hone, Nat.add_comm]
      · refine rowAt_cons_eq_ok.2 ⟨u, w, ?_, ?_, rfl⟩
        · rw [← hs]
          exact Segment.textAt_congr hmoved hv
        · simpa [hone] using hrow

end Rows

end SqlTemplate
