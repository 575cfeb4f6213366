import SqlTemplate.Proofs.Rows

/-!
# Arguments that matter

An argument of a block is not looked at if it stands behind a skip marker among the arguments of the block, nor is one
behind those of all placeholders.  Two lists of arguments that agree everywhere else lead through the same resolution,
step by step (`sameReport_segments`, `sameReport_parts`), and so to the same report of a build that succeeds with one of
them (`build_of_agree`).
-/

namespace SqlTemplate

/-! ### Dead and live arguments -/

/-- The argument belongs to a block, and stands behind a skip marker among the arguments of that block. -/
def IsDeadAmong (args : List Value) (start : Nat) (parts : List Part) (i : Nat) : Prop :=
  ∃ b first, (.block b, first) ∈ placed Part.width start parts ∧ i < first + b.size ∧
    ∃ j, first ≤ j ∧ j < i ∧ args[j]? = some .skip

/-- The arguments that are looked at. -/
def Template.IsLive (args : List Value) (t : Template) (i : Nat) : Prop :=
  i < t.placeholderCount ∧ ¬ IsDeadAmong args 0 t.parts i

section Dead

variable {args : List Value} {start i : Nat} {parts : List Part}

/-- An argument is dead for a skip marker that some block is given. -/
private theorem IsDeadAmong.exists_skip (h : IsDeadAmong args start parts i) :
    ∃ j, start ≤ j ∧ j < i ∧ args[j]? = some .skip := by
  obtain ⟨b, first, hb, -, j, hfirst, hj, hskip⟩ := h
  exact ⟨j, (le_of_mem_placed hb).trans hfirst, hj, hskip⟩

private theorem IsDeadAmong.of_cons {p : Part} (h : IsDeadAmong args start (p :: parts) i) (hi : start + p.width ≤ i) :
    IsDeadAmong args (start + p.width) parts i := by
  obtain ⟨b, first, hb, hlt, hskip⟩ := h
  rw [placed_cons] at hb
  rcases List.mem_cons.1 hb with heq | hb
  · -- the first part ends in front of the argument
    obtain ⟨rfl, rfl⟩ := Prod.mk.inj heq
    exact absurd hlt (Nat.not_lt.2 hi)
  · exact ⟨b, first, hb, hlt, hskip⟩

end Dead

/-! ### Resolutions that report the same -/

namespace Resolution

variable {ε : Type}

/-- The same SQL or error, with the same texts escaped and the same blocks dropped on the way. -/
structure SameReport (r r' : Resolution ε) : Prop where
  escaped : r'.escaped = r.escaped
  skipped : r'.skipped = r.skipped
  outcome : r'.outcome = r.outcome

theorem SameReport.andThen {r r' : Resolution ε} {next next' : Cursor → Resolution ε} (h : SameReport r r')
    (hnext : ∀ t, r.outcome = .ok t → SameReport (next r.cursor) (next' r'.cursor)) :
    SameReport (r.andThen next) (r'.andThen next') := by
  obtain ⟨hescaped, hskipped, houtcome⟩ := h
  cases hr : r.outcome with
  | error e =>
    rw [andThen_of_error hr, andThen_of_error (houtcome.trans hr)]
    exact ⟨hescaped, hskipped, houtcome⟩
  | ok t =>
    rw [hr] at houtcome
    obtain ⟨hescaped', hskipped', houtcome'⟩ := hnext t hr
    simp only [Resolution.andThen, hr, houtcome]
    exact ⟨by rw [hescaped, hescaped'], by rw [hskipped, hskipped'], by rw [houtcome']⟩

end Resolution

open Resolution

section Agree

variable {args args' : List Value} {escape : Escape}

/-- A placeholder that finds the same argument leads to the same. -/
private theorem Segment.sameReport_resolve {s : Segment} {i : Nat} {v : Value} (h : args[i]? = some v)
    (h' : args'[i]? = some v) :
    SameReport (s.resolve escape ⟨args, i⟩) (s.resolve escape ⟨args', i⟩) := by
  cases s with
  | text t => exact ⟨rfl, rfl, rfl⟩
  | placeholder kind offset =>
    rw [resolve_placeholder, resolve_placeholder, h, h']
    cases v <;> exact ⟨rfl, rfl, rfl⟩

/-- The segments of a block see the arguments up to the first skip marker. -/
theorem sameReport_segments {segments : List Segment} {start : Nat}
    (hagree : ∀ i, start ≤ i → i < start + rowWidth segments → (∀ j, start ≤ j → j < i → args[j]? ≠ some .skip) →
      args'[i]? = args[i]?)
    (hfault : ∀ f, (inOrder (Segment.resolve escape) segments ⟨args, start⟩).outcome ≠ .error (.fault f)) :
    SameReport (inOrder (Segment.resolve escape) segments ⟨args, start⟩)
      (inOrder (Segment.resolve escape) segments ⟨args', start⟩) := by
  -- a placeholder with a text moves both cursors on by one, and the rest starts at the same index again
  induction segments generalizing start with
  | nil => exact ⟨rfl, rfl, rfl⟩
  | cons s segments ih =>
    rw [inOrder] at hfault
    rw [inOrder, inOrder]
    cases s with
    | text t =>
      refine SameReport.andThen ⟨rfl, rfl, rfl⟩ fun _ _ => ih ?_ ?_
      · intro i hi hlt hskip
        refine hagree i hi ?_ hskip
        rwa [rowWidth_cons, show (Segment.text t).width = 0 from rfl, Nat.zero_add]
      · intro f hf
        refine hfault f ?_
        rw [outcome_andThen_of_ok rfl]
        exact congrArg (Except.map (t ++ ·)) hf
    | placeholder kind offset =>
      have hwidth : (Segment.placeholder kind offset).width = 1 := rfl
      have hfirst : args'[start]? = args[start]? := by
        refine hagree start (Nat.le_refl _) ?_ fun j hle hlt => by omega
        rw [rowWidth_cons, hwidth]
        omega
      cases hv : args[start]? with
      | none =>
        -- a missing argument is a fault
        refine absurd ?_ (hfault (.query (.missingArgument start args.length)))
        rw [Segment.resolve_placeholder, hv]
        rfl
      | some v =>
        refine (Segment.sameReport_resolve hv (hfirst.trans hv)).andThen fun t ht => ?_
        have ht' : ((Segment.placeholder kind offset).resolve escape ⟨args', start⟩).outcome = .ok t := by
          rw [(Segment.sameReport_resolve hv (hfirst.trans hv)).outcome, ht]
        have hnotSkip : args[start]? ≠ some .skip := by
          intro hskip
          rw [Segment.resolve_placeholder, hskip] at ht
          cases ht
        have hcursor : ((Segment.placeholder kind offset).resolve escape ⟨args, start⟩).cursor = ⟨args, start + 1⟩ :=
          Segment.advances_resolve escape _ _ t ht
        have hcursor' : ((Segment.placeholder kind offset).resolve escape ⟨args', start⟩).cursor = ⟨args', start + 1⟩ :=
          Segment.advances_resolve escape _ _ t ht'
        rw [outcome_andThen_of_ok ht, hcursor] at hfault
        rw [hcursor, hcursor']
        refine ih ?_ ?_
        · intro i hi hlt hskip
          refine hagree i (by omega) (by rw [rowWidth_cons, hwidth]; omega) ?_
          intro j hle hj
          -- this argument is no skip marker itself, so that only those behind it count
          by_cases hj' : j = start
          · rw [hj']
            exact hnotSkip
          · exact hskip j (by omega) hj
        · intro f hf
          exact hfault f (congrArg (Except.map (t ++ ·)) hf)

/-- A block that has SQL sees the arguments that are not dead. -/
private theorem Block.sameReport_resolve {b : Block} {start : Nat} {t : Text}
    (hagree : ∀ i, start ≤ i → i < start + b.size → (∀ j, start ≤ j → j < i → args[j]? ≠ some .skip) →
      args'[i]? = args[i]?)
    (ht : (b.resolve escape ⟨args, start⟩).outcome = .ok t) :
    SameReport (b.resolve escape ⟨args, start⟩) (b.resolve escape ⟨args', start⟩) := by
  have hfault : ∀ f, (inOrder (Segment.resolve escape) b.segments ⟨args, start⟩).outcome ≠ .error (.fault f) := by
    intro f hf
    simp only [Block.resolve, hf] at ht
    cases ht
  rw [b.size_eq_sum] at hagree
  obtain ⟨hescaped, -, houtcome⟩ := sameReport_segments hagree hfault
  simp only [Block.resolve, houtcome, hescaped]
  cases (inOrder (Segment.resolve escape) b.segments ⟨args, start⟩).outcome with
  | ok u => exact ⟨rfl, rfl, rfl⟩
  | error e => cases e <;> exact ⟨rfl, rfl, rfl⟩

private theorem Part.sameReport_resolve {p : Part} {start : Nat} {t : Text}
    (hagree : ∀ i, start ≤ i → i < start + p.width → (∀ j, start ≤ j → j < i → args[j]? ≠ some .skip) →
      args'[i]? = args[i]?)
    (ht : (p.resolve escape ⟨args, start⟩).outcome = .ok t) :
    SameReport (p.resolve escape ⟨args, start⟩) (p.resolve escape ⟨args', start⟩) := by
  cases p with
  | block b => exact Block.sameReport_resolve hagree ht
  | segment s =>
    cases s with
    | text u => exact ⟨rfl, rfl, rfl⟩
    | placeholder kind offset =>
      have hfirst : args'[start]? = args[start]? :=
        hagree start (Nat.le_refl _) (Nat.lt_succ_self start) fun j hle hlt => by omega
      rw [resolve_placeholder, resolve_placeholder, hfirst]
      rw [resolve_placeholder] at ht
      cases hv : args[start]? with
      | none =>
        rw [hv] at ht
        cases ht
      | some v => cases v <;> exact ⟨rfl, rfl, rfl⟩

/-- Parts that have SQL see the arguments that are not dead among them. -/
theorem sameReport_parts {parts : List Part} {start : Nat} {sql : Text}
    (hagree : ∀ i, start ≤ i → i < start + (parts.map Part.width).sum → ¬ IsDeadAmong args start parts i →
      args'[i]? = args[i]?)
    (hsql : (inOrder (Part.resolve escape) parts ⟨args, start⟩).outcome = .ok sql) :
    SameReport (inOrder (Part.resolve escape) parts ⟨args, start⟩)
      (inOrder (Part.resolve escape) parts ⟨args', start⟩) := by
  induction parts generalizing start sql with
  | nil => exact ⟨rfl, rfl, rfl⟩
  | cons p parts ih =>
    rw [List.map_cons, List.sum_cons] at hagree
    rw [inOrder] at hsql
    rw [inOrder, inOrder]
    cases ht : (p.resolve escape ⟨args, start⟩).outcome with
    | error f =>
      rw [outcome_andThen, ht] at hsql
      cases hsql
    | ok t =>
      have hpart : SameReport (p.resolve escape ⟨args, start⟩) (p.resolve escape ⟨args', start⟩) := by
        refine Part.sameReport_resolve (fun i hi hlt hskip => hagree i hi (by omega) fun hdead => ?_) ht
        -- a dead argument stands behind a skip marker of its block
        obtain ⟨j, hle, hj, hj'⟩ := hdead.exists_skip
        exact hskip j hle hj hj'
      have ht' : (p.resolve escape ⟨args', start⟩).outcome = .ok t := by rw [hpart.outcome, ht]
      have hcursor : (p.resolve escape ⟨args, start⟩).cursor = ⟨args, start + p.width⟩ :=
        Part.advances_resolve escape p _ t ht
      have hcursor' : (p.resolve escape ⟨args', start⟩).cursor = ⟨args', start + p.width⟩ :=
        Part.advances_resolve escape p _ t ht'
      rw [outcome_andThen_of_ok ht, hcursor] at hsql
      refine hpart.andThen fun _ _ => ?_
      rw [hcursor, hcursor']
      cases hrest : (inOrder (Part.resolve escape) parts ⟨args, start + p.width⟩).outcome with
      | error f =>
        rw [hrest] at hsql
        cases hsql
      | ok u =>
        exact ih (fun i hi hlt hdead => hagree i (by omega) (by omega) fun hdead' => hdead (hdead'.of_cons hi)) hrest

end Agree

private theorem Template.render_eq_of_sameReport {args args' : List Value} {escape : Escape} {t : Template}
    (h : SameReport (t.resolve escape (.start args)) (t.resolve escape (.start args'))) :
    t.render args' escape = t.render args escape := by
  simp only [render, h.outcome, h.escaped, h.skipped]

/-- A build that succeeds does not depend on dead arguments, nor on those behind the arguments of all placeholders:
whatever stands there instead, or if nothing does, the whole report is the same, with the SQL, the texts that were
escaped and the log. -/
theorem build_of_agree {source : Text} {t : Template} {args args' : Value} {items items' : List Value} {escape : Escape}
    {sql : Text} (ht : Template.compile source = .ok t) (hitems : args.items? = some items)
    (hitems' : args'.items? = some items') (hsql : (build source args escape).outcome = .ok sql)
    (hagree : ∀ i, t.IsLive items i → items'[i]? = items[i]?) :
    build source args' escape = build source args escape := by
  have hcount : t.placeholderCount = (t.parts.map Part.width).sum := List.length_flatMap
  have hresolved : (t.resolve escape (.start items)).outcome = .ok sql := by
    rw [← hsql, outcome_build ht hitems, Template.outcome_resolve]
  rw [build_eq_render ht hitems, build_eq_render ht hitems']
  apply Template.render_eq_of_sameReport
  refine sameReport_parts (fun i _ hlt hdead => hagree i ⟨?_, hdead⟩) hresolved
  rwa [hcount, ← Nat.zero_add (List.sum _)]

/-- Another value behind the first skip marker, and none behind the second. -/
theorem build_of_agree_dropped :
    (∃ log, build "\x7b?d ?\x7dx = ?\x7b AND ?# = ? ?a\x7d".toList
      (.sequence .list [.skip, .int 5, .text ['v'], .text ['n'], .skip, .sequence .list [.int 1]]) .backslash =
        ⟨log, [['v'], ['n']], .ok "x = 'v'".toList⟩) ∧
    ∃ log, build "\x7b?d ?\x7dx = ?\x7b AND ?# = ? ?a\x7d".toList
      (.sequence .list [.skip, .set .plain [], .text ['v'], .text ['n'], .skip]) .backslash =
        ⟨log, [['v'], ['n']], .ok "x = 'v'".toList⟩ := by
  have hcompile : Template.compile "\x7b?d ?\x7dx = ?\x7b AND ?# = ? ?a\x7d".toList =
      .ok (.ofText "\x7b?d ?\x7dx = ?\x7b AND ?# = ? ?a\x7d".toList) := by
    decide +kernel
  have hreport : build "\x7b?d ?\x7dx = ?\x7b AND ?# = ? ?a\x7d".toList
      (.sequence .list [.skip, .int 5, .text ['v'], .text ['n'], .skip, .sequence .list [.int 1]]) .backslash =
        ⟨[.skippedBlock 0 "?d ?".toList, .skippedBlock 11 " AND ?# = ? ?a".toList, .built "x = 'v'".toList],
          [['v'], ['n']], .ok "x = 'v'".toList⟩ := by
    rfl
  refine ⟨⟨_, hreport⟩, ⟨_, (build_of_agree hcompile rfl rfl (congrArg Report.outcome hreport) ?_).trans hreport⟩⟩
  rintro i ⟨hi, hlive⟩
  have hcount : (Template.ofText "\x7b?d ?\x7dx = ?\x7b AND ?# = ? ?a\x7d".toList).placeholderCount = 6 := by
    decide +kernel
  rw [hcount] at hi
  match i with
  | 0 | 2 | 3 | 4 => rfl
  | 1 =>
    refine absurd ⟨⟨"?d ?".toList, Segment.split 0 "?d ?".toList, 0⟩, 0, ?_, ?_, 0, ?_, ?_, rfl⟩ hlive
    all_goals decide +kernel
  | 5 =>
    refine absurd ⟨⟨" AND ?# = ? ?a".toList, Segment.split 0 " AND ?# = ? ?a".toList, 11⟩, 3, ?_, ?_, 4, ?_, ?_, rfl⟩
      hlive
    all_goals decide +kernel

end SqlTemplate
