import SqlTemplate.Proofs.Recency

/-!
# The limit of a cache

A cache gives entries up where it takes in a new one, and nowhere else.  So a call that finds its source kept, or that
is made where nothing is to be kept, leaves the cache as large as it was, which is too large if the limit has been
lowered since (`Cache.Follows.withinLimit_compile`, `Cache.run_limit`).  Of the limits that were ever in force, the
largest holds along every run (`Cache.Usage.exists_size_le`).
-/

namespace SqlTemplate.Cache

/-- Not more is kept than the limit allows. -/
def WithinLimit (c : Cache) : Prop := c.keys.length ≤ c.limit

instance (c : Cache) : Decidable c.WithinLimit := inferInstanceAs (Decidable (_ ≤ _))

namespace Step

/-- The source that a step looks up in the cache. -/
def source? : Step → Option Text
  | .setLimit _ | .clear => none
  | .compile source | .build source _ => some source

def limit? : Step → Option Int
  | .setLimit limit => some limit
  | _ => none

private theorem limit?_eq_none {s : Step} {source : Text} (hs : s.source? = some source) : s.limit? = none := by
  cases s with
  | setLimit limit => cases hs
  | _ => rfl

end Step

/-- The limits that have been in force by the end of the steps. -/
def limits (steps : List Step) : List Int := defaultLimit :: steps.filterMap Step.limit?

variable {c : Cache} {u : Usage} {source : Text}

private theorem fst_step_of_source? {s : Step} (hs : s.source? = some source) (escape : Escape) (c : Cache) :
    (c.step escape s).1 = (c.compile source).cache := by
  cases s with
  | setLimit limit => cases hs
  | clear => cases hs
  | compile source => cases hs; rfl
  | build source args => cases hs; rfl

private theorem limit_compile (c : Cache) (source : Text) : (c.compile source).cache.limit = c.limit := by
  rcases compile_cases c source with heq | ⟨t, -, heq⟩ | ⟨t, -, heq⟩ <;> rw [heq] <;> rfl

/-! ### One call -/

private theorem Follows.withinLimit_iff (h : c.Follows u) : c.WithinLimit ↔ u.size ≤ u.limit := by
  rw [WithinLimit, h.size, h.limit]

/-- A call restores the limit only where it takes in its source. -/
theorem Follows.withinLimit_compile (h : c.Follows u) {t : Template} (ht : Template.compile source = .ok t) :
    (c.compile source).cache.WithinLimit ↔ c.WithinLimit ∨ 0 < c.limit ∧ source ∉ c.keys := by
  obtain ⟨hnext, -⟩ := h.compile source
  rw [hnext.withinLimit_iff, h.withinLimit_iff, h.limit, h.keys_eq_kept, Usage.call]
  by_cases hpos : 0 < u.limit
  · have huses : u.Uses source := ⟨hpos, by rw [ht]; rfl⟩
    rw [if_pos huses]
    by_cases hkept : source ∈ u.kept
    · -- a hit keeps the size
      rw [if_pos hkept]
      simp [hkept]
    · rw [if_neg hkept]
      refine iff_of_true ?_ (.inr ⟨hpos, hkept⟩)
      simp only
      omega
  · have huses : ¬ u.Uses source := fun huses => hpos huses.1
    rw [if_neg huses]
    simp [hpos]

/-! ### Whole runs -/

namespace Usage

private theorem limits_concat (steps : List Step) (s : Step) :
    limits (steps ++ [s]) = limits steps ++ s.limit?.toList := by
  cases s <;> simp [limits, Step.limit?]

/-- A call adds to what is kept only as far as the limit. -/
private theorem size_call (u : Usage) (source : Text) :
    (u.call source).limit = u.limit ∧ ((u.call source).size = u.size ∨ (u.call source).size ≤ u.limit) := by
  unfold call
  split
  · rename_i huses
    have hpos : 0 < u.limit := huses.1
    refine ⟨rfl, ?_⟩
    simp only
    split
    · exact .inl rfl
    · right
      omega
  · exact ⟨rfl, .inl rfl⟩

private theorem after_concat (steps : List Step) (s : Step) : after (steps ++ [s]) = (after steps).next s := by
  rw [after, List.foldl_append]
  rfl

/-- The limit in force is the last one set. -/
private theorem exists_limits_eq (steps : List Step) : ∃ earlier, limits steps = earlier ++ [(after steps).limit] := by
  -- a run grows at its end, where the last step finds the limit of the run before it
  induction steps using List.reverseRecOn with
  | nil => exact ⟨[], rfl⟩
  | append_singleton steps s ih =>
    obtain ⟨earlier, hearlier⟩ := ih
    rw [limits_concat, after_concat]
    cases s with
    | setLimit limit => exact ⟨limits steps, rfl⟩
    | clear => exact ⟨earlier, (List.append_nil _).trans hearlier⟩
    | compile source =>
      refine ⟨earlier, (List.append_nil _).trans ?_⟩
      rw [hearlier, next, (size_call _ source).1]
    | build source args =>
      refine ⟨earlier, (List.append_nil _).trans ?_⟩
      rw [hearlier, next, (size_call _ source).1]

private theorem limit_mem_limits (steps : List Step) : (after steps).limit ∈ limits steps := by
  obtain ⟨earlier, hearlier⟩ := exists_limits_eq steps
  rw [hearlier]
  exact List.mem_concat_self

/-- What is kept never exceeds all of the limits so far. -/
theorem exists_size_le (steps : List Step) : ∃ limit ∈ limits steps, (after steps).size ≤ limit := by
  induction steps using List.reverseRecOn with
  | nil => exact ⟨defaultLimit, List.mem_cons_self .., by decide⟩
  | append_singleton steps s ih =>
    obtain ⟨limit, hmem, hsize⟩ := ih
    rw [limits_concat, after_concat]
    have hcall : ∀ source, ∃ limit ∈ limits steps ++ [], (((after steps).call source).size : Int) ≤ limit := by
      intro source
      rw [List.append_nil]
      rcases (size_call (after steps) source).2 with hsame | hle
      · exact ⟨limit, hmem, hsame ▸ hsize⟩
      · exact ⟨_, limit_mem_limits steps, hle⟩
    cases s with
    | setLimit new => exact ⟨limit, List.mem_append_left _ hmem, hsize⟩
    | clear => exact ⟨defaultLimit, List.mem_append_left _ (List.mem_cons_self ..), Int.natCast_nonneg 512⟩
    | compile source => exact hcall source
    | build source args => exact hcall source

end Usage

/-- After a call that is answered, a cache of a run from the empty one is within its limit exactly if it was so before
or took in the source of the call.  It never holds more than the largest limit so far, so that it is within its limit if
that was never lowered. -/
theorem run_limit (escape : Escape) (before : List Step) (s : Step) (rest : List Step) {t : Template}
    (hs : s.source? = some source) (ht : Template.compile source = .ok t) :
    ∃ c d reply, c = empty.after escape before ∧
      (empty.run escape (before ++ s :: rest))[before.length]? = some (d, reply) ∧ d.limit = c.limit ∧
      (d.WithinLimit ↔ c.WithinLimit ∨ 0 < c.limit ∧ source ∉ c.keys) ∧
      (∃ limit ∈ limits before, d.keys.length ≤ limit) ∧
      ((limits before).Pairwise (· ≤ ·) → d.WithinLimit) := by
  have hbefore : (empty.after escape before).Follows (Usage.after before) := follows_empty.after escape before
  have hcall := fst_step_of_source? hs escape (empty.after escape before)
  have hafter : ((empty.after escape before).compile source).cache.Follows (Usage.after (before ++ [s])) := by
    rw [← hcall, Usage.after_concat]
    exact (hbefore.step escape s).1
  have hlimits : limits (before ++ [s]) = limits before := by
    rw [Usage.limits_concat, Step.limit?_eq_none hs, Option.toList_none, List.append_nil]
  obtain ⟨limit, hmem, hsize⟩ := Usage.exists_size_le (before ++ [s])
  refine ⟨_, _, _, rfl, (getElem?_run escape empty before s rest).trans (congrArg some (Prod.ext hcall rfl)),
    limit_compile _ source, hbefore.withinLimit_compile ht, ⟨limit, hlimits ▸ hmem, hafter.size ▸ hsize⟩, ?_⟩
  -- the limit in force is the last one set, and the largest if none was lowered
  intro hraised
  obtain ⟨earlier, hearlier⟩ := Usage.exists_limits_eq (before ++ [s])
  rw [← hlimits, hearlier, List.pairwise_append] at hraised
  rw [hearlier, List.mem_append, List.mem_singleton] at hmem
  rw [hafter.withinLimit_iff]
  rcases hmem with hmem | rfl
  · exact Int.le_trans hsize (hraised.2.2 limit hmem _ (List.mem_singleton_self _))
  · exact hsize

/-- Under a limit that has been lowered, a source that is not kept makes all but itself be given up. -/
theorem run_limit_restored :
    ∃ d reply, (empty.run .backslash [.setLimit 2, .compile ['a'], .compile ['b'], .setLimit 1, .compile ['c']])[4]? =
      some (d, reply) ∧ d.WithinLimit := by
  have ht : Template.compile ['c'] = .ok (.ofText ['c']) := rfl
  obtain ⟨c, d, reply, rfl, hrun, -, hwithin, -⟩ := run_limit .backslash
    [.setLimit 2, .compile ['a'], .compile ['b'], .setLimit 1] (.compile ['c']) [] rfl ht
  exact ⟨d, reply, hrun, hwithin.2 (.inr (by decide +kernel))⟩

/-- A source that is kept leaves the cache as it is, over the limit. -/
theorem run_limit_lowered :
    ∃ d l, (empty.run .backslash [.setLimit 2, .compile ['a'], .compile ['b'], .setLimit 1, .compile ['b']])[4]? =
      some (d, .compiled l) ∧ l.outcome.isOk ∧ d.limit = 1 ∧ d.keys = [['a'], ['b']] ∧ ¬ d.WithinLimit := by
  refine ⟨_, _, rfl, ?_⟩
  decide +kernel

end SqlTemplate.Cache
