import SqlTemplate.Cache

/-!
# Answers of a cache

A cache is sound if it keeps with each source what that source compiles to.  A sound cache compiles every source to
what it compiles to without a cache (`Cache.Sound.outcome_compile`), and each step leaves it sound
(`Cache.Sound.step`).  So the answers along a run of steps do not tell whether anything was kept (`Cache.run_answers`).
-/

namespace SqlTemplate.Cache

/-- What a step answers, the log and the account of hits left out. -/
inductive Answer
  | done
  | compiled (outcome : Except TemplateError Template)
  | built (outcome : Except Fault Text)

def Reply.answer : Reply → Answer
  | .done => .done
  | .compiled l => .compiled l.outcome
  | .built r => .built r.outcome

/-- The answer to a step where no templates are kept. -/
def Step.answer (escape : Escape) : Step → Answer
  | .setLimit _ | .clear => .done
  | .compile source => .compiled (Template.compile source)
  | .build source args => .built (SqlTemplate.build source args escape).outcome

/-- Each source is kept with the template that it compiles to. -/
def Sound (c : Cache) : Prop := ∀ entry ∈ c.entries, Template.compile entry.1 = .ok entry.2

theorem sound_nil (limit : Int) : Sound ⟨limit, []⟩ := by
  intro entry hentry
  cases hentry

variable {c : Cache} {source : Text} {t : Template}

theorem Sound.get? (h : c.Sound) (ht : c.get? source = some t) : Template.compile source = .ok t := by
  obtain ⟨entry, hfind, rfl⟩ := Option.map_eq_some_iff.1 ht
  have hkey : entry.1 = source := by simpa using List.find?_some hfind
  have hentry : entry ∈ c.entries := List.mem_of_find?_eq_some hfind
  rw [← hkey]
  exact h entry hentry

/-- What is left of the entries, with a new one behind them. -/
private theorem Sound.of_append {d : Cache} (h : c.Sound) (ht : Template.compile source = .ok t)
    (hd : ∀ entry ∈ d.entries, entry ∈ c.entries ++ [(source, t)]) : d.Sound := by
  intro entry hentry
  rcases List.mem_append.1 (hd entry hentry) with hold | hnew
  · exact h entry hold
  · obtain rfl := List.mem_singleton.1 hnew
    exact ht

theorem Sound.refresh (h : c.Sound) (ht : Template.compile source = .ok t) : (c.refresh source t).Sound := by
  apply h.of_append ht
  intro entry hentry
  rcases List.mem_append.1 hentry with hold | hnew
  · exact List.mem_append_left _ (List.mem_filter.1 hold).1
  · exact List.mem_append_right _ hnew

theorem Sound.insert (h : c.Sound) (ht : Template.compile source = .ok t) : (c.insert source t).Sound :=
  h.of_append ht fun _ hentry => List.mem_of_mem_drop hentry

/-- Compiling leaves a cache alone, makes the entry of the source the newest, or adds one. -/
theorem compile_cases (c : Cache) (source : Text) :
    c.compile source = ⟨c, false, [], Template.compile source⟩ ∨
    (∃ t, c.get? source = some t ∧ c.compile source = ⟨c.refresh source t, true, [], .ok t⟩) ∨
    (∃ t, Template.compile source = .ok t ∧
      c.compile source = ⟨c.insert source t, false, c.evictedBy source, .ok t⟩) := by
  unfold compile
  by_cases hlimit : c.limit ≤ 0
  · rw [if_pos hlimit]
    exact .inl rfl
  · rw [if_neg hlimit]
    cases hget : c.get? source with
    | some t => exact .inr (.inl ⟨t, rfl, rfl⟩)
    | none =>
      cases hcompile : Template.compile source with
      | ok t => exact .inr (.inr ⟨t, rfl, rfl⟩)
      | error e => exact .inl rfl

theorem Sound.outcome_compile (h : c.Sound) (source : Text) :
    (c.compile source).outcome = Template.compile source := by
  rcases compile_cases c source with heq | ⟨t, hget, heq⟩ | ⟨t, ht, heq⟩
  · rw [heq]
  · rw [heq, h.get? hget]
  · rw [heq, ht]

theorem Sound.cache_compile (h : c.Sound) (source : Text) : (c.compile source).cache.Sound := by
  rcases compile_cases c source with heq | ⟨t, hget, heq⟩ | ⟨t, ht, heq⟩
  · rw [heq]
    exact h
  · rw [heq]
    exact h.refresh (h.get? hget)
  · rw [heq]
    exact h.insert ht

/-! ### Steps and runs -/

theorem Sound.step (h : c.Sound) (escape : Escape) (s : Step) : (c.step escape s).1.Sound := by
  cases s with
  | setLimit limit => exact h
  | clear => exact sound_nil c.limit
  | compile source => exact h.cache_compile source
  | build source args => exact h.cache_compile source

private theorem Sound.answer_step (h : c.Sound) (escape : Escape) (s : Step) :
    (c.step escape s).2.answer = s.answer escape := by
  cases s with
  | setLimit limit => rfl
  | clear => rfl
  | compile source =>
    show Answer.compiled (c.compile source).outcome = .compiled (Template.compile source)
    rw [h.outcome_compile]
  | build source args =>
    show Answer.built (renderWith (c.compile source).outcome args escape).outcome = _
    rw [h.outcome_compile]
    rfl

theorem Sound.answers_run (h : c.Sound) (escape : Escape) (steps : List Step) :
    (c.run escape steps).map (·.2.answer) = steps.map (Step.answer escape) := by
  induction steps generalizing c with
  | nil => rfl
  | cons s rest ih =>
    rw [run, List.map_cons, List.map_cons, h.answer_step escape s, ih (h.step escape s)]

/-- Along every run from the empty cache, each compilation answers as without a cache, and each build has the outcome
that it has without a cache and with an empty one of any limit. -/
theorem run_answers (escape : Escape) (steps : List Step) :
    (empty.run escape steps).map (·.2.answer) = steps.map (Step.answer escape) ∧
      ∀ (limit : Int) (s : Step), ((⟨limit, []⟩ : Cache).step escape s).2.answer = s.answer escape :=
  ⟨(sound_nil defaultLimit).answers_run escape steps, fun limit s => (sound_nil limit).answer_step escape s⟩

end SqlTemplate.Cache
