import Mathlib.Data.List.Dedup
import Mathlib.Data.List.DropRight
import SqlTemplate.Proofs.CacheAnswers

/-!
# Least recently used

The sources that a cache has been used for are ordered by their latest use.  Under a positive limit each call that is
answered is a use; a source that is not kept then comes to be kept, and the oldest make room for it.  What a cache
keeps is the end of that order (`Cache.Follows.compile`), along every run of steps, and its log names the sources given
up, the oldest first (`Cache.run_recency`).
-/

namespace SqlTemplate.Cache

/-- What the steps so far come to: the limit that was set last, the source of each use since the cache was last
cleared, and how many sources are kept. -/
structure Usage where
  limit : Int
  uses : List Text
  size : Nat

namespace Usage

def start : Usage := ⟨defaultLimit, [], 0⟩

/-- The sources used, each of them once, in the order of their latest uses. -/
def recency (u : Usage) : List Text := u.uses.dedup

def kept (u : Usage) : List Text := u.recency.rtake u.size

/-- Whether a call for the source is a use. -/
def Uses (u : Usage) (source : Text) : Prop := 0 < u.limit ∧ (Template.compile source).isOk

instance (u : Usage) (source : Text) : Decidable (u.Uses source) :=
  inferInstanceAs (Decidable (0 < u.limit ∧ (Template.compile source).isOk))

def call (u : Usage) (source : Text) : Usage :=
  if u.Uses source then
    ⟨u.limit, u.uses ++ [source], if source ∈ u.kept then u.size else min (u.size + 1) u.limit.toNat⟩
  else u

/-- The oldest of the sources kept, as many as a call for the source leaves no room for. -/
def droppedFor (u : Usage) (source : Text) : List Text :=
  if u.Uses source ∧ source ∉ u.kept then u.kept.take (u.size + 1 - u.limit.toNat) else []

def next (u : Usage) : Step → Usage
  | .setLimit limit => ⟨limit, u.uses, u.size⟩
  | .clear => ⟨u.limit, [], 0⟩
  | .compile source | .build source _ => u.call source

def dropped (u : Usage) : Step → List Text
  | .setLimit _ | .clear => []
  | .compile source | .build source _ => u.droppedFor source

def after (steps : List Step) : Usage := steps.foldl next start

/-- A use makes its source the one used last. -/
private theorem recency_concat (uses : List Text) (source : Text) :
    (uses ++ [source]).dedup = uses.dedup.filter (· ≠ source) ++ [source] := by
  induction uses with
  | nil => rfl
  | cons a uses ih =>
    rw [List.cons_append]
    by_cases ha : a ∈ uses
    · rw [List.dedup_cons_of_mem (List.mem_append_left _ ha), List.dedup_cons_of_mem ha, ih]
    · by_cases hsource : a = source
      · rw [List.dedup_cons_of_mem (by simp [hsource]), List.dedup_cons_of_notMem ha, ih]
        simp [hsource]
      · rw [List.dedup_cons_of_notMem (by simp [ha, hsource]), List.dedup_cons_of_notMem ha, ih]
        simp [hsource]

end Usage

/-! ### What is kept -/

/-- The cache is what the steps come to. -/
structure Follows (c : Cache) (u : Usage) : Prop where
  sound : c.Sound
  limit : c.limit = u.limit
  keys : c.keys <:+ u.recency
  size : c.keys.length = u.size

variable {c : Cache} {u : Usage} {source : Text}

theorem Follows.keys_eq_kept (h : c.Follows u) : c.keys = u.kept := by
  rw [Usage.kept, List.rtake, ← h.size]
  exact List.suffix_iff_eq_drop.1 h.keys

theorem Follows.nodup_keys (h : c.Follows u) : c.keys.Nodup :=
  h.keys.sublist.nodup (List.nodup_dedup u.uses)

private theorem get?_eq_none_iff (c : Cache) (source : Text) : c.get? source = none ↔ source ∉ c.keys := by
  rw [get?, Option.map_eq_none_iff, List.find?_eq_none]
  constructor
  · intro h hmem
    obtain ⟨entry, hentry, rfl⟩ := List.mem_map.1 hmem
    exact h entry hentry (by simp)
  · intro h entry hentry hkey
    exact h (List.mem_map.2 ⟨entry, hentry, by simpa using hkey⟩)

private theorem mem_keys_of_get? {t : Template} (ht : c.get? source = some t) : source ∈ c.keys := by
  by_contra hnot
  rw [(get?_eq_none_iff c source).2 hnot] at ht
  cases ht

private theorem keys_refresh (c : Cache) (source : Text) (t : Template) :
    (c.refresh source t).keys = c.keys.filter (· ≠ source) ++ [source] := by
  simp [refresh, keys, List.filter_map, Function.comp_def]

private theorem keys_insert (c : Cache) (source : Text) (t : Template) :
    (c.insert source t).keys = (c.keys ++ [source]).drop c.surplus := by
  simp [insert, keys, List.map_drop]

/-- A hit keeps the number of sources and makes its own the newest. -/
theorem Follows.refresh (h : c.Follows u) {t : Template} (ht : c.get? source = some t) (huses : u.Uses source) :
    (c.refresh source t).Follows (u.call source) := by
  have hmem : source ∈ c.keys := mem_keys_of_get? ht
  have hcall : u.call source = ⟨u.limit, u.uses ++ [source], u.size⟩ := by
    rw [Usage.call, if_pos huses, if_pos (h.keys_eq_kept ▸ hmem)]
  rw [hcall]
  refine ⟨h.sound.refresh (h.sound.get? ht), h.limit, ?_, ?_⟩
  · -- both lists lose the source where it was and get it again at their ends
    rw [keys_refresh, Usage.recency, Usage.recency_concat]
    obtain ⟨front, hfront⟩ := h.keys.filter (· ≠ source)
    exact ⟨front, by rw [← List.append_assoc, hfront, Usage.recency]⟩
  · have herase : c.keys.filter (· ≠ source) = c.keys.erase source := by
      rw [h.nodup_keys.erase_eq_filter]
      exact List.filter_congr fun key _ => by by_cases hkey : key = source <;> simp [hkey]
    have hpos : 0 < c.keys.length := List.length_pos_of_mem hmem
    have hsize : c.keys.length - 1 + 1 = u.size := by
      have := h.size
      omega
    rw [keys_refresh, herase, List.length_append, List.length_erase_of_mem hmem]
    exact hsize

theorem Follows.surplus (h : c.Follows u) : c.surplus = u.size + 1 - u.limit.toNat := by
  rw [Cache.surplus, ← h.size, ← h.limit, Cache.keys, List.length_map]

/-- A miss keeps one source more, up to the limit. -/
theorem Follows.insert (h : c.Follows u) {t : Template} (ht : Template.compile source = .ok t)
    (hnew : source ∉ c.keys) (huses : u.Uses source) : (c.insert source t).Follows (u.call source) := by
  have hcall : u.call source = ⟨u.limit, u.uses ++ [source], min (u.size + 1) u.limit.toNat⟩ := by
    rw [Usage.call, if_pos huses, if_neg (h.keys_eq_kept ▸ hnew)]
  rw [hcall]
  refine ⟨h.sound.insert ht, h.limit, ?_, ?_⟩
  · -- the source is new to the cache, but it may have been used before
    have hfilter : c.keys.filter (· ≠ source) = c.keys :=
      List.filter_eq_self.2 fun key hkey => by simpa using ne_of_mem_of_not_mem hkey hnew
    obtain ⟨front, hfront⟩ := h.keys.filter (· ≠ source)
    have hall : c.keys ++ [source] <:+ (u.uses ++ [source]).dedup := by
      rw [Usage.recency_concat]
      exact ⟨front, by rw [← List.append_assoc, ← hfilter, hfront, Usage.recency]⟩
    rw [keys_insert]
    exact (List.drop_suffix _ _).trans hall
  · rw [keys_insert, List.length_drop, List.length_append, h.size, h.surplus]
    simp only [List.length_singleton]
    omega

/-- The new source itself is not given up, since the limit is positive. -/
theorem Follows.evictedBy (h : c.Follows u) (hnew : source ∉ c.keys) (huses : u.Uses source) :
    c.evictedBy source = u.droppedFor source := by
  have hroom : u.size + 1 - u.limit.toNat ≤ c.keys.length := by
    have hpos : 0 < u.limit := huses.1
    rw [h.size]
    omega
  rw [Usage.droppedFor, if_pos ⟨huses, h.keys_eq_kept ▸ hnew⟩, Cache.evictedBy, h.surplus, ← h.keys_eq_kept,
    List.take_append_of_le_length hroom]

theorem Follows.compile (h : c.Follows u) (source : Text) :
    (c.compile source).cache.Follows (u.call source) ∧ (c.compile source).evicted = u.droppedFor source := by
  by_cases hlimit : c.limit ≤ 0
  · -- no call is a use
    have huses : ¬ u.Uses source := fun huses => absurd huses.1 (by rw [← h.limit]; omega)
    rw [Usage.call, if_neg huses, Usage.droppedFor, if_neg (fun hmiss => huses hmiss.1), Cache.compile, if_pos hlimit]
    exact ⟨h, rfl⟩
  · have hpos : 0 < u.limit := by
      rw [← h.limit]
      omega
    cases hget : c.get? source with
    | some t =>
      have huses : u.Uses source := ⟨hpos, by rw [h.sound.get? hget]; rfl⟩
      have hkept : source ∈ u.kept := h.keys_eq_kept ▸ mem_keys_of_get? hget
      rw [Usage.droppedFor, if_neg (fun hmiss => hmiss.2 hkept), Cache.compile, if_neg hlimit, hget]
      exact ⟨h.refresh hget huses, rfl⟩
    | none =>
      have hnew : source ∉ c.keys := (get?_eq_none_iff c source).1 hget
      -- a miss is a use unless the template is refused
      cases ht : Template.compile source with
      | ok t =>
        have huses : u.Uses source := ⟨hpos, by rw [ht]; rfl⟩
        rw [← h.evictedBy hnew huses, Cache.compile, if_neg hlimit, hget, ht]
        exact ⟨h.insert ht hnew huses, rfl⟩
      | error e =>
        have huses : ¬ u.Uses source := fun huses => by simp [Usage.Uses, ht, Except.isOk, Except.toBool] at huses
        rw [Usage.call, if_neg huses, Usage.droppedFor, if_neg (fun hmiss => huses hmiss.1), Cache.compile,
          if_neg hlimit, hget, ht]
        exact ⟨h, rfl⟩

/-! ### Steps and runs -/

/-- The log of a step where no templates are kept. -/
def Step.log (escape : Escape) : Step → List Record
  | .build source args => (SqlTemplate.build source args escape).log
  | _ => []

theorem follows_empty : empty.Follows Usage.start := ⟨sound_nil defaultLimit, rfl, List.nil_suffix, rfl⟩

theorem Follows.step (h : c.Follows u) (escape : Escape) (s : Step) :
    (c.step escape s).1.Follows (u.next s) ∧
      (c.step escape s).2.log = (u.dropped s).map .evicted ++ s.log escape := by
  cases s with
  | setLimit limit => exact ⟨⟨h.sound, rfl, h.keys, h.size⟩, rfl⟩
  | clear => exact ⟨⟨sound_nil c.limit, h.limit, List.nil_suffix, rfl⟩, rfl⟩
  | compile source =>
    obtain ⟨hnext, hevicted⟩ := h.compile source
    refine ⟨hnext, ?_⟩
    show (c.compile source).log = (u.droppedFor source).map .evicted ++ []
    rw [Lookup.log, hevicted, List.append_nil]
  | build source args =>
    obtain ⟨hnext, hevicted⟩ := h.compile source
    refine ⟨hnext, ?_⟩
    show (c.compile source).log ++ (renderWith (c.compile source).outcome args escape).log =
      (u.droppedFor source).map .evicted ++ (SqlTemplate.build source args escape).log
    rw [Lookup.log, hevicted, h.sound.outcome_compile]
    rfl

/-- The cache that the steps lead to. -/
def after (escape : Escape) (c : Cache) (steps : List Step) : Cache := steps.foldl (fun d s => (d.step escape s).1) c

theorem getElem?_run (escape : Escape) (c : Cache) (before : List Step) (s : Step) (rest : List Step) :
    (c.run escape (before ++ s :: rest))[before.length]? = some ((c.after escape before).step escape s) := by
  induction before generalizing c with
  | nil => rfl
  | cons r before ih => exact ih (c.step escape r).1

theorem Follows.after (h : c.Follows u) (escape : Escape) (steps : List Step) :
    (c.after escape steps).Follows (steps.foldl Usage.next u) := by
  induction steps generalizing c u with
  | nil => exact h
  | cons s rest ih => exact ih (h.step escape s).1

theorem Follows.run (h : c.Follows u) (escape : Escape) (before : List Step) (s : Step) (after : List Step) :
    ∃ d reply, (c.run escape (before ++ s :: after))[before.length]? = some (d, reply) ∧
      d.Follows ((before ++ [s]).foldl Usage.next u) ∧
      reply.log = ((before.foldl Usage.next u).dropped s).map .evicted ++ s.log escape := by
  have hlast := (h.after escape before).step escape s
  refine ⟨_, _, getElem?_run escape c before s after, ?_, hlast.2⟩
  rw [List.foldl_append]
  exact hlast.1

/-- After every step of a run from the empty cache the keys are the sources used last, of all used since the last
clearing, as many as hits, misses and limits say; and the log of the step starts with the sources that it gave up. -/
theorem run_recency (escape : Escape) (before : List Step) (s : Step) (after : List Step) :
    ∃ c reply, (empty.run escape (before ++ s :: after))[before.length]? = some (c, reply) ∧
      c.keys = (Usage.after (before ++ [s])).recency.rtake (Usage.after (before ++ [s])).size ∧
      c.keys.length = (Usage.after (before ++ [s])).size ∧
      reply.log = ((Usage.after before).dropped s).map .evicted ++ s.log escape := by
  obtain ⟨c, reply, hrun, hfollows, hlog⟩ := follows_empty.run escape before s after
  exact ⟨c, reply, hrun, hfollows.keys_eq_kept, hfollows.size, hlog⟩

/-- A lower limit takes effect with the next miss only. -/
example :
    (Usage.after [.setLimit 2, .compile ['a'], .compile ['b'], .compile ['a'], .compile ['c'], .setLimit 1,
      .compile ['a']]).kept = [['c'], ['a']] := by
  decide +kernel

end SqlTemplate.Cache
