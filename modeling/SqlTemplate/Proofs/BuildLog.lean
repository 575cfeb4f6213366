import SqlTemplate.Proofs.InnermostPairs
import SqlTemplate.Proofs.QueryErrors
import SqlTemplate.Proofs.Recency
import SqlTemplate.Proofs.Walks

/-!
# The log of a build

A build tells of each block in which it gets to the skip marker, in the order of the template, and in the end of its
SQL if there is any (`Template.log_render`, `Template.mem_skipped_resolve_iff`).  Blocks that are kept or that fail are
not told of, and where a record says that a block stands, the block is written in the template.  A cache that gives
nothing up adds nothing to the log (`Cache.log_build`).
-/

namespace SqlTemplate

/-! ### Reaching the skip marker -/

/-- The work on the block gets to the skip marker. -/
def Block.ReachesSkip (args : List Value) (escape : Escape) (b : Block) (start : Nat) : Prop :=
  ∃ x, b.Reaches args escape x start ∧ x.value = .skip

/-- The work on the template gets to the block, and there to the skip marker. -/
def Template.Drops (args : List Value) (escape : Escape) (t : Template) (b : Block) : Prop :=
  FirstAt Part.width (Part.textAt args escape) 0 t.parts fun p i => p = .block b ∧ b.ReachesSkip args escape i

section Skip

variable {args : List Value} {escape : Escape}

private theorem Segment.textAt_eq_skip_iff (s : Segment) (i : Nat) :
    s.textAt args escape i = .error .skip ↔ ∃ x, s.Takes args x i ∧ x.value = .skip := by
  cases s with
  | text t => simp [textAt, Takes, kind?]
  | placeholder kind offset =>
    constructor
    · intro h
      rw [textAt] at h
      split at h
      · cases h
      · rename_i hv
        exact ⟨⟨kind, .skip⟩, ⟨rfl, hv⟩, rfl⟩
      · exact absurd h (Interruption.mapError_fault_ne_skip _)
    · rintro ⟨⟨kind', _⟩, ⟨-, hv⟩, rfl⟩
      simp only [textAt, hv]

private theorem Block.filledAt_eq_skip_iff (b : Block) (start : Nat) :
    b.filledAt args escape start = .error .skip ↔ b.ReachesSkip args escape start := by
  rw [filledAt, inSequence_placed_eq_error_iff]
  exact firstAt_iff_exists Segment.textAt_eq_skip_iff

/-! ### Blocks dropped on the way -/

theorem Block.mem_skipped_resolve_iff {b b' : Block} {start : Nat} :
    b ∈ (b'.resolve escape ⟨args, start⟩).skipped ↔ b' = b ∧ b.ReachesSkip args escape start := by
  rw [← Block.filledAt_eq_skip_iff, Block.resolve]
  simp only [Block.outcome_inOrder_segments]
  rcases hfilled : b'.filledAt args escape start with (_ | f) | t
  · simp only [List.mem_singleton]
    constructor
    · rintro rfl
      exact ⟨rfl, hfilled⟩
    · exact fun h => h.1.symm
  all_goals
    refine iff_of_false List.not_mem_nil ?_
    rintro ⟨rfl, h⟩
    cases hfilled.symm.trans h

theorem Part.mem_skipped_resolve_iff {p : Part} {b : Block} {i : Nat} :
    b ∈ (p.resolve escape ⟨args, i⟩).skipped ↔ p = .block b ∧ b.ReachesSkip args escape i := by
  cases p with
  | block b' => rw [resolve, Block.mem_skipped_resolve_iff, block.injEq]
  | segment s =>
    refine iff_of_false ?_ (fun h => by cases h.1)
    cases s with
    | text t => exact List.not_mem_nil
    | placeholder kind offset =>
      rw [resolve_placeholder]
      cases args[i]? with
      | none => exact List.not_mem_nil
      | some v => cases v <;> exact List.not_mem_nil

private theorem Part.skipped_resolve_sublist (p : Part) (c : Cursor) :
    (p.resolve escape c).skipped.Sublist p.block?.toList := by
  cases p with
  | block b =>
    rw [resolve, Block.resolve]
    rcases (Resolution.inOrder (Segment.resolve escape) b.segments c).outcome with (_ | f) | t
    · exact List.Sublist.refl [b]
    · exact List.nil_sublist _
    · exact List.nil_sublist _
  | segment s =>
    cases s with
    | text t => exact List.nil_sublist _
    | placeholder kind offset =>
      rw [resolve_placeholder]
      cases c.args[c.position]? with
      | none => exact List.nil_sublist _
      | some v => cases v <;> exact List.nil_sublist _

end Skip

namespace Resolution

variable {α ε : Type} {resolve : α → Cursor → Resolution ε} {width : α → Nat} {text : α → Nat → Except ε Text}
  {args : List Value}

/-- A row of items drops what is dropped at the items that the work on the row gets to. -/
private theorem mem_skipped_inOrder_iff (hwidth : Advances resolve width)
    (htext : ∀ a i, (resolve a ⟨args, i⟩).outcome = text a i) {b : Block} (items : List α) (start : Nat) :
    b ∈ (inOrder resolve items ⟨args, start⟩).skipped ↔
      FirstAt width text start items fun a i => b ∈ (resolve a ⟨args, i⟩).skipped := by
  induction items generalizing start with
  | nil =>
    refine iff_of_false List.not_mem_nil ?_
    rintro ⟨before, a, after, hitems, -⟩
    cases before <;> cases hitems
  | cons a items ih =>
    rw [inOrder, firstAt_cons, ← htext]
    cases houtcome : (resolve a ⟨args, start⟩).outcome with
    | error e =>
      rw [andThen_of_error houtcome]
      simp
    | ok t =>
      have hcursor : (resolve a ⟨args, start⟩).cursor = ⟨args, start + width a⟩ := hwidth a _ t houtcome
      rw [skipped_andThen_of_ok houtcome, hcursor, List.mem_append, ih]
      simp

/-- What a row drops is in the order of the row. -/
private theorem skipped_inOrder_sublist {block? : α → Option Block}
    (h : ∀ a c, (resolve a c).skipped.Sublist (block? a).toList) (items : List α) (c : Cursor) :
    (inOrder resolve items c).skipped.Sublist (items.filterMap block?) := by
  induction items generalizing c with
  | nil => exact List.nil_sublist _
  | cons a items ih =>
    have hcons : (a :: items).filterMap block? = (block? a).toList ++ items.filterMap block? := by
      rw [List.filterMap_cons]
      cases block? a <;> rfl
    rw [inOrder, hcons]
    cases houtcome : (resolve a c).outcome with
    | error e =>
      rw [andThen_of_error houtcome]
      exact (h a c).trans (List.sublist_append_left _ _)
    | ok t =>
      rw [skipped_andThen_of_ok houtcome]
      exact (h a c).append (ih _)

end Resolution

/-! ### Templates -/

namespace Template

variable {t : Template} {args : List Value} {escape : Escape} {b : Block}

theorem mem_skipped_resolve_iff :
    b ∈ (t.resolve escape (.start args)).skipped ↔ t.Drops args escape b := by
  have hmem := @Resolution.mem_skipped_inOrder_iff _ _ _ _ _ args (Part.advances_resolve escape)
    (Part.outcome_resolve args escape) b t.parts 0
  simp only [Part.mem_skipped_resolve_iff] at hmem
  exact hmem

private theorem skipped_resolve_sublist (t : Template) (args : List Value) (escape : Escape) :
    (t.resolve escape (.start args)).skipped.Sublist t.blocks :=
  Resolution.skipped_inOrder_sublist Part.skipped_resolve_sublist t.parts _

/-- The log tells of the blocks dropped, and then of the SQL if there is any. -/
theorem log_render (t : Template) (args : List Value) (escape : Escape) :
    (t.render args escape).log = (t.resolve escape (.start args)).skipped.map Block.record ++
      ((t.render args escape).outcome.toOption.map .built).toList := by
  rw [render]
  cases (t.resolve escape (.start args)).outcome <;> simp [Except.toOption]

/-- A block that is dropped is neither kept nor does it fail. -/
private theorem Drops.filledAt_eq_skip {source : Text} (h : (ofText source).Drops args escape b) {first : Nat}
    (hfirst : (.block b, first) ∈ placed Part.width 0 (ofText source).parts) :
    b.filledAt args escape first = .error .skip := by
  obtain ⟨_, i, hi, rfl, hskip⟩ := h.exists_mem_placed
  have horder := List.pairwise_filterMap.1 (Part.pairwise_offset_split 0 source)
  have hplace : i = first := by
    refine eq_of_mem_placed horder (fun hself => ?_) hi hfirst
    exact Nat.lt_irrefl _ (hself b rfl b rfl)
  rw [← hplace, Block.filledAt_eq_skip_iff]
  exact hskip

/-- Blocks with the same offset are one block. -/
private theorem eq_of_offset_eq {source : Text} {b' : Block} (hb : b ∈ (ofText source).blocks)
    (hb' : b' ∈ (ofText source).blocks) (h : b.offset = b'.offset) : b = b' := by
  have horder : ((ofText source).blocks.map Block.offset).Pairwise (· < ·) :=
    List.pairwise_map.2 (Part.pairwise_offset_split 0 source)
  exact List.inj_on_of_nodup_map horder.nodup hb hb' h

end Template

/-! ### Builds with a cache -/

namespace Cache

variable {c : Cache} {source : Text}

/-- A cache with room for one more source gives none up. -/
private theorem evicted_compile_of_room (hroom : c.keys.length < c.limit) (source : Text) :
    (c.compile source).evicted = [] := by
  rcases compile_cases c source with heq | ⟨t, -, heq⟩ | ⟨t, -, heq⟩
  · rw [heq]
  · rw [heq]
  · have hsurplus : c.surplus = 0 := by
      rw [keys, List.length_map] at hroom
      rw [surplus]
      omega
    rw [heq]
    show c.evictedBy source = []
    rw [evictedBy, hsurplus, List.take_zero]

private theorem Sound.step_build (h : c.Sound) (hkept : (c.compile source).evicted = []) (args : Value)
    (escape : Escape) :
    (c.step escape (.build source args)).2 = .built (build source args escape) := by
  show Reply.built ((renderWith (c.compile source).outcome args escape).logFirst (c.compile source).log) = _
  rw [h.outcome_compile, Lookup.log, hkept]
  rfl

/-- Where the cache gives nothing up, the log of a build has a record for each block dropped, in the order of the
template and with what stands in the template there, and then one for the SQL if there is any.  A block that is kept or
that fails has none. -/
theorem log_build {t : Template} {args : Value} {items : List Value} (escape : Escape) (steps : List Step)
    (ht : Template.compile source = .ok t) (hitems : args.items? = some items)
    (hroom : ((empty.after escape steps).compile source).evicted = []) :
    ((empty.after escape steps).step escape (.build source args)).2 = .built (build source args escape) ∧
    ∃ dropped : List Block,
      (build source args escape).log = (dropped.map fun b => .skippedBlock b.offset b.body) ++
        ((build source args escape).outcome.toOption.map .built).toList ∧
      (∀ b, b ∈ dropped ↔ t.Drops items escape b) ∧
      dropped.Sublist t.blocks ∧ dropped.Pairwise (fun b b' => b.offset < b'.offset) ∧
      (∀ b ∈ dropped, '\x7b' :: (b.body ++ ['\x7d']) <+: source.drop b.offset) ∧
      ∀ b first, (.block b, first) ∈ placed Part.width 0 t.parts →
        ((∃ u, b.filledAt items escape first = .ok u) ∨ ∃ f, b.textAt items escape first = .error f) →
        .skippedBlock b.offset b.body ∉ (build source args escape).log := by
  obtain rfl := Template.eq_ofText_of_compile ht
  have hblocks : ((Template.ofText source).resolve escape (.start items)).skipped.Sublist
      (Template.ofText source).blocks := Template.skipped_resolve_sublist _ items escape
  have hlog := (Template.ofText source).log_render items escape
  rw [← build_eq_render ht hitems] at hlog
  refine ⟨(follows_empty.after escape steps).sound.step_build hroom args escape, _, hlog,
    fun b => Template.mem_skipped_resolve_iff, hblocks, (Part.pairwise_offset_split 0 source).sublist hblocks, ?_, ?_⟩
  · intro b hb
    have hstands : b.StandsIn 0 source := Part.block_mem_split_iff.1 (Part.mem_filterMap_block?.1 (hblocks.subset hb))
    exact hstands.isPrefix_drop
  · intro b first hplace hfilled hrecord
    have hnot : Record.skippedBlock b.offset b.body ∉
        ((build source args escape).outcome.toOption.map .built).toList := by
      cases (build source args escape).outcome <;> simp [Except.toOption]
    rw [hlog] at hrecord
    -- a record shows the offset of its block, and no two blocks have the same one
    obtain ⟨b', hb', heq⟩ := List.mem_map.1 ((List.mem_append.1 hrecord).resolve_right hnot)
    have hmem : b ∈ (Template.ofText source).blocks := Part.mem_filterMap_block?.2 (fst_mem_of_mem_placed hplace)
    obtain rfl := Template.eq_of_offset_eq (hblocks.subset hb') hmem (Record.skippedBlock.inj heq).1
    have hskip := (Template.mem_skipped_resolve_iff.1 hb').filledAt_eq_skip hplace
    rcases hfilled with ⟨u, hu⟩ | ⟨f, hf⟩
    · cases hskip.symm.trans hu
    · rw [Block.textAt, hskip] at hf
      cases hf

/-- The list at the end does not fit, so that there is no SQL.  The block dropped before it is told of all the same, and
the one kept is not. -/
theorem log_build_failed :
    ∃ r, ((empty.after .backslash [.setLimit 2, .compile ['a']]).step .backslash
        (.build "x\x7ba = ?\x7d\x7b, b = ?d\x7d?f".toList
          (.sequence .list [.skip, .int 5, .sequence .list []]))).2 = .built r ∧
      r.log = [.skippedBlock 1 "a = ?".toList] ∧ r.outcome.isOk = false := by
  have hcompile : Template.compile "x\x7ba = ?\x7d\x7b, b = ?d\x7d?f".toList =
      .ok (.ofText "x\x7ba = ?\x7d\x7b, b = ?d\x7d?f".toList) := by
    decide +kernel
  have hitems : (Value.sequence .list [.skip, .int 5, .sequence .list []]).items? =
      some [.skip, .int 5, .sequence .list []] := rfl
  have hroom : (empty.after .backslash [.setLimit 2, .compile ['a']]).keys.length <
      (empty.after .backslash [.setLimit 2, .compile ['a']]).limit := by
    decide +kernel
  obtain ⟨hreply, -⟩ := log_build .backslash _ hcompile hitems (evicted_compile_of_room hroom _)
  refine ⟨_, hreply, ?_⟩
  decide +kernel

end Cache

end SqlTemplate
