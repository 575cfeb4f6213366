import SqlTemplate.Proofs.Scanning

/-!
# Flat templates

A template is flat if it is made of text without braces and blocks without braces in their bodies.  Its blocks are those
that it was put together from (`Block.cut_joined`), so none of its parts has a brace besides the two around a block
(`IsFlat.braces_unbraced`).
-/

namespace SqlTemplate

/-- Text without braces, and blocks without braces in their bodies. -/
def IsFlat (source : Text) : Prop :=
  ∃ lead blocks, source = Block.joined lead blocks ∧ braces lead = [] ∧
    ∀ b ∈ blocks, braces b.1 = [] ∧ braces b.2 = []

theorem braces_eq_nil_iff {t : Text} : braces t = [] ↔ ∀ c ∈ t, isBrace c = false := by
  simp [braces, List.filter_eq_nil_iff]

private theorem Segment.braces_source_of_mem_split {t : Text} (h : braces t = []) {offset : Nat} {s : Segment}
    (hs : s ∈ split offset t) : braces s.source = [] := by
  rw [braces_eq_nil_iff] at h ⊢
  intro c hc
  apply h
  rw [← flatMap_source_split offset t]
  exact List.mem_flatMap.2 ⟨s, hs, hc⟩

/-- Text and blocks without braces inside are cut where they were put together. -/
theorem Block.cut_joined {lead : Text} {blocks : List (Text × Text)} (hlead : braces lead = [])
    (hblocks : ∀ b ∈ blocks, braces b.1 = [] ∧ braces b.2 = []) : cut (joined lead blocks) = (lead, blocks) := by
  induction blocks generalizing lead with
  | nil =>
    have hjoined : joined lead [] = lead ++ [] := rfl
    rw [hjoined, cut_append hlead]
    simp [cut]
  | cons b blocks ih =>
    obtain ⟨hbody, hfollow⟩ := hblocks b List.mem_cons_self
    have hcut := ih hfollow fun b' hb' => hblocks b' (List.mem_cons_of_mem b hb')
    have hjoined : joined lead (b :: blocks) = lead ++ ('\x7b' :: b.1 ++ '\x7d' :: joined b.2 blocks) := by
      simp [joined]
    rw [hjoined, cut_append hlead, cut_block hbody, hcut, List.append_nil]

/-- The part as it is written, less the two braces around a block. -/
def Part.unbraced : Part → Text
  | .segment s => s.source
  | .block b => b.body

private theorem Part.braces_unbraced_of_mem_ofCut {lead : Text} {blocks : List (Text × Text)} (hlead : braces lead = [])
    (hblocks : ∀ b ∈ blocks, braces b.1 = [] ∧ braces b.2 = []) {offset : Nat} {p : Part}
    (hp : p ∈ ofCut offset lead blocks) : braces p.unbraced = [] := by
  induction blocks generalizing offset lead with
  | nil =>
    obtain ⟨s, hs, rfl⟩ := List.mem_map.1 hp
    exact Segment.braces_source_of_mem_split hlead hs
  | cons b blocks ih =>
    obtain ⟨hbody, hfollow⟩ := hblocks b List.mem_cons_self
    simp only [ofCut, List.mem_append, List.mem_map, List.mem_cons] at hp
    rcases hp with ⟨s, hs, rfl⟩ | rfl | hp
    · exact Segment.braces_source_of_mem_split hlead hs
    · exact hbody
    · exact ih hfollow (fun b' hb' => hblocks b' (List.mem_cons_of_mem b hb')) hp

/-- No part of a flat template has a brace but for those around a block. -/
theorem IsFlat.braces_unbraced {source : Text} (h : IsFlat source) {p : Part}
    (hp : p ∈ (Template.ofText source).parts) : braces p.unbraced = [] := by
  obtain ⟨lead, blocks, rfl, hlead, hblocks⟩ := h
  rw [Template.ofText, Block.cut_joined hlead hblocks] at hp
  exact Part.braces_unbraced_of_mem_ofCut hlead hblocks hp

/-- Text without braces is accepted and has no blocks. -/
theorem Template.compile_of_braces_eq_nil {source : Text} (h : braces source = []) :
    compile source = .ok ⟨source, (Segment.split 0 source).map .segment⟩ := by
  have hvalidate : validate source = .ok () := validate_eq_of_braces (n := .none) h
  have hcut : Block.cut source = (source, []) := by
    simpa [Block.cut] using Block.cut_append h []
  rw [compile, hvalidate, ofText, hcut]
  rfl

end SqlTemplate
