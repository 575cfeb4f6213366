import SqlTemplate.Proofs.Layout
import SqlTemplate.Proofs.Nesting

/-!
# Scanning from the left

A placeholder or a literal text with which a text starts comes first among the segments of the text, and what stands
behind it is split as if it stood alone (`Segment.split_token_append`, `Segment.split_text_append`).  The same holds of
the parts of a template (`Part.split_token_append`, `Part.split_text_append`), in which a pair of braces with no brace
between comes first as a block (`Part.split_block_append`).
-/

namespace SqlTemplate

/-! ### Segments -/

namespace Segment

/-- A placeholder ends with its token, unless the next character makes a bare question mark longer. -/
theorem split_token_append {kind : Kind} {u : Text} (hu : kind = .plain → ∀ c ∈ u.head?, Kind.ofSpecifier? c = none)
    (offset : Nat) :
    split offset (kind.token ++ u) = .placeholder kind offset :: split (offset + kind.token.length) u := by
  cases kind with
  | plain =>
    cases u with
    | nil => rfl
    | cons c u =>
      have hc : Kind.ofSpecifier? c = none := hu rfl c rfl
      simp [Kind.token, split, hc]
  | _ => rfl

/-- Literal text ends where a segment that is no text starts. -/
theorem split_text_append {t u : Text} (hne : t ≠ []) (hmark : '?' ∉ t) (offset : Nat)
    (hnext : ∀ s ∈ (split (offset + t.length) u).head?, writing.text? s = none) :
    split offset (t ++ u) = .text t :: split (offset + t.length) u := by
  induction t generalizing offset with
  | nil => exact absurd rfl hne
  | cons c t ih =>
    have hc : c ≠ '?' := fun h => hmark (by simp [h])
    have hlength : offset + (c :: t).length = offset + 1 + t.length := by
      simp only [List.length_cons]
      omega
    rw [hlength] at hnext ⊢
    rw [List.cons_append, split_cons_of_ne hc]
    cases t with
    | nil =>
      -- the last character of the text is put in front of a placeholder or of nothing
      rw [List.nil_append]
      cases hsplit : split (offset + 1) u with
      | nil => simp [prependChar]
      | cons s rest =>
        cases s with
        | text v => simpa [writing] using hnext (.text v) (by simp [hsplit])
        | placeholder kind i => simp [prependChar]
    | cons d t =>
      rw [ih (by simp) (fun h => hmark (List.mem_cons_of_mem c h)) (offset + 1) hnext]
      rfl

end Segment

/-! ### Blocks -/

namespace Block

theorem cut_append {t : Text} (h : braces t = []) (u : Text) : cut (t ++ u) = (t ++ (cut u).1, (cut u).2) := by
  induction t with
  | nil => rfl
  | cons c t ih =>
    have hc : ¬ isBrace c = true := List.filter_eq_nil_iff.1 h c List.mem_cons_self
    rw [braces_cons_of_not_isBrace hc] at h
    have hopen : c ≠ '\x7b' := by
      rintro rfl
      exact hc rfl
    rw [List.cons_append, cut, ih h]
    simp [hopen]

/-- A block is cut out with the text behind it. -/
theorem cut_block {body : Text} (h : braces body = []) (u : Text) :
    cut ('\x7b' :: body ++ '\x7d' :: u) = ([], (body, (cut u).1) :: (cut u).2) := by
  have hinside : ∀ c ∈ body, (!isBrace c) = true := by simpa using List.filter_eq_nil_iff.1 h
  have hclose : cut ('\x7d' :: u) = ('\x7d' :: (cut u).1, (cut u).2) := by simp [cut]
  have hdrop : (body ++ '\x7d' :: (cut u).1).dropWhile (!isBrace ·) = '\x7d' :: (cut u).1 := by
    rw [List.dropWhile_append_of_pos hinside]
    rfl
  have htake : (body ++ '\x7d' :: (cut u).1).takeWhile (!isBrace ·) = body := by
    rw [List.takeWhile_append_of_pos hinside]
    simp [isBrace]
  rw [List.cons_append, cut, cut_append h, hclose]
  simp [hdrop, htake]

/-- The text in front of the first block starts as the whole text does. -/
private theorem head?_cut {t : Text} {c : Char} (h : c ∈ (cut t).1.head?) : c ∈ t.head? := by
  have hjoined := joined_cut t
  cases hlead : (cut t).1 with
  | nil => simp [hlead] at h
  | cons d lead =>
    rw [hlead] at h hjoined
    rw [← hjoined]
    simpa [joined] using h

end Block

/-! ### Parts -/

namespace Part

/-- The parts of a text that starts at an offset. -/
def split (offset : Nat) (t : Text) : List Part := ofCut offset (Block.cut t).1 (Block.cut t).2

/-- What comes first among the segments in front of the blocks comes first among the parts. -/
private theorem ofCut_append {offset : Nat} {t lead : Text} {s : Segment}
    (h : Segment.split offset (t ++ lead) = s :: Segment.split (offset + t.length) lead) (blocks : List (Text × Text)) :
    ofCut offset (t ++ lead) blocks = .segment s :: ofCut (offset + t.length) lead blocks := by
  cases blocks with
  | nil => simp [ofCut, h]
  | cons b blocks => simp [ofCut, h, Nat.add_assoc]

private theorem head?_ofCut {offset : Nat} {lead : Text} {s : Segment} (h : s ∈ (Segment.split offset lead).head?)
    (blocks : List (Text × Text)) : .segment s ∈ (ofCut offset lead blocks).head? := by
  cases hsplit : Segment.split offset lead with
  | nil => simp [hsplit] at h
  | cons r rest =>
    obtain rfl : r = s := by simpa [hsplit] using h
    cases blocks <;> simp [ofCut, hsplit]

theorem split_token_append {kind : Kind} {u : Text} (hu : kind = .plain → ∀ c ∈ u.head?, Kind.ofSpecifier? c = none)
    (offset : Nat) :
    split offset (kind.token ++ u) = .segment (.placeholder kind offset) :: split (offset + kind.token.length) u := by
  have hlead : kind = .plain → ∀ c ∈ (Block.cut u).1.head?, Kind.ofSpecifier? c = none :=
    fun hk c hc => hu hk c (Block.head?_cut hc)
  rw [split, Block.cut_append (by cases kind <;> rfl)]
  exact ofCut_append (Segment.split_token_append hlead offset) _

theorem split_text_append {t u : Text} (hne : t ≠ []) (hmark : '?' ∉ t) (hbraces : braces t = []) (offset : Nat)
    (hnext : ∀ p ∈ (split (offset + t.length) u).head?, writing.text? p = none) :
    split offset (t ++ u) = .segment (.text t) :: split (offset + t.length) u := by
  rw [split, Block.cut_append hbraces]
  refine ofCut_append (Segment.split_text_append hne hmark offset ?_) _
  intro s hs
  exact hnext (.segment s) (head?_ofCut hs (Block.cut u).2)

theorem split_block_append {body : Text} (h : braces body = []) (u : Text) (offset : Nat) :
    split offset ('\x7b' :: body ++ '\x7d' :: u) =
      .block ⟨body, Segment.split 0 body, offset⟩ :: split (offset + body.length + 2) u := by
  rw [split, Block.cut_block h]
  rfl

end Part

end SqlTemplate
