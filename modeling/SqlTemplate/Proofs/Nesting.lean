import Mathlib.Data.List.Infix
import SqlTemplate.Template.Braces

/-!
# Nested blocks

The braces of a text that match up are the written form of a `Nesting`.  What is refused as nested is the word of two
opening and two closing braces (`hasNestedBlock_iff`): a block with one block inside, an empty one.  Blocks with
several blocks inside are accepted as long as none of them is such a block (`Template.validate_nesting`).
-/

namespace SqlTemplate

/-- The braces of a text, in order. -/
def braces (t : Text) : Text := t.filter isBrace

@[simp] theorem braces_cons_of_isBrace {c : Char} (h : isBrace c = true) (t : Text) :
    braces (c :: t) = c :: braces t :=
  List.filter_cons_of_pos h

@[simp] theorem braces_cons_of_not_isBrace {c : Char} (h : ¬ isBrace c = true) (t : Text) :
    braces (c :: t) = braces t :=
  List.filter_cons_of_neg h

@[simp] theorem braces_append (t u : Text) : braces (t ++ u) = braces t ++ braces u :=
  List.filter_append t u

theorem eq_of_isBrace {c : Char} (h : isBrace c = true) : c = '\x7b' ∨ c = '\x7d' := by
  simpa [isBrace] using h

/-! ### The refused word -/

/-- A block with one block in its body, and no more than that. -/
def nestedPair : Text := ['\x7b', '\x7b', '\x7d', '\x7d']

/-- A word starts the braces of a text if its first brace is the next one and the others follow behind it. -/
private theorem cons_prefix_braces (b : Char) (w t : Text) :
    b :: w <+: braces t ↔ ∃ rest, pastBrace? b t = some rest ∧ w <+: braces rest := by
  unfold pastBrace?
  induction t with
  | nil => simp [braces]
  | cons c t ih =>
    by_cases hc : isBrace c = true
    · rw [braces_cons_of_isBrace hc, List.cons_prefix_cons]
      by_cases hcb : c = b
      · have hdrop : (c :: t).dropWhile (!isBrace ·) = c :: t := by simp [hc]
        rw [hdrop]
        simp [hcb]
      · simp [hc, hcb, Ne.symm hcb]
    · rw [braces_cons_of_not_isBrace hc, ih]
      simp [hc]

private theorem startsNested_cons (c : Char) (t : Text) :
    startsNested (c :: t) = true ↔ c = '\x7b' ∧ nestedPair.tail <+: braces t := by
  by_cases hc : c = '\x7b'
  · subst hc
    simp only [startsNested, nestedPair, List.tail_cons, cons_prefix_braces, Option.isSome_iff_exists,
      Option.bind_eq_some_iff, List.nil_prefix, and_true, true_and]
    grind
  · simp [startsNested, hc]

/-- What is refused as nested is one word among the braces, wherever it stands and whatever stands between them. -/
theorem hasNestedBlock_iff (t : Text) : hasNestedBlock t = true ↔ nestedPair <:+: braces t := by
  induction t with
  | nil => simp [hasNestedBlock, nestedPair, braces]
  | cons c t ih =>
    simp only [hasNestedBlock, Bool.or_eq_true, ih, startsNested_cons]
    by_cases hc : isBrace c = true
    · rw [braces_cons_of_isBrace hc, List.infix_cons_iff, nestedPair, List.cons_prefix_cons]
      simp [eq_comm]
    · have hne : c ≠ '\x7b' := fun h => hc (h ▸ rfl)
      simp [braces_cons_of_not_isBrace hc, hne]

/-! ### Nestings -/

/-- The blocks of a text: none, or a first one with what is inside it and what comes after it. -/
inductive Nesting
  | none
  | block (inside after : Nesting)
  deriving DecidableEq

namespace Nesting

def written : Nesting → Text
  | none => []
  | block inside after => '\x7b' :: inside.written ++ '\x7d' :: after.written

/-- Some block stands inside another one. -/
def isDeep : Nesting → Bool
  | none => false
  | block inside after => inside ≠ none || after.isDeep

/-- Some block has nothing but one empty block inside. -/
def hasLonePair : Nesting → Bool
  | none => false
  | block inside after => inside = block none none || inside.hasLonePair || after.hasLonePair

/-- A block at the end of a chain of blocks, each the only one inside the one before, comes to a lone pair. -/
private theorem isDeep_of_hasLonePair {n : Nesting} (h : n.hasLonePair = true) : n.isDeep = true := by
  induction n with
  | none => simp [hasLonePair] at h
  | block inside after _ ih =>
    simp only [hasLonePair, Bool.or_eq_true, decide_eq_true_eq] at h
    simp only [isDeep, Bool.or_eq_true, decide_eq_true_eq]
    rcases h with (rfl | h) | h
    · exact .inl (by simp)
    · -- a lone pair further inside is inside this block as well
      left
      rintro rfl
      simp [hasLonePair] at h
    · exact .inr (ih h)

private theorem tail_prefix_written (inside : Nesting) (r : Text) :
    nestedPair.tail <+: inside.written ++ '\x7d' :: r ↔ inside = block none none := by
  rcases inside with _ | ⟨_ | _, _ | _⟩ <;> simp [nestedPair, written]

/-- The word is met at a block that holds one empty block only, and never across blocks. -/
private theorem nestedPair_infix_written (n : Nesting) (r : Text) :
    nestedPair <:+: n.written ++ r ↔ n.hasLonePair = true ∨ nestedPair <:+: r := by
  induction n generalizing r with
  | none => simp [written, hasLonePair]
  | block inside after ihInside ihAfter =>
    have hclose : nestedPair <:+: '\x7d' :: (after.written ++ r) ↔ nestedPair <:+: after.written ++ r := by
      rw [List.infix_cons_iff]
      simp [nestedPair]
    have hopen : nestedPair <+: '\x7b' :: (inside.written ++ '\x7d' :: (after.written ++ r)) ↔
        inside = block none none := by
      rw [← tail_prefix_written inside (after.written ++ r)]
      simp [nestedPair]
    simp only [written, List.cons_append, List.append_assoc]
    rw [List.infix_cons_iff, hopen, ihInside, hclose, ihAfter]
    simp [hasLonePair, or_assoc]

private theorem count_written (n : Nesting) : n.written.count '\x7b' = n.written.count '\x7d' := by
  induction n with
  | none => rfl
  | block inside after ihInside ihAfter =>
    simp only [written, List.cons_append, List.count_cons, List.count_append, ihInside, ihAfter]
    simp
    omega

end Nesting

/-- Whether a text with the braces of a nesting is refused depends on the nesting alone. -/
theorem Template.validate_eq_of_braces {t : Text} {n : Nesting} (h : braces t = n.written) :
    validate t = if n.hasLonePair then .error .nestedBlock else .ok () := by
  have hnested : hasNestedBlock t = true ↔ n.hasLonePair = true := by
    rw [hasNestedBlock_iff, h, ← List.append_nil n.written, Nesting.nestedPair_infix_written]
    simp [nestedPair]
  have hcount : t.count '\x7b' = t.count '\x7d' := by
    have hbraces := n.count_written
    rwa [← h, braces, List.count_filter rfl, List.count_filter rfl] at hbraces
  simp only [validate, hnested, hcount, ne_eq, not_true_eq_false, if_false]

/-! ### Texts whose braces match up -/

/-- No prefix closes more than it opens, and in all as much is closed as is opened. -/
structure Matched (t : Text) : Prop where
  closed_le : ∀ pre, pre <+: t → pre.count '\x7d' ≤ pre.count '\x7b'
  count_eq : t.count '\x7b' = t.count '\x7d'

instance (t : Text) : Decidable (Matched t) :=
  decidable_of_iff ((∀ pre ∈ t.inits, pre.count '\x7d' ≤ pre.count '\x7b') ∧ t.count '\x7b' = t.count '\x7d')
    ⟨fun h => ⟨fun pre hpre => h.1 pre ((List.mem_inits pre t).2 hpre), h.2⟩,
      fun h => ⟨fun pre hpre => h.closed_le pre ((List.mem_inits pre t).1 hpre), h.count_eq⟩⟩

/-- From a text whose braces match up once `opened` more are opened in front, with the blocks that those are. -/
private theorem exists_nestings (t : Text) (opened : Nat)
    (hclosed : ∀ pre, pre <+: t → pre.count '\x7d' ≤ opened + pre.count '\x7b')
    (hcount : opened + t.count '\x7b' = t.count '\x7d') :
    ∃ (n : Nesting) (outer : List Nesting), outer.length = opened ∧
      braces t = n.written ++ outer.flatMap fun m => '\x7d' :: m.written := by
  induction t generalizing opened with
  | nil =>
    have hzero : opened = 0 := by simpa using hcount
    exact ⟨.none, [], by simp [hzero], rfl⟩
  | cons c t ih =>
    have hrest : ∀ pre, pre <+: t → (c :: pre).count '\x7d' ≤ opened + (c :: pre).count '\x7b' :=
      fun pre hpre => hclosed _ (List.cons_prefix_cons.2 ⟨rfl, hpre⟩)
    by_cases hc : isBrace c = true
    · rw [braces_cons_of_isBrace hc]
      rcases eq_of_isBrace hc with rfl | rfl
      · have hcounts : ∀ pre : Text, ('\x7b' :: pre).count '\x7b' = pre.count '\x7b' + 1 ∧
            ('\x7b' :: pre).count '\x7d' = pre.count '\x7d' := fun pre => by simp
        have hall := hcounts t
        obtain ⟨n, outer, hlength, hbraces⟩ := ih (opened + 1)
          (fun pre hpre => by have := hrest pre hpre; have := hcounts pre; omega) (by omega)
        -- the innermost of the open blocks is the one opened here
        cases outer with
        | nil => simp at hlength
        | cons m outer => exact ⟨.block n m, outer, by simpa using hlength, by simp [hbraces, Nesting.written]⟩
      · -- what was read from here on stands behind the block that ends here
        have hopened : 1 ≤ opened := by simpa using hrest [] List.nil_prefix
        have hcounts : ∀ pre : Text, ('\x7d' :: pre).count '\x7b' = pre.count '\x7b' ∧
            ('\x7d' :: pre).count '\x7d' = pre.count '\x7d' + 1 := fun pre => by simp
        have hall := hcounts t
        obtain ⟨n, outer, hlength, hbraces⟩ := ih (opened - 1)
          (fun pre hpre => by have := hrest pre hpre; have := hcounts pre; omega) (by omega)
        refine ⟨.none, n :: outer, ?_, by simp [hbraces, Nesting.written]⟩
        simp only [List.length_cons, hlength]
        omega
    · have hcounts : c ≠ '\x7b' ∧ c ≠ '\x7d' := by simpa [isBrace] using hc
      rw [braces_cons_of_not_isBrace hc]
      refine ih opened (fun pre hpre => ?_) ?_
      · simpa [List.count_cons, hcounts.1, hcounts.2] using hrest pre hpre
      · simpa [List.count_cons, hcounts.1, hcounts.2] using hcount

theorem Matched.exists_nesting {t : Text} (h : Matched t) : ∃ n : Nesting, braces t = n.written := by
  obtain ⟨n, outer, hlength, hbraces⟩ := exists_nestings t 0 (by simpa using h.closed_le) (by simpa using h.count_eq)
  rw [List.length_eq_zero_iff] at hlength
  subst hlength
  exact ⟨n, by simpa using hbraces⟩

/-! ### Blocks that open inside others -/

/-- Some opening brace comes while an earlier one is open. -/
def OpensInside (t : Text) : Prop := ∃ pre post, t = pre ++ '\x7b' :: post ∧ pre.count '\x7d' < pre.count '\x7b'

/-- The same behind `depth` open blocks. -/
private def OpensWithin (depth : Int) (t : Text) : Prop :=
  ∃ pre post, t = pre ++ '\x7b' :: post ∧ (pre.count '\x7d' : Int) < depth + pre.count '\x7b'

private theorem opensInside_iff (t : Text) : OpensInside t ↔ OpensWithin 0 t := by
  simp only [OpensInside, OpensWithin, Int.zero_add, Int.ofNat_lt]

private theorem opensWithin_cons (depth : Int) (c : Char) (t : Text) :
    OpensWithin depth (c :: t) ↔
      (c = '\x7b' ∧ 0 < depth) ∨ OpensWithin (depth + [c].count '\x7b' - [c].count '\x7d') t := by
  have hcount : ∀ (b : Char) (pre : Text), (c :: pre).count b = [c].count b + pre.count b :=
    fun b pre => @List.count_append _ _ b [c] pre
  constructor
  · rintro ⟨pre, post, ht, hdepth⟩
    cases pre with
    | nil =>
      obtain ⟨rfl, -⟩ : c = '\x7b' ∧ t = post := by simpa using ht
      exact .inl ⟨rfl, by simpa using hdepth⟩
    | cons d pre =>
      obtain ⟨rfl, rfl⟩ : c = d ∧ t = pre ++ '\x7b' :: post := by simpa using ht
      rw [hcount _ pre, hcount _ pre] at hdepth
      exact .inr ⟨pre, post, rfl, by omega⟩
  · rintro (⟨rfl, hdepth⟩ | ⟨pre, post, rfl, hdepth⟩)
    · exact ⟨[], t, rfl, by simpa using hdepth⟩
    · refine ⟨c :: pre, post, rfl, ?_⟩
      rw [hcount _ pre, hcount _ pre]
      omega

private theorem opensWithin_open (depth : Int) (t : Text) :
    OpensWithin depth ('\x7b' :: t) ↔ 0 < depth ∨ OpensWithin (depth + 1) t := by
  simp [opensWithin_cons]

private theorem opensWithin_close (depth : Int) (t : Text) :
    OpensWithin (depth + 1) ('\x7d' :: t) ↔ OpensWithin depth t := by
  simp [opensWithin_cons]

private theorem opensWithin_braces (depth : Int) (t : Text) :
    OpensWithin depth (braces t) ↔ OpensWithin depth t := by
  induction t generalizing depth with
  | nil => rfl
  | cons c t ih =>
    rw [opensWithin_cons]
    by_cases hc : isBrace c = true
    · rw [braces_cons_of_isBrace hc, opensWithin_cons, ih]
    · have hcounts : c ≠ '\x7b' ∧ c ≠ '\x7d' := by simpa [isBrace] using hc
      simp [braces_cons_of_not_isBrace hc, hcounts.1, hcounts.2, ih]

private theorem opensWithin_written (n : Nesting) (r : Text) (depth : Int) (hdepth : 0 ≤ depth) :
    OpensWithin depth (n.written ++ r) ↔
      (n ≠ .none ∧ 0 < depth) ∨ n.isDeep = true ∨ OpensWithin depth r := by
  induction n generalizing r depth with
  | none => simp [Nesting.written, Nesting.isDeep]
  | block inside after ihInside ihAfter =>
    -- in the body of a block, every block opens inside
    have hopened : 0 < depth + 1 := by omega
    have hdeep : inside.isDeep = true → inside ≠ .none := by
      rintro h rfl
      cases h
    simp only [Nesting.written, List.cons_append, List.append_assoc]
    rw [opensWithin_open, ihInside _ _ (Int.le_of_lt hopened), opensWithin_close, ihAfter _ _ hdepth]
    simp only [Nesting.isDeep, Bool.or_eq_true, decide_eq_true_eq, hopened, and_true]
    grind

namespace Template

/-- Templates whose braces match up, by the nesting of their blocks.  A block inside another one opens inside, but what
is refused is a lone pair, so that a template is taken wrongly when it is deep without one. -/
theorem validate_nesting {t : Text} (h : Matched t) :
    ∃ n : Nesting, braces t = n.written ∧ (OpensInside t ↔ n.isDeep = true) ∧
      validate t = (if n.hasLonePair then .error .nestedBlock else .ok ()) ∧
      (((validate t = .error .nestedBlock ↔ OpensInside t) ∧ (¬ OpensInside t → validate t = .ok ())) ↔
        (n.isDeep = true → n.hasLonePair = true)) := by
  obtain ⟨n, hn⟩ := h.exists_nesting
  have hopens : OpensInside t ↔ n.isDeep = true := by
    rw [opensInside_iff, ← opensWithin_braces, hn, ← List.append_nil n.written, opensWithin_written n [] 0 (by omega)]
    simp [OpensWithin]
  have hnested : hasNestedBlock t = true ↔ n.hasLonePair = true := by
    rw [hasNestedBlock_iff, hn, ← List.append_nil n.written, Nesting.nestedPair_infix_written]
    simp [nestedPair]
  have hvalidate : validate t = (if n.hasLonePair then .error .nestedBlock else .ok ()) := by
    simp only [validate, hnested, h.count_eq, ne_eq, not_true_eq_false, if_false]
  refine ⟨n, hn, hopens, hvalidate, ?_⟩
  have hlone := @Nesting.isDeep_of_hasLonePair n
  rw [hvalidate, hopens]
  by_cases hpair : n.hasLonePair = true
  · simp [hpair, hlone hpair]
  · simp [hpair]

/-- A block that holds one block only has a lone pair. -/
theorem validate_nesting_pair : Matched "a \x7bb \x7bc\x7d\x7d".toList ∧
    ∃ n : Nesting, n.written = nestedPair ∧ n.hasLonePair = true := by
  have hmatched : Matched "a \x7bb \x7bc\x7d\x7d".toList := by decide
  obtain ⟨n, hn, -, hvalidate, -⟩ := validate_nesting hmatched
  refine ⟨hmatched, n, hn.symm.trans (by decide), ?_⟩
  by_contra hpair
  rw [if_neg hpair] at hvalidate
  exact absurd hvalidate (by decide)

/-- Two blocks side by side inside a third one open inside it and are accepted. -/
theorem validate_siblings_inside : Matched "\x7b\x7b\x7d\x7b\x7d\x7d".toList ∧
    OpensInside "\x7b\x7b\x7d\x7b\x7d\x7d".toList ∧ validate "\x7b\x7b\x7d\x7b\x7d\x7d".toList = .ok () := by
  refine ⟨by decide, ⟨['\x7b'], "\x7d\x7b\x7d\x7d".toList, rfl, by decide⟩, by decide⟩

end Template

end SqlTemplate
