import SqlTemplate.Proofs.Layout

/-!
# Question marks

Every question mark of a template is a placeholder, inside a block and outside, at a brace and between braces that are
no block: the kinds of a template are those of its question marks, each known by the one character behind it
(`Template.kinds_ofText`).  So the placeholders can be listed without looking for blocks (`Template.kindsOf_eq_listed`).
-/

namespace SqlTemplate

/-! ### Reading without braces -/

namespace Kind

/-- The kind of a question mark by the character behind it. -/
def ofNext : Option Char → Kind
  | some 'd' => .integer
  | some 'f' => .float
  | some 'a' => .array
  | some '#' => .identifier
  | _ => .plain

/-- The kinds of the question marks of a text, whatever else stands in it. -/
def listed : Text → List Kind
  | [] => []
  | c :: rest => if c = '?' then ofNext rest.head? :: listed rest else listed rest

@[simp] private theorem listed_mark (rest : Text) : listed ('?' :: rest) = ofNext rest.head? :: listed rest := rfl

private theorem listed_cons_of_ne {c : Char} (h : c ≠ '?') (rest : Text) : listed (c :: rest) = listed rest := if_neg h

theorem length_listed (t : Text) : (listed t).length = t.count '?' := by
  induction t with
  | nil => rfl
  | cons c t ih =>
    by_cases hc : c = '?'
    · rw [hc, listed_mark, List.length_cons, ih, List.count_cons_self]
    · rw [listed_cons_of_ne hc, ih, List.count_cons_of_ne (by simpa using hc)]

private theorem ofNext_some (c : Char) : ofNext (some c) = (ofSpecifier? c).getD .plain := by
  unfold ofSpecifier?
  split
  · rfl
  · rfl
  · rfl
  · rfl
  · unfold ofNext
    split <;> simp_all

/-- A character that is the letter of no kind keeps what stands on its two sides apart. -/
private theorem listed_append_cons {c : Char} (hc : ofNext (some c) = .plain) (t u : Text) :
    listed (t ++ c :: u) = listed t ++ listed (c :: u) := by
  induction t with
  | nil => rfl
  | cons d t ih =>
    by_cases hd : d = '?'
    · -- a question mark at the end is bare in front of `c` as it is in front of nothing
      have hnext : ofNext (t ++ c :: u).head? = ofNext t.head? := by
        cases t with
        | nil => exact hc
        | cons e t => rfl
      rw [hd, List.cons_append, listed_mark, listed_mark, ih, hnext, List.cons_append]
    · rw [List.cons_append, listed_cons_of_ne hd, listed_cons_of_ne hd, ih]

end Kind

/-! ### Segments and parts -/

namespace Segment

private theorem filterMap_kind?_prependChar (c : Char) (segments : List Segment) :
    (prependChar c segments).filterMap kind? = segments.filterMap kind? := by
  cases segments with
  | nil => rfl
  | cons s rest => cases s <;> rfl

/-- Splitting finds each question mark, and the letter behind it is no part of another one. -/
theorem filterMap_kind?_split (offset : Nat) (t : Text) : (split offset t).filterMap kind? = Kind.listed t := by
  fun_induction split offset t with
  | case1 => rfl
  | case2 offset c rest kind h ih =>
    have hc : c ≠ '?' := by
      rintro rfl
      cases h
    rw [Kind.listed_mark, Kind.listed_cons_of_ne hc, List.head?_cons, Kind.ofNext_some, h, ← ih]
    rfl
  | case3 offset c rest h ih =>
    rw [Kind.listed_mark, List.head?_cons, Kind.ofNext_some, h, ← ih]
    rfl
  | case4 => rfl
  | case5 offset c rest hfollowed hlast ih =>
    have hc : c ≠ '?' := by
      rintro rfl
      cases rest with
      | nil => exact hlast rfl rfl
      | cons d rest => exact hfollowed d rest rfl rfl
    rw [filterMap_kind?_prependChar, ih, Kind.listed_cons_of_ne hc]

end Segment

namespace Part

private theorem flatMap_kinds_map_segment (segments : List Segment) :
    (segments.map segment).flatMap kinds = segments.filterMap Segment.kind? := by
  induction segments with
  | nil => rfl
  | cons s rest ih =>
    rw [List.map_cons, List.flatMap_cons, ih]
    cases h : s.kind? <;> simp [kinds, h]

/-- The braces of a block end what stands in front of them, so nothing is read across them. -/
private theorem flatMap_kinds_ofCut (offset : Nat) (lead : Text) (blocks : List (Text × Text)) :
    (ofCut offset lead blocks).flatMap kinds = Kind.listed (Block.joined lead blocks) := by
  induction blocks generalizing offset lead with
  | nil =>
    rw [ofCut, flatMap_kinds_map_segment, Segment.filterMap_kind?_split]
    simp [Block.joined]
  | cons b blocks ih =>
    obtain ⟨body, follow⟩ := b
    have hjoined : Block.joined lead ((body, follow) :: blocks) =
        lead ++ '\x7b' :: (body ++ '\x7d' :: Block.joined follow blocks) := by
      simp [Block.joined]
    rw [hjoined, Kind.listed_append_cons rfl, Kind.listed_cons_of_ne (by decide), Kind.listed_append_cons rfl,
      Kind.listed_cons_of_ne (by decide), ofCut]
    simp only [List.flatMap_append, List.flatMap_cons, flatMap_kinds_map_segment, Segment.filterMap_kind?_split, ih,
      kinds, Block.kinds]

end Part

namespace Template

theorem kinds_ofText (source : Text) : (ofText source).kinds = Kind.listed source := by
  rw [kinds, ofText, Part.flatMap_kinds_ofCut, Block.joined_cut]

/-- The placeholders of an accepted template are its question marks, listed from left to right by the character behind
each; so there are as many as there are question marks. -/
theorem kindsOf_eq_listed {source : Text} {t : Template} (h : compile source = .ok t) :
    kindsOf source = .ok (Kind.listed source) ∧ (Kind.listed source).length = source.count '?' ∧
      t.placeholderCount = source.count '?' := by
  obtain rfl := eq_ofText_of_compile h
  refine ⟨?_, Kind.length_listed source, ?_⟩
  · rw [kindsOf, h, ← kinds_ofText]
    rfl
  · rw [placeholderCount, kinds_ofText, Kind.length_listed]

/-- Question marks at the braces of a block, and between braces that pair with none. -/
theorem kindsOf_eq_listed_stray :
    compile "?\x7b?d?\x7da\x7d?#??f\x7b?".toList = .ok (ofText "?\x7b?d?\x7da\x7d?#??f\x7b?".toList) ∧
    kindsOf "?\x7b?d?\x7da\x7d?#??f\x7b?".toList =
      .ok [.plain, .integer, .plain, .identifier, .plain, .float, .plain] ∧
    (ofText "?\x7b?d?\x7da\x7d?#??f\x7b?".toList).placeholderCount = 7 := by
  have h : compile "?\x7b?d?\x7da\x7d?#??f\x7b?".toList = .ok (ofText "?\x7b?d?\x7da\x7d?#??f\x7b?".toList) := by
    decide
  obtain ⟨hkinds, -, hcount⟩ := kindsOf_eq_listed h
  exact ⟨h, hkinds.trans (by decide), hcount.trans (by decide)⟩

end Template

end SqlTemplate
