import SqlTemplate.Proofs.Nesting

/-!
# Braces without a partner

Read from left to right, a closing brace is the partner of the last opening brace that has none yet.
`Pairing.ofText` keeps the braces that are left; there are none exactly where the braces match up
(`Pairing.ofText_eq_none_iff`).  All closing braces that are left stand in front of all opening ones
(`Pairing.Of.reading`).  What decides about a template is whether as many of the one as of the other are left
(`Pairing.ofText_count`, `Template.validate_pairing`).
-/

namespace SqlTemplate

/-- The braces that have no partner, by their offsets and the last first: opening ones, which may get one, and closing
ones. -/
structure Pairing where
  opened : List Nat
  unopened : List Nat
  deriving DecidableEq

namespace Pairing

def none : Pairing := ⟨[], []⟩

/-- Reads the character at an offset. -/
def next (p : Pairing) (offset : Nat) (c : Char) : Pairing :=
  if c = '\x7b' then ⟨offset :: p.opened, p.unopened⟩
  else if c = '\x7d' then
    match p.opened with
    | [] => ⟨[], offset :: p.unopened⟩
    | _ :: outer => ⟨outer, p.unopened⟩
  else p

/-- Reads a text that starts at an offset. -/
def reading (p : Pairing) (offset : Nat) : Text → Pairing
  | [] => p
  | c :: t => (p.next offset c).reading (offset + 1) t

def ofText (t : Text) : Pairing := none.reading 0 t

example : ofText "\x7d\x7b\x7d\x7b".toList = ⟨[3], [0]⟩ := by decide

/-! ### Numbers of braces -/

/-- The four ways in which a character is read. -/
private theorem next_cases (p : Pairing) (offset : Nat) (c : Char) :
    (c = '\x7b' ∧ p.next offset c = ⟨offset :: p.opened, p.unopened⟩) ∨
    (c = '\x7d' ∧ p.opened = [] ∧ p.next offset c = ⟨[], offset :: p.unopened⟩) ∨
    (c = '\x7d' ∧ ∃ i outer, p.opened = i :: outer ∧ p.next offset c = ⟨outer, p.unopened⟩) ∨
    (c ≠ '\x7b' ∧ c ≠ '\x7d' ∧ p.next offset c = p) := by
  unfold next
  by_cases hopen : c = '\x7b'
  · exact .inl ⟨hopen, by rw [if_pos hopen]⟩
  · rw [if_neg hopen]
    by_cases hclose : c = '\x7d'
    · rw [if_pos hclose]
      cases h : p.opened with
      | nil => exact .inr (.inl ⟨hclose, rfl, rfl⟩)
      | cons i outer => exact .inr (.inr (.inl ⟨hclose, i, outer, rfl, rfl⟩))
    · rw [if_neg hclose]
      exact .inr (.inr (.inr ⟨hopen, hclose, rfl⟩))

/-- A partner is found for as many opening braces as closing ones. -/
private theorem next_count (p : Pairing) (offset : Nat) (c : Char) :
    p.opened.length + [c].count '\x7b' + (p.next offset c).unopened.length =
      (p.next offset c).opened.length + [c].count '\x7d' + p.unopened.length := by
  rcases next_cases p offset c with ⟨rfl, hp⟩ | ⟨rfl, hnil, hp⟩ | ⟨rfl, i, outer, hcons, hp⟩ | ⟨hopen, hclose, hp⟩
  · rw [hp]
    simp
  · rw [hp, hnil]
    simp
    omega
  · rw [hp, hcons]
    simp
  · rw [hp]
    simp [hopen, hclose]

/-- The braces of a text by its first character and the others. -/
private theorem counts_cons (c : Char) (t : Text) :
    (c :: t).count '\x7b' = [c].count '\x7b' + t.count '\x7b' ∧
      (c :: t).count '\x7d' = [c].count '\x7d' + t.count '\x7d' :=
  ⟨@List.count_append _ _ '\x7b' [c] t, @List.count_append _ _ '\x7d' [c] t⟩

private theorem reading_count (p : Pairing) (offset : Nat) (t : Text) :
    p.opened.length + t.count '\x7b' + (p.reading offset t).unopened.length =
      (p.reading offset t).opened.length + t.count '\x7d' + p.unopened.length := by
  induction t generalizing p offset with
  | nil => simp [reading]
  | cons c t ih =>
    have hnext := next_count p offset c
    have hrest := ih (p.next offset c) (offset + 1)
    have hall := counts_cons c t
    rw [reading]
    omega

/-- As many braces of one kind as of the other are left where the text has as many of one kind as of the other. -/
theorem ofText_count (t : Text) :
    t.count '\x7b' + (ofText t).unopened.length = (ofText t).opened.length + t.count '\x7d' := by
  have hcount : 0 + t.count '\x7b' + (ofText t).unopened.length = (ofText t).opened.length + t.count '\x7d' + 0 :=
    reading_count none 0 t
  omega

/-! ### Texts that leave no brace -/

private theorem next_unopened_le (p : Pairing) (offset : Nat) (c : Char) :
    p.unopened.length ≤ (p.next offset c).unopened.length := by
  rcases next_cases p offset c with ⟨-, hp⟩ | ⟨-, -, hp⟩ | ⟨-, i, outer, -, hp⟩ | ⟨-, -, hp⟩
  all_goals rw [hp]
  all_goals simp

private theorem reading_unopened_le (p : Pairing) (offset : Nat) (t : Text) :
    p.unopened.length ≤ (p.reading offset t).unopened.length := by
  induction t generalizing p offset with
  | nil => exact Nat.le_refl _
  | cons c t ih => exact Nat.le_trans (next_unopened_le p offset c) (ih _ _)

/-- No closing brace is left over as long as no prefix closes more than is open. -/
theorem reading_unopened_eq_iff (p : Pairing) (offset : Nat) (t : Text) :
    (p.reading offset t).unopened.length = p.unopened.length ↔
      ∀ pre, pre <+: t → pre.count '\x7d' ≤ p.opened.length + pre.count '\x7b' := by
  induction t generalizing p offset with
  | nil => simp [reading]
  | cons c t ih =>
    have hle := next_unopened_le p offset c
    have hge := reading_unopened_le (p.next offset c) (offset + 1) t
    have hcount := next_count p offset c
    rw [reading]
    constructor
    · intro heq pre hpre
      have hrest := (ih (p.next offset c) (offset + 1)).1 (by omega)
      cases pre with
      | nil => simp
      | cons d pre =>
        obtain ⟨rfl, hprefix⟩ := List.cons_prefix_cons.1 hpre
        have hbehind := hrest pre hprefix
        have hall := counts_cons d pre
        omega
    · intro hclosed
      have hfirst := hclosed [c] (by simp)
      -- the character itself leaves no closing brace
      have hnext : (p.next offset c).unopened.length = p.unopened.length := by
        rcases next_cases p offset c with ⟨-, hp⟩ | ⟨rfl, hnil, -⟩ | ⟨-, i, outer, -, hp⟩ | ⟨-, -, hp⟩
        · rw [hp]
        · rw [hnil] at hfirst
          simp at hfirst
        · rw [hp]
        · rw [hp]
      rw [← hnext, ih]
      intro pre hpre
      have hwith := hclosed (c :: pre) (List.cons_prefix_cons.2 ⟨rfl, hpre⟩)
      have hall := counts_cons c pre
      omega

/-- Every brace has its partner exactly where the braces match up. -/
theorem ofText_eq_none_iff (t : Text) : ofText t = none ↔ Matched t := by
  have hcount := ofText_count t
  have hclosed : (ofText t).unopened.length = 0 ↔
      ∀ pre, pre <+: t → pre.count '\x7d' ≤ 0 + pre.count '\x7b' := reading_unopened_eq_iff none 0 t
  simp only [Nat.zero_add] at hclosed
  constructor
  · intro h
    rw [h] at hcount hclosed
    exact ⟨hclosed.1 rfl, by simpa [none] using hcount⟩
  · intro h
    have heq := h.count_eq
    have hunopened : (ofText t).unopened.length = 0 := hclosed.2 h.closed_le
    have hopened : (ofText t).opened.length = 0 := by omega
    rw [List.length_eq_zero_iff] at hopened hunopened
    show ⟨(ofText t).opened, (ofText t).unopened⟩ = none
    rw [hopened, hunopened]
    rfl

/-! ### Where the braces without a partner stand -/

/-- What is left of a text are braces of it, the closing ones in front of the opening ones. -/
structure Of (t : Text) (p : Pairing) : Prop where
  opened : ∀ j ∈ p.opened, t[j]? = some '\x7b'
  unopened : ∀ i ∈ p.unopened, t[i]? = some '\x7d'
  lt : ∀ i ∈ p.unopened, ∀ j ∈ p.opened, i < j

/-- Characters behind a text do not change those that it has. -/
private theorem getElem?_concat_of_some {t : Text} {i : Nat} {b : Char} (h : t[i]? = some b) (c : Char) :
    (t ++ [c])[i]? = some b := by
  have hi : i < t.length := (List.getElem?_eq_some_iff.1 h).1
  rw [List.getElem?_append_left hi, h]

theorem Of.next {t : Text} {p : Pairing} (h : Of t p) (c : Char) : Of (t ++ [c]) (p.next t.length c) := by
  have hopened : ∀ j ∈ p.opened, (t ++ [c])[j]? = some '\x7b' :=
    fun j hj => getElem?_concat_of_some (h.opened j hj) c
  have hunopened : ∀ i ∈ p.unopened, (t ++ [c])[i]? = some '\x7d' :=
    fun i hi => getElem?_concat_of_some (h.unopened i hi) c
  have hlast : (t ++ [c])[t.length]? = some c := by simp
  rcases next_cases p t.length c with ⟨rfl, hp⟩ | ⟨rfl, hnil, hp⟩ | ⟨rfl, i, outer, hcons, hp⟩ | ⟨-, -, hp⟩
  · rw [hp]
    refine ⟨?_, hunopened, ?_⟩
    · intro j hj
      rcases List.mem_cons.1 hj with rfl | hj
      · exact hlast
      · exact hopened j hj
    · intro i hi j hj
      rcases List.mem_cons.1 hj with rfl | hj
      · exact (List.getElem?_eq_some_iff.1 (h.unopened i hi)).1
      · exact h.lt i hi j hj
  · -- no brace is open, so that none comes in front of this one
    rw [hp]
    refine ⟨by simp, ?_, by simp⟩
    intro i hi
    rcases List.mem_cons.1 hi with rfl | hi
    · exact hlast
    · exact hunopened i hi
  · rw [hp]
    have houter : ∀ j ∈ outer, j ∈ p.opened := by simp_all
    exact ⟨fun j hj => hopened j (houter j hj), hunopened, fun i hi j hj => h.lt i hi j (houter j hj)⟩
  · rw [hp]
    exact ⟨hopened, hunopened, h.lt⟩

theorem Of.reading {t : Text} {p : Pairing} (h : Of t p) (u : Text) : Of (t ++ u) (p.reading t.length u) := by
  induction u generalizing t p with
  | nil => simpa [Pairing.reading] using h
  | cons c u ih =>
    have hrest := ih (h.next c)
    rw [List.length_append, List.append_assoc] at hrest
    exact hrest

private theorem of_ofText (t : Text) : Of t (ofText t) := by
  have hnone : Of [] none := ⟨by simp [none], by simp [none], by simp [none]⟩
  exact hnone.reading t

end Pairing

namespace Template

/-- A template that is not refused as nested is refused for the numbers of its braces only. -/
private theorem validate_of_ne_nestedBlock {t : Text} (h : validate t ≠ .error .nestedBlock) :
    validate t =
      if t.count '\x7b' ≠ t.count '\x7d' then .error (.unbalancedBlocks (t.count '\x7b') (t.count '\x7d'))
      else .ok () := by
  have hnested : ¬ hasNestedBlock t = true := fun hn => h (if_pos hn)
  exact if_neg hnested

/-- Templates that are not refused as nested, by their braces without a partner: `validate` refuses those in which the
opening and the closing ones among these differ in number.  Where as many of the one as of the other are left the
template is accepted, so that a brace without a partner is refused unless it is balanced by one of the other kind. -/
theorem validate_pairing {t : Text} (h : validate t ≠ .error .nestedBlock) :
    (validate t = .error (.unbalancedBlocks (t.count '\x7b') (t.count '\x7d')) ↔
        (Pairing.ofText t).opened.length ≠ (Pairing.ofText t).unopened.length) ∧
      (validate t = .ok () ↔ (Pairing.ofText t).opened.length = (Pairing.ofText t).unopened.length) ∧
      Pairing.Of t (Pairing.ofText t) ∧
      (((∃ opened closed, validate t = .error (.unbalancedBlocks opened closed)) ↔ Pairing.ofText t ≠ .none) ↔
        ((Pairing.ofText t).opened.length = (Pairing.ofText t).unopened.length → Matched t)) := by
  have hvalidate := validate_of_ne_nestedBlock h
  have hcount := Pairing.ofText_count t
  have hof := Pairing.of_ofText t
  by_cases hlength : (Pairing.ofText t).opened.length = (Pairing.ofText t).unopened.length
  · have heq : t.count '\x7b' = t.count '\x7d' := by omega
    have hok : validate t = .ok () := by rw [hvalidate, if_neg (not_not.2 heq)]
    refine ⟨by simp [hok, hlength], by simp [hok, hlength], hof, ?_⟩
    -- nothing is refused here, as is right where no brace is left
    rw [← Pairing.ofText_eq_none_iff]
    simp [hok, hlength]
  · have hne : t.count '\x7b' ≠ t.count '\x7d' := by omega
    have herror : validate t = .error (.unbalancedBlocks (t.count '\x7b') (t.count '\x7d')) := by
      rw [hvalidate, if_pos hne]
    have hleft : Pairing.ofText t ≠ .none := by
      intro hp
      rw [hp] at hlength
      exact hlength rfl
    refine ⟨by simp [herror, hlength], by simp [herror, hlength], hof, ?_⟩
    simp [herror, hlength, hleft]

/-- Three closing braces and two opening ones find no partner. -/
theorem validate_pairing_unequal : validate "\x7d\x7b\x7d\x7da\x7d\x7b\x7b".toList ≠ .error .nestedBlock ∧
    validate "\x7d\x7b\x7d\x7da\x7d\x7b\x7b".toList = .error (.unbalancedBlocks 3 4) := by
  have h : validate "\x7d\x7b\x7d\x7da\x7d\x7b\x7b".toList ≠ .error .nestedBlock := by decide
  exact ⟨h, (validate_pairing h).1.2 (by decide)⟩

/-- A closing brace in front of an opening one: neither has a partner, and the template is accepted. -/
theorem validate_close_open :
    Pairing.ofText "\x7d\x7b".toList = ⟨[1], [0]⟩ ∧ validate "\x7d\x7b".toList = .ok () := by
  decide

end Template

end SqlTemplate
