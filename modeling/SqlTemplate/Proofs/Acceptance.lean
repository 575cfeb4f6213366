import SqlTemplate.Proofs.Nesting

/-!
# Accepted templates

What is accepted depends on the braces of a template alone, in their order.  A template is refused as nested where two
braces open and two close with none between (`HasNestedPair`), which is one word among its braces
(`hasNestedPair_iff`).  Any other template is refused, with the numbers of its braces, if the two kinds differ in
number, and accepted if not (`Template.validate_braces`).
-/

namespace SqlTemplate

/-- The first brace of a text, between the text in front of it and the text behind. -/
private theorem exists_of_braces_eq_cons {b : Char} {w t : Text} (h : braces t = b :: w) :
    ∃ gap rest, t = gap ++ b :: rest ∧ braces gap = [] ∧ braces rest = w := by
  obtain ⟨gap, rest, rfl, hgap, -, hrest⟩ := List.filter_eq_cons_iff.1 h
  have hnone : braces gap = [] := List.filter_eq_nil_iff.2 hgap
  exact ⟨gap, rest, rfl, hnone, hrest⟩

/-- A block with one more block in its body, and otherwise no brace between the four: any texts without braces may stand
there. -/
def HasNestedPair (t : Text) : Prop :=
  ∃ before first body last after,
    t = before ++ '\x7b' :: first ++ '\x7b' :: body ++ '\x7d' :: last ++ '\x7d' :: after ∧
      braces first = [] ∧ braces body = [] ∧ braces last = []

/-- The texts between the four braces do not count. -/
theorem hasNestedPair_iff (t : Text) : HasNestedPair t ↔ nestedPair <:+: braces t := by
  constructor
  · rintro ⟨before, first, body, last, after, rfl, hfirst, hbody, hlast⟩
    refine ⟨braces before, braces after, ?_⟩
    simp [nestedPair, isBrace, hfirst, hbody, hlast]
  · rintro ⟨left, right, hword⟩
    have hbraces : braces t = left ++ ('\x7b' :: '\x7b' :: '\x7d' :: '\x7d' :: right) := by
      rw [← hword, List.append_assoc]
      rfl
    -- the four braces are found one behind the other
    obtain ⟨before', t₀, rfl, -, h₀⟩ := List.filter_eq_append_iff.1 hbraces
    obtain ⟨gap, t₁, rfl, -, h₁⟩ := exists_of_braces_eq_cons h₀
    obtain ⟨first, t₂, rfl, hfirst, h₂⟩ := exists_of_braces_eq_cons h₁
    obtain ⟨body, t₃, rfl, hbody, h₃⟩ := exists_of_braces_eq_cons h₂
    obtain ⟨last, after, rfl, hlast, -⟩ := exists_of_braces_eq_cons h₃
    exact ⟨before' ++ gap, first, body, last, after, by simp, hfirst, hbody, hlast⟩

@[simp] private theorem count_braces {b : Char} (hb : isBrace b = true) (t : Text) : (braces t).count b = t.count b :=
  List.count_filter hb

namespace Template

/-- The outcomes of `validate`, the refusal as nested first. -/
theorem validate_cases (t : Text) :
    (nestedPair <:+: braces t ∧ validate t = .error .nestedBlock) ∨
    (¬ nestedPair <:+: braces t ∧ t.count '\x7b' ≠ t.count '\x7d' ∧
      validate t = .error (.unbalancedBlocks (t.count '\x7b') (t.count '\x7d'))) ∨
    (¬ nestedPair <:+: braces t ∧ t.count '\x7b' = t.count '\x7d' ∧ validate t = .ok ()) := by
  unfold validate
  rw [← hasNestedBlock_iff]
  by_cases hnested : hasNestedBlock t = true
  · simp [hnested]
  · by_cases hcount : t.count '\x7b' = t.count '\x7d'
    · simp [hnested, hcount]
    · simp [hnested, hcount]

theorem isValid_iff (t : Text) : isValid t = true ↔ validate t = .ok () := by
  unfold isValid
  cases validate t with
  | error e => exact iff_of_false Bool.false_ne_true nofun
  | ok u => exact iff_of_true rfl rfl

/-- A template is refused as nested exactly if its braces have the word of two opening and two closing ones in them,
whatever stands between the braces.  Without this word it is refused for the numbers of its braces, which the message
names, exactly if these differ, and accepted exactly if they do not. -/
theorem validate_braces (t : Text) :
    (HasNestedPair t ↔ nestedPair <:+: braces t) ∧
    (validate t = .error .nestedBlock ↔ nestedPair <:+: braces t) ∧
    (∀ opened closed, validate t = .error (.unbalancedBlocks opened closed) ↔
      ¬ nestedPair <:+: braces t ∧ opened ≠ closed ∧
        opened = (braces t).count '\x7b' ∧ closed = (braces t).count '\x7d') ∧
    (∀ opened closed, (TemplateError.unbalancedBlocks opened closed).message =
      "Conditional block must be closed: found " ++ toString opened ++ " '\x7b' and " ++ toString closed ++
        " '\x7d'.") ∧
    (validate t = .ok () ↔ ¬ nestedPair <:+: braces t ∧ (braces t).count '\x7b' = (braces t).count '\x7d') ∧
    (isValid t = true ↔ validate t = .ok ()) := by
  rw [count_braces rfl, count_braces rfl]
  refine ⟨hasNestedPair_iff t, ?_, ?_, fun _ _ => rfl, ?_, isValid_iff t⟩
  · rcases validate_cases t with ⟨hword, ht⟩ | ⟨hword, -, ht⟩ | ⟨hword, -, ht⟩
    all_goals simp [ht, hword]
  · intro opened closed
    rcases validate_cases t with ⟨hword, ht⟩ | ⟨hword, hne, ht⟩ | ⟨hword, heq, ht⟩
    · simp [ht, hword]
    · rw [ht, Except.error.injEq, TemplateError.unbalancedBlocks.injEq]
      constructor
      · rintro ⟨rfl, rfl⟩
        exact ⟨hword, hne, rfl, rfl⟩
      · rintro ⟨-, -, rfl, rfl⟩
        exact ⟨rfl, rfl⟩
    · rw [ht]
      refine iff_of_false nofun ?_
      rintro ⟨-, hne, rfl, rfl⟩
      exact hne heq
  · rcases validate_cases t with ⟨hword, ht⟩ | ⟨hword, hne, ht⟩ | ⟨hword, heq, ht⟩
    · simp [ht, hword]
    · simp [ht, hne]
    · simp [ht, hword, heq]

end Template

end SqlTemplate
