import MatlabTidy.Proofs.Rule.Gaps

/-!
# Non-interference of the spacing rules

No gap is the concern of two rules (`Spacing.offends_unique`), a single space is the concern of none
(`Spacing.offends_spaced`), and respacing some gaps does not change what the rules think of the
others (`Spacing.offends_respace`). So a line that was repaired by some of the rules, in whatever
order, is described by the set of these rules alone: it is `respaced` by the set. The repair of one
more rule adds it to the set (`Spacing.fix_respaced`), and a rule still finds on the line what it
found at first, or nothing if it belongs to the set (`Spacing.length_columns_respaced`).
-/

namespace MatlabTidy

open Text (isBlank Cell cells join indent)

namespace Spacing

/-- All spacing rules, in the order of the table. -/
def all : List Spacing := [.operatorStart, .operatorEnd, .commaEnd, .wideGap]

theorem mem_all (s : Spacing) : s ∈ all := by
  cases s <;> decide

/-- The objections of the rules of a set. -/
def anyOf (on : Spacing → Bool) : Offence := fun x rest => all.any fun s => on s && s.offends x rest

theorem anyOf_eq_true {on : Spacing → Bool} {x : Cell} {rest : List Cell} :
    anyOf on x rest = true ↔ ∃ s, on s = true ∧ s.offends x rest = true := by
  simp [anyOf, mem_all]

/-- What a rule that misses a space sees. -/
theorem touches_eq_true {left right : Char → Bool} {x : Cell} {rest : List Cell}
    (h : touches left right x rest = true) :
    x.gap = [] ∧ left x.char = true ∧ ∃ y tail, rest = y :: tail ∧ right y.char = true := by
  cases rest with
  | nil => exact Bool.noConfusion h
  | cons y tail =>
    simp only [touches_cons, Bool.and_eq_true, List.isEmpty_iff] at h
    exact ⟨h.1.1, h.1.2, y, tail, rfl, h.2⟩

/-- What the rule on wide gaps sees. -/
theorem gapes_eq_true {x : Cell} {rest : List Cell} (h : gapes x rest = true) :
    2 ≤ x.gap.length ∧ rest ≠ [] := by
  cases rest with
  | nil => exact Bool.noConfusion h
  | cons y tail =>
    simp only [gapes, Bool.and_eq_true, decide_eq_true_eq] at h
    exact ⟨h.1.1.1, List.cons_ne_nil _ _⟩

/-- A rule misses a space, and then not before a comment, or it is the rule on wide gaps. -/
theorem misses_or_gapes (s : Spacing) :
    (∃ left right, s.offends = touches left right ∧ ∀ c, right c = true → c ≠ '%') ∨
      s.offends = gapes := by
  cases s with
  | operatorStart => exact .inl ⟨_, _, rfl, fun _ => ne_percent_of_isSignedOperator⟩
  | operatorEnd => exact .inl ⟨_, _, rfl, fun _ => ne_percent_of_beginsOperand⟩
  | commaEnd => exact .inl ⟨(· = ','), beginsOperand, rfl, fun _ => ne_percent_of_beginsOperand⟩
  | wideGap => exact .inr rfl

/-- Rules about missing spaces see empty gaps, and the kind of the character tells them apart. -/
theorem offends_unique {s t : Spacing} {x : Cell} {rest : List Cell} (hs : s.offends x rest = true)
    (ht : t.offends x rest = true) : s = t := by
  have empty_or_wide : ∀ u : Spacing, u.offends x rest = true →
      (u = .operatorStart ∧ x.gap = [] ∧ endsOperand x.char = true) ∨
      (u = .operatorEnd ∧ x.gap = [] ∧ isOperator x.char = true) ∨
      (u = .commaEnd ∧ x.gap = [] ∧ x.char = ',') ∨ (u = .wideGap ∧ 2 ≤ x.gap.length) := by
    intro u hu
    cases u with
    | operatorStart =>
      obtain ⟨gap, char, -⟩ := touches_eq_true hu
      exact .inl ⟨rfl, gap, char⟩
    | operatorEnd =>
      obtain ⟨gap, char, -⟩ := touches_eq_true hu
      exact .inr (.inl ⟨rfl, gap, char⟩)
    | commaEnd =>
      have touching : touches (· = ',') beginsOperand x rest = true := hu
      obtain ⟨gap, char, -⟩ := touches_eq_true touching
      exact .inr (.inr (.inl ⟨rfl, gap, of_decide_eq_true char⟩))
    | wideGap => exact .inr (.inr (.inr ⟨rfl, (gapes_eq_true hu).1⟩))
  have operator : isOperator x.char = true → endsOperand x.char = false := fun h =>
    endsOperand_of_isSignedOperator (isSignedOperator_of_isOperator h)
  have comma : x.char = ',' → endsOperand x.char = false ∧ isOperator x.char = false := by
    intro h
    rw [h]
    decide
  rcases empty_or_wide s hs with ⟨rfl, h⟩ | ⟨rfl, h⟩ | ⟨rfl, h⟩ | ⟨rfl, h⟩ <;>
    rcases empty_or_wide t ht with ⟨rfl, k⟩ | ⟨rfl, k⟩ | ⟨rfl, k⟩ | ⟨rfl, k⟩ <;> simp_all

/-- No rule objects to a single space. -/
@[simp] theorem offends_spaced (s : Spacing) (x : Cell) (rest : List Cell) :
    s.offends x.spaced rest = false := by
  by_contra h
  rw [Bool.not_eq_false] at h
  rcases s.misses_or_gapes with ⟨left, right, hs, -⟩ | hs <;> rw [hs] at h
  · exact List.cons_ne_nil _ _ (touches_eq_true h).1
  · exact absurd (gapes_eq_true h).1 (by simp)

/-- No rule objects to the blanks at the end of a line. -/
@[simp] theorem offends_last (s : Spacing) (x : Cell) : s.offends x [] = false := by
  cases s <;> rfl

@[simp] theorem anyOf_spaced (on : Spacing → Bool) (x : Cell) (rest : List Cell) :
    anyOf on x.spaced rest = false := by
  simp [anyOf]

@[simp] theorem anyOf_last (on : Spacing → Bool) (x : Cell) : anyOf on x [] = false := by
  simp [anyOf]

section Respace

variable (on : Spacing → Bool)

/-- Respacing keeps the first character of the cells. -/
theorem head?_join_respace (xs : List Cell) :
    (join (respace (anyOf on) xs)).head? = (join xs).head? := by
  cases xs with
  | nil => rfl
  | cons x xs =>
    rw [respace_cons, Text.join_cons, Text.join_cons]
    split <;> rfl

/-- Whether a comment follows right behind a character is not changed by respacing: a gap stays a
gap, and the gaps that are opened do not stand before a comment. -/
theorem percent_follows_respace (x : Cell) (xs : List Cell) :
    ((if anyOf on x xs then x.spaced else x).gap ++ join (respace (anyOf on) xs)).head?.any (· ≠ '%') =
      (x.gap ++ join xs).head?.any (· ≠ '%') := by
  have of_gap : ∀ (y : Cell) (text : List Char), y.gap ≠ [] →
      (y.gap ++ text).head?.any (· ≠ '%') = true := by
    intro y text ne
    obtain ⟨g, gap, hg⟩ := List.exists_cons_of_ne_nil ne
    have hne := Text.ne_of_isBlank (y.blank g (by simp [hg])) (by decide : isBlank '%' = false)
    simp [hg, hne]
  by_cases opened : anyOf on x xs = true
  · rw [if_pos opened, of_gap x.spaced _ (List.cons_ne_nil _ _)]
    by_cases empty : x.gap = []
    · obtain ⟨s, -, hs⟩ := anyOf_eq_true.1 opened
      rcases s.misses_or_gapes with ⟨left, right, misses, ne⟩ | wide
      · rw [misses] at hs
        obtain ⟨-, -, y, tail, rfl, hy⟩ := touches_eq_true hs
        simp [empty, ne y.char hy]
      · rw [wide] at hs
        exact absurd (gapes_eq_true hs).1 (by simp [empty])
    · exact (of_gap x _ empty).symm
  · rw [if_neg opened]
    by_cases empty : x.gap = []
    · rw [empty, List.nil_append, List.nil_append, head?_join_respace]
    · rw [of_gap x _ empty, of_gap x _ empty]

/-- Respacing what stands behind a gap does not change what a rule thinks of the gap. -/
theorem offends_respace (s : Spacing) (x : Cell) (xs : List Cell) :
    s.offends x (respace (anyOf on) xs) = s.offends x xs := by
  cases xs with
  | nil => rfl
  | cons y xs =>
    have first : (if anyOf on y xs then y.spaced else y).char = y.char := by
      split <;> rfl
    rw [respace_cons]
    rcases s.misses_or_gapes with ⟨left, right, hs, -⟩ | hs <;> rw [hs]
    · rw [touches_cons, touches_cons, first]
    · rw [gapes, gapes, first, percent_follows_respace]

theorem anyOf_respace (also : Spacing → Bool) (x : Cell) (xs : List Cell) :
    anyOf also x (respace (anyOf on) xs) = anyOf also x xs := by
  simp [anyOf, offends_respace]

/-- Two rounds of respacing are one round by both sets of rules. -/
theorem respace_respace (also : Spacing → Bool) (xs : List Cell) :
    respace (anyOf also) (respace (anyOf on) xs) = respace (anyOf fun s => on s || also s) xs := by
  induction xs with
  | nil => rfl
  | cons x xs ih =>
    have union : anyOf (fun s => on s || also s) x xs = (anyOf on x xs || anyOf also x xs) := by
      rw [Bool.eq_iff_iff, Bool.or_eq_true, anyOf_eq_true, anyOf_eq_true, anyOf_eq_true]
      simp only [Bool.or_eq_true, or_and_right, exists_or]
    rw [respace_cons, respace_cons, respace_cons, ih, anyOf_respace, union]
    by_cases h : anyOf on x xs = true
    · simp [h]
    · simp [h]

/-- A rule of the set has nothing left to object to, and the others object to what they did. -/
theorem offences_respace (s : Spacing) (xs : List Cell) :
    offences s.offends (respace (anyOf on) xs) = if on s then 0 else offences s.offends xs := by
  induction xs with
  | nil => simp [offences]
  | cons x xs ih =>
    have here : s.offends (if anyOf on x xs then x.spaced else x) (respace (anyOf on) xs) =
        (!on s && s.offends x xs) := by
      rw [offends_respace]
      by_cases h : anyOf on x xs = true
      · rw [if_pos h, offends_spaced]
        obtain ⟨t, ht, hx⟩ := anyOf_eq_true.1 h
        by_cases hs : s.offends x xs = true
        · simp [offends_unique hs hx, ht]
        · simp [hs]
      · rw [if_neg h]
        by_cases hs : on s = true
        · have quiet : s.offends x xs = false := by
            by_contra hx
            exact h (anyOf_eq_true.2 ⟨s, hs, by simpa using hx⟩)
          simp [quiet]
        · simp [hs]
    rw [respace_cons, offences, offences, here, ih]
    by_cases hs : on s = true
    · simp [hs]
    · simp [hs]

end Respace

end Spacing

end MatlabTidy
