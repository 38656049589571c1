import MatlabTidy.Proofs.Rule.Interplay

/-!
# Lines repaired by a set of rules

`respaced on line` is the line after the repairs of the rules in the set `on`, in any order. The
repair of one more rule adds the rule to the set (`Spacing.fix_respaced`), and on the repaired line a
rule finds what it found at first, or nothing if it belongs to the set
(`Spacing.length_columns_respaced`). What the reader of a source cares about is kept
(`Text.Respaced.of_rules`), and a rule that is applied rewrites as many gaps as it reports columns
(`Spacing.rewritten_fix`).
-/

namespace MatlabTidy

open Text (isBlank Cell cells join indent)

/-- The line that the rules of a set have repaired. -/
def respaced (on : Spacing → Bool) (line : List Char) : List Char :=
  indent line ++ join (respace (Spacing.anyOf on) (cells line))

section Line

variable (on : Spacing → Bool) (line : List Char)

@[simp] theorem indent_respaced : indent (respaced on line) = indent line :=
  Text.indent_indent_append_join line _

@[simp] theorem cells_respaced :
    cells (respaced on line) = respace (Spacing.anyOf on) (cells line) :=
  Text.cells_indent_append_join line _

/-- The empty set of rules leaves every line as it is. -/
@[simp] theorem respaced_none : respaced (fun _ => false) line = line := by
  have quiet : ∀ xs : List Cell, respace (Spacing.anyOf fun _ => false) xs = xs := by
    intro xs
    induction xs with
    | nil => rfl
    | cons x xs ih => simp [respace_cons, Spacing.anyOf, ih]
  rw [respaced, quiet, Text.indent_append_join]

/-- Two rounds of repairs are one round by both sets of rules. -/
theorem respaced_respaced (also : Spacing → Bool) :
    respaced also (respaced on line) = respaced (fun s => on s || also s) line := by
  rw [respaced, indent_respaced, cells_respaced, Spacing.respace_respace, respaced]

/-- Repairs keep the first character of a line. -/
theorem head?_respaced : (respaced on line).head? = line.head? := by
  have whole := congrArg List.head? (Text.indent_append_join line)
  rw [List.head?_append] at whole
  rw [respaced, List.head?_append, Spacing.head?_join_respace, whole]

theorem respaced_eq_nil : respaced on line = [] ↔ line = [] := by
  rw [← List.head?_eq_none_iff, head?_respaced, List.head?_eq_none_iff]

/-- Repairs bring no character into a line but spaces. -/
theorem mem_respaced {c : Char} (h : c ∈ respaced on line) : c ∈ line ∨ c = ' ' := by
  have cells_mem : ∀ xs : List Cell, c ∈ join (respace (Spacing.anyOf on) xs) → c ∈ join xs ∨ c = ' ' := by
    intro xs mem
    induction xs with
    | nil => exact .inl mem
    | cons x xs ih =>
      rw [respace_cons] at mem
      split at mem
      · simp only [Text.join_cons, Cell.char_spaced, Cell.gap_spaced, List.mem_cons, List.mem_append,
          List.not_mem_nil, or_false] at mem ⊢
        rcases mem with mem | mem | mem
        · exact .inl (.inl mem)
        · exact .inr mem
        · exact (ih mem).imp (fun mem => .inr (.inr mem)) id
      · simp only [Text.join_cons, List.mem_cons, List.mem_append] at mem ⊢
        rcases mem with mem | mem | mem
        · exact .inl (.inl mem)
        · exact .inl (.inr (.inl mem))
        · exact (ih mem).imp (fun mem => .inr (.inr mem)) id
  rw [← Text.indent_append_join line]
  rcases List.mem_append.1 h with mem | mem
  · exact .inl (List.mem_append_left _ mem)
  · exact (cells_mem _ mem).imp (fun mem => List.mem_append_right _ mem) id

/-- Repaired lines are comments if the lines are. -/
theorem isCommentLine_respaced : isCommentLine (respaced on line) = isCommentLine line := by
  rw [isCommentLine, isCommentLine, Text.trimLeft_eq, Text.trimLeft_eq, cells_respaced,
    Spacing.head?_join_respace]

theorem map_char_respace (xs : List Cell) :
    (respace (Spacing.anyOf on) xs).map Cell.char = xs.map Cell.char := by
  induction xs with
  | nil => rfl
  | cons x xs ih =>
    rw [respace_cons, List.map_cons, List.map_cons, ih]
    split <;> rfl

/-- The last gap is no rule's concern. -/
theorem getLast?_respace (xs : List Cell) :
    (respace (Spacing.anyOf on) xs).getLast? = xs.getLast? := by
  induction xs with
  | nil => rfl
  | cons x xs ih =>
    cases xs with
    | nil => simp [respace_cons]
    | cons y ys =>
      rw [respace_cons, List.getLast?_cons_cons, ← ih]
      rw [respace_cons _ y, List.getLast?_cons_cons]

theorem getElem?_respace {xs : List Cell} {i : Nat} {x : Cell} (h : xs[i]? = some x) :
    (respace (Spacing.anyOf on) xs)[i]? = some x ∨
      (respace (Spacing.anyOf on) xs)[i]? = some x.spaced := by
  induction xs generalizing i with
  | nil => simp at h
  | cons y xs ih =>
    cases i with
    | zero =>
      obtain rfl : y = x := by simpa using h
      rw [respace_cons, List.getElem?_cons_zero]
      split
      · exact .inr rfl
      · exact .inl rfl
    | succ i => exact ih h

/-- What rules do to a line changes the widths of inner gaps only. -/
theorem Text.Respaced.of_rules : Text.Respaced line (respaced on line) where
  solids := by rw [solids_eq, solids_eq, cells_respaced, map_char_respace]
  indent := indent_respaced on line
  trailing := by rw [trailing_eq, trailing_eq, cells_respaced, getLast?_respace, indent_respaced]
  separated := by
    intro i gap h ne
    rw [gaps, List.getElem?_map, Option.map_eq_some_iff] at h
    obtain ⟨x, hx, rfl⟩ := h
    rw [gaps, cells_respaced, List.getElem?_map]
    rcases getElem?_respace on hx with kept | spaced
    · exact ⟨x.gap, by rw [kept]; rfl, ne⟩
    · exact ⟨[' '], by rw [spaced]; rfl, List.cons_ne_nil _ _⟩

end Line

namespace Spacing

section Rules

variable (on : Spacing → Bool) (s : Spacing) (line : List Char)

theorem anyOf_single : anyOf (fun t => decide (t = s)) = s.offends := by
  funext x rest
  rw [Bool.eq_iff_iff, anyOf_eq_true]
  constructor
  · rintro ⟨t, ht, h⟩
    rwa [← of_decide_eq_true ht]
  · intro h
    exact ⟨s, decide_eq_true rfl, h⟩

theorem fix_eq_respaced : s.rule.fix line = respaced (fun t => decide (t = s)) line := by
  rw [fix_eq, respaced, anyOf_single]

/-- The repair of one more rule adds the rule to the set. -/
theorem fix_respaced :
    s.rule.fix (respaced on line) = respaced (fun t => on t || decide (t = s)) line := by
  rw [fix_eq_respaced, respaced_respaced]

/-- On a repaired line a rule finds what it found at first, or nothing if the line was repaired by
it. -/
theorem length_columns_respaced :
    (s.rule.columns (respaced on line)).length = if on s then 0 else (s.rule.columns line).length := by
  rw [length_columns, cells_respaced, offences_respace, length_columns]

end Rules

section Fix

variable (s : Spacing)

theorem gap_ne_of_offends {x : Cell} {rest : List Cell} (h : s.offends x rest = true) :
    x.gap ≠ [' '] := by
  rcases s.misses_or_gapes with ⟨left, right, hs, -⟩ | hs <;> rw [hs] at h
  · rw [(touches_eq_true h).1]
    exact (List.cons_ne_nil _ _).symm
  · intro single
    exact absurd (gapes_eq_true h).1 (by simp [single])

/-- A rule rewrites exactly the gaps that it objects to. -/
theorem countP_zip_respace (xs : List Cell) :
    ((xs.map Cell.gap).zip ((respace s.offends xs).map Cell.gap)).countP
      (fun gap => decide (gap.1 ≠ gap.2)) = offences s.offends xs := by
  induction xs with
  | nil => rfl
  | cons x xs ih =>
    rw [respace_cons, List.map_cons, List.map_cons, List.zip_cons_cons, List.countP_cons, ih, offences]
    by_cases h : s.offends x xs = true
    · simp [h, s.gap_ne_of_offends h, Nat.add_comm]
    · simp [h]

/-- A repair rewrites as many gaps as the rule reports columns. -/
theorem rewritten_fix (line : List Char) :
    Text.rewritten line (s.rule.fix line) = (s.rule.columns line).length := by
  rw [Text.rewritten, Text.gaps, Text.gaps, fix_eq_respaced, cells_respaced, anyOf_single,
    countP_zip_respace, length_columns]

theorem rewritten_self (line : List Char) : Text.rewritten line line = 0 := by
  have same : ∀ gaps : List (List Char),
      (gaps.zip gaps).countP (fun gap => decide (gap.1 ≠ gap.2)) = 0 := by
    intro gaps
    induction gaps with
    | nil => rfl
    | cons gap gaps ih =>
      rw [List.zip_cons_cons, List.countP_cons, ih]
      simp
  exact same _

/-- Cells without an offence stay as they are. -/
theorem respace_eq_self {offends : Offence} {xs : List Cell} (none : offences offends xs = 0) :
    respace offends xs = xs := by
  induction xs with
  | nil => rfl
  | cons x xs ih =>
    rw [offences, Nat.add_eq_zero_iff] at none
    have here : ¬ offends x xs = true := by
      intro hx
      simp [hx] at none
    rw [respace_cons, if_neg here, ih none.2]

/-- A line is its own repair exactly if the rule finds nothing on it. -/
theorem fix_eq_self_iff (line : List Char) : s.rule.fix line = line ↔ s.rule.columns line = [] := by
  constructor
  · intro h
    have none := s.rewritten_fix line
    rw [h, rewritten_self] at none
    exact List.eq_nil_of_length_eq_zero none.symm
  · intro h
    have none : offences s.offends (cells line) = 0 := by
      rw [← length_columns, h, List.length_nil]
    rw [fix_eq, respace_eq_self none, Text.indent_append_join]

/-- A line on which no rule finds anything stays as it is. -/
theorem respaced_eq_self (on : Spacing → Bool) {line : List Char}
    (none : ∀ s : Spacing, s.rule.columns line = []) : respaced on line = line := by
  have quiet : ∀ xs : List Cell, (∀ s : Spacing, offences s.offends xs = 0) →
      offences (anyOf on) xs = 0 := by
    intro xs none
    induction xs with
    | nil => rfl
    | cons x xs ih =>
      have rest := ih fun s => (Nat.add_eq_zero_iff.1 (none s)).2
      have here : ¬ anyOf on x xs = true := by
        intro hx
        obtain ⟨s, -, hs⟩ := anyOf_eq_true.1 hx
        have zero := none s
        simp [offences, hs] at zero
      rw [offences, if_neg here, rest]
  have zero : offences (anyOf on) (cells line) = 0 := by
    refine quiet _ fun s => ?_
    rw [← length_columns, none s, List.length_nil]
  rw [respaced, respace_eq_self zero, Text.indent_append_join]

end Fix

end Spacing

end MatlabTidy
