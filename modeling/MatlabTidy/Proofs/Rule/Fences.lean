import MatlabTidy.Proofs.Rule.Respaced

/-!
# Repairs on either side of a fence

A fence is a character that no spacing rule has to do with: no rule objects to the gap behind it, and no
wide gap ends at it. The sign of a comment and the quote are fences. What the rules do in front of a
fence is settled when they reach it (`Spacing.offends_append`), and what they do behind it does not depend
on what stood in front, so a line is repaired on either side of a fence by itself
(`exists_respaced_append`).
-/

namespace MatlabTidy

open Text (isBlank Cell cells join indent solids)

/-- A character that is of no concern to the spacing rules, neither in front of a gap nor behind a wide one. -/
structure Fence (d : Char) : Prop where
  solid : isBlank d = false
  endsOperand : endsOperand d = false
  isOperator : isOperator d = false
  comma : d ≠ ','
  opensGap : opensGap d = false
  closesGap : closesGap d = false

theorem Fence.percent : Fence '%' :=
  ⟨by decide, by decide, by decide, by decide, by decide, by decide⟩

theorem Fence.quote : Fence '\'' :=
  ⟨by decide, by decide, by decide, by decide, by decide, by decide⟩

/-- A fence that is not among the characters of a text is not brought in with blanks. -/
theorem Fence.not_mem {d : Char} (fence : Fence d) {text text' : List Char} (kept : solids text' = solids text)
    (none : d ∉ text) : d ∉ text' := by
  rwa [← Text.mem_solids fence.solid, kept, Text.mem_solids fence.solid]

namespace Spacing

variable (s : Spacing) (on : Spacing → Bool)

/-- No rule objects to the gap behind a fence. -/
theorem offends_fence {x : Cell} (fence : Fence x.char) (rest : List Cell) : s.offends x rest = false := by
  by_contra h
  rw [Bool.not_eq_false] at h
  cases s with
  | operatorStart =>
    have ends := (touches_eq_true h).2.1
    rw [fence.endsOperand] at ends
    cases ends
  | operatorEnd =>
    have operator := (touches_eq_true h).2.1
    rw [fence.isOperator] at operator
    cases operator
  | commaEnd =>
    have touching : touches (· = ',') beginsOperand x rest = true := h
    exact fence.comma (of_decide_eq_true (touches_eq_true touching).2.1)
  | wideGap =>
    have gaping : gapes x rest = true := h
    rw [Pattern.gapes_eq, fence.opensGap, Bool.and_false, Bool.false_and] at gaping
    cases gaping

/-- A rule sees no further than to a character that ends no wide gap. -/
theorem offends_append (x : Cell) (xs : List Cell) {y z : Cell} (same : y.char = z.char)
    (shut : closesGap y.char = false) (ys zs : List Cell) :
    s.offends x (xs ++ y :: ys) = s.offends x (xs ++ z :: zs) := by
  have other : closesGap z.char = false := same ▸ shut
  cases xs with
  | nil =>
    rcases s.misses_or_gapes with ⟨left, right, hs, -⟩ | hs <;> rw [hs, List.nil_append, List.nil_append]
    · rw [touches_cons, touches_cons, same]
    · simp [gapes, shut, other]
  | cons w xs =>
    -- The rule on wide gaps looks at the character behind `w`, and this is at most the fence.
    have behind : (w.gap ++ join (xs ++ y :: ys)).head? = (w.gap ++ join (xs ++ z :: zs)).head? := by
      rw [List.head?_append, List.head?_append]
      cases xs with
      | nil => simp [same]
      | cons v xs => simp
    rcases s.misses_or_gapes with ⟨left, right, hs, -⟩ | hs <;> rw [hs, List.cons_append, List.cons_append]
    · rw [touches_cons, touches_cons]
    · rw [gapes, gapes, behind]

/-- The cells in front of a fence are respaced as if the line ended at the fence, and the cells behind it
as if the line began there. -/
theorem join_respace_append {x : Cell} (fence : Fence x.char) (xs rest : List Cell) :
    join (respace (anyOf on) (xs ++ x :: rest)) =
      join (respace (anyOf on) (xs ++ [x.bare])) ++ (x.gap ++ join (respace (anyOf on) rest)) := by
  induction xs with
  | nil =>
    have quiet : anyOf on x rest = false := by simp [anyOf, fun s => offends_fence s fence rest]
    simp [respace_cons, quiet]
  | cons y xs ih =>
    have same : anyOf on y (xs ++ x :: rest) = anyOf on y (xs ++ [x.bare]) := by
      have each := fun s => offends_append s y xs (show x.char = x.bare.char from rfl) fence.closesGap rest []
      simp only [anyOf, each]
    rw [List.cons_append, respace_cons, Text.join_cons, ih, same, List.cons_append, respace_cons, Text.join_cons,
      List.cons_append, List.append_assoc]

end Spacing

section Line

variable {d : Char} (on : Spacing → Bool) (front back : List Char)

@[simp] theorem respaced_nil : respaced on [] = [] := rfl

theorem solids_respaced (line : List Char) : solids (respaced on line) = solids line :=
  (Text.Respaced.of_rules on line).solids

/-- A line is repaired up to a fence, and behind it. -/
theorem respaced_append (fence : Fence d) :
    respaced on (front ++ d :: back) = respaced on (front ++ [d]) ++ respaced on back := by
  have cut := Spacing.join_respace_append on (x := ⟨d, indent back, fence.solid, fun _ => Text.mem_indent⟩) fence
    (cells front) (cells back)
  rw [respaced, respaced, respaced, Text.cells_append_solid fence.solid, Text.cells_append_solid fence.solid,
    Text.indent_append_solid fence.solid, Text.indent_append_solid fence.solid, Text.cells_cons_solid fence.solid back,
    Text.cells_cons_solid fence.solid [], cut, ← List.append_assoc]
  rfl

/-- What is repaired in front of a fence at the end of a line keeps its characters. -/
theorem exists_respaced_concat (fence : Fence d) :
    ∃ front', respaced on (front ++ [d]) = front' ++ [d] ∧ solids front' = solids front := by
  have last : (respace (Spacing.anyOf on) (cells (front ++ [d]))).getLast? =
      some ⟨d, indent [], fence.solid, fun _ => Text.mem_indent⟩ := by
    rw [getLast?_respace, Text.cells_append_solid fence.solid, Text.cells_cons_solid fence.solid]
    exact List.getLast?_concat
  obtain ⟨ys, ends⟩ := List.getLast?_eq_some_iff.1 last
  have split : respaced on (front ++ [d]) = (indent (front ++ [d]) ++ join ys) ++ [d] := by
    rw [respaced, ends, join, List.flatMap_append, List.append_assoc]
    rfl
  have kept := solids_respaced on (front ++ [d])
  rw [split, Text.solids_append, Text.solids_append front] at kept
  exact ⟨_, split, List.append_cancel_right kept⟩

/-- A line is repaired on either side of a fence by itself. -/
theorem exists_respaced_append (fence : Fence d) :
    ∃ front', solids front' = solids front ∧
      ∀ back, respaced on (front ++ d :: back) = front' ++ d :: respaced on back := by
  obtain ⟨front', split, kept⟩ := exists_respaced_concat on front fence
  refine ⟨front', kept, fun back => ?_⟩
  rw [respaced_append on front back fence, split, List.append_assoc, List.singleton_append]

/-- A line stays as it is under all repairs exactly if no rule finds anything on it. -/
theorem respaced_eq_self_iff (line : List Char) :
    respaced (fun _ => true) line = line ↔ ∀ s : Spacing, s.rule.columns line = [] := by
  refine ⟨fun same s => List.eq_nil_of_length_eq_zero ?_, Spacing.respaced_eq_self _⟩
  rw [← same, Spacing.length_columns_respaced, if_pos rfl]

end Line

end MatlabTidy
