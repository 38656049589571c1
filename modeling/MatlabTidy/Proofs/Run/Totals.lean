import MatlabTidy.Proofs.Run.Lines
import Mathlib.Algebra.BigOperators.Ring.Finset
import Mathlib.Algebra.Order.BigOperators.Group.List
import Mathlib.Algebra.Order.Group.Nat

/-!
# The totals of a file

What a scan that asks nobody counts on the lines of a file. Each offence against a spacing rule is fixed
if the scan fixes, and no other (`Scan.fixes_totalFrom`). On lines that all rules have repaired nothing is
counted for the spacing rules (`Scan.totalFrom_tidiedFrom`), and no more is counted in all than on the
lines before (`Scan.errors_tidiedFrom_le`): a line that a repair made too long had an offence before.
-/

namespace MatlabTidy.Scan

open Rule (table)

section Report

variable {rules : List Rule} (name : String) (counts : List Count) (assessment : Assessment)

theorem totalErrors_report :
    (report name rules counts assessment).totalErrors = ((counts.map Count.errors).sum : Nat) := by
  rw [Nat.cast_list_sum, List.map_map]
  rfl

theorem totalFixes_report :
    (report name rules counts assessment).totalFixes = ((counts.map Count.fixes).sum : Nat) := by
  rw [Nat.cast_list_sum, List.map_map]
  rfl

end Report

/-- The number of offences against all rules. -/
def offencesOn (number : Nat) (line : Text.Line) : Nat :=
  (table.map fun rule => (Line.countOf false number line rule).errors).sum

/-- The number of offences on the lines from the given number on. -/
def offencesFrom (number : Nat) (lines : List Text.Line) : Nat :=
  (table.map fun rule => (totalFrom false rule number lines).errors).sum

section Counts

variable (fix : Bool) (rule : Rule) (number : Nat) (line : Text.Line)

theorem errors_countOf : (Line.countOf fix number line rule).errors =
    (Line.countOf false number line rule).errors := by
  unfold Line.countOf
  split <;> rfl

/-- Offences against spacing rules are fixed, and no others. -/
theorem fixes_countOf : (Line.countOf fix number line rule).fixes =
    if fix && rule.isSpacing then (Line.countOf fix number line rule).errors else 0 := by
  unfold Line.countOf
  split
  · rfl
  · simp [Count.zero]

/-- A spacing rule finds nothing on a line that all rules have repaired. -/
theorem countOf_tidied (s : Spacing) :
    Line.countOf fix number (Line.tidied (fun _ => true) number line) (.spacing s.rule) = .zero := by
  unfold Line.countOf
  rw [Line.body_tidied, Line.isChecked_repaired]
  split
  · rename_i checked
    have none := Line.columns_tidied checked s
    rw [Line.body_tidied] at none
    simp [Rule.countOn, Rule.columnsOn, none, Count.zero]
  · rfl

/-- No line rule counts a line twice. -/
theorem errors_countOf_line_le (rule : LineRule) :
    (Line.countOf fix number line (.line rule)).errors ≤ 1 := by
  unfold Line.countOf
  split
  · rw [Rule.countOn, Rule.columnsOn]
    split <;> simp
  · exact Nat.zero_le 1

theorem countOf_le_offencesOn (mem : rule ∈ table) :
    (Line.countOf false number line rule).errors ≤ offencesOn number line :=
  List.single_le_sum (fun _ _ => Nat.zero_le _) _ (List.mem_map_of_mem mem)

end Counts

/-- A line that a repair made too long had an offence before. -/
theorem errors_tidied_le (number : Nat) (line : Text.Line) :
    (Line.countOf false number (Line.tidied (fun _ => true) number line) (.line (tooLong lineLimit))).errors ≤
      offencesOn number line := by
  by_cases same : Line.tidied (fun _ => true) number line = line
  · rw [same]
    exact countOf_le_offencesOn _ number line (Rule.mem_table.2 (.inl rfl))
  · obtain ⟨s, checked, found⟩ : ∃ s : Spacing, Line.isChecked (Line.body number line) = true ∧
        s.rule.columns (Line.body number line) ≠ [] := by
      by_contra none
      apply same
      rw [Line.tidied, Line.repaired]
      split
      · rename_i checked
        have quiet : ∀ s : Spacing, s.rule.columns (Line.body number line) = [] := by
          intro s
          by_contra found
          exact none ⟨s, checked, found⟩
        rw [Spacing.respaced_eq_self _ quiet, Line.mark_append_body]
      · rw [Line.mark_append_body]
    have positive : 1 ≤ (Line.countOf false number line (.spacing s.rule)).errors := by
      rw [Line.countOf, if_pos checked, Rule.countOn, Rule.columnsOn]
      exact List.length_pos_of_ne_nil found
    have counted := countOf_le_offencesOn _ number line (Rule.spacing_mem_table s)
    have single := errors_countOf_line_le false number (Line.tidied (fun _ => true) number line)
      (tooLong lineLimit)
    omega

section Totals

variable (fix : Bool) (rule : Rule) (number : Nat) (lines : List Text.Line)

theorem errors_totalFrom : (totalFrom fix rule number lines).errors =
    (totalFrom false rule number lines).errors := by
  induction lines generalizing number with
  | nil => rfl
  | cons line lines ih =>
    rw [totalFrom, totalFrom, Count.add, Count.add, errors_countOf, ih]

/-- Offences against spacing rules are fixed, and no others. -/
theorem fixes_totalFrom : (totalFrom fix rule number lines).fixes =
    if fix && rule.isSpacing then (totalFrom fix rule number lines).errors else 0 := by
  induction lines generalizing number with
  | nil => simp [totalFrom, Count.zero]
  | cons line lines ih =>
    rw [totalFrom, Count.add, fixes_countOf, ih]
    split <;> rfl

/-- On repaired lines nothing is counted for a spacing rule. -/
theorem totalFrom_tidiedFrom (s : Spacing) :
    totalFrom fix (.spacing s.rule) number (tidiedFrom (fun _ => true) number lines) = .zero := by
  induction lines generalizing number with
  | nil => rfl
  | cons line lines ih =>
    rw [tidiedFrom, totalFrom, countOf_tidied, ih]
    rfl

theorem offencesFrom_cons (line : Text.Line) :
    offencesFrom number (line :: lines) = offencesOn number line + offencesFrom (number + 1) lines := by
  unfold offencesFrom offencesOn
  rw [← List.sum_map_add]
  rfl

/-- No more is counted on repaired lines than on the lines before. -/
theorem errors_tidiedFrom_le :
    (totalFrom fix (.line (tooLong lineLimit)) number (tidiedFrom (fun _ => true) number lines)).errors ≤
      offencesFrom number lines := by
  rw [errors_totalFrom]
  induction lines generalizing number with
  | nil => exact Nat.zero_le _
  | cons line lines ih =>
    have here := errors_tidied_le number line
    have there := ih (number + 1)
    rw [offencesFrom_cons]
    exact Nat.add_le_add here there

end Totals

end MatlabTidy.Scan
