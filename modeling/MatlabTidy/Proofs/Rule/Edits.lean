import MatlabTidy.Proofs.Rule.Respaced
import MatlabTidy.Proofs.Run.Turn

/-!
# Fixes as edits at the reported columns

A fix rewrites a line in one go, the columns are reported on their own. Here the fix is taken apart:
`Spacing.edited` puts a single space at the place that belongs to each reported column and changes
nothing else, and `Spacing.fix_eq_edited` says that this is the line that the fix makes. The edits are
made from the last column to the first, so that none of them moves the place of another one.

Since each edit changes the line, a fix that finds something is always made, and the rule finds
nothing on the line that it made (`Spacing.applyFix_edited`).
-/

namespace MatlabTidy

open Text (isBlank)

/-- A space behind the first `kept` characters of a line, where `taken` characters make room for it. -/
def putSpace (kept taken : Nat) (line : List Char) : List Char :=
  line.take kept ++ ' ' :: line.drop (kept + taken)

theorem putSpace_append (front run back : List Char) :
    putSpace front.length run.length (front ++ (run ++ back)) = front ++ ' ' :: back := by
  simp [putSpace, List.drop_append]

theorem putSpace_append_zero (front back : List Char) :
    putSpace front.length 0 (front ++ back) = front ++ ' ' :: back :=
  putSpace_append front [] back

namespace Spacing

/-- How many characters of the line stay in front of the space that belongs to a column, and how many
make room for it. -/
def place (s : Spacing) (line : List Char) (column : Nat) : Nat × Nat :=
  match s with
  | .operatorStart => (column - 1, 0)
  | .operatorEnd => (column - 1 + ((line.drop (column - 1)).takeWhile isOperator).length, 0)
  | .commaEnd => (column, 0)
  | .wideGap => (column - 1, ((line.drop (column - 1)).takeWhile isBlank).length)

/-- The line with a space at the place of each of the columns. -/
def edited (s : Spacing) (line : List Char) (columns : Columns) : List Char :=
  columns.foldr (fun column later => putSpace (s.place line column.toNat).1 (s.place line column.toNat).2 later) line

/-- The place of a match is where its repair differs from it. -/
theorem putSpace_place (s : Spacing) {before : Option Char} {run rest : List Char}
    (found : s.rule.pattern.matchAt before (run ++ rest) = some run) (front later : List Char) :
    putSpace (s.place (front ++ (run ++ rest)) (front.length + 1)).1 (s.place (front ++ (run ++ rest)) (front.length + 1)).2
      (front ++ (run ++ later)) = front ++ (s.rule.repair.apply run ++ later) := by
  obtain ⟨-, hrun, long, -⟩ := Pattern.matchAt_eq_some.1 found
  cases s with
  | operatorStart =>
    have here := putSpace_append_zero front (run ++ later)
    simpa [place, rule, MatlabTidy.operatorStart, Repair.apply] using here
  | operatorEnd =>
    have whole : (run ++ rest).takeWhile isOperator = run := hrun
    have here := putSpace_append_zero (front ++ run) later
    simpa [place, rule, MatlabTidy.operatorEnd, Repair.apply, whole] using here
  | commaEnd =>
    have single : run.length = 1 := by
      have short : run.length ≤ 1 := hrun ▸ Pattern.length_run_le rfl (run ++ rest)
      exact Nat.le_antisymm short long
    have here := putSpace_append_zero (front ++ run) later
    simpa [place, rule, MatlabTidy.commaEnd, Repair.apply, single] using here
  | wideGap =>
    have whole : (run ++ rest).takeWhile isBlank = run := hrun
    have here := putSpace_append front run later
    simpa [place, rule, MatlabTidy.wideGap, Repair.apply, whole] using here

/-- The edits at the columns of the rest of a line leave what stands before it. The induction follows the
pieces of the rest, and what has been passed is added to `front`. -/
theorem edited_append (s : Spacing) (before : Option Char) (text : List Char) : ∀ front,
    s.edited (front ++ text)
        ((Piece.columns (front.length + 1) (s.rule.pattern.piecesAfter before text)).map Int.ofNat) =
      front ++ Piece.replace s.rule.repair.apply (s.rule.pattern.piecesAfter before text) := by
  induction before, text using Pattern.pieces_induction s.least_pos with
  | nil before =>
    intro front
    simp [edited, Piece.columns]
  | plain before c rest none ih =>
    intro front
    have later := ih (front ++ [c])
    rw [Pattern.piecesAfter_plain none, Piece.columns, Piece.replace_plain]
    simpa using later
  | hit before run rest found ne ih =>
    intro front
    have later := ih (front ++ run)
    have start : front.length + 1 + run.length = (front ++ run).length + 1 := by
      rw [List.length_append]
      omega
    rw [List.append_assoc, List.append_assoc] at later
    rw [Pattern.piecesAfter_hit found ne, Piece.columns, Piece.replace_hit, start, ← s.putSpace_place found, ← later]
    rfl

/-- The fix of a rule edits the line at the reported columns and nowhere else. -/
theorem fix_eq_edited (s : Spacing) (line : List Char) : s.rule.fix line = s.edited line (s.rule.columns line) :=
  (s.edited_append none line []).symm

theorem columns_fix (s : Spacing) (line : List Char) : s.rule.columns (s.rule.fix line) = [] := by
  apply List.eq_nil_of_length_eq_zero
  rw [fix_eq_respaced, length_columns_respaced]
  simp

/-- A fix without questions gives the line with the edits at the columns that the rule reports on it. It is
made if the rule reports any, and on the line that it gives the rule reports none. -/
theorem applyFix_edited (s : Spacing) (line : List Char) (number : Int) (w : World) :
    ∃ columns result fixed, Rule.columns line (.spacing s.rule) = .ok columns ∧
      (Line.applyFix line (Rule.spacing s.rule) columns false number).run w = .ok (result, fixed) w ∧
      result = s.edited line columns ∧ (fixed = true ↔ columns ≠ []) ∧
      (columns ≠ [] → s.rule.fix line ≠ line) ∧ Rule.columns result (.spacing s.rule) = .ok [] := by
  have again : Rule.columns (s.rule.fix line) (.spacing s.rule) = .ok [] := congrArg Except.ok (s.columns_fix line)
  by_cases none : s.rule.columns line = []
  · have same : s.rule.fix line = line := (s.fix_eq_self_iff line).2 none
    rw [same] at again
    refine ⟨[], line, false, congrArg Except.ok none, rfl, rfl, by simp, by simp, again⟩
  · have changed : s.rule.fix line ≠ line := fun same => none ((s.fix_eq_self_iff line).1 same)
    refine ⟨s.rule.columns line, s.rule.fix line, true, rfl, ?_, s.fix_eq_edited line, by simp [none], fun _ => changed, again⟩
    simp [Line.applyFix_spacing, none, changed]

end Spacing

end MatlabTidy
