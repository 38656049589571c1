import MatlabTidy.Proofs.Rule.Respaced
import MatlabTidy.Proofs.Rule.Ruler

/-!
# Bounds of repairs and rulers

What holds of a spacing rule with any pattern: the pieces of a line are the line (`Pattern.flatMap_chars`), so a
repair brings in nothing but blanks (`SpacingRule.mem_fix`). A ruler that would have too many cells is refused
(`Columns.markers_of_large`). The rules of the table at most double a line
(`length_respaced_le`), so rulers can be drawn under all that they make of a line that is short enough
(`Line.showable_of_length`).
-/

namespace MatlabTidy

open Text (Cell cells join indent)

namespace Pattern

/-- The pieces of a text are the text, cut. -/
theorem flatMap_chars (p : Pattern) (before : Option Char) (text : List Char) :
    (p.piecesAfter before text).flatMap Piece.chars = text := by
  fun_induction p.piecesAfter before text with
  | case1 before => rfl
  | case2 before c rest d run h ih =>
    have cut := eq_append_of_matchAt h
    rw [List.length_cons, List.drop_succ_cons] at cut
    rw [List.flatMap_cons, ih, Piece.chars, ← cut]
  | case3 before c rest h ih =>
    rw [List.flatMap_cons, ih]
    rfl

end Pattern

namespace Piece

variable {pieces : List Piece}

theorem mem_replace {repair : List Char → List Char} (from_run : ∀ run, ∀ c ∈ repair run, c ∈ run ∨ c = ' ')
    {c : Char} (h : c ∈ replace repair pieces) : c ∈ pieces.flatMap chars ∨ c = ' ' := by
  obtain ⟨piece, mem, here⟩ := List.mem_flatMap.1 h
  cases piece with
  | plain d => exact .inl (List.mem_flatMap.2 ⟨.plain d, mem, here⟩)
  | hit run => exact (from_run run c here).imp (fun inside => List.mem_flatMap.2 ⟨.hit run, mem, inside⟩) id

end Piece

theorem Repair.mem_apply (repair : Repair) {run : List Char} {c : Char} (h : c ∈ repair.apply run) :
    c ∈ run ∨ c = ' ' := by
  cases repair with
  | spaceBefore => exact (List.mem_cons.1 h).symm
  | spaceAfter => exact (List.mem_append.1 h).imp id List.mem_singleton.1
  | singleSpace => exact .inr (List.mem_singleton.1 h)

/-- The failures to draw a ruler that is too long. -/
def RulerError.IsTooLong (error : RulerError) : Prop := error = .lengthTooLarge ∨ error = .noMemory

/-- A ruler of too many cells is not drawn. -/
theorem Columns.markers_of_large {columns : Columns} (large : mostCells ≤ columns.greatest) :
    ∃ error, columns.markers = .error error ∧ error.IsTooLong := by
  by_cases word : isMachineWord columns.greatest = true
  · exact ⟨.noMemory, by simp [markers, word, large], .inr rfl⟩
  · exact ⟨.lengthTooLarge, by simp [markers, word], .inl rfl⟩

namespace SpacingRule

variable (rule : SpacingRule) {line : List Char}

theorem mem_fix {c : Char} (h : c ∈ rule.fix line) : c ∈ line ∨ c = ' ' := by
  have inside := Piece.mem_replace (fun _ _ => rule.repair.mem_apply) h
  rwa [Pattern.pieces, rule.pattern.flatMap_chars none line] at inside

end SpacingRule

/-- At most one blank is put to each cell. -/
theorem length_join_respace_le (offends : Offence) (xs : List Cell) :
    (join (respace offends xs)).length ≤ (join xs).length + xs.length := by
  induction xs with
  | nil => exact Nat.le_refl 0
  | cons x xs ih =>
    rw [respace_cons, Text.join_cons, Text.join_cons, List.length_cons, List.length_append, List.length_cons,
      List.length_append, List.length_cons]
    split
    · rw [Cell.gap_spaced, List.length_singleton]
      omega
    · omega

theorem length_le_join (xs : List Cell) : xs.length ≤ (join xs).length := by
  induction xs with
  | nil => exact Nat.le_refl 0
  | cons x xs ih =>
    rw [Text.join_cons, List.length_cons, List.length_cons, List.length_append]
    omega

/-- The rules of the table at most double a line. -/
theorem length_respaced_le (on : Spacing → Bool) (line : List Char) : (respaced on line).length ≤ 2 * line.length := by
  have longer := length_join_respace_le (Spacing.anyOf on) (cells line)
  have solid := length_le_join (cells line)
  have whole := congrArg List.length (Text.indent_append_join line)
  rw [List.length_append] at whole
  rw [respaced, List.length_append]
  omega

/-- Rulers can be drawn under a line, whichever rules have repaired it. -/
def Line.Showable (line : List Char) : Prop :=
  ∀ (on : Spacing → Bool) (s : Spacing), ∃ ruler, (s.rule.columns (respaced on line)).markers = .ok ruler

theorem Line.showable_of_length {line : List Char} (small : ((2 * line.length : Nat) : Int) < Columns.mostCells) :
    Showable line := by
  intro on s
  have longest := length_respaced_le on line
  apply Columns.exists_markers (fun c mem => SpacingRule.mem_columns s.least_pos mem)
  omega

end MatlabTidy
