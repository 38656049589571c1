import MatlabTidy.Proofs.Rule.Bounds
import MatlabTidy.Proofs.Rule.Positions
import Mathlib.Data.List.Perm.Basic
import Mathlib.Data.List.Nodup

/-!
# Rulers of matches

The rules of the table report columns that ascend and lie within the line (`Rule.columns_within`). Such columns have a
ruler that is no longer than the line: it ends with the last column (`Columns.greatest_of_ascending`) and has as many
carets as there are columns (`Columns.count_ruler`). `Rule.markers_of_match` puts this together.
-/

namespace MatlabTidy

namespace Columns

variable {columns : Columns}

/-- The greatest of ascending columns is the last. -/
theorem greatest_of_ascending (ascending : columns.Pairwise (· < ·)) : columns.greatest = columns.getLast?.getD 0 := by
  cases ends : columns.getLast? with
  | none => simp [greatest, List.getLast?_eq_none_iff.1 ends]
  | some last =>
    obtain ⟨front, rfl⟩ := List.getLast?_eq_some_iff.1 ends
    have most : (front ++ [last]).max? = some last := by
      refine List.max?_eq_some_iff.2 ⟨by simp, fun c mem => ?_⟩
      rcases List.mem_append.1 mem with earlier | here
      · exact Int.le_of_lt ((List.pairwise_append.1 ascending).2.2 c earlier last List.mem_cons_self)
      · exact Int.le_of_eq (List.mem_singleton.1 here)
    rw [greatest, most]

/-- The ruler of ascending columns from one on has a caret for each of them. -/
theorem count_ruler (ascending : columns.Pairwise (· < ·)) (positive : ∀ c ∈ columns, 1 ≤ c) :
    columns.ruler.count '^' = columns.length := by
  -- The cells with carets, read as columns, are the columns in some order.
  have cells : (((List.range columns.greatest.toNat).filter fun k : Nat => (k + 1 : Int) ∈ columns).map
      fun k : Nat => (k + 1 : Int)).Perm columns := by
    refine (List.perm_ext_iff_of_nodup ?_ (ascending.imp Int.ne_of_lt)).2 fun c => ?_
    · refine List.Nodup.map (fun k k' same => ?_) (List.nodup_range.filter _)
      omega
    · simp only [List.mem_map, List.mem_filter, List.mem_range, decide_eq_true_eq]
      constructor
      · rintro ⟨k, ⟨-, mem⟩, rfl⟩
        exact mem
      · intro mem
        have low := positive c mem
        have high := le_greatest mem
        refine ⟨(c - 1).toNat, ⟨by omega, ?_⟩, by omega⟩
        rwa [Int.toNat_of_nonneg (by omega), Int.sub_add_cancel]
  rw [← cells.length_eq, List.length_map, ← List.countP_eq_length_filter, ruler, List.count, List.countP_map]
  congr 1
  funext k
  by_cases mem : (k + 1 : Int) ∈ columns <;> simp [mem]

end Columns

namespace Rule

variable {rule : Rule}

theorem lineLength_le (line : List Char) : lineLength line ≤ line.length := by
  have shorter := (List.dropWhile_suffix (l := line.reverse) fun c => c = '\r' || c = '\n').length_le
  rwa [List.length_reverse] at shorter

/-- The columns that a rule of the table reports ascend and lie within the line. -/
theorem columns_within (mem : rule ∈ table) (line : List Char) :
    ∃ columns, rule.columns line = .ok columns ∧ columns.Pairwise (· < ·) ∧
      ∀ c ∈ columns, 1 ≤ c ∧ c ≤ line.length := by
  rcases mem_table.1 mem with rfl | ⟨s, rfl⟩
  · refine ⟨_, rfl, ?_⟩
    by_cases long : lineLimit < lineLength line
    · have shorter := lineLength_le line
      have within : (1 : Int) ≤ lineLimit ∧ (lineLimit : Int) ≤ line.length := by
        simp only [lineLimit] at long ⊢
        omega
      simpa [tooLong, long] using within
    · simp [tooLong, long]
  · refine ⟨s.rule.columns line, rfl, ?_, fun c => SpacingRule.mem_columns s.least_pos⟩
    have ascending := (Piece.pairwise_columns (Pattern.hit_nil_not_mem_piecesAfter s.least_pos none line) 1).2
    exact List.pairwise_map.2 (ascending.imp Int.ofNat_lt.2)

/-- What a rule of the table reports on a line has a ruler, and it is drawn unless the line itself has at least
`Columns.mostCells` characters. -/
theorem markers_of_match (mem : rule ∈ table) (line : List Char) :
    ∃ columns ruler, rule.columns line = .ok columns ∧
      columns.Pairwise (· < ·) ∧ (∀ c ∈ columns, 1 ≤ c ∧ c ≤ line.length) ∧
      (columns.markers = .ok ruler ∨
        Columns.mostCells ≤ line.length ∧ ∃ error, columns.markers = .error error ∧ error.IsTooLong) ∧
      (ruler.length : Int) = columns.getLast?.getD 0 ∧ ruler.length ≤ line.length ∧
      (∀ k < ruler.length, ruler[k]? = some (if (k + 1 : Int) ∈ columns then '^' else '-')) ∧
      ruler.count '^' = columns.length := by
  obtain ⟨columns, reported, ascending, within⟩ := columns_within mem line
  have positive : ∀ c ∈ columns, 1 ≤ c := fun c mem => (within c mem).1
  have most : columns.greatest ≤ line.length :=
    Columns.greatest_le (Int.natCast_nonneg _) fun c mem => (within c mem).2
  have length := Columns.length_ruler positive
  refine ⟨columns, columns.ruler, reported, ascending, within, ?_, ?_, ?_, fun k => Columns.getElem?_ruler,
    Columns.count_ruler ascending positive⟩
  · by_cases large : Columns.mostCells ≤ columns.greatest
    · exact .inr ⟨Int.le_trans large most, Columns.markers_of_large large⟩
    · exact .inl (Columns.markers_eq_ok positive (Int.not_le.1 large))
  · rw [length, Columns.greatest_of_ascending ascending]
  · omega

/-- A line of one character too many, and a line with two commas that no blank follows. -/
theorem markers_of_match_both :
    (∃ ruler, (Rule.line (tooLong lineLimit)).columns (List.replicate 81 'x') = .ok [80] ∧
      Columns.markers [80] = .ok ruler ∧ ruler.length = 80 ∧ ruler.count '^' = 1) ∧
    ∃ columns ruler, (Rule.spacing commaEnd).columns "f(a,b,c)".toList = .ok columns ∧ columns.markers = .ok ruler ∧
      ruler.length ≤ 8 ∧ ruler.count '^' = 2 := by
  constructor
  · obtain ⟨columns, ruler, reported, -, -, drawn, length, -, -, carets⟩ :=
      markers_of_match (mem_table.2 (.inl rfl)) (List.replicate 81 'x')
    have single : (Rule.line (tooLong lineLimit)).columns (List.replicate 81 'x') = .ok [80] := by decide +kernel
    cases single.symm.trans reported
    refine ⟨ruler, single, drawn.resolve_right fun large => ?_, Int.ofNat.inj length, carets⟩
    exact absurd large.1 (by decide)
  · obtain ⟨columns, ruler, reported, -, -, drawn, -, short, -, carets⟩ :=
      markers_of_match (spacing_mem_table .commaEnd) "f(a,b,c)".toList
    have pair : columns.length = 2 := by
      cases reported
      exact (Spacing.length_columns .commaEnd _).trans (by decide +kernel)
    refine ⟨columns, ruler, reported, drawn.resolve_right fun large => ?_, short, carets.trans pair⟩
    exact absurd large.1 (by decide)

end Rule

end MatlabTidy
