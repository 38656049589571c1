import MatlabTidy.Proofs.Rule.Pieces

/-!
# Rulers that can be drawn

Under columns from one on the ruler is drawn that has a caret at each of them (`Columns.markers_eq_ok`), if it
has fewer than `Columns.mostCells` cells; so there is a ruler if the columns lie between one and a width below that
(`Columns.exists_markers`). The columns of a spacing rule lie within the line (`SpacingRule.mem_columns`), so only
a line of that many characters can be without a ruler.
-/

namespace MatlabTidy

namespace Columns

variable {columns : Columns} {width : Nat}

/-- The greatest column is one of the columns, if there are any. -/
theorem le_greatest {c : Int} (h : c ∈ columns) : c ≤ columns.greatest := by
  have some : columns.max? ≠ none := by
    rw [Ne, List.max?_eq_none_iff]
    rintro rfl
    simp at h
  obtain ⟨m, hm⟩ := Option.ne_none_iff_exists'.1 some
  rw [greatest, hm]
  exact (List.max?_eq_some_iff.1 hm).2 c h

theorem greatest_le {bound : Int} (zero : 0 ≤ bound) (h : ∀ c ∈ columns, c ≤ bound) :
    columns.greatest ≤ bound := by
  match hm : columns.max? with
  | none => simpa [greatest, hm] using zero
  | some m =>
    rw [greatest, hm]
    exact h m (List.max?_eq_some_iff.1 hm).1

theorem greatest_nonneg (positive : ∀ c ∈ columns, 1 ≤ c) : 0 ≤ columns.greatest := by
  cases hm : columns.max? with
  | none => simp [greatest, hm]
  | some m =>
    have low := positive m (List.max?_eq_some_iff.1 hm).1
    rw [greatest, hm, Option.getD_some]
    omega

/-- Carets can be put under columns of the ruler, and nothing else of it is changed. -/
theorem drawCarets_eq_ok {ruler : Array Char} (small : (ruler.size : Int) < mostCells)
    (h : ∀ c ∈ columns, 1 ≤ c ∧ c ≤ ruler.size) :
    ∃ drawn, drawCarets columns ruler = .ok drawn ∧ drawn.size = ruler.size ∧
      ∀ k < ruler.size, drawn[k]? = if (k + 1 : Int) ∈ columns then some '^' else ruler[k]? := by
  induction columns generalizing ruler with
  | nil => exact ⟨ruler, rfl, rfl, by simp⟩
  | cons c columns ih =>
    obtain ⟨⟨low, high⟩, others⟩ := List.forall_mem_cons.1 h
    have word : isMachineWord (c - 1) = true := by
      simp only [mostCells] at small
      simp only [isMachineWord, Bool.and_eq_true, decide_eq_true_eq]
      omega
    have cell : cell? ruler.size c = some (c - 1).toNat := by
      have notBefore : ¬ c < 1 := by omega
      have inside : 0 ≤ c - 1 ∧ c - 1 < ruler.size := by omega
      simp only [cell?, if_neg notBefore, if_pos inside]
    have size : (ruler.setIfInBounds (c - 1).toNat '^').size = ruler.size := Array.size_setIfInBounds
    rw [← size] at small others
    obtain ⟨drawn, run, length, shows⟩ := ih small others
    refine ⟨drawn, ?_, length.trans size, fun k bound => ?_⟩
    · simp only [drawCarets, word, cell, Bool.not_true, Bool.false_eq_true, if_false, run]
    · have same : (c - 1).toNat = k ↔ (k + 1 : Int) = c := by omega
      rw [size] at shows
      rw [shows k bound, Array.getElem?_setIfInBounds]
      by_cases here : (k + 1 : Int) = c
      · have inside : (c - 1).toNat < ruler.size := by omega
        rw [if_pos (same.2 here), if_pos inside, ite_self, if_pos (List.mem_cons.2 (.inl here))]
      · simp only [if_neg (mt same.1 here), List.mem_cons, here, false_or]

/-- The ruler of columns from one on: up to the greatest, a caret at each of them and dashes elsewhere. -/
def ruler (columns : Columns) : List Char :=
  (List.range columns.greatest.toNat).map fun k : Nat => if (k + 1 : Int) ∈ columns then '^' else '-'

theorem length_ruler (positive : ∀ c ∈ columns, 1 ≤ c) : (columns.ruler.length : Int) = columns.greatest := by
  rw [ruler, List.length_map, List.length_range, Int.toNat_of_nonneg (greatest_nonneg positive)]

theorem getElem?_ruler {k : Nat} (bound : k < columns.ruler.length) :
    columns.ruler[k]? = some (if (k + 1 : Int) ∈ columns then '^' else '-') := by
  rw [ruler, List.length_map, List.length_range] at bound
  simp [ruler, bound]

/-- Columns from one on have their ruler drawn, unless it is too long. -/
theorem markers_eq_ok (positive : ∀ c ∈ columns, 1 ≤ c) (small : columns.greatest < mostCells) :
    columns.markers = .ok columns.ruler := by
  have least := greatest_nonneg positive
  have word : isMachineWord columns.greatest = true := by
    simp only [mostCells] at small
    simp only [isMachineWord, Bool.and_eq_true, decide_eq_true_eq]
    omega
  have size : (Array.replicate columns.greatest.toNat '-').size = columns.greatest.toNat := Array.size_replicate
  have room : ∀ c ∈ columns, 1 ≤ c ∧ c ≤ ((Array.replicate columns.greatest.toNat '-').size : Int) := by
    intro c mem
    have low := positive c mem
    have high := le_greatest mem
    rw [size]
    omega
  have small' : ((Array.replicate columns.greatest.toNat '-').size : Int) < mostCells := by
    rw [size]
    omega
  obtain ⟨drawn, run, length, shows⟩ := drawCarets_eq_ok small' room
  rw [size] at length shows
  have whole : drawn.toList = columns.ruler := by
    have width := length_ruler positive
    refine List.ext_getElem? fun k => ?_
    by_cases bound : k < columns.ruler.length
    · have inside : k < columns.greatest.toNat := by omega
      have dash : (Array.replicate columns.greatest.toNat '-')[k]? = some '-' := by simp [inside]
      rw [getElem?_ruler bound, Array.getElem?_toList, shows k inside, dash]
      split <;> rfl
    · rw [List.getElem?_eq_none (by rw [Array.length_toList]; omega), List.getElem?_eq_none (by omega)]
  have fits : ¬ mostCells ≤ columns.greatest := by omega
  simp [markers, word, fits, run, Except.map, whole]

/-- Columns between one and a width that is not too large have a ruler. -/
theorem exists_markers (h : ∀ c ∈ columns, 1 ≤ c ∧ c ≤ width) (small : (width : Int) < mostCells) :
    ∃ ruler, columns.markers = .ok ruler := by
  have bound : columns.greatest ≤ width := greatest_le (by omega) fun c hc => (h c hc).2
  exact ⟨columns.ruler, markers_eq_ok (fun c mem => (h c mem).1) (by omega)⟩

end Columns

/-- The columns of a spacing rule lie within the line. -/
theorem SpacingRule.mem_columns {rule : SpacingRule} (least : 0 < rule.pattern.least) {line : List Char}
    {c : Int} (h : c ∈ rule.columns line) : 1 ≤ c ∧ c ≤ line.length := by
  obtain ⟨k, hk, rfl⟩ := List.mem_map.1 h
  have bounds := Pattern.mem_columns_piecesAfter least none line 1 k hk
  simp only [Int.ofNat_eq_natCast]
  omega

end MatlabTidy
