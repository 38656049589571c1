import MatlabTidy.Rule.Basic
import Mathlib.Tactic.ByContra

/-!
# Classes of characters

The rules sort characters into blanks, characters of words, operators and a few single marks. What
one rule does cannot disturb another because these classes are disjoint. The tables of blanks and
words are compared point by point in `isWord_of_isBlank`; the rest concerns single characters.
-/

namespace MatlabTidy

open Text (isBlank isWord)

namespace Text

theorem blankRanges_ordered : blankRanges.Ordered := by
  simp [blankRanges, Ranges.Ordered]

/-- The code points of the blanks, one by one. -/
def blankPoints : List Nat := blankRanges.flatMap fun r => List.range' r.1 (r.2 - r.1 + 1)

theorem mem_blankPoints {c : Char} (h : isBlank c = true) : c.toNat ∈ blankPoints := by
  obtain ⟨r, hr, low, high⟩ := (Ranges.contains_iff blankRanges_ordered).1 h
  exact List.mem_flatMap.2 ⟨r, hr, List.mem_range'_1.2 ⟨low, by omega⟩⟩

/-- No blank belongs to a word. -/
theorem isWord_of_isBlank {c : Char} (h : isBlank c = true) : isWord c = false := by
  have points : ∀ n ∈ blankPoints, wordRanges.contains n = false := by decide +kernel
  exact points c.toNat (mem_blankPoints h)

theorem ne_of_isBlank {c d : Char} (h : isBlank c = true) (hd : isBlank d = false) : c ≠ d := by
  rintro rfl
  simp [h] at hd

end Text

section Operators

variable {c : Char}

theorem isSignedOperator_of_isOperator (h : isOperator c = true) : isSignedOperator c = true := by
  simp [isSignedOperator, h]

/-- What holds of the six characters of operators holds of every operator. -/
theorem of_isSignedOperator {p : Char → Bool} (all : ['~', '&', '|', '<', '>', '='].all p = true)
    (h : isSignedOperator c = true) : p c = true := by
  have mem : c ∈ ['~', '&', '|', '<', '>', '='] := by
    simpa [isSignedOperator, isOperator, or_assoc] using h
  exact List.all_eq_true.1 all c mem

theorem isBlank_of_isSignedOperator (h : isSignedOperator c = true) : isBlank c = false := by
  have apart := of_isSignedOperator (p := fun d => !isBlank d) (by decide) h
  simpa using apart

/-- An operator ends no operand. -/
theorem endsOperand_of_isSignedOperator (h : isSignedOperator c = true) : endsOperand c = false := by
  have apart := of_isSignedOperator (p := fun d => !endsOperand d) (by decide) h
  simpa using apart

/-- An operator begins no operand. -/
theorem beginsOperand_of_isSignedOperator (h : isSignedOperator c = true) :
    beginsOperand c = false := by
  have apart := of_isSignedOperator (p := fun d => !beginsOperand d) (by decide) h
  simpa using apart

theorem ne_percent_of_isSignedOperator (h : isSignedOperator c = true) : c ≠ '%' := by
  have apart := of_isSignedOperator (p := fun d => decide (d ≠ '%')) (by decide) h
  exact of_decide_eq_true apart

end Operators

section Operands

variable {c : Char}

theorem endsOperand_of_isBlank (h : isBlank c = true) : endsOperand c = false := by
  simp [endsOperand, Text.isWord_of_isBlank h, Text.ne_of_isBlank h (by decide : isBlank ']' = false)]

theorem beginsOperand_of_isBlank (h : isBlank c = true) : beginsOperand c = false := by
  simp [beginsOperand, Text.isWord_of_isBlank h, Text.ne_of_isBlank h (by decide : isBlank ']' = false),
    Text.ne_of_isBlank h (by decide : isBlank '[' = false)]

theorem isSignedOperator_of_isBlank (h : isBlank c = true) : isSignedOperator c = false := by
  by_contra signed
  rw [isBlank_of_isSignedOperator (by simpa using signed)] at h
  exact Bool.noConfusion h

theorem isOperator_of_isBlank (h : isBlank c = true) : isOperator c = false := by
  have unsigned := isSignedOperator_of_isBlank h
  rw [isSignedOperator, Bool.or_eq_false_iff] at unsigned
  exact unsigned.2

theorem opensGap_of_isBlank (h : isBlank c = true) : opensGap c = false := by
  simp [opensGap, Text.isWord_of_isBlank h, Text.ne_of_isBlank h (by decide : isBlank '=' = false)]

theorem closesGap_of_isBlank (h : isBlank c = true) : closesGap c = false := by
  simp [closesGap, Text.isWord_of_isBlank h, Text.ne_of_isBlank h (by decide : isBlank '.' = false)]

/-- A comma begins no operand. -/
theorem beginsOperand_of_eq_comma (h : decide (c = ',') = true) : beginsOperand c = false := by
  rw [of_decide_eq_true h]
  decide

theorem eq_comma_of_isBlank (h : isBlank c = true) : decide (c = ',') = false :=
  decide_eq_false (Text.ne_of_isBlank h (by decide))

theorem ne_percent_of_beginsOperand (h : beginsOperand c = true) : c ≠ '%' := by
  rintro rfl
  exact absurd h (by decide)

end Operands

end MatlabTidy
