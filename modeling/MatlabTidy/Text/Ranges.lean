/-!
# Sets of code points as sorted ranges

A property of characters that a standard lists by code point is kept as `Ranges`: inclusive
ranges in ascending order. `Ranges.contains` walks the list and stops at the first range that
starts above the code point, so for an ordered list it decides membership in one of the ranges
(`contains_iff`).
-/

namespace MatlabTidy.Text

/-- Inclusive ranges of code points. -/
abbrev Ranges := List (Nat × Nat)

namespace Ranges

/-- Each range is non-empty and lies below the next one. -/
def Ordered : Ranges → Prop
  | [] => True
  | [r] => r.1 ≤ r.2
  | r :: s :: rest => r.1 ≤ r.2 ∧ r.2 < s.1 ∧ Ordered (s :: rest)

/-- Whether the code point lies in one of the ranges. -/
def contains : Ranges → Nat → Bool
  | [], _ => false
  | (lo, hi) :: rest, n => if n < lo then false else if n ≤ hi then true else contains rest n

/-- The range that holds the code point. -/
def find? : Ranges → Nat → Option (Nat × Nat)
  | [], _ => none
  | (lo, hi) :: rest, n =>
    if n < lo then none else if n ≤ hi then some (lo, hi) else find? rest n

theorem Ordered.tail {r : Nat × Nat} {rest : Ranges} (h : Ordered (r :: rest)) : Ordered rest := by
  cases rest with
  | nil => trivial
  | cons s rest => exact h.2.2

/-- The first range of an ordered list starts no later than any other. -/
theorem Ordered.head_le {r : Nat × Nat} {rest : Ranges} (h : Ordered (r :: rest)) :
    ∀ s ∈ r :: rest, r.1 ≤ s.1 := by
  induction rest generalizing r with
  | nil => simp
  | cons t rest ih =>
    intro s hs
    rcases List.mem_cons.1 hs with rfl | hs
    · exact Nat.le_refl _
    · have := ih h.2.2 s hs
      have h1 := h.1
      have h2 := h.2.1
      omega

theorem contains_iff {table : Ranges} (h : table.Ordered) {n : Nat} :
    table.contains n = true ↔ ∃ r ∈ table, r.1 ≤ n ∧ n ≤ r.2 := by
  induction table with
  | nil => simp [contains]
  | cons r rest ih =>
    obtain ⟨lo, hi⟩ := r
    simp only [contains]
    split
    · rename_i hlo
      simp only [Bool.false_eq_true, false_iff, not_exists, not_and]
      intro s hs hle
      have := h.head_le s hs
      simp only at this
      omega
    · split
      · rename_i hlo hhi
        exact iff_of_true rfl ⟨(lo, hi), List.mem_cons_self, by simp only; omega⟩
      · rename_i hlo hhi
        rw [ih h.tail]
        constructor
        · rintro ⟨s, hs, hn⟩
          exact ⟨s, List.mem_cons_of_mem _ hs, hn⟩
        · rintro ⟨s, hs, hn⟩
          rcases List.mem_cons.1 hs with rfl | hs
          · simp only at hn
            omega
          · exact ⟨s, hs, hn⟩

end Ranges

end MatlabTidy.Text
