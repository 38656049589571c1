import MatlabTidy.Config.Value

/-!
# Values that can be written

Whether a value can be written in a message depends on what stands in it and how deep (`Value.Holds`): no part of it
may stand deeper than there are levels, and no integer in it may be too long (`Value.literalWithin_ok_iff`).
-/

namespace MatlabTidy.Value

variable {levels : Nat} {value : Value}

/-- The values that stand directly in a value. -/
def children : Value → List Value
  | .list items => items
  | .table entries => entries.map Prod.snd
  | _ => []

/-- A part of a value stands so many levels below it. -/
inductive Holds : Value → Nat → Value → Prop where
  | self (value : Value) : Holds value 0 value
  | inner {value child part : Value} {level : Nat} (mem : child ∈ value.children) (inside : Holds child level part) :
      Holds value (level + 1) part

/-- No part of the value stands deeper than there are levels, and no integer in it is too long. -/
structure Fits (levels : Nat) (value : Value) : Prop where
  shallow : ∀ level part, Holds value level part → level ≤ levels
  short : ∀ level n, Holds value level (.int n) → Text.isWritable n = true

/-- A value fits if it is no integer that is too long and the values in it fit one level below. -/
theorem fits_iff : Fits levels value ↔
    (∀ n, value = .int n → Text.isWritable n = true) ∧ ∀ child ∈ value.children, 0 < levels ∧ Fits (levels - 1) child := by
  constructor
  · intro fits
    refine ⟨fun n number => fits.short 0 n (number ▸ .self value), fun child mem => ⟨?_, ?_, ?_⟩⟩
    · exact fits.shallow 1 child (.inner mem (.self child))
    · intro level part inside
      have := fits.shallow (level + 1) part (.inner mem inside)
      omega
    · intro level n inside
      exact fits.short (level + 1) n (.inner mem inside)
  · rintro ⟨number, inner⟩
    constructor
    · intro level part holds
      cases holds with
      | self => exact Nat.zero_le levels
      | inner mem inside =>
        have := (inner _ mem).2.shallow _ _ inside
        have := (inner _ mem).1
        omega
    · intro level n holds
      cases holds with
      | self => exact number n rfl
      | inner mem inside => exact (inner _ mem).2.short _ n inside

/-- Two steps succeed if the first does and then the second. -/
theorem exists_bind_eq_ok {α β : Type} {x : Except LiteralFault α} {f : α → Except LiteralFault β} :
    (∃ b, x >>= f = .ok b) ↔ ∃ a, x = .ok a ∧ ∃ b, f a = .ok b := by
  cases x with
  | ok a =>
    constructor
    · intro written
      exact ⟨a, rfl, written⟩
    · rintro ⟨_, same, written⟩
      cases same
      exact written
  | error e =>
    constructor
    · rintro ⟨_, same⟩
      cases same
    · rintro ⟨_, same, -⟩
      cases same

/-- The first of several values is written if there is a level for it, and then the others. -/
theorem exists_step_eq_ok {α β γ : Type} (first : Except LiteralFault α) (others : Except LiteralFault β)
    (join : α → β → γ) :
    (∃ c, (do
      if levels = 0 then throw LiteralFault.tooDeep
      let a ← first
      let b ← others
      return join a b) = Except.ok c) ↔ (0 < levels ∧ ∃ a, first = .ok a) ∧ ∃ b, others = .ok b := by
  cases levels with
  | zero =>
    refine iff_of_false ?_ fun h => absurd h.1.1 (Nat.lt_irrefl 0)
    rintro ⟨_, same⟩
    cases same
  | succ levels =>
    rw [if_neg (Nat.succ_ne_zero levels)]
    simp only [exists_bind_eq_ok, Nat.succ_pos, true_and]
    constructor
    · rintro ⟨a, written, b, rest, -⟩
      exact ⟨⟨a, written⟩, b, rest⟩
    · rintro ⟨⟨a, written⟩, b, rest⟩
      exact ⟨a, written, b, rest, _, rfl⟩

/-- The values of a list can be written if each of them can, one level below. -/
theorem literalsWithin_ok_iff (items : List Value) : (∃ texts, literalsWithin levels items = .ok texts) ↔
    ∀ item ∈ items, 0 < levels ∧ ∃ text, item.literalWithin (levels - 1) = .ok text := by
  induction items with
  | nil => simp [literalsWithin]
  | cons item items ih => rw [List.forall_mem_cons, ← ih, literalsWithin, exists_step_eq_ok]

theorem entriesWithin_ok_iff (entries : Table) : (∃ texts, entriesWithin levels entries = .ok texts) ↔
    ∀ value ∈ entries.map Prod.snd, 0 < levels ∧ ∃ text, value.literalWithin (levels - 1) = .ok text := by
  induction entries with
  | nil => simp [entriesWithin]
  | cons entry entries ih =>
    obtain ⟨key, value⟩ := entry
    rw [List.map_cons, List.forall_mem_cons, ← ih, entriesWithin, exists_step_eq_ok]

/-- A value can be written within as many levels as it fits in. -/
theorem literalWithin_ok_iff (levels : Nat) (value : Value) :
    (∃ text, value.literalWithin levels = .ok text) ↔ Fits levels value := by
  induction levels using Nat.strongRecOn generalizing value with
  | ind levels ih =>
    rw [fits_iff]
    have deeper : (∀ child ∈ value.children, 0 < levels ∧ ∃ text, child.literalWithin (levels - 1) = .ok text) ↔
        ∀ child ∈ value.children, 0 < levels ∧ Fits (levels - 1) child :=
      forall₂_congr fun child _ => and_congr_right fun pos => ih (levels - 1) (by omega) child
    rw [← deeper]
    cases value with
    | list items =>
      rw [literalWithin, exists_bind_eq_ok, children, ← literalsWithin_ok_iff]
      simp [pure, Except.pure]
    | table entries =>
      rw [literalWithin, exists_bind_eq_ok, children, ← entriesWithin_ok_iff]
      simp [pure, Except.pure]
    | int n =>
      rw [literalWithin]
      split <;> simp_all [children]
    | null | bool | float | text | moment => simp [literalWithin, children]

/-- A value of a setting inside as many others. -/
def nested : Nat → Value
  | 0 => .int 1
  | n + 1 => .table [("a", nested n)]

/-- Values too deep inside of each other cannot be written. -/
theorem literalWithin_nested {n : Nat} (deep : levels < n) : (nested n).literalWithin levels = .error .tooDeep := by
  induction levels generalizing n with
  | zero =>
    obtain _ | n := n
    · omega
    · rfl
  | succ levels ih =>
    obtain _ | n := n
    · omega
    · have inner := ih (n := n) (by omega)
      simp [nested, literalWithin, entriesWithin, inner, bind, Except.bind]

end MatlabTidy.Value
