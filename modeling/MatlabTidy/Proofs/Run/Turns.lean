import MatlabTidy.Proofs.Rule.Respaced
import MatlabTidy.Proofs.Rule.Ruler
import MatlabTidy.Proofs.Run.Turn
import Mathlib.Data.List.Nodup

/-!
# The turns of the rules on a line

For rules of the table, checking a line is the sequence of their turns (`Line.check_eq_turns`). The
invariant of the sequence is that the line is by now respaced by the rules whose fixes were made.
`Line.turns_of_run` carries it through a run with any answers of the operator, and `Line.run_turns`
computes the run in which nobody is asked.
-/

namespace MatlabTidy

theorem Spacing.rule_injective {s t : Spacing} (h : s.rule = t.rule) : s = t := by
  have reasons : s.rule.reason = t.rule.reason := congrArg SpacingRule.reason h
  revert reasons
  cases s <;> cases t <;> decide

namespace Rule

/-- The columns of a rule on a line; a rule of an unknown kind has none. -/
def columnsOn (line : List Char) : Rule → Columns
  | .spacing rule => rule.columns line
  | .line rule => if rule.offends line then [rule.column] else []
  | .other _ _ => []

/-- Whether the rule has a repair. -/
def isSpacing : Rule → Bool
  | .spacing _ => true
  | _ => false

/-- What is counted for a rule on a line when nobody is asked about fixes. -/
def countOn (fix : Bool) (line : List Char) (rule : Rule) : Count :=
  ⟨(rule.columnsOn line).length, if fix && rule.isSpacing then (rule.columnsOn line).length else 0⟩

theorem nodup_table : table.Nodup := by
  have reasons : (table.map reason).Nodup := by decide
  exact List.Nodup.of_map _ reasons

/-- Rules of the table can be evaluated. -/
theorem evaluate_eq_pure {line : List Char} {rules : List Rule} (known : ∀ rule ∈ rules, rule ∈ table) :
    evaluate line rules = pure (rules.map fun rule => (rule, rule.columnsOn line)) := by
  induction rules with
  | nil => rfl
  | cons rule rules ih =>
    have here : rule.search line = pure (rule.columnsOn line) := by
      rcases mem_table.1 (known rule List.mem_cons_self) with rfl | ⟨s, rfl⟩ <;> rfl
    have rest := ih fun rule h => known rule (List.mem_cons_of_mem _ h)
    change (do
      let columns ← rule.search line
      let others ← evaluate line rules
      return (rule, columns) :: others) = _
    rw [here, rest]
    rfl

end Rule

namespace Line

open Rule (table)

/-- The turns of a list of rules. -/
def turns (options : Options) (number : Nat) (line : List Char) (rules : List Rule)
    (current : List Char) : Job (List Char × List Count) :=
  checkMatches options number line (rules.map fun rule => (rule, rule.columnsOn line)) current

variable {options : Options} {number : Nat} {line current last : List Char} {rules : List Rule}
variable {on : Spacing → Bool} {counts : List Count} {w w' : World}

theorem check_eq_turns (options : Options) (number : Nat) (line : List Char)
    (known : ∀ rule ∈ rules, rule ∈ table) :
    check rules options number line = turns options number line rules line := by
  rw [check, Rule.evaluate_eq_pure known, pure_bind]
  rfl

theorem turns_append (options : Options) (number : Nat) (line : List Char) (first second : List Rule)
    (current : List Char) :
    turns options number line (first ++ second) current = (do
      let (middle, counts) ← turns options number line first current
      let (last, others) ← turns options number line second middle
      return (last, counts ++ others)) := by
  rw [turns, List.map_append, checkMatches_append]
  rfl

/-- A run of turns is the turn of the first rule and the turns of the others. -/
theorem run_turns_cons_eq_ok {rule : Rule} :
    (turns options number line (rule :: rules) current).run w = .ok (last, counts) w' ↔
      ∃ next count w₁ others,
        (turn options number line rule (rule.columnsOn line) current).run w = .ok (next, count) w₁ ∧
        (turns options number line rules next).run w₁ = .ok (last, others) w' ∧
        counts = count :: others := by
  rw [turns, List.map_cons, checkMatches_cons, Job.run_bind_eq_ok]
  constructor
  · rintro ⟨⟨next, count⟩, w₁, first, h⟩
    obtain ⟨⟨line', others⟩, w₂, rest, h⟩ := Job.run_bind_eq_ok.1 h
    cases h
    exact ⟨next, count, w₁, others, first, rest, rfl⟩
  · rintro ⟨next, count, w₁, others, first, rest, rfl⟩
    exact ⟨(next, count), w₁, first, Job.run_bind_eq_ok.2 ⟨(last, others), w', rest, rfl⟩⟩

/-- What a run of turns does to a line that was respaced by a set of rules. -/
structure Outcome (options : Options) (w : World) (line : List Char) (rules : List Rule)
    (on : Spacing → Bool) (last : List Char) (counts : List Count) : Prop where
  /-- The line is respaced by the rules of the set and some of those that had their turns. -/
  respaced : ∃ on' : Spacing → Bool, last = respaced on' line ∧
    ∀ s, on' s = true → on s = true ∨ .spacing s.rule ∈ rules
  /-- A line that is not as before has been fixed, and the fixes are counted. -/
  counted : last ≠ MatlabTidy.respaced on line → Allowed options w ∧ ∃ count ∈ counts, count.fixes ≠ 0
  errors : counts.map Count.errors = rules.map fun rule => (rule.columnsOn line).length

/-- The invariant of the turns: whatever the operator answers, the line is respaced by rules. -/
theorem turns_of_run (known : ∀ rule ∈ rules, rule ∈ table)
    (h : (turns options number line rules (respaced on line)).run w = .ok (last, counts) w') :
    Outcome options w line rules on last counts ∧ Keeps w w' := by
  induction rules generalizing on counts w with
  | nil =>
    cases h
    exact ⟨⟨⟨on, rfl, fun _ h => .inl h⟩, fun h => absurd rfl h, rfl⟩, .refl _⟩
  | cons rule rules ih =>
    obtain ⟨next, count, w₁, others, first, rest, rfl⟩ := run_turns_cons_eq_ok.1 h
    obtain ⟨outcome, kept⟩ := turn_of_run first
    have known' : ∀ rule ∈ rules, rule ∈ table := fun rule h => known rule (List.mem_cons_of_mem _ h)
    have isRule := known rule List.mem_cons_self
    generalize hcolumns : rule.columnsOn line = columns at outcome
    cases outcome with
    | kept =>
      obtain ⟨⟨⟨on', rfl, from'⟩, counted, errors⟩, kept'⟩ := ih known' rest
      refine ⟨⟨⟨on', rfl, fun s h => ?_⟩, fun h => ?_, ?_⟩, kept.trans kept'⟩
      · exact (from' s h).imp id fun h => List.mem_cons_of_mem _ h
      · obtain ⟨allowed, count, mem, ne⟩ := counted h
        exact ⟨allowed.mono kept, count, List.mem_cons_of_mem _ mem, ne⟩
      · rw [List.map_cons, List.map_cons, errors, hcolumns]
    | fixed rule _ allowed found changed =>
      obtain ⟨s, rfl⟩ := Rule.exists_of_spacing_mem isRule
      rw [Spacing.fix_respaced] at rest
      obtain ⟨⟨⟨on', rfl, from'⟩, -, errors⟩, kept'⟩ := ih known' rest
      refine ⟨⟨⟨on', rfl, fun t h => ?_⟩, fun _ => ?_, ?_⟩, kept.trans kept'⟩
      · rcases from' t h with h | h
        · rcases Bool.or_eq_true_iff.1 h with h | h
          · exact .inl h
          · rw [of_decide_eq_true h]
            exact .inr List.mem_cons_self
        · exact .inr (List.mem_cons_of_mem _ h)
      · exact ⟨allowed, _, List.mem_cons_self, by simpa using found⟩
      · rw [List.map_cons, List.map_cons, errors, hcolumns]

/-- A run of turns that is over has drawn every ruler that it shows. -/
theorem drawable_of_run_turns
    (h : (turns options number line rules current).run w = .ok (last, counts) w') :
    ∀ rule ∈ rules, Drawable options (rule.columnsOn line) := by
  induction rules generalizing current counts w with
  | nil => simp
  | cons rule rules ih =>
    obtain ⟨next, count, w₁, others, first, rest, rfl⟩ := run_turns_cons_eq_ok.1 h
    intro rule' mem
    rcases List.mem_cons.1 mem with rfl | mem
    · exact drawable_of_run first
    · exact ih rest rule' mem

/-- Rulers are drawn under every line that is not too long for them. -/
theorem drawable_of_length_lt (options : Options) {rule : Rule} (known : rule ∈ table)
    (small : (line.length : Int) < Columns.mostCells) : Drawable options (rule.columnsOn line) := by
  intro _
  rcases Rule.mem_table.1 known with rfl | ⟨s, rfl⟩
  · rw [Rule.columnsOn]
    split
    · exact ⟨_, rfl⟩
    · exact ⟨_, rfl⟩
  · exact Columns.exists_markers (fun c hc => SpacingRule.mem_columns s.least_pos hc) small

end Line

open Classical in
/-- The spacing rules among some rules. -/
noncomputable def Spacing.among (rules : List Rule) (s : Spacing) : Bool :=
  decide (Rule.spacing s.rule ∈ rules)

@[simp] theorem Spacing.among_eq_true {rules : List Rule} {s : Spacing} :
    Spacing.among rules s = true ↔ Rule.spacing s.rule ∈ rules := by
  simp [among]

theorem Spacing.among_line (rule : LineRule) (rules : List Rule) :
    Spacing.among (.line rule :: rules) = Spacing.among rules := by
  funext s
  rw [Bool.eq_iff_iff]
  simp

theorem Spacing.among_spacing (s t : Spacing) (rules : List Rule) :
    Spacing.among (.spacing s.rule :: rules) t = (decide (t = s) || Spacing.among rules t) := by
  have same : Rule.spacing t.rule = .spacing s.rule ↔ t = s := by
    constructor
    · intro h
      exact rule_injective (Rule.spacing.inj h)
    · rintro rfl
      rfl
  rw [Bool.eq_iff_iff]
  simp only [Bool.or_eq_true, decide_eq_true_eq, among_eq_true, List.mem_cons, same]

namespace Line

open Rule (table)

variable {options : Options} {number : Nat} {line : List Char}

/-- A spacing rule whose fix was not made yet finds what it found at first. -/
theorem run_turn_respaced (number : Nat) (w : World) {on : Spacing → Bool} {s : Spacing}
    (quiet : s.rule.columns line ≠ [] → options.interactive = false) (fresh : on s = false)
    (drawable : Drawable options (s.rule.columns line)) :
    (turn options number line (Rule.spacing s.rule) (s.rule.columns line) (respaced on line)).run w =
      .ok (respaced (fun t => on t || (options.fix && decide (t = s))) line,
          Rule.countOn options.fix line (.spacing s.rule))
        (w.saying (reports options number line (Rule.spacing s.rule) (s.rule.columns line))) := by
  have same : (s.rule.columns (respaced on line)).length = (s.rule.columns line).length := by
    rw [Spacing.length_columns_respaced, fresh]
    rfl
  have empty : s.rule.columns (respaced on line) = [] ↔ s.rule.columns line = [] := by
    rw [← List.length_eq_zero_iff, ← List.length_eq_zero_iff, same]
  rw [run_turn_spacing number line _ w drawable s.rule quiet, Spacing.fix_respaced]
  · cases fix : options.fix with
    | false => simp [Rule.countOn, Rule.columnsOn]
    | true => simp [Rule.countOn, Rule.columnsOn, Rule.isSpacing]
  · intro found
    rw [Ne, Ne, Spacing.fix_eq_self_iff, empty]
    exact ⟨found, found⟩
  · intro found
    rwa [Spacing.fix_eq_self_iff, empty]

/-- The turns of different rules of the table when nobody is asked. -/
theorem run_turns (number : Nat) (w : World)
    (quiet : ∀ s : Spacing, s.rule.columns line ≠ [] → options.interactive = false) {rules : List Rule}
    (known : ∀ rule ∈ rules, rule ∈ table) (nodup : rules.Nodup)
    (drawable : ∀ rule ∈ rules, Drawable options (rule.columnsOn line))
    {on : Spacing → Bool} (fresh : ∀ s, Spacing.among rules s = true → on s = false) :
    (turns options number line rules (respaced on line)).run w =
      .ok (respaced (fun s => on s || (options.fix && Spacing.among rules s)) line,
          rules.map (Rule.countOn options.fix line))
        (w.saying (rules.flatMap fun rule => reports options number line rule (rule.columnsOn line))) := by
  induction rules generalizing on w with
  | nil => simp [turns, Spacing.among]
  | cons rule rules ih =>
    have known' : ∀ rule ∈ rules, rule ∈ table := fun rule h => known rule (List.mem_cons_of_mem _ h)
    have drawable' : ∀ rule ∈ rules, Drawable options (rule.columnsOn line) := fun rule h =>
      drawable rule (List.mem_cons_of_mem _ h)
    have here := drawable rule List.mem_cons_self
    obtain ⟨absent, nodup'⟩ := List.nodup_cons.1 nodup
    rw [List.map_cons, List.flatMap_cons, ← World.saying_saying]
    rcases Rule.mem_table.1 (known rule List.mem_cons_self) with rfl | ⟨s, rfl⟩
    · rw [Spacing.among_line] at fresh ⊢
      have first := run_turn_line number line (respaced on line) w here (tooLong lineLimit)
      have count : Rule.countOn options.fix line (.line (tooLong lineLimit)) =
          ⟨((Rule.line (tooLong lineLimit)).columnsOn line).length, 0⟩ := by
        simp [Rule.countOn, Rule.isSpacing]
      rw [count]
      exact run_turns_cons_eq_ok.2 ⟨_, _, _, _, first, ih _ known' nodup' drawable' fresh, rfl⟩
    · simp only [Spacing.among_spacing, Bool.or_eq_true, decide_eq_true_eq] at fresh ⊢
      have first := run_turn_respaced number w (quiet s) (fresh s (.inl rfl)) here
      have others : ∀ t, Spacing.among rules t = true → (on t || (options.fix && decide (t = s))) = false := by
        intro t ht
        have ne : t ≠ s := by
          rintro rfl
          exact absent (Spacing.among_eq_true.1 ht)
        simp [fresh t (.inr ht), ne]
      have rest := ih (w.saying (reports options number line (Rule.spacing s.rule) (s.rule.columns line)))
        known' nodup' drawable' others
      simp only [Bool.or_assoc, ← Bool.and_or_distrib_left] at rest
      exact run_turns_cons_eq_ok.2 ⟨_, _, _, _, first, rest, rfl⟩

/-- Checking a line by different rules of the table when nobody is asked, or there is nothing to ask
about. -/
theorem run_check (number : Nat) (line : List Char) (w : World)
    (quiet : ∀ s : Spacing, s.rule.columns line ≠ [] → options.interactive = false)
    {rules : List Rule} (known : ∀ rule ∈ rules, rule ∈ table) (nodup : rules.Nodup)
    (drawable : ∀ rule ∈ rules, Drawable options (rule.columnsOn line)) :
    (check rules options number line).run w =
      .ok (if options.fix then respaced (Spacing.among rules) line else line,
          rules.map (Rule.countOn options.fix line))
        (w.saying (rules.flatMap fun rule => reports options number line rule (rule.columnsOn line))) := by
  have none : ∀ s, Spacing.among rules s = true → (fun _ => false : Spacing → Bool) s = false :=
    fun _ _ => rfl
  have run := run_turns number w quiet known nodup drawable none
  rw [respaced_none] at run
  rw [check_eq_turns options number line known, run]
  cases options.fix with
  | false => simp [respaced_none]
  | true => simp

end Line

end MatlabTidy
