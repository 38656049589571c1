import MatlabTidy.Proofs.Run.Turns

/-!
# The order of the rules

The order of the rules decides the order of the reports and nothing else: two orders of the same
rules give the same line and, rule by rule, the same counts (`Line.check_of_perm`). This holds because
the outcome of a line depends on the set of the rules only, by `Line.run_check`. A verbose check of a
line under which no ruler can be drawn ends with a failure, and then it does so in every order.
-/

namespace MatlabTidy

theorem Spacing.among_of_perm {rules rules' : List Rule} (perm : rules.Perm rules') :
    among rules = among rules' := by
  funext s
  rw [Bool.eq_iff_iff, among_eq_true, among_eq_true, perm.mem_iff]

namespace Line

open Rule (table)

variable {options : Options} {rules rules' : List Rule}

/-- A check that shows a ruler which cannot be drawn fails. -/
theorem run_check_eq_error (known : ∀ rule ∈ rules, rule ∈ table) (number : Nat) (text : List Char)
    (w : World) (undrawn : ¬ ∀ rule ∈ rules, Drawable options (rule.columnsOn text)) :
    ∃ failure w', (check rules options number text).run w = .error failure w' := by
  match h : (check rules options number text).run w with
  | .error failure w' => exact ⟨failure, w', rfl⟩
  | .ok (last, counts) w' =>
    rw [check_eq_turns options number text known] at h
    exact absurd (drawable_of_run_turns h) undrawn

/-- Only rulers under lines of at least `Columns.mostCells` characters cannot be drawn. -/
theorem mostCells_le_of_undrawn (known : ∀ rule ∈ rules, rule ∈ table) {text : List Char}
    (undrawn : ¬ ∀ rule ∈ rules, Drawable options (rule.columnsOn text)) :
    options.verbose = true ∧ Columns.mostCells ≤ text.length := by
  constructor
  · by_contra silent
    exact undrawn fun rule _ verbose => absurd verbose silent
  · by_contra small
    exact undrawn fun rule mem => drawable_of_length_lt options (known rule mem) (by omega)

/-- Two orders of the same rules of the table give the same line, the same counts for each rule and
the same reports up to their order. -/
theorem check_of_perm (perm : rules.Perm rules') (nodup : rules.Nodup)
    (known : ∀ rule ∈ rules, rule ∈ table) (quiet : options.interactive = false) (number : Nat)
    (text : List Char) (w : World) :
    (∃ line counts counts' events events',
      (check rules options number text).run w = .ok (line, counts) (w.saying events) ∧
      (check rules' options number text).run w = .ok (line, counts') (w.saying events') ∧
      counts.length = rules.length ∧ counts'.length = rules'.length ∧
      (∀ (i j : Nat) (rule : Rule), rules[i]? = some rule → rules'[j]? = some rule →
        counts[i]? = counts'[j]?) ∧
      events.Perm events' ∧ ∀ event ∈ events, ∃ v, event = .violation v) ∨
    (options.verbose = true ∧ Columns.mostCells ≤ text.length ∧
      (∃ failure w', (check rules options number text).run w = .error failure w') ∧
      ∃ failure w', (check rules' options number text).run w = .error failure w') := by
  have nodup' := perm.nodup_iff.1 nodup
  have known' : ∀ rule ∈ rules', rule ∈ table := fun rule mem => known rule (perm.mem_iff.2 mem)
  by_cases drawable : ∀ rule ∈ rules, Drawable options (rule.columnsOn text)
  · have drawable' : ∀ rule ∈ rules', Drawable options (rule.columnsOn text) := fun rule mem =>
      drawable rule (perm.mem_iff.2 mem)
    have run := run_check number text w (fun _ _ => quiet) known nodup drawable
    have run' := run_check number text w (fun _ _ => quiet) known' nodup' drawable'
    rw [← Spacing.among_of_perm perm] at run'
    refine .inl ⟨_, _, _, _, _, run, run', List.length_map _, List.length_map _, ?_, ?_, ?_⟩
    · intro i j rule hi hj
      rw [List.getElem?_map, List.getElem?_map, hi, hj]
    · exact perm.flatMap_right _
    · intro event mem
      obtain ⟨rule, -, mem⟩ := List.mem_flatMap.1 mem
      rw [reports] at mem
      split at mem
      · simp at mem
      · exact ⟨_, List.mem_singleton.1 mem⟩
  · have undrawn' : ¬ ∀ rule ∈ rules', Drawable options (rule.columnsOn text) := fun drawable' =>
      drawable fun rule mem => drawable' rule (perm.mem_iff.1 mem)
    obtain ⟨verbose, long⟩ := mostCells_le_of_undrawn known drawable
    exact .inr ⟨verbose, long, run_check_eq_error known number text w drawable,
      run_check_eq_error known' number text w undrawn'⟩

/-- The rules in their own order and backwards, on a line that most of them repair. -/
theorem check_table_reverse :
    ∃ line counts counts' events events',
      (check table ⟨false, false, true⟩ 1 "a  b=c,d".toList).run ⟨⟨[], [], []⟩, none, false, #[]⟩ =
        .ok (line, counts) (World.saying ⟨⟨[], [], []⟩, none, false, #[]⟩ events) ∧
      (check table.reverse ⟨false, false, true⟩ 1 "a  b=c,d".toList).run ⟨⟨[], [], []⟩, none, false, #[]⟩ =
        .ok (line, counts') (World.saying ⟨⟨[], [], []⟩, none, false, #[]⟩ events') ∧
      counts[3]? = counts'[1]? ∧ events.Perm events' := by
  rcases check_of_perm (List.reverse_perm table).symm Rule.nodup_table (fun _ mem => mem)
    (show Options.interactive ⟨false, false, true⟩ = false from rfl) 1 "a  b=c,d".toList
    ⟨⟨[], [], []⟩, none, false, #[]⟩ with
    ⟨line, counts, counts', events, events', run, run', -, -, same, perm, -⟩ | ⟨verbose, -⟩
  · exact ⟨line, counts, counts', events, events', run, run', same 3 1 _ rfl rfl, perm⟩
  · cases verbose

end Line

end MatlabTidy
