import MatlabTidy.Proofs.Run.Job

/-!
# The turn of a rule

The rules take their turns on a line one after the other (`Line.checkMatches_append`). In its turn a
rule that found something on the line as it was read reports it, and may then repair the line as it
is by now (`Line.turn`). `Line.Turn` lists what can come of a turn, whatever the operator answers;
`Line.run_turn_line` and `Line.run_turn_spacing` say what comes of it when nobody is asked.
-/

namespace MatlabTidy

/-- A rule finds its columns, if its search does not fail, and nothing changes. -/
theorem Criterion.run_search_eq_ok {R : Type} [Criterion R] {rule : R} {line : List Char} {found : Columns}
    {w w' : World} : (search rule line).run w = .ok found w' ↔ columns rule line = .ok found ∧ w' = w :=
  Job.run_ofExcept_eq_ok

/-- A rule of the table's kinds finds its columns, if it can be matched, and nothing changes. -/
theorem Rule.run_search_eq_ok {rule : Rule} {line : List Char} {columns : Columns} {w w' : World} :
    (Criterion.search rule line).run w = .ok columns w' ↔ rule.columns line = .ok columns ∧ w' = w := by
  refine Criterion.run_search_eq_ok.trans (and_congr_left' ?_)
  change (rule.columns line).mapError Failure.unknownRuleKind = .ok columns ↔ _
  cases rule.columns line with
  | ok columns' => exact ⟨congrArg _ ∘ Except.ok.inj, congrArg _ ∘ Except.ok.inj⟩
  | error kind => exact ⟨nofun, nofun⟩

namespace Line

variable {R : Type} [Criterion R]
variable {options : Options} {number : Nat} {asRead current next : List Char} {w w' : World}

/-- A report is made of a violation whose ruler, if it is shown, can be drawn. -/
theorem run_report_eq_ok {v : Violation} {u : Unit} :
    (report v).run w = .ok u w' ↔
      (v.verbose = true → ∃ ruler, v.columns.markers = .ok ruler) ∧ w' = w.saying [.violation v] := by
  rw [report, Job.run_bind_of_ok (Job.run_emit _)]
  by_cases verbose : v.verbose = true
  · simp only [verbose, if_true, Job.run_bind_eq_ok, Job.run_ofExcept_eq_ok, forall_const]
    constructor
    · rintro ⟨ruler, w₁, ⟨drawn, rfl⟩, h⟩
      cases h
      exact ⟨⟨ruler, drawn⟩, rfl⟩
    · rintro ⟨⟨ruler, drawn⟩, rfl⟩
      exact ⟨ruler, _, ⟨drawn, rfl⟩, rfl⟩
  · simp only [verbose, if_false, Bool.false_eq_true]
    constructor
    · intro h
      cases h
      exact ⟨nofun, rfl⟩
    · rintro ⟨-, rfl⟩
      rfl

/-- The operator has a key to press that accepts a fix. -/
def Willing (w : World) : Prop :=
  ∃ keys key, w.keys = some keys ∧ key ∈ keys ∧ FixPrompt.accepts key = true

/-- What the turns of rules leave as it was; keys are only used up. -/
structure Keeps (w w' : World) : Prop where
  volume : w'.volume = w.volume
  missingReported : w'.missingReported = w.missingReported
  willing : Willing w' → Willing w

theorem Keeps.refl (w : World) : Keeps w w := ⟨rfl, rfl, id⟩

theorem Keeps.trans {w₁ w₂ w₃ : World} (h : Keeps w₁ w₂) (h' : Keeps w₂ w₃) : Keeps w₁ w₃ :=
  ⟨h'.volume.trans h.volume, h'.missingReported.trans h.missingReported, h.willing ∘ h'.willing⟩

theorem Keeps.saying (w : World) (events : List Event) : Keeps w (w.saying events) := ⟨rfl, rfl, id⟩

/-- An answer uses a key up, and a fix is accepted by a key. -/
theorem keeps_of_confirm {prompt : FixPrompt} {accepted : Bool}
    (h : (Job.confirm prompt).run w = .ok accepted w') :
    Keeps w w' ∧ (accepted = true → Willing w) := by
  rw [Job.confirm, Job.run_bind_of_ok (Job.run_emit _), Job.run_bind_of_ok (EStateM.run_get _)] at h
  split at h
  · cases h
  · cases h
  · rename_i key rest pressed
    rw [Job.run_bind_of_ok (EStateM.run_set _ _), Job.run_bind_of_ok (Job.run_emit _)] at h
    cases h
    refine ⟨⟨rfl, rfl, ?_⟩, fun accepts => ⟨_, key, pressed, List.mem_cons_self, accepts⟩⟩
    rintro ⟨keys, key', left, mem, accepts⟩
    obtain rfl : rest = keys := Option.some.inj left
    exact ⟨_, key', pressed, List.mem_cons_of_mem _ mem, accepts⟩

/-- The fix of a rule of the table that has a repair. -/
theorem applyFix_spacing (line : List Char) (rule : SpacingRule) (columns : Columns) (interactive : Bool)
    (number : Int) :
    applyFix line (Rule.spacing rule) columns interactive number =
      (if columns.isEmpty || rule.fix line = line then return (line, false)
      else if !interactive then return (rule.fix line, true)
      else do
        if (← get).keys.isNone then throw .nobodyToAsk
        let markers ← Job.ofExcept .ruler columns.markers
        let accepted ← Job.confirm ⟨number, line, markers, rule.fix line, rule.reason⟩
        return if accepted then (rule.fix line, true) else (line, false)) := by
  change (if columns.isEmpty = true then _ else if rule.fix line = line then _ else _) = _
  by_cases none : columns.isEmpty = true
  · simp [none]
  · by_cases same : rule.fix line = line
    · simp [none, same]
    · simp only [none, same, Bool.or_eq_true, decide_eq_true_eq, if_false]
      rfl

/-- A fix is made whole or not at all, and an interactive fix only if the operator accepts it. -/
theorem applyFix_eq_ok {rule : SpacingRule} {columns : Columns} {interactive fixed : Bool}
    {number : Int}
    (h : (applyFix current (Rule.spacing rule) columns interactive number).run w = .ok (next, fixed) w') :
    ((fixed = false ∧ next = current) ∨
      (fixed = true ∧ next = rule.fix current ∧ rule.fix current ≠ current ∧
        (interactive = true → Willing w))) ∧
      Keeps w w' := by
  rw [applyFix_spacing] at h
  split at h
  · cases h
    exact ⟨.inl ⟨rfl, rfl⟩, .refl w⟩
  · rename_i worth
    simp only [Bool.or_eq_true, List.isEmpty_iff, decide_eq_true_eq, not_or] at worth
    split at h
    · rename_i quiet
      cases h
      exact ⟨.inr ⟨rfl, rfl, worth.2, fun asked => by simp [asked] at quiet⟩, .refl w⟩
    · rw [Job.run_bind_of_ok (EStateM.run_get _)] at h
      split at h
      · cases h
      rw [Job.run_bind_eq_ok] at h
      obtain ⟨ruler, w₁, drawn, h⟩ := h
      obtain ⟨-, rfl⟩ := Job.run_ofExcept_eq_ok.1 drawn
      rw [Job.run_bind_eq_ok] at h
      obtain ⟨accepted, w₃, answered, h⟩ := h
      obtain ⟨kept, willing⟩ := keeps_of_confirm answered
      cases accepted with
      | false =>
        cases h
        exact ⟨.inl ⟨rfl, rfl⟩, kept⟩
      | true =>
        cases h
        exact ⟨.inr ⟨rfl, rfl, worth.2, fun _ => willing rfl⟩, kept⟩

/-- The turn of one rule: it reports what it found on the line as it was read, and may fix the line
as it is by now. -/
def turn (options : Options) (number : Nat) (asRead : List Char) (rule : R) (columns : Columns)
    (current : List Char) : Job (List Char × Count) :=
  if columns.isEmpty then return (current, .zero)
  else do
    report ⟨number, asRead, columns, Criterion.reason rule, options.verbose⟩
    if options.fix && (Criterion.repair? rule).isSome then
      let again ← Criterion.search rule current
      let (next, fixed) ← applyFix current rule again options.interactive number
      return (next, ⟨columns.length, if fixed then columns.length else 0⟩)
    else
      return (current, ⟨columns.length, 0⟩)

/-- The turn of a rule of the table. -/
theorem turn_eq (options : Options) (number : Nat) (asRead : List Char) (rule : Rule) (columns : Columns)
    (current : List Char) :
    turn options number asRead rule columns current =
      if columns.isEmpty then return (current, .zero)
      else do
        report ⟨number, asRead, columns, Criterion.reason rule, options.verbose⟩
        match rule with
        | .spacing _ =>
          if options.fix then
            let again ← rule.search current
            let (next, fixed) ← applyFix current rule again options.interactive number
            return (next, ⟨columns.length, if fixed then columns.length else 0⟩)
          else
            return (current, ⟨columns.length, 0⟩)
        | _ => return (current, ⟨columns.length, 0⟩) := by
  unfold turn
  cases rule with
  | spacing rule => simp [Criterion.repair?, Rule.search]
  | line rule => simp [Criterion.repair?]
  | other kind reason => simp [Criterion.repair?]

@[simp] theorem checkMatches_nil (options : Options) (number : Nat) (asRead current : List Char) :
    checkMatches (R := R) options number asRead [] current = pure (current, []) := rfl

/-- The first rule takes its turn, and then the others. -/
theorem checkMatches_cons (options : Options) (number : Nat) (asRead : List Char) (rule : R)
    (columns : Columns) (rest : List (R × Columns)) (current : List Char) :
    checkMatches options number asRead ((rule, columns) :: rest) current = (do
      let (next, count) ← turn options number asRead rule columns current
      let (line, counts) ← checkMatches options number asRead rest next
      return (line, count :: counts)) := by
  by_cases quiet : columns.isEmpty = true
  · simp [checkMatches, turn, quiet]
  · by_cases fix : (options.fix && (Criterion.repair? rule).isSome) = true
    · simp [checkMatches, turn, quiet, fix]
    · simp [checkMatches, turn, quiet, fix]

/-- Two lists of rules take their turns one after the other. -/
theorem checkMatches_append (options : Options) (number : Nat) (asRead : List Char)
    (first second : List (R × Columns)) (current : List Char) :
    checkMatches options number asRead (first ++ second) current = (do
      let (middle, counts) ← checkMatches options number asRead first current
      let (last, others) ← checkMatches options number asRead second middle
      return (last, counts ++ others)) := by
  induction first generalizing current with
  | nil => simp
  | cons found first ih =>
    obtain ⟨rule, columns⟩ := found
    rw [List.cons_append, checkMatches_cons, checkMatches_cons]
    simp [ih]

/-- Whether fixes may be made: the run fixes, and the operator accepts a fix if asked. -/
def Allowed (options : Options) (w : World) : Prop :=
  options.fix = true ∧ (options.interactive = true → Willing w)

theorem Allowed.mono (kept : Keeps w w') (h : Allowed options w') : Allowed options w :=
  ⟨h.1, kept.willing ∘ h.2⟩

/-- What can come of the turn of a rule that found the columns on the line as it was read. -/
inductive Turn (options : Options) (w : World) (current : List Char) :
    Rule → Columns → List Char → Count → Prop where
  /-- The line stays as it is. -/
  | kept (rule : Rule) (columns : Columns) :
      Turn options w current rule columns current ⟨columns.length, 0⟩
  /-- The line is fixed. -/
  | fixed (rule : SpacingRule) (columns : Columns) (allowed : Allowed options w)
      (found : columns ≠ []) (changed : rule.fix current ≠ current) :
      Turn options w current (.spacing rule) columns (rule.fix current) ⟨columns.length, columns.length⟩

/-- Whatever the operator answers, the line is fixed by the rule or stays as it is. -/
theorem turn_of_run {rule : Rule} {columns : Columns} {count : Count}
    (h : (turn options number asRead rule columns current).run w = .ok (next, count) w') :
    Turn options w current rule columns next count ∧ Keeps w w' := by
  rw [turn_eq] at h
  split at h
  · rename_i quiet
    rw [List.isEmpty_iff] at quiet
    subst quiet
    cases h
    exact ⟨.kept rule [], .refl w⟩
  · rename_i found
    rw [List.isEmpty_iff] at found
    rw [Job.run_bind_eq_ok] at h
    obtain ⟨_, w₁, reported, h⟩ := h
    obtain ⟨-, rfl⟩ := run_report_eq_ok.1 reported
    cases rule with
    | spacing rule =>
      dsimp only at h
      split at h
      · rename_i fixing
        rw [Job.run_bind_eq_ok] at h
        obtain ⟨again, w₂, searched, h⟩ := h
        cases searched
        rw [Job.run_bind_eq_ok] at h
        obtain ⟨⟨line, fixed⟩, w₃, applied, h⟩ := h
        obtain ⟨outcome, kept⟩ := applyFix_eq_ok applied
        rcases outcome with ⟨rfl, rfl⟩ | ⟨rfl, rfl, changed, willing⟩
        · cases h
          exact ⟨.kept _ columns, (Keeps.saying w _).trans kept⟩
        · cases h
          exact ⟨.fixed rule columns ⟨fixing, willing⟩ found changed, (Keeps.saying w _).trans kept⟩
      · cases h
        exact ⟨.kept _ columns, .saying w _⟩
    | line rule =>
      cases h
      exact ⟨.kept _ columns, .saying w _⟩
    | other kind reason =>
      cases h
      exact ⟨.kept _ columns, .saying w _⟩

/-- What every repair keeps is kept by a turn. -/
theorem turn_keeps {P : List Char → Prop} (kept : ∀ (rule : SpacingRule) line, P line → P (rule.fix line))
    {rule : Rule} {columns : Columns} {count : Count} (holds : P current)
    (h : (turn options number asRead rule columns current).run w = .ok (next, count) w') : P next := by
  obtain ⟨outcome, -⟩ := turn_of_run h
  cases outcome with
  | kept => exact holds
  | fixed rule => exact kept rule current holds

theorem checkMatches_keeps {P : List Char → Prop} (kept : ∀ (rule : SpacingRule) line, P line → P (rule.fix line))
    {asRead current last : List Char} {found : List (Rule × Columns)} {counts : List Count} (holds : P current)
    (h : (checkMatches options number asRead found current).run w = .ok (last, counts) w') : P last := by
  induction found generalizing current w counts with
  | nil =>
    cases h
    exact holds
  | cons first rest ih =>
    obtain ⟨rule, columns⟩ := first
    rw [checkMatches_cons] at h
    obtain ⟨⟨next, count⟩, w₁, turned, h⟩ := Job.run_bind_eq_ok.1 h
    obtain ⟨⟨last', others⟩, w₂, behind, h⟩ := Job.run_bind_eq_ok.1 h
    cases h
    exact ih (turn_keeps kept holds turned) behind

/-- The report of a rule that found the columns on a line, if there is anything to report. -/
def reports (options : Options) (number : Nat) (asRead : List Char) (rule : R) (columns : Columns) :
    List Event :=
  if columns.isEmpty then []
  else [.violation ⟨number, asRead, columns, Criterion.reason rule, options.verbose⟩]

/-- A ruler under the columns, if one is shown, can be drawn. -/
def Drawable (options : Options) (columns : Columns) : Prop :=
  options.verbose = true → ∃ ruler, columns.markers = .ok ruler

/-- A turn that reports a ruler is over only if the ruler could be drawn. -/
theorem drawable_of_run {rule : R} {columns : Columns} {count : Count}
    (h : (turn options number asRead rule columns current).run w = .ok (next, count) w') :
    Drawable options columns := by
  unfold turn at h
  split at h
  · rename_i quiet
    rw [List.isEmpty_iff] at quiet
    subst quiet
    exact fun _ => ⟨[], rfl⟩
  · rw [Job.run_bind_eq_ok] at h
    obtain ⟨_, w₁, reported, -⟩ := h
    exact (run_report_eq_ok.1 reported).1

section Quiet

variable (number asRead current)
variable {columns : Columns} (drawable : Drawable options columns) (w)
include drawable

theorem run_report_of_drawable (rule : R) :
    (report ⟨number, asRead, columns, Criterion.reason rule, options.verbose⟩).run w =
      .ok () (w.saying [.violation ⟨number, asRead, columns, Criterion.reason rule, options.verbose⟩]) :=
  run_report_eq_ok.2 ⟨drawable, rfl⟩

/-- A rule without a repair only reports. -/
theorem run_turn_line (rule : LineRule) :
    (turn options number asRead (Rule.line rule) columns current).run w =
      .ok (current, ⟨columns.length, 0⟩)
        (w.saying (reports options number asRead (Rule.line rule) columns)) := by
  rw [turn_eq]
  unfold reports
  by_cases found : columns.isEmpty = true
  · rw [if_pos found, if_pos found, List.isEmpty_iff.1 found, World.saying_nil]
    rfl
  · rw [if_neg found, if_neg found,
      Job.run_bind_of_ok (run_report_of_drawable number asRead w drawable (Rule.line rule))]
    rfl

/-- A spacing rule that asks nobody fixes what it finds, if there is something to fix. -/
theorem run_turn_spacing (rule : SpacingRule) (quiet : columns ≠ [] → options.interactive = false)
    (still : columns ≠ [] → rule.columns current ≠ [] ∧ rule.fix current ≠ current)
    (none : columns = [] → rule.fix current = current) :
    (turn options number asRead (Rule.spacing rule) columns current).run w =
      .ok (if options.fix then rule.fix current else current,
          ⟨columns.length, if options.fix then columns.length else 0⟩)
        (w.saying (reports options number asRead (Rule.spacing rule) columns)) := by
  rw [turn_eq]
  unfold reports
  by_cases found : columns = []
  · subst found
    rw [none rfl]
    simp [Count.zero]
  · have worth : ¬ columns.isEmpty = true := by simpa using found
    obtain ⟨again, changed⟩ := still found
    rw [if_neg worth, if_neg worth,
      Job.run_bind_of_ok (run_report_of_drawable number asRead w drawable (Rule.spacing rule))]
    by_cases fix : options.fix = true
    · have search : ∀ w : World, ((Rule.spacing rule).search current).run w =
          .ok (rule.columns current) w := fun _ => rfl
      have apply : ∀ w : World, (applyFix current (Rule.spacing rule) (rule.columns current)
          options.interactive number).run w = .ok (rule.fix current, true) w := by
        intro w
        have empty : (rule.columns current).isEmpty = false := by simpa using again
        simp [applyFix_spacing, empty, changed, quiet found]
      simp only [fix, if_true]
      rw [Job.run_bind_of_ok (search _), Job.run_bind_of_ok (apply _)]
      rfl
    · simp only [fix, Bool.false_eq_true, if_false]
      rfl

end Quiet

end Line

end MatlabTidy
