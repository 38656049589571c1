import MatlabTidy.Proofs.Checker.Streams

/-!
# Calls of the code checker, one after the other

A call of the code checker may leave a warning (`Checker.complaint`), and all that it leaves for the next call is
whether the operator knows that the code checker is missing. `Checker.run_check` says this of one call and
`Checker.run_checkAll` of a series, in which a missing code checker is complained about once (`Checker.complaints`).
`Checker.checkAll_outcome` tells where in the series that is, and that no call has an influence on what
another one comes to.
-/

namespace MatlabTidy

/-- The warnings of an event. -/
def Event.warnings (event : Event) : List LogRecord := event.records.filter (·.level = .warning)

namespace World

/-- The warnings so far. -/
def warnings (w : World) : List LogRecord := w.events.toList.flatMap Event.warnings

theorem warnings_saying (w : World) (events : List Event) :
    (w.saying events).warnings = w.warnings ++ events.flatMap Event.warnings := by
  simp [warnings, saying]

end World

namespace Checker

variable (checker : Checker) {file : String} {outcome : ProcessOutcome} {w : World}

/-- A file and what the call for it came to. -/
abbrev Call := String × ProcessOutcome

/-- Asks for the assessments of files, one after the other. -/
def checkAll : List Call → Job (List Assessment)
  | [] => return []
  | (file, outcome) :: calls => do
    let assessment ← checker.check file outcome
    let others ← checkAll calls
    return assessment :: others

/-- The assessment that an outcome amounts to. -/
def assessmentOf : ProcessOutcome → Assessment
  | .finished output errors =>
    ⟨Score.total (checker.counted (joinStreams output errors)),
      (Advisory.ofOutput (joinStreams output errors).toList).map (String.ofList ∘ Advisory.text)⟩
  | _ => .none

/-- A warning, in the log of the program or of the checking. -/
def warningRecord (message : String) : LogRecord :=
  ⟨.warning, if checker.announces then .program else .checking, message⟩

/-- The warning that the code checker is missing. -/
def notFound : LogRecord :=
  let program := checker.command.headD ""
  checker.warningRecord (s!"Code checker '{program}' not found; complexity scores will be 0. "
    ++ "Install MATLAB or set checker_command in [tool.matlab-style].")

/-- The warning that a call deserves. -/
def complaint : Call → Option LogRecord
  | (_, .finished _ _) => none
  | (_, .missing) => some checker.notFound
  | (file, .timedOut) => some (checker.warningRecord s!"Code checker timed out after {checker.timeout}s on {file}")
  | (file, .refused cause) => some (checker.warningRecord s!"Code checker failed on {file}: {cause}")

/-- The warnings of a series of calls; `known` tells whether the operator knows that the code checker is missing. -/
def complaints : (known : Bool) → List Call → List LogRecord
  | _, [] => []
  | known, call :: calls =>
    (if known && call.2 = .missing then [] else (checker.complaint call).toList) ++
      complaints (known || call.2 = .missing) calls

theorem warnings_warningOf (message : String) :
    (Scan.warningOf checker message).warnings = [checker.warningRecord message] := by
  unfold Scan.warningOf warningRecord
  split <;> rfl

/-- What a call comes to depends on nothing but its outcome. -/
theorem run_check (short : ∀ digits ∈ checker.numbersOf outcome, digits.length ≤ Text.mostDigits) (file : String)
    (w : World) :
    ∃ w', (checker.check file outcome).run w = .ok (checker.assessmentOf outcome) w' ∧
      w'.missingReported = (w.missingReported || outcome = .missing) ∧
      w'.warnings = w.warnings ++
        if w.missingReported && outcome = .missing then [] else (checker.complaint (file, outcome)).toList := by
  cases outcome with
  | finished output errors =>
    have assessed : checker.assess (joinStreams output errors) = .ok (checker.assessmentOf (.finished output errors)) :=
      assess_eq_ok_iff.2 ⟨short, rfl⟩
    refine ⟨_, (Job.run_bind_of_ok (Job.run_log _ _ _)).trans (by rw [assessed]; rfl), ?_, ?_⟩
    · simp [World.saying]
    · rw [World.warnings_saying]
      simp [complaint, Event.warnings, Event.records]
  | missing =>
    unfold check
    dsimp only
    rw [Job.run_bind_of_ok (EStateM.run_get w)]
    cases known : w.missingReported with
    | false =>
      rw [Bool.not_false, if_pos rfl, Job.run_bind_of_ok (Scan.run_warn checker _ w)]
      refine ⟨_, rfl, ?_, ?_⟩
      · simp
      · rw [show World.warnings { w.saying _ with missingReported := true } = (w.saying _).warnings from rfl,
          World.warnings_saying]
        simp [complaint, notFound, warnings_warningOf]
    | true => exact ⟨w, rfl, by simp [known], by simp⟩
  | timedOut | refused =>
    refine ⟨_, run_warn_none checker _ w, ?_, ?_⟩
    · simp [World.saying]
    · rw [World.warnings_saying]
      simp [complaint, warnings_warningOf]

/-- A series of calls: each one is assessed by itself, and the warnings are those of `complaints`. -/
theorem run_checkAll {calls : List Call}
    (short : ∀ call ∈ calls, ∀ digits ∈ checker.numbersOf call.2, digits.length ≤ Text.mostDigits) (w : World) :
    ∃ w', (checker.checkAll calls).run w = .ok (calls.map fun call => checker.assessmentOf call.2) w' ∧
      w'.warnings = w.warnings ++ checker.complaints w.missingReported calls := by
  induction calls generalizing w with
  | nil => exact ⟨w, rfl, (List.append_nil _).symm⟩
  | cons call calls ih =>
    obtain ⟨file, outcome⟩ := call
    rw [List.forall_mem_cons] at short
    obtain ⟨w₁, first, reported, told⟩ := checker.run_check short.1 file w
    obtain ⟨w₂, others, toldThen⟩ := ih short.2 w₁
    refine ⟨w₂, ?_, ?_⟩
    · rw [checkAll, Job.run_bind_of_ok first, Job.run_bind_of_ok others]
      rfl
    · rw [toldThen, told, reported, complaints, List.append_assoc]

section Complaints

variable {calls : List Call}

theorem complaints_of_present (present : ∀ call ∈ calls, call.2 ≠ .missing) (known : Bool) :
    checker.complaints known calls = calls.filterMap checker.complaint := by
  induction calls with
  | nil => rfl
  | cons call calls ih =>
    rw [List.forall_mem_cons] at present
    rw [complaints, decide_eq_false present.1, Bool.and_false, Bool.or_false, ih present.2, List.filterMap_cons]
    cases checker.complaint call <;> rfl

theorem complaints_append (front back : List Call) (known : Bool) :
    checker.complaints known (front ++ back) = checker.complaints known front ++
      checker.complaints (known || front.any (·.2 = .missing)) back := by
  induction front generalizing known with
  | nil => simp [complaints]
  | cons call front ih =>
    rw [List.cons_append, complaints, ih, complaints, List.append_assoc, List.any_cons, Bool.or_assoc]

/-- Once the operator knows that the code checker is missing, the calls that do not find it say nothing. -/
theorem complaints_of_known (calls : List Call) :
    checker.complaints true calls = (calls.filter (·.2 ≠ .missing)).filterMap checker.complaint := by
  induction calls with
  | nil => rfl
  | cons call calls ih =>
    rw [complaints, Bool.true_or, ih]
    by_cases missing : call.2 = .missing
    · simp [missing]
    · rw [List.filter_cons_of_pos (by simpa using missing), List.filterMap_cons]
      cases complained : checker.complaint call <;> simp [missing]

/-- Other warnings than that of a missing code checker have another text. -/
theorem notFound_ne_of_complaint {call : Call} {record : LogRecord} (present : call.2 ≠ .missing)
    (complained : checker.complaint call = some record) : record ≠ checker.notFound := by
  obtain ⟨file, outcome⟩ := call
  -- The texts part after the words "Code checker ".
  intro same
  cases outcome with
  | finished output errors => cases complained
  | missing => exact present rfl
  | timedOut =>
    cases complained
    have letter := congrArg (fun record => record.message.toList[13]?) same
    simp [notFound, warningRecord, toString] at letter
  | refused cause =>
    cases complained
    have letter := congrArg (fun record => record.message.toList[13]?) same
    simp [notFound, warningRecord, toString] at letter

theorem count_notFound_of_present (present : ∀ call ∈ calls, call.2 ≠ .missing) :
    (calls.filterMap checker.complaint).count checker.notFound = 0 := by
  refine List.count_eq_zero.2 fun mem => ?_
  obtain ⟨call, member, complained⟩ := List.mem_filterMap.1 mem
  exact checker.notFound_ne_of_complaint (present call member) complained rfl

/-- The first call that does not find the code checker is the only one that says so. -/
theorem complaints_of_missing {front back : List Call} {file : String}
    (present : ∀ call ∈ front, call.2 ≠ .missing) :
    checker.complaints false (front ++ (file, .missing) :: back) = front.filterMap checker.complaint ++
      checker.notFound :: (back.filter (·.2 ≠ .missing)).filterMap checker.complaint := by
  have none : front.any (·.2 = .missing) = false := by
    simpa using fun file' outcome mem => present (file', outcome) mem
  rw [complaints_append, complaints_of_present checker present, none, Bool.or_false, complaints, Bool.false_and,
    decide_eq_true rfl, Bool.false_or, complaints_of_known]
  rfl

theorem exists_first_missing (missing : ∃ call ∈ calls, call.2 = .missing) :
    ∃ front file back, calls = front ++ (file, .missing) :: back ∧ ∀ call ∈ front, call.2 ≠ .missing := by
  obtain ⟨call, mem, outcome⟩ := missing
  cases found : calls.find? (·.2 = .missing) with
  | none => exact absurd (decide_eq_true outcome) (List.find?_eq_none.1 found call mem)
  | some first =>
    obtain ⟨file, _⟩ := first
    obtain ⟨isMissing, front, back, split, present⟩ := List.find?_eq_some_iff_append.1 found
    cases of_decide_eq_true isMissing
    exact ⟨front, file, back, split, fun call mem => by simpa using present call mem⟩

theorem count_notFound_complaints (calls : List Call) :
    (checker.complaints false calls).count checker.notFound = if ∃ call ∈ calls, call.2 = .missing then 1 else 0 := by
  split
  next missing =>
    obtain ⟨front, file, back, rfl, present⟩ := exists_first_missing missing
    have others : ∀ call ∈ back.filter (·.2 ≠ .missing), call.2 ≠ .missing := by simp
    rw [complaints_of_missing checker present, List.count_append, List.count_cons_self,
      checker.count_notFound_of_present present, checker.count_notFound_of_present others]
  next present =>
    have present : ∀ call ∈ calls, call.2 ≠ .missing := fun call mem missing => present ⟨call, mem, missing⟩
    rw [complaints_of_present checker present, checker.count_notFound_of_present present]

end Complaints

/-- In a series of calls, each assessment is that of the call's own outcome. Every call that times out or is
refused leaves a warning of its own. The first call that does not find the code checker leaves the warning that
it is missing, and there is no such warning otherwise. -/
theorem checkAll_outcome {calls : List Call} (fresh : w.missingReported = false)
    (short : ∀ call ∈ calls, ∀ digits ∈ checker.numbersOf call.2, digits.length ≤ Text.mostDigits) :
    ∃ w' told, (checker.checkAll calls).run w = .ok (calls.map fun call => checker.assessmentOf call.2) w' ∧
      w'.warnings = w.warnings ++ told ∧
      ((∀ call ∈ calls, call.2 ≠ .missing) → told = calls.filterMap checker.complaint) ∧
      (∀ front file back, calls = front ++ (file, .missing) :: back → (∀ call ∈ front, call.2 ≠ .missing) →
        told = front.filterMap checker.complaint ++
          checker.notFound :: (back.filter (·.2 ≠ .missing)).filterMap checker.complaint) ∧
      told.count checker.notFound = if ∃ call ∈ calls, call.2 = .missing then 1 else 0 := by
  obtain ⟨w', run, warnings⟩ := checker.run_checkAll short w
  rw [fresh] at warnings
  refine ⟨w', _, run, warnings, fun present => checker.complaints_of_present present false, ?_,
    checker.count_notFound_complaints calls⟩
  rintro front file back rfl present
  exact checker.complaints_of_missing present

/-- The code checker is missing twice, between two calls that trouble it otherwise. -/
def troubledCalls : List Call :=
  [("a.m", .timedOut), ("b.m", .missing), ("c.m", .finished "L 3 (C 1): McCabe complexity of f is 7" ""),
    ("d.m", .missing), ("e.m", .refused "Permission denied")]

/-- A call that times out, two that do not find the code checker, one that finds something and one that is refused:
the operator is told about the missing code checker once. -/
theorem checkAll_outcome_troubled :
    (∀ call ∈ troubledCalls, ∀ digits ∈ numbersOf ⟨["mlint"], false, 120, true⟩ call.2,
      digits.length ≤ Text.mostDigits) ∧
    ∃ w', (checkAll ⟨["mlint"], false, 120, true⟩ troubledCalls).run ⟨⟨[], [], []⟩, none, false, #[]⟩ =
        .ok [⟨0, []⟩, ⟨0, []⟩, ⟨7, ["L 3 (C 1): McCabe complexity of f is 7"]⟩, ⟨0, []⟩, ⟨0, []⟩] w' ∧
      w'.warnings.map (·.message) = ["Code checker timed out after 120s on a.m",
        "Code checker 'mlint' not found; complexity scores will be 0. "
          ++ "Install MATLAB or set checker_command in [tool.matlab-style].",
        "Code checker failed on e.m: Permission denied"] := by
  have short : ∀ call ∈ troubledCalls, ∀ digits ∈ numbersOf ⟨["mlint"], false, 120, true⟩ call.2,
      digits.length ≤ Text.mostDigits := by
    decide +kernel
  obtain ⟨w', told, run, warnings, -, first, -⟩ :=
    checkAll_outcome ⟨["mlint"], false, 120, true⟩ (w := ⟨⟨[], [], []⟩, none, false, #[]⟩) rfl short
  have told := first [("a.m", .timedOut)] "b.m" _ rfl (by decide)
  refine ⟨short, w', run.trans (congrArg (EStateM.Result.ok · w') ?_), ?_⟩
  · decide +kernel
  · rw [warnings, told]
    decide +kernel

end Checker

end MatlabTidy
