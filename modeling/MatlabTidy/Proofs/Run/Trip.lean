import MatlabTidy.Proofs.Report.Totals
import MatlabTidy.Proofs.Run.Restoration
import MatlabTidy.Run.Walk

/-!
# The walk as a sequence of visits

The steps of an itinerary form a tree; `Step.scanned` lists the files that they scan, in the order in
which they are carried out. A walk that ends well has visited exactly these files, one after the other
(`Walk.Trip`), and its report holds what the visits left (`Walk.trip_of_runSteps`). A walk that fails was
stopped in the course of such a trip, by the scan of a file or by a folder that cannot be listed
(`Walk.stopped_of_runSteps`).
-/

namespace MatlabTidy

namespace Step

mutual

/-- The step and the steps inside of it, in the order in which they are carried out. -/
def all : Step → List Step
  | .enter path steps => .enter path steps :: allOf steps
  | step => [step]

/-- The steps and the steps inside of them, in the order in which they are carried out. -/
def allOf : List Step → List Step
  | [] => []
  | step :: rest => step.all ++ allOf rest

end

/-- The file that the step scans. -/
def scanned? : Step → Option String
  | .scan path => some path
  | _ => none

/-- The folder that the step enters. -/
def entered? : Step → Option String
  | .enter path _ => some path
  | _ => none

/-- Why the step fails. -/
def failed? : Step → Option Failure
  | .fail failure => some failure
  | _ => none

/-- The files that the steps scan. -/
def scanned (steps : List Step) : List String := (allOf steps).filterMap scanned?

/-- The folders that the steps enter. -/
def entered (steps : List Step) : List String := (allOf steps).filterMap entered?

/-- The failures of the steps. -/
def failures (steps : List Step) : List Failure := (allOf steps).filterMap failed?

variable (step : Step) (path : String) (steps rest : List Step)

theorem allOf_singleton : allOf [step] = step.all := by
  rw [allOf, allOf, List.append_nil]

theorem scanned_cons : scanned (step :: rest) = scanned [step] ++ scanned rest := by
  rw [scanned, allOf, List.filterMap_append, scanned, allOf_singleton, scanned]

theorem entered_cons : entered (step :: rest) = entered [step] ++ entered rest := by
  rw [entered, allOf, List.filterMap_append, entered, allOf_singleton, entered]

theorem failures_cons : failures (step :: rest) = failures [step] ++ failures rest := by
  rw [failures, allOf, List.filterMap_append, failures, allOf_singleton, failures]

theorem scanned_enter : scanned [.enter path steps] = scanned steps := by
  rw [scanned, allOf_singleton, all, List.filterMap_cons_none rfl, scanned]

theorem entered_enter : entered [.enter path steps] = path :: entered steps := by
  rw [entered, allOf_singleton, all]
  exact List.filterMap_cons_some rfl

theorem failures_enter : failures [.enter path steps] = failures steps := by
  rw [failures, allOf_singleton, all, List.filterMap_cons_none rfl, failures]

end Step

namespace Walk

/-- How the visit of a file ends, if it does not stop the walk. -/
inductive Outcome where
  | scanned (report : FileReport)
  /-- The file was scanned, but could not be replaced. -/
  | unreplaced (report : FileReport)
  | unreadable (failure : Failure)

namespace Outcome

/-- What the visit adds to the report of the walk. -/
def report? : Outcome → Option FileReport
  | .scanned report => some report
  | .unreplaced report => some report.withoutFixes
  | .unreadable _ => none

/-- The report of the walk after the visit. -/
def mergeInto (outcome : Outcome) (a : Aggregate) : Aggregate :=
  match outcome.report? with
  | some report => a.merge (.file report)
  | none => a

theorem files_mergeInto (outcome : Outcome) (a : Aggregate) :
    (outcome.mergeInto a).files = a.files ++ outcome.report?.toList := by
  unfold mergeInto
  cases outcome.report? with
  | some report => exact a.files_merge _
  | none => exact (List.append_nil _).symm

theorem sound_mergeInto (outcome : Outcome) {a : Aggregate} (h : a.Sound) : (outcome.mergeInto a).Sound := by
  unfold mergeInto
  cases outcome.report? with
  | some report => exact h.merge_file report
  | none => exact h

end Outcome

/-- The name under which a walk shows a path. -/
def Plan.shown (plan : Plan) (w : World) (path : String) : String :=
  Path.displayName w.volume.hereText path (some plan.root)

/-- What the scan of a file comes to, when the walk gets there. -/
def Plan.attempt (plan : Plan) (path : String) (w : World) : EStateM.Result Failure World FileReport :=
  (plan.scan path (plan.shown w path)).run
    (w.saying [.notice .info s!"Evaluating: {plan.shown w path}"])

/-- The visit of a file that does not stop the walk. -/
inductive Visit (plan : Plan) (path : String) (w : World) : Outcome → World → Prop where
  | scanned {report : FileReport} {w' : World} (run : plan.attempt path w = .ok report w') :
      Visit plan path w (.scanned report) w'
  | unreplaced {failure : Failure} {report : FileReport} {w' : World}
      (run : plan.attempt path w = .error failure w') (carries : failure.report? = some report) :
      Visit plan path w (.unreplaced report)
        (w'.saying [.notice .error s!"{failure.message}. Original file left unchanged."])
  | unreadable {failure : Failure} {w' : World} (run : plan.attempt path w = .error failure w')
      (trouble : failure.isFileTrouble = true) :
      Visit plan path w (.unreadable failure)
        (w'.saying [.notice .error s!"Could not read {plan.shown w path}: {failure.message}"])

/-- The scan of a file that stops the walk. -/
structure Halt (plan : Plan) (path : String) (w : World) (failure : Failure) (w' : World) : Prop where
  run : plan.attempt path w = .error failure w'
  bare : failure.report? = none
  grave : failure.isFileTrouble = false

variable {plan : Plan} {path : String} {a a' : Aggregate} {w w' : World} {failure : Failure}

/-- What becomes of the walk when the scan of a file has failed. -/
def Plan.recover (a : Aggregate) (name : String) (failure : Failure) : Job Aggregate := do
  match failure with
  | .replaceFailed _ report _ =>
    Job.notify .error s!"{failure.message}. Original file left unchanged."
    return a.merge (.file report.withoutFixes)
  | _ =>
    if failure.isFileTrouble then
      Job.notify .error s!"Could not read {name}: {failure.message}"
      return a
    else
      throw failure

/-- A failure that is the trouble of one file does not carry a report. -/
theorem report?_of_isFileTrouble (h : failure.isFileTrouble = true) : failure.report? = none := by
  cases failure with
  | replaceFailed => cases h
  | _ => rfl

theorem recover_of_report {report : FileReport} (name : String) (h : failure.report? = some report) :
    Plan.recover a name failure = (do
      Job.notify .error s!"{failure.message}. Original file left unchanged."
      return a.merge (.file report.withoutFixes)) := by
  cases failure <;> cases h
  rfl

theorem recover_of_bare (name : String) (h : failure.report? = none) :
    Plan.recover a name failure = if failure.isFileTrouble then do
        Job.notify .error s!"Could not read {name}: {failure.message}"
        return a
      else throw failure := by
  unfold Plan.recover
  split
  · cases h
  · rfl

theorem run_mergeFile (plan : Plan) (a : Aggregate) (path : String) (w : World) :
    (plan.mergeFile a path).run w = match plan.attempt path w with
      | .ok report w' => .ok (a.merge (.file report)) w'
      | .error failure w' => (Plan.recover a (plan.shown w path) failure).run w' := by
  have named : (plan.nameOf path).run w = .ok (plan.shown w path) w := rfl
  have told : (Job.notify .info s!"Evaluating: {plan.shown w path}").run w =
      .ok () (w.saying [.notice .info s!"Evaluating: {plan.shown w path}"]) := Job.run_emit _
  rw [Plan.mergeFile, Job.run_bind_of_ok named, Job.run_bind_of_ok told, Job.run_tryCatch, EStateM.run_bind]
  unfold Plan.attempt
  cases (plan.scan path (plan.shown w path)).run
    (w.saying [.notice .info s!"Evaluating: {plan.shown w path}"]) with
  | ok report w' => rfl
  | error failure w' => rfl

/-- A file is visited, or the walk stops there. -/
theorem run_mergeFile_cases (plan : Plan) (a : Aggregate) (path : String) (w : World) :
    (∃ outcome w', Visit plan path w outcome w' ∧
      (plan.mergeFile a path).run w = .ok (outcome.mergeInto a) w') ∨
    ∃ failure w', Halt plan path w failure w' ∧ (plan.mergeFile a path).run w = .error failure w' := by
  rw [run_mergeFile]
  cases run : plan.attempt path w with
  | ok report w' => exact .inl ⟨.scanned report, w', .scanned run, rfl⟩
  | error failure w' =>
    dsimp only
    cases carries : failure.report? with
    | some report =>
      refine .inl ⟨.unreplaced report, _, .unreplaced run carries, ?_⟩
      rw [recover_of_report _ carries]
      exact Job.run_bind_of_ok (Job.run_emit _)
    | none =>
      rw [recover_of_bare _ carries]
      cases trouble : failure.isFileTrouble with
      | true => exact .inl ⟨.unreadable failure, _, .unreadable run trouble, Job.run_bind_of_ok (Job.run_emit _)⟩
      | false => exact .inr ⟨failure, w', ⟨run, carries, trouble⟩, rfl⟩

/-- The visits of a walk, one after the other. In between, the walk speaks. -/
inductive Trip (plan : Plan) : World → List (String × Outcome) → World → Prop where
  | done (w : World) : Trip plan w [] w
  | say {w w' : World} {events : List Event} {visits : List (String × Outcome)}
      (quiet : ∀ event ∈ events, event.isAlarm = false) (rest : Trip plan (w.saying events) visits w') :
      Trip plan w visits w'
  | visit {w w₁ w' : World} {path : String} {outcome : Outcome} {visits : List (String × Outcome)}
      (here : Visit plan path w outcome w₁) (rest : Trip plan w₁ visits w') :
      Trip plan w ((path, outcome) :: visits) w'

namespace Trip

variable {visits more : List (String × Outcome)} {w₁ : World}

theorem append (h : Trip plan w visits w₁) (h' : Trip plan w₁ more w') : Trip plan w (visits ++ more) w' := by
  induction h with
  | done w => exact h'
  | say quiet _ ih => exact .say quiet (ih h')
  | visit here _ ih => exact .visit here (ih h')

theorem saying (event : Event) (quiet : event.isAlarm = false) : Trip plan w [] (w.saying [event]) :=
  .say (List.forall_mem_singleton.2 quiet) (.done _)

end Trip

/-- The reports that visits leave. -/
def reportsOf (visits : List (String × Outcome)) : List FileReport := visits.filterMap fun visit => visit.2.report?

/-- The steps were carried out: none of them fails, the walk has visited the files that they scan, and its
report has grown by what the visits left. -/
structure Done (plan : Plan) (steps : List Step) (a : Aggregate) (w : World) (visits : List (String × Outcome))
    (a' : Aggregate) (w' : World) : Prop where
  trip : Trip plan w visits w'
  paths : visits.map Prod.fst = Step.scanned steps
  files : a'.files = a.files ++ reportsOf visits
  sound : a.Sound → a'.Sound
  fails : Step.failures steps = []

theorem Done.append {step : Step} {rest : List Step} {visits more : List (String × Outcome)}
    {a₁ : Aggregate} {w₁ : World} (h : Done plan [step] a w visits a₁ w₁) (h' : Done plan rest a₁ w₁ more a' w') :
    Done plan (step :: rest) a w (visits ++ more) a' w' where
  trip := h.trip.append h'.trip
  paths := by rw [List.map_append, h.paths, h'.paths, ← Step.scanned_cons]
  files := by rw [h'.files, h.files, reportsOf, reportsOf, reportsOf, List.filterMap_append, List.append_assoc]
  sound := h'.sound ∘ h.sound
  fails := by rw [Step.failures_cons, h.fails, h'.fails, List.append_nil]

/-- A step that only speaks. -/
theorem done_of_saying {step : Step} {event : Event} (a : Aggregate) (w : World)
    (nothing : Step.scanned [step] = []) (fine : Step.failures [step] = []) (quiet : event.isAlarm = false) :
    Done plan [step] a w [] a (w.saying [event]) where
  trip := .saying event quiet
  paths := nothing.symm
  files := (List.append_nil _).symm
  sound := id
  fails := fine

mutual

/-- A step that ends well is a part of a trip. -/
theorem trip_of_runStep (plan : Plan) (step : Step) {a a' : Aggregate} {w w' : World}
    (h : (runStep plan a step).run w = .ok a' w') : ∃ visits, Done plan [step] a w visits a' w' := by
  cases step with
  | scan path =>
    rw [runStep] at h
    rcases run_mergeFile_cases plan a path w with ⟨outcome, w₁, here, run⟩ | ⟨failure, w₁, -, run⟩
    · rw [run] at h
      cases h
      refine ⟨[(path, outcome)], .visit here (.done _), rfl, ?_, outcome.sound_mergeInto, rfl⟩
      rw [outcome.files_mergeInto]
      rfl
    · rw [run] at h
      cases h
  | skipFile path =>
    rw [runStep] at h
    cases h
    exact ⟨[], done_of_saying a w rfl rfl rfl⟩
  | skipFolder path =>
    rw [runStep] at h
    cases h
    exact ⟨[], done_of_saying a w rfl rfl rfl⟩
  | skipVisited path =>
    rw [runStep] at h
    cases h
    exact ⟨[], done_of_saying a w rfl rfl rfl⟩
  | enter path steps =>
    have named : (plan.nameOf path).run w = .ok (plan.shown w path) w := rfl
    rw [runStep, Job.run_bind_of_ok named] at h
    obtain ⟨inner, w₁, inside, last⟩ := Job.run_bind_eq_ok.1 h
    cases last
    obtain ⟨visits, done⟩ := trip_of_runSteps plan steps inside
    refine ⟨visits, done.trip, ?_, ?_, fun sound => sound.merge_folder (done.sound (Aggregate.sound_empty _)), ?_⟩
    · rw [done.paths, Step.scanned_enter]
    · rw [Aggregate.files_merge, Aggregate.files_toReport, done.files, Aggregate.files_empty, List.nil_append]
    · rw [Step.failures_enter, done.fails]
  | fail error =>
    rw [runStep] at h
    cases h

/-- Steps that end well are a trip. -/
theorem trip_of_runSteps (plan : Plan) (steps : List Step) {a a' : Aggregate} {w w' : World}
    (h : (runSteps plan a steps).run w = .ok a' w') : ∃ visits, Done plan steps a w visits a' w' := by
  cases steps with
  | nil =>
    rw [runSteps] at h
    cases h
    exact ⟨[], .done _, rfl, (List.append_nil _).symm, id, rfl⟩
  | cons step rest =>
    rw [runSteps] at h
    obtain ⟨a₁, w₁, first, behind⟩ := Job.run_bind_eq_ok.1 h
    obtain ⟨visits, here⟩ := trip_of_runStep plan step first
    obtain ⟨more, there⟩ := trip_of_runSteps plan rest behind
    exact ⟨visits ++ more, here.append there⟩

end

/-- The walk was stopped: it has visited some of the files that the steps scan, in order, and then met a
file whose scan stops it, or a folder that cannot be listed. -/
def Stopped (plan : Plan) (steps : List Step) (w : World) (visits : List (String × Outcome))
    (failure : Failure) (w' : World) : Prop :=
  ∃ w₁ rest, Trip plan w visits w₁ ∧ Step.scanned steps = visits.map Prod.fst ++ rest ∧
    ((∃ path, rest.head? = some path ∧ Halt plan path w₁ failure w') ∨
      failure ∈ Step.failures steps ∧ w' = w₁)

theorem Stopped.cons {step : Step} {visits : List (String × Outcome)} (rest : List Step)
    (h : Stopped plan [step] w visits failure w') : Stopped plan (step :: rest) w visits failure w' := by
  obtain ⟨w₁, others, trip, paths, cause⟩ := h
  refine ⟨w₁, others ++ Step.scanned rest, trip, ?_, ?_⟩
  · rw [Step.scanned_cons, paths, List.append_assoc]
  · rcases cause with ⟨path, next, halt⟩ | ⟨mem, same⟩
    · exact .inl ⟨path, by rw [List.head?_append, next]; rfl, halt⟩
    · refine .inr ⟨?_, same⟩
      rw [Step.failures_cons]
      exact List.mem_append_left _ mem

theorem Done.stopped {step : Step} {rest : List Step} {visits more : List (String × Outcome)}
    {a₁ : Aggregate} {w₁ : World} (done : Done plan [step] a w visits a₁ w₁)
    (h : Stopped plan rest w₁ more failure w') : Stopped plan (step :: rest) w (visits ++ more) failure w' := by
  obtain ⟨w₂, others, trip, paths, cause⟩ := h
  refine ⟨w₂, others, done.trip.append trip, ?_, ?_⟩
  · rw [Step.scanned_cons, ← done.paths, paths, List.map_append, List.append_assoc]
  · rcases cause with halt | ⟨mem, same⟩
    · exact .inl halt
    · refine .inr ⟨?_, same⟩
      rw [Step.failures_cons]
      exact List.mem_append_right _ mem

mutual

theorem stopped_of_runStep (plan : Plan) (step : Step) {a : Aggregate} {w w' : World} {failure : Failure}
    (h : (runStep plan a step).run w = .error failure w') :
    ∃ visits, Stopped plan [step] w visits failure w' := by
  cases step with
  | scan path =>
    rw [runStep] at h
    rcases run_mergeFile_cases plan a path w with ⟨outcome, w₁, -, run⟩ | ⟨failure, w₁, halt, run⟩
    · rw [run] at h
      cases h
    · rw [run] at h
      cases h
      exact ⟨[], w, [path], .done _, rfl, .inl ⟨path, rfl, halt⟩⟩
  | skipFile path =>
    rw [runStep] at h
    cases h
  | skipFolder path =>
    rw [runStep] at h
    cases h
  | skipVisited path =>
    rw [runStep] at h
    cases h
  | enter path steps =>
    have named : (plan.nameOf path).run w = .ok (plan.shown w path) w := rfl
    rw [runStep, Job.run_bind_of_ok named] at h
    rcases Job.run_bind_eq_error.1 h with inside | ⟨_, _, -, last⟩
    · obtain ⟨visits, stopped⟩ := stopped_of_runSteps plan steps inside
      obtain ⟨w₁, others, trip, paths, cause⟩ := stopped
      refine ⟨visits, w₁, others, trip, ?_, ?_⟩
      · rw [Step.scanned_enter, paths]
      · rw [Step.failures_enter]
        exact cause
    · cases last
  | fail error =>
    rw [runStep] at h
    cases h
    exact ⟨[], w, [], .done _, rfl, .inr ⟨List.mem_singleton.2 rfl, rfl⟩⟩

/-- Steps that fail are a trip that was stopped. -/
theorem stopped_of_runSteps (plan : Plan) (steps : List Step) {a : Aggregate} {w w' : World} {failure : Failure}
    (h : (runSteps plan a steps).run w = .error failure w') :
    ∃ visits, Stopped plan steps w visits failure w' := by
  cases steps with
  | nil =>
    rw [runSteps] at h
    cases h
  | cons step rest =>
    rw [runSteps] at h
    rcases Job.run_bind_eq_error.1 h with first | ⟨a₁, w₁, first, behind⟩
    · obtain ⟨visits, stopped⟩ := stopped_of_runStep plan step first
      exact ⟨visits, stopped.cons rest⟩
    · obtain ⟨visits, done⟩ := trip_of_runStep plan step first
      obtain ⟨more, stopped⟩ := stopped_of_runSteps plan rest behind
      exact ⟨visits ++ more, done.stopped stopped⟩

end

/-- However often it is tried, the scan of a file ends well, leaves the volume alone and gives a good report. -/
def Plan.Manages (plan : Plan) (v : Volume) (good : String → FileReport → Prop) (path : String) : Prop :=
  ∀ w : World, w.volume = v → ∃ report w', plan.attempt path w = .ok report w' ∧ w'.volume = v ∧ good path report

mutual

theorem run_of_manages (plan : Plan) (step : Step) {v : Volume} {good : String → FileReport → Prop} {w : World}
    (a : Aggregate) (fine : Step.failures [step] = [])
    (manages : ∀ path ∈ Step.scanned [step], plan.Manages v good path)
    (here : w.volume = v) : ∃ a' w', (runStep plan a step).run w = .ok a' w' ∧ w'.volume = v := by
  cases step with
  | scan path =>
    obtain ⟨report, w', run, there, -⟩ := manages path List.mem_cons_self w here
    refine ⟨a.merge (.file report), w', ?_, there⟩
    rw [runStep, run_mergeFile, run]
  | skipFile path =>
    rw [runStep]
    exact ⟨a, w.saying [_], rfl, here⟩
  | skipFolder path =>
    rw [runStep]
    exact ⟨a, w.saying [_], rfl, here⟩
  | skipVisited path =>
    rw [runStep]
    exact ⟨a, w.saying [_], rfl, here⟩
  | enter path steps =>
    rw [Step.failures_enter] at fine
    rw [Step.scanned_enter] at manages
    have named : (plan.nameOf path).run w = .ok (plan.shown w path) w := rfl
    obtain ⟨inner, w', run, there⟩ := run_all_of_manages plan steps (.empty (plan.shown w path)) fine manages here
    refine ⟨a.merge inner.toReport, w', ?_, there⟩
    rw [runStep, Job.run_bind_of_ok named, Job.run_bind_of_ok run]
    rfl
  | fail error => cases fine

/-- Steps of which none fails are carried out if the scan of each file ends well. -/
theorem run_all_of_manages (plan : Plan) (steps : List Step) {v : Volume} {good : String → FileReport → Prop}
    {w : World} (a : Aggregate) (fine : Step.failures steps = [])
    (manages : ∀ path ∈ Step.scanned steps, plan.Manages v good path)
    (here : w.volume = v) : ∃ a' w', (runSteps plan a steps).run w = .ok a' w' ∧ w'.volume = v := by
  cases steps with
  | nil => exact ⟨a, w, by rw [runSteps]; rfl, here⟩
  | cons step rest =>
    rw [Step.failures_cons, List.append_eq_nil_iff] at fine
    rw [Step.scanned_cons] at manages
    obtain ⟨a₁, w₁, first, between⟩ := run_of_manages plan step a fine.1
      (fun path mem => manages path (List.mem_append_left _ mem)) here
    obtain ⟨a', w', behind, there⟩ := run_all_of_manages plan rest a₁ fine.2
      (fun path mem => manages path (List.mem_append_right _ mem)) between
    exact ⟨a', w', by rw [runSteps, Job.run_bind_of_ok first, behind], there⟩

end

/-- A trip to files whose scans end well leaves good reports only. -/
theorem Trip.good {visits : List (String × Outcome)} {v : Volume} {good : String → FileReport → Prop}
    (trip : Trip plan w visits w') (manages : ∀ path ∈ visits.map Prod.fst, plan.Manages v good path)
    (here : w.volume = v) : ∀ visit ∈ visits, ∃ report, visit.2 = .scanned report ∧ good visit.1 report := by
  induction trip with
  | done w => exact nofun
  | say _ _ ih => exact ih manages here
  | @visit w w₁ w' path outcome visits first _ ih =>
    obtain ⟨report, w₂, run, there, sound⟩ := manages path List.mem_cons_self w here
    have ended : outcome = .scanned report ∧ w₁.volume = v := by
      cases first with
      | scanned run' =>
        rw [run] at run'
        cases run'
        exact ⟨rfl, there⟩
      | unreplaced run' =>
        rw [run] at run'
        cases run'
      | unreadable run' =>
        rw [run] at run'
        cases run'
    intro visit mem
    rcases List.mem_cons.1 mem with rfl | mem
    · exact ⟨report, ended.1, sound⟩
    · exact ih (fun path mem => manages path (List.mem_cons_of_mem _ mem)) ended.2 visit mem

theorem Trip.visited {visits : List (String × Outcome)} {visit : String × Outcome} (h : Trip plan w visits w')
    (mem : visit ∈ visits) : ∃ w₁ w₂, Visit plan visit.1 w₁ visit.2 w₂ := by
  induction h with
  | done w => cases mem
  | say _ _ ih => exact ih mem
  | visit here _ ih =>
    rcases List.mem_cons.1 mem with rfl | mem
    · exact ⟨_, _, here⟩
    · exact ih mem

section Whole

variable {limit : Nat} {scan : (path name : String) → Job FileReport} {recursive : Bool} {setup : Setup}
variable {rules : List Rule} {options : Options} {root : Option String}

/-- The plan of a walk with a scanner. -/
abbrev planWith (scan : (path name : String) → Job FileReport) (path : String) (root : Option String) : Plan :=
  ⟨scan, root.getD path⟩

/-- The plan of a walk on a bare host. -/
abbrev planOf (setup : Setup) (rules : List Rule) (options : Options) (path : String) (root : Option String) :
    Plan := planWith (scanOn .bare setup rules options) path root

/-- The steps of a walk, which are those through a folder, or one for a file. -/
def stepsFrom (limit : Nat) (v : Volume) (recursive : Bool) (path : String) (isFolder : Bool) : List Step :=
  if isFolder then Step.itinerary limit v recursive path
  else [if isSource path then .scan path else .skipFile path]

/-- A walk carries out its steps. -/
theorem run_walkWith {isFolder : Bool} (h : w.volume.isFolder path = .ok isFolder) :
    (walkWith limit scan recursive path root).run w =
      (runSteps (planWith scan path root) (.empty ((planWith scan path root).shown w path))
        (stepsFrom limit w.volume recursive path isFolder)).run w := by
  have asked : (Job.ask (·.isFolder path)).run w = .ok isFolder w := Job.run_ask_eq_ok.2 ⟨h, rfl⟩
  have named : ((planWith scan path root).nameOf path).run w = .ok ((planWith scan path root).shown w path) w := rfl
  change ((planWith scan path root).nameOf path >>= _).run w = _
  rw [Job.run_bind_of_ok named, Job.run_bind_of_ok asked]
  unfold stepsFrom
  cases isFolder with
  | true =>
    simp only [if_true]
    rw [Job.run_bind_of_ok (EStateM.run_get w)]
  | false =>
    simp only [Bool.false_eq_true, if_false]
    by_cases source : isSource path = true
    · simp only [source, if_true, runSteps, runStep, bind_pure]
    · have passed : ((planWith scan path root).skipFile path).run w =
          (Job.notify .warning s!"Skipping non-MATLAB file: {(planWith scan path root).shown w path}").run w := by
        rw [Plan.skipFile, Job.run_bind_of_ok named]
      simp only [source, Bool.false_eq_true, if_false, runSteps, runStep, bind_pure]
      rw [EStateM.run_bind, EStateM.run_bind, passed]

/-- A walk that has ended well is a trip to the files that its steps scan, and its report holds what the
visits left. -/
theorem done_of_walkWith (h : (walkWith limit scan recursive path root).run w = .ok a w') :
    ∃ isFolder visits, w.volume.isFolder path = .ok isFolder ∧
      Done (planWith scan path root) (stepsFrom limit w.volume recursive path isFolder)
        (.empty ((planWith scan path root).shown w path)) w visits a w' := by
  cases answer : w.volume.isFolder path with
  | ok isFolder =>
    rw [run_walkWith answer] at h
    obtain ⟨visits, done⟩ := trip_of_runSteps _ _ h
    exact ⟨isFolder, visits, rfl, done⟩
  | error e =>
    change ((planWith scan path root).nameOf path >>= _).run w = _ at h
    obtain ⟨_, w₁, named, behind⟩ := Job.run_bind_eq_ok.1 h
    cases named
    obtain ⟨_, _, asked, -⟩ := Job.run_bind_eq_ok.1 behind
    obtain ⟨other, -⟩ := Job.run_ask_eq_ok.1 asked
    rw [answer] at other
    cases other

theorem scanOn_speaks (host : Host) (setup : Setup) (rules : List Rule) (options : Options) (path name : String) :
    Job.Speaks (scanOn host setup rules options path name) := by
  rw [scanOn]
  exact Scan.partsOn_speaks host setup rules options path (some name)

theorem planOf_speaks (setup : Setup) (rules : List Rule) (options : Options) (target : String)
    (root : Option String) (path name : String) :
    Job.Speaks ((planOf setup rules options target root).scan path name) := by
  dsimp only
  exact scanOn_speaks .bare setup rules options path name

/-- On a bare host a file is scanned as such. -/
theorem attempt_planOf (setup : Setup) (rules : List Rule) (options : Options) (target : String) (root : Option String)
    (path : String) (w : World) : (planOf setup rules options target root).attempt path w =
      (Scan.file setup rules options path (some ((planOf setup rules options target root).shown w path))).run
        (w.saying [.notice .info s!"Evaluating: {(planOf setup rules options target root).shown w path}"]) := by
  unfold Plan.attempt
  dsimp only
  rw [scanOn, Scan.file]

theorem run_walk {isFolder : Bool} (h : w.volume.isFolder path = .ok isFolder) :
    (walk setup rules options path root).run w =
      (runSteps (planOf setup rules options path root) (.empty ((planOf setup rules options path root).shown w path))
        (stepsFrom Stack.standard.folders w.volume options.recursive path isFolder)).run w := run_walkWith h

theorem done_of_walk (h : (walk setup rules options path root).run w = .ok a w') :
    ∃ isFolder visits, w.volume.isFolder path = .ok isFolder ∧
      Done (planOf setup rules options path root) (stepsFrom Stack.standard.folders w.volume options.recursive path
        isFolder) (.empty ((planOf setup rules options path root).shown w path)) w visits a w' := done_of_walkWith h

/-- What a visit leaves is fair, and without fixes if the file could not be replaced. -/
theorem Visit.fair {target : String} {outcome : Outcome} {report : FileReport}
    (h : Visit (planOf setup rules options target root) path w outcome w') (left : outcome.report? = some report) :
    report.Fair rules ∧ ((∃ before, outcome = .unreplaced before) → ∀ fixes ∈ report.fixes, fixes = 0) := by
  cases h with
  | scanned run =>
    cases left
    rw [attempt_planOf] at run
    exact ⟨Scan.fair_of_file.1 _ run, nofun⟩
  | unreplaced run carries =>
    cases left
    rw [attempt_planOf] at run
    refine ⟨(Scan.fair_of_file.2 _ run _ carries).withoutFixes, fun _ fixes mem => ?_⟩
    obtain ⟨_, -, rfl⟩ := List.mem_map.1 mem
    rfl
  | unreadable => cases left

end Whole

end Walk

end MatlabTidy
