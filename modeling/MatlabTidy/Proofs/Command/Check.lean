import MatlabTidy.Command.Program
import MatlabTidy.Proofs.Run.Trip
import MatlabTidy.Proofs.Volume.Texts

/-!
# A check from the command line

What the program does when it is asked for a check: it looks for the settings (`Command.settle`), carries out
the check in the surroundings that they make (`Command.outcome`), and ends with its exit code
(`Command.run_runCheck`). A check looks at the target, walks and writes its summary (`Walk.run_check_eq`,
`Walk.run_summarise_eq_ok`).

The last section carries this out for a volume with one source of one line (`Command.run_fix_singleSource`).
-/

namespace MatlabTidy

namespace Walk

variable {setup : Setup} {rules : List Rule} {options : Options} {target : String} {a : Aggregate} {w w' : World}

/-- A summary is written if all of its numbers can be. -/
theorem run_summarise_eq_ok {fix : Bool} {u : Unit} :
    (summarise a fix).run w = .ok u w' ↔ a.isTableWritable fix = true ∧ a.areTotalsWritable fix = true ∧
      a.totals.average.isNone = false ∧ w' = w.saying [.summary a fix] := by
  unfold summarise
  cases a.isTableWritable fix with
  | false =>
    constructor
    · intro h
      cases h
    · rintro ⟨h, -⟩
      cases h
  | true =>
    simp only [Bool.not_true, Bool.false_eq_true, if_false, true_and]
    rw [Job.run_bind_of_ok (Job.run_emit _)]
    cases a.areTotalsWritable fix with
    | false =>
      constructor
      · intro h
        cases h
      · rintro ⟨h, -⟩
        cases h
    | true =>
      cases a.totals.average.isNone with
      | true =>
        constructor
        · intro h
          cases h
        · rintro ⟨-, h, -⟩
          cases h
      | false =>
        constructor
        · intro h
          cases h
          exact ⟨rfl, rfl, rfl⟩
        · rintro ⟨-, -, rfl⟩
          rfl

/-- What a check does with a target that the volume knows. -/
theorem run_check_eq {isFolder isFile : Bool} (folder : w.volume.isFolder target = .ok isFolder)
    (file : w.volume.isFile target = .ok isFile) :
    (check setup rules options target).run w =
      if isFolder || (isFile && isSource target) then
        (do
          let report ← walk setup rules options target none
          summarise report options.fix
          return report).run (w.saying [.notice .info s!"Starting style check for: {target}"])
      else
        .ok (.empty target)
          (w.saying [.notice .warning s!"Skipping {target}: not a directory or a {sourceExtension} file."]) := by
  have asked : (Job.ask (·.isFolder target)).run w = .ok isFolder w := Job.run_ask_eq_ok.2 ⟨folder, rfl⟩
  have asked' : (Job.ask (·.isFile target)).run w = .ok isFile w := Job.run_ask_eq_ok.2 ⟨file, rfl⟩
  rw [check, Job.run_bind_of_ok asked, Job.run_bind_of_ok asked']
  split
  · exact Job.run_bind_of_ok (Job.run_emit _)
  · exact Job.run_bind_of_ok (Job.run_emit _)

/-- A check that ends well had an answer to what the target is. -/
theorem target_of_check (h : (check setup rules options target).run w = .ok a w') :
    ∃ isFolder isFile, w.volume.isFolder target = .ok isFolder ∧ w.volume.isFile target = .ok isFile := by
  unfold check at h
  obtain ⟨isFolder, w₁, asked, h₁⟩ := Job.run_bind_eq_ok.1 h
  obtain ⟨folder, rfl⟩ := Job.run_ask_eq_ok.1 asked
  obtain ⟨isFile, w₂, asked', -⟩ := Job.run_bind_eq_ok.1 h₁
  obtain ⟨file, rfl⟩ := Job.run_ask_eq_ok.1 asked'
  exact ⟨isFolder, isFile, folder, file⟩

/-- A check of a single source comes to the scan of it. -/
theorem run_check_source {report : FileReport} (folder : w.volume.isFolder target = .ok false)
    (file : w.volume.isFile target = .ok true) (source : isSource target = true)
    (attempted : (planOf setup rules options target none).attempt target
      (w.saying [.notice .info s!"Starting style check for: {target}"]) = .ok report w')
    (row : report.isRowWritable options.fix = true) (mean : (Totals.ofFile report).average.isNone = false) :
    ∃ a, (walk setup rules options target none).run
        (w.saying [.notice .info s!"Starting style check for: {target}"]) = .ok a w' ∧
      (check setup rules options target).run w = .ok a (w'.saying [.summary a options.fix]) ∧
      a.totals = .ofFile report := by
  let told := w.saying [.notice .info s!"Starting style check for: {target}"]
  let a := (Aggregate.empty ((planOf setup rules options target none).shown told target)).merge (.file report)
  have steps : stepsFrom Stack.standard.folders told.volume options.recursive target false = [.scan target] := by
    rw [stepsFrom, source]
    rfl
  have merged : ((planOf setup rules options target none).mergeFile (.empty ((planOf setup rules options target
      none).shown told target)) target).run told = .ok a w' := by
    rw [run_mergeFile, attempted]
  have walked : (walk setup rules options target none).run told = .ok a w' := by
    have here : told.volume.isFolder target = .ok false := folder
    rw [run_walk here, steps, runSteps, runStep, Job.run_bind_of_ok merged, runSteps]
    rfl
  have totals : a.totals = .ofFile report := rfl
  have files : a.files = [report] := rfl
  have errors : a.totals.totalErrors = report.totalErrors := Int.add_zero _
  have fixes : a.totals.totalFixes = report.totalFixes := Int.add_zero _
  have rows : a.isTableWritable options.fix = true := by
    rw [Aggregate.isTableWritable, files, List.all_cons, row, List.all_nil, Bool.and_true]
  have sums : a.areTotalsWritable options.fix = true := by
    rw [Aggregate.areTotalsWritable, errors, fixes, ← FileReport.isTallyWritable]
    exact FileReport.isTallyWritable_of_isRowWritable row
  have summed : (summarise a options.fix).run w' = .ok () (w'.saying [.summary a options.fix]) :=
    run_summarise_eq_ok.2 ⟨rows, sums, mean, rfl⟩
  refine ⟨a, walked, ?_, totals⟩
  rw [run_check_eq folder file, if_pos (by simp [source]), Job.run_bind_of_ok walked, Job.run_bind_of_ok summed]
  rfl

end Walk

namespace Command

variable {execution : Execution} {process : String → ProcessOutcome} {settings : Settings} {target : String}
variable {overrides : Settings.Overrides} {debug : Bool} {args : List String} {w w₁ w' : World}

/-- Looks for the settings and loads them. -/
def settle : Job Settings := do loadSettings (← Discovery.load none)

/-- The surroundings that the settings make. -/
def setupOf (process : String → ProcessOutcome) (settings : Settings) : Setup :=
  ⟨settings.encoding, settings.checker, process, fun _ => none⟩

/-- What is said before a check begins. -/
def opening (options : Options) (debug : Bool) : List Event :=
  (if debug then [.logOpened] else []) ++ [.greeting false, .logged (Settings.optionsRecord options)]

/-- What a check returns, when the program gets there. -/
def outcome (execution : Execution) (process : String → ProcessOutcome) (settings : Settings) (target : String)
    (overrides : Settings.Overrides) (debug : Bool) (w : World) : EStateM.Result Failure World Aggregate :=
  (execution (setupOf process settings) (settings.options overrides) (Path.ofString target).text).run
    (w.saying (opening (settings.options overrides) debug))

/-- How the program ends when a check has failed. -/
def recover (failure : Failure) : Job Nat := do
  if failure.isStyleError then
    Job.notify .error failure.message
    return 2
  else if failure = .noMoreKeys then
    Job.emit .aborted
    return 1
  else
    throw failure

theorem run_runCheck_eq (execution : Execution) (process : String → ProcessOutcome) (settings : Settings)
    (target : String) (overrides : Settings.Overrides) (debug : Bool) (w : World) :
    (runCheck execution process settings target overrides debug).run w =
      match outcome execution process settings target overrides debug w with
      | .ok report w' => .ok (exitCode report) w'
      | .error failure w' => (recover failure).run w' := by
  have started : ∀ rest : Job Nat, (do
      if debug then Job.emit .logOpened
      Job.emit (.greeting false)
      Job.emit (.logged (Settings.optionsRecord (settings.options overrides)))
      rest).run w = rest.run (w.saying (opening (settings.options overrides) debug)) := by
    intro rest
    cases debug with
    | true =>
      simp only [if_true]
      rw [Job.run_bind_of_ok (Job.run_emit _), Job.run_bind_of_ok (Job.run_emit _),
        Job.run_bind_of_ok (Job.run_emit _), World.saying_saying, World.saying_saying]
      rfl
    | false =>
      simp only [Bool.false_eq_true, if_false]
      rw [Job.run_bind_of_ok (Job.run_emit _), Job.run_bind_of_ok (Job.run_emit _), World.saying_saying]
      rfl
  unfold runCheck
  dsimp only
  rw [started, Job.run_tryCatch, EStateM.run_bind]
  unfold outcome setupOf
  cases (execution ⟨settings.encoding, settings.checker, process, fun _ => none⟩
    (settings.options overrides) (Path.ofString target).text).run
      (w.saying (opening (settings.options overrides) debug)) with
  | ok report w' => rfl
  | error failure w' => rfl

/-- A check that returns a report ends with its exit code. -/
theorem run_runCheck {report : Aggregate}
    (h : outcome execution process settings target overrides debug w = .ok report w') :
    (runCheck execution process settings target overrides debug).run w = .ok (exitCode report) w' := by
  rw [run_runCheck_eq, h]

/-- A check ends with code zero only if it has returned a report. -/
theorem outcome_of_zero (h : (runCheck execution process settings target overrides debug).run w = .ok 0 w') :
    ∃ report, outcome execution process settings target overrides debug w = .ok report w' ∧ exitCode report = 0 := by
  rw [run_runCheck_eq] at h
  cases returned : outcome execution process settings target overrides debug w with
  | ok report w₁ =>
    rw [returned] at h
    obtain ⟨code, rfl⟩ := EStateM.Result.ok.inj h
    exact ⟨report, rfl, code⟩
  | error failure w₁ =>
    rw [returned] at h
    dsimp only at h
    unfold recover at h
    split at h
    · cases h
    · split at h
      · cases h
      · cases h

/-- A request for a check is carried out with the settings that were found. -/
theorem run_of_check (asked : request args = .check target overrides debug) (loaded : settle.run w = .ok settings w₁) :
    (run execution process args).run w =
      (runCheck execution process settings target overrides debug).run w₁ := by
  obtain ⟨table, w₂, found, read⟩ := Job.run_bind_eq_ok.1 loaded
  unfold run
  rw [Job.run_bind_of_ok found, Job.run_bind_of_ok read, asked]

section Pair

variable (name : String) {counts : List Count} (two : counts = [.zero, ⟨1, 1⟩, ⟨1, 1⟩, .zero, .zero])

theorem mean_of_unscored (counts : List Count) :
    (Totals.ofFile (Scan.report name Rule.table counts .none)).average.isNone = false := by
  have scores : (Totals.ofFile (Scan.report name Rule.table counts .none)).scores = [0] := rfl
  rw [Totals.average, scores]
  decide +kernel

include two

/-- What is reported of a file with two offences, both of them fixed. -/
theorem totals_of_pair : (Scan.report name Rule.table counts .none).totalErrors = 2 ∧
    (Scan.report name Rule.table counts .none).totalFixes = 2 := by
  rw [two]
  exact ⟨rfl, rfl⟩

theorem isRowWritable_of_pair : (Scan.report name Rule.table counts .none).isRowWritable true = true := by
  have small : Text.isWritable 2 = true ∧ Text.isWritable 0 = true := by decide +kernel
  have score : (Scan.report name Rule.table counts .none).score = 0 := rfl
  obtain ⟨errors, fixes⟩ := totals_of_pair name two
  rw [FileReport.isRowWritable, FileReport.isTallyWritable, errors, fixes, score, small.1, small.2]
  rfl

end Pair

section Single

open Scan (singleFile totalsFrom tidiedFrom)

/-- A world with one source, and nobody to ask. -/
def singleSource (bytes : List UInt8) : World := ⟨singleFile bytes, none, false, #[]⟩

variable (bytes : List UInt8)

/-- There is no settings file, so the settings are the default ones. -/
theorem settle_singleSource : settle.run (singleSource bytes) = .ok ⟨[]⟩ (singleSource bytes) := by
  have top : (singleFile bytes).resolve "/" = .ok [] := Volume.resolve_top _
  have missing : (singleFile bytes).isFile "/pyproject.toml" = .ok false := by
    have short : (Path.ofString "/pyproject.toml").text = "/pyproject.toml" := by decide
    have names : Volume.steps "/pyproject.toml" = ["pyproject.toml"] := by decide
    have lost : (singleFile bytes).resolve "/pyproject.toml" = .error .missing := by
      change (singleFile bytes).follow true Volume.mostLinks [] (Volume.steps "/pyproject.toml") = _
      rw [names, Volume.follow]
      rfl
    have nowhere : (singleFile bytes).resolve (Path.ofString "/pyproject.toml").text = .error .missing := by
      rw [short, lost]
    exact Volume.asks_of_error nowhere (by decide)
  have text : (⟨1, []⟩ : Path).text = "/" := by decide
  have files : (Discovery.outward ⟨1, []⟩).map Discovery.fileIn = ["/pyproject.toml"] := by decide
  have asked : (Job.ask (·.isFile "/pyproject.toml")).run (singleSource bytes) = .ok false (singleSource bytes) :=
    Job.run_ask_eq_ok.2 ⟨missing, rfl⟩
  have found : (Discovery.find none).run (singleSource bytes) = .ok none (singleSource bytes) := by
    rw [Discovery.find, Discovery.findWith, Job.run_bind_of_ok (EStateM.run_get _)]
    dsimp only
    rw [pure_bind]
    have here : (singleSource bytes).volume = singleFile bytes := rfl
    have place : (singleFile bytes).here = [] := rfl
    rw [here, place, text, top, files]
    dsimp only
    rw [List.findM?, Job.run_bind_of_ok asked]
    rfl
  have loaded : (Discovery.load none).run (singleSource bytes) = .ok [] (singleSource bytes) := by
    rw [Discovery.find] at found
    rw [Discovery.load, Discovery.loadWith, Job.run_bind_of_ok found]
    rfl
  rw [settle, Job.run_bind_of_ok loaded]
  rfl

/-- What the program is asked for. -/
theorem request_fix : request ["check", "a.m", "--fix"] = .check "a.m" ⟨none, none, some true⟩ false := by decide

theorem request_no_fix : request ["check", "a.m", "--no-fix"] = .check "a.m" ⟨none, none, some false⟩ false := by
  decide

/-- What can be read is a file. -/
theorem isFile_of_read {v : Volume} (read : v.read "a.m" = .ok bytes) :
    v.isFolder "a.m" = .ok false ∧ v.isFile "a.m" = .ok true := by
  have short : (Path.ofString "a.m").text = "a.m" := by decide
  obtain ⟨place, mode, resolved, file⟩ := Volume.read_eq_ok.1 read
  have leads : v.resolve (Path.ofString "a.m").text = .ok place := by rw [short, resolved]
  rw [Volume.isFolder, Volume.isFile, Volume.asks_of_resolve leads, Volume.asks_of_resolve leads, file]
  exact ⟨rfl, rfl⟩

variable {bytes} {line : Text.Line} {out : List UInt8}

/-- A walk to a source of one line that offends twice fixes it, and so does the whole check. -/
theorem outcome_singleSource (cut : Text.WellCut [line])
    (encoded : Charset.utf8.encodeAll true ([line].map Text.Line.raw) = .ok bytes)
    (written : Charset.utf8.encodeAll true ((tidiedFrom (fun _ => true) 1 [line]).map Text.Line.raw) = .ok out)
    (counts : totalsFrom true 1 [line] = [.zero, ⟨1, 1⟩, ⟨1, 1⟩, .zero, .zero]) :
    ∃ report w w' w₁, (Walk.walk (setupOf (fun _ => .missing) ⟨[]⟩) Rule.table ⟨false, false, true⟩ "a.m" none).run w =
        .ok report w' ∧
      outcome styleCheck (fun _ => .missing) ⟨[]⟩ "a.m" ⟨none, none, some true⟩ false (singleSource bytes) =
        .ok report w₁ ∧
      exitCode report = 0 ∧ w₁.volume.read "a.m" = .ok out ∧ ∀ message, Event.notice .error message ∉ w₁.events := by
  let setup := setupOf (fun _ => .missing) ⟨[]⟩
  let options : Options := ⟨false, false, true⟩
  let started := (singleSource bytes).saying (opening options false)
  let source := "a.m"
  let told := started.saying [.notice .info s!"Starting style check for: {source}"]
  let shown := (Walk.planOf setup Rule.table options "a.m" none).shown told "a.m"
  let asked := told.saying [.notice .info s!"Evaluating: {shown}"]
  let report := Scan.report (Scan.nameFor "a.m" (some shown)) Rule.table (totalsFrom true 1 [line]) .none
  obtain ⟨opened, assessed⟩ : ∃ opened, (Scan.assess setup "a.m").run asked = .ok .none opened := ⟨_, rfl⟩
  have here : asked.volume = singleFile bytes := rfl
  have utf8 : setup.encoding = "utf-8" := rfl
  have free : setup.locked "a.m" = none := rfl
  obtain ⟨w', scanned, read⟩ := Scan.run_file_singleFile (some shown) here utf8 free assessed cut encoded written
    (FileReport.isTallyWritable_of_isRowWritable (isRowWritable_of_pair "" counts))
  have attempted : (Walk.planOf setup Rule.table options "a.m" none).attempt "a.m" told = .ok report w' := scanned
  obtain ⟨folder, file⟩ : started.volume.isFolder "a.m" = .ok false ∧ started.volume.isFile "a.m" = .ok true :=
    isFile_of_read bytes (Scan.read_singleFile bytes)
  have pair : report.totalErrors = 2 ∧ report.totalFixes = 2 :=
    totals_of_pair (Scan.nameFor "a.m" (some shown)) counts
  obtain ⟨a, walked, checked, totals⟩ := Walk.run_check_source folder file (by decide) attempted
    (isRowWritable_of_pair _ counts) (mean_of_unscored _ _)
  have code : exitCode a = 0 := by
    have found : a.totals.totalErrors = 2 := by
      rw [totals]
      exact (Int.add_zero report.totalErrors).trans pair.1
    have fixed : a.totals.totalFixes = 2 := by
      rw [totals]
      exact (Int.add_zero report.totalFixes).trans pair.2
    rw [exitCode, found, fixed, if_neg (Int.lt_irrefl 2)]
  refine ⟨a, told, w', w'.saying [.summary a options.fix], walked, ?_, code, read, fun message alarm => ?_⟩
  · have short : (Path.ofString "a.m").text = "a.m" := by decide
    rw [outcome, short]
    exact checked
  · have spoken : World.Speaks asked (w'.saying [.summary a options.fix]) :=
      Trans.trans ((Scan.file_speaks _ _ _ _ _).of_ok scanned)
        (World.speaks_saying _ (List.forall_mem_singleton.2 rfl))
    have before : World.Speaks (singleSource bytes) asked := by
      refine Trans.trans (World.speaks_saying _ ?_) (Trans.trans (World.speaks_saying started ?_)
        (World.speaks_saying told ?_))
      · simp [opening, Event.isAlarm]
      · exact List.forall_mem_singleton.2 rfl
      · exact List.forall_mem_singleton.2 rfl
    have first := before.alarm_mem (spoken.alarm_mem alarm)
    exact absurd first (Array.not_mem_empty _)

/-- A source of one line that offends twice is fixed. -/
theorem run_fix_singleSource (cut : Text.WellCut [line])
    (encoded : Charset.utf8.encodeAll true ([line].map Text.Line.raw) = .ok bytes)
    (written : Charset.utf8.encodeAll true ((tidiedFrom (fun _ => true) 1 [line]).map Text.Line.raw) = .ok out)
    (counts : totalsFrom true 1 [line] = [.zero, ⟨1, 1⟩, ⟨1, 1⟩, .zero, .zero]) :
    ∃ w₁, (run styleCheck (fun _ => .missing) ["check", "a.m", "--fix"]).run (singleSource bytes) = .ok 0 w₁ ∧
      w₁.volume.read "a.m" = .ok out ∧ ∀ message, Event.notice .error message ∉ w₁.events := by
  obtain ⟨report, _, _, w₁, -, returned, code, rest⟩ := outcome_singleSource cut encoded written counts
  refine ⟨w₁, ?_, rest⟩
  rw [run_of_check request_fix (settle_singleSource bytes), run_runCheck returned, code]

end Single

end Command

end MatlabTidy
