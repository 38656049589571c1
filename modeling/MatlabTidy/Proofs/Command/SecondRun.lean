import MatlabTidy.Proofs.Command.Settling
import MatlabTidy.Proofs.Run.Settled

/-!
# The run after a fixing run

A check that has fixed everything is followed by a check that only looks. On a tree of files and folders, the
second run finds the same settings (`Command.settle_agrees`), takes the same way and can scan every file on it
(`Walk.run_walk_after_fix`), and write its summary, since it has no more to report than the first
(`Aggregate.Sound.writable_of_lighter`). It ends with code zero unless a repair has made a line too long
(`Command.check_after_fix`).
-/

namespace MatlabTidy

namespace Walk

open Scan (Settled Overlong)
open Rule (table)

variable {setup : Setup} {rules : List Rule} {options : Options} {target : String} {a : Aggregate}
variable {steps : List Step} {visits : List (String × Outcome)} {v : Volume} {w w' : World}

/-- The sources that a check scans. -/
def sources (v : Volume) (recursive : Bool) (target : String) : List String :=
  match v.isFolder target, v.isFile target with
  | .ok true, _ => Step.scanned (Step.itinerary Stack.standard.folders v recursive target)
  | .ok false, .ok true => if isSource target then [target] else []
  | _, _ => []

/-- All files were visited, and are settled. -/
def AllSettled (setup : Setup) (v : Volume) (visits : List (String × Outcome)) : Prop :=
  ∀ visit ∈ visits, ∃ report, visit.2 = .scanned report ∧ Settled setup v visit.1 report

/-- What is reported on a settled file: no more than before, and something is left to fix if a line is too
long. -/
structure Remains (setup : Setup) (v : Volume) (visits : List (String × Outcome)) (path : String)
    (result : FileReport) : Prop where
  lighter : ∀ report, (path, .scanned report) ∈ visits → result.Lighter report
  clean : result.fixes = result.errors ↔ ¬ Overlong setup.encoding v path

/-- Settled files can be scanned whenever a check comes by. -/
theorem manages_of_settled (settled : AllSettled setup v visits) (off : options.fix = false) {path : String}
    (mem : path ∈ visits.map Prod.fst) :
    (planOf setup table options target none).Manages v (Remains setup v visits) path := by
  intro w here
  have scan : ∀ {report}, Settled setup v path report →
      ∃ result w', (planOf setup table options target none).attempt path w = .ok result w' ∧ w'.volume = v ∧
        result.Lighter report ∧ (result.fixes = result.errors ↔ ¬ Overlong setup.encoding v path) := by
    intro report settled
    rw [attempt_planOf]
    exact settled.check off _ here
  obtain ⟨⟨path, outcome⟩, visited, rfl⟩ := List.mem_map.1 mem
  obtain ⟨report, -, here⟩ := settled _ visited
  obtain ⟨result, w', run, there, -, clean⟩ := scan here
  refine ⟨result, w', run, there, fun other mem' => ?_, clean⟩
  obtain ⟨_, scanned, here'⟩ := settled _ mem'
  cases scanned
  obtain ⟨result', w'', run', -, lighter, -⟩ := scan here'
  rw [run] at run'
  cases run'
  exact lighter

/-- Two rounds of visits to the same files leave reports in the same order. -/
theorem forall₂_reportsOf {R : FileReport → FileReport → Prop} {visits visits' : List (String × Outcome)}
    (paths : visits'.map Prod.fst = visits.map Prod.fst) (all : ∀ visit ∈ visits, ∃ report, visit.2 = .scanned report)
    (all' : ∀ visit ∈ visits', ∃ result, visit.2 = .scanned result ∧
      ∀ report, (visit.1, .scanned report) ∈ visits → R result report) :
    List.Forall₂ R (reportsOf visits') (reportsOf visits) := by
  induction visits generalizing visits' with
  | nil =>
    obtain rfl := List.map_eq_nil_iff.1 paths
    exact .nil
  | cons visit visits ih =>
    obtain ⟨visit', rest', rfl, same, paths'⟩ := List.map_eq_cons_iff.1 paths
    obtain ⟨path, outcome⟩ := visit
    obtain ⟨path', outcome'⟩ := visit'
    obtain rfl : path' = path := same
    obtain ⟨report, rfl⟩ : ∃ report, outcome = .scanned report := all _ List.mem_cons_self
    obtain ⟨result, scanned, related⟩ := all' _ List.mem_cons_self
    obtain rfl : outcome' = .scanned result := scanned
    refine .cons (related report List.mem_cons_self) (ih paths' ?_ ?_)
    · exact fun visit mem => all visit (List.mem_cons_of_mem _ mem)
    · intro visit mem
      obtain ⟨result, scanned, related⟩ := all' visit (List.mem_cons_of_mem _ mem)
      exact ⟨result, scanned, fun report mem => related report (List.mem_cons_of_mem _ mem)⟩

/-- Steps that scan settled files are carried out, and leave a report of no more than before. -/
theorem run_steps_of_settled (settled : AllSettled setup v visits)
    (paths : visits.map Prod.fst = Step.scanned steps) (fine : Step.failures steps = []) (off : options.fix = false)
    (name : String) (here : w.volume = v) :
    ∃ a' w', (runSteps (planOf setup table options target none) (.empty name) steps).run w = .ok a' w' ∧ a'.Sound ∧
      (∀ report ∈ a'.files, report.Fair table) ∧ List.Forall₂ FileReport.Lighter a'.files (reportsOf visits) ∧
      ((∀ report ∈ a'.files, report.fixes = report.errors) ↔
        ∀ path ∈ Step.scanned steps, ¬ Overlong setup.encoding v path) := by
  let plan := planOf setup table options target none
  have manages : ∀ path ∈ visits.map Prod.fst, plan.Manages v (Remains setup v visits) path :=
    fun path mem => manages_of_settled settled off mem
  obtain ⟨a', w', run, -⟩ := run_all_of_manages plan steps (.empty name) fine (paths ▸ manages) here
  obtain ⟨visits', done⟩ := trip_of_runSteps plan steps run
  have same : visits'.map Prod.fst = visits.map Prod.fst := done.paths.trans paths.symm
  have remains := done.trip.good (same ▸ manages) here
  have files : a'.files = reportsOf visits' := done.files
  refine ⟨a', w', run, done.sound (Aggregate.sound_empty _), ?_, ?_, ?_⟩
  · rw [files]
    exact done.trip.fair_reportsOf
  · rw [files]
    refine forall₂_reportsOf same (fun visit mem => ?_) fun visit mem => ?_
    · obtain ⟨report, scanned, -⟩ := settled visit mem
      exact ⟨report, scanned⟩
    · obtain ⟨result, scanned, remain⟩ := remains visit mem
      exact ⟨result, scanned, remain.lighter⟩
  · rw [files, ← done.paths]
    constructor
    · intro fixed path mem
      obtain ⟨visit, visited, rfl⟩ := List.mem_map.1 mem
      obtain ⟨result, scanned, remain⟩ := remains visit visited
      exact remain.clean.1 (fixed result (List.mem_filterMap.2 ⟨visit, visited, by rw [scanned]; rfl⟩))
    · intro clean report mem
      obtain ⟨visit, mem, left⟩ := List.mem_filterMap.1 mem
      obtain ⟨result, scanned, remain⟩ := remains visit mem
      rw [scanned] at left
      cases left
      exact remain.clean.2 (clean visit.1 (List.mem_map_of_mem mem))

/-- A target that is worth a walk: a folder, or a file that is a source. -/
theorem sources_of_target {isFolder isFile : Bool} {recursive : Bool} (folder : v.isFolder target = .ok isFolder)
    (file : v.isFile target = .ok isFile) : sources v recursive target =
      if isFolder || (isFile && isSource target) then
        Step.scanned (stepsFrom Stack.standard.folders v recursive target isFolder)
      else [] := by
  unfold sources stepsFrom
  rw [folder, file]
  cases isFolder with
  | true => rfl
  | false =>
    cases isFile with
    | false => rfl
    | true => cases isSource target <;> rfl

/-- On a tree, a walk that fixes without questions and can read all files changes sources only. A walk that
follows takes the same way and ends well, with no more to report, and it leaves something to fix exactly if a
line of some source is too long. -/
theorem run_walk_after_fix {options' : Options} {isFolder : Bool} (tree : w.volume.Tree) (fix : options.fix = true)
    (silent : options.verbose = false) (free : ∀ path, setup.locked path = none) (off : options'.fix = false)
    (deep : options'.recursive = options.recursive) (folder : w.volume.isFolder target = .ok isFolder)
    (h : (walk setup table options target none).run w = .ok a w')
    (readable : ∀ name cause : String, Event.notice .error s!"Could not read {name}: {cause}" ∉ w'.events) :
    Volume.Kept w.volume w'.volume ∧ a.Sound ∧ ∀ w₂ : World, w₂.volume = w'.volume →
      ∃ a' w₃, (walk setup table options' target none).run w₂ = .ok a' w₃ ∧ a'.Sound ∧
        (∀ report ∈ a'.files, report.Fair table) ∧ List.Forall₂ FileReport.Lighter a'.files a.files ∧
        ((∀ report ∈ a'.files, report.fixes = report.errors) ↔
          ∀ path ∈ Step.scanned (stepsFrom Stack.standard.folders w'.volume options.recursive target isFolder),
            ¬ Overlong setup.encoding w'.volume path) := by
  obtain ⟨_, visits, folder', done⟩ := done_of_walk h
  rw [Except.ok.inj (folder'.symm.trans folder)] at done
  obtain ⟨settles, all⟩ := done.trip.settles ⟨fix, silent, free⟩ tree
  have settled : AllSettled setup w'.volume visits := by
    intro visit mem
    rcases all visit mem with ⟨failure, unreadable⟩ | scanned
    · obtain ⟨path, outcome⟩ := visit
      obtain rfl : outcome = .unreadable failure := unreadable
      obtain ⟨name, told⟩ := done.trip.told (planOf_speaks _ _ _ _ _) mem
      exact absurd told (readable name failure.message)
    · exact scanned
  have kept : Volume.Kept w.volume w'.volume := settles.kept
  have way : stepsFrom Stack.standard.folders w'.volume options.recursive target isFolder =
      stepsFrom Stack.standard.folders w.volume options.recursive target isFolder := by
    unfold stepsFrom
    rw [kept.same (Step.itinerary _ · _ target) fun v => Step.itinerary_outline v _ _ target]
  refine ⟨kept, done.sound (Aggregate.sound_empty _), fun w₂ here => ?_⟩
  let plan' := planOf setup table options' target none
  obtain ⟨a', w₃, run, sound, fair, lighter, clean⟩ :=
    run_steps_of_settled settled done.paths done.fails off (plan'.shown w₂ target) here
  have folder₂ : w₂.volume.isFolder target = .ok isFolder := by
    rw [here, kept.same (·.isFolder target) fun v => v.isFolder_outline target, folder]
  have files : a.files = reportsOf visits := done.files
  refine ⟨a', w₃, ?_, sound, fair, files ▸ lighter, ?_⟩
  · rw [run_walk folder₂, here, deep, way]
    exact run
  · rw [way]
    exact clean

/-- On a tree, a check that fixes without questions and can read all files changes sources only. A check that
follows ends well, and it leaves something to fix exactly if a line of some source is too long. -/
theorem run_check_after_fix {options' : Options} {w₁ : World} (tree : w.volume.Tree) (fix : options.fix = true)
    (silent : options.verbose = false) (free : ∀ path, setup.locked path = none) (off : options'.fix = false)
    (deep : options'.recursive = options.recursive) (h : (check setup table options target).run w = .ok a w₁)
    (readable : ∀ name cause : String, Event.notice .error s!"Could not read {name}: {cause}" ∉ w₁.events) :
    Volume.Kept w.volume w₁.volume ∧ ∀ w₂ : World, w₂.volume = w₁.volume →
      ∃ a' w₃, (check setup table options' target).run w₂ = .ok a' w₃ ∧ a'.Sound ∧
        (∀ report ∈ a'.files, report.Fair table) ∧ ((∀ report ∈ a'.files, report.fixes = report.errors) ↔
          ∀ path ∈ sources w₁.volume options.recursive target, ¬ Overlong setup.encoding w₁.volume path) := by
  obtain ⟨isFolder, isFile, folder, file⟩ := target_of_check h
  rw [run_check_eq folder file] at h
  by_cases worth : (isFolder || (isFile && isSource target)) = true
  · rw [if_pos worth] at h
    obtain ⟨_, w', walked, h'⟩ := Job.run_bind_eq_ok.1 h
    obtain ⟨_, w'', summed, last⟩ := Job.run_bind_eq_ok.1 h'
    cases last
    obtain ⟨rows, totals, average, rfl⟩ := run_summarise_eq_ok.1 summed
    let told := w.saying [.notice .info s!"Starting style check for: {target}"]
    have tree' : told.volume.Tree := tree
    obtain ⟨kept, sound, again⟩ := run_walk_after_fix tree' fix silent free off deep folder walked
      fun name cause notice => readable name cause (World.recalls_saying _ _ _ notice)
    have folder₁ : w'.volume.isFolder target = .ok isFolder :=
      (kept.same (·.isFolder target) fun v => v.isFolder_outline target).trans folder
    have file₁ : w'.volume.isFile target = .ok isFile :=
      (kept.same (·.isFile target) fun v => v.isFile_outline target).trans file
    refine ⟨kept, fun w₂ here => ?_⟩
    have volume : w₂.volume = w'.volume := here
    obtain ⟨a', w₃, walked', sound', fair, lighter, clean⟩ :=
      again (w₂.saying [.notice .info s!"Starting style check for: {target}"]) volume
    obtain ⟨rows', totals', average'⟩ := sound.writable_of_lighter sound' lighter rows totals
    have summed' : (summarise a' options'.fix).run w₃ = .ok () (w₃.saying [.summary a' options'.fix]) := by
      rw [off]
      exact run_summarise_eq_ok.2 ⟨rows', totals', average' ▸ average, rfl⟩
    refine ⟨a', w₃.saying [.summary a' options'.fix], ?_, sound', fair, ?_⟩
    · rw [run_check_eq (volume ▸ folder₁) (volume ▸ file₁), if_pos worth, Job.run_bind_of_ok walked',
        Job.run_bind_of_ok summed']
      rfl
    · change _ ↔ ∀ path ∈ sources w'.volume options.recursive target, ¬ Overlong setup.encoding w'.volume path
      rw [clean, sources_of_target folder₁ file₁, if_pos worth]
  · rw [if_neg worth] at h
    cases h
    refine ⟨.refl w.volume, fun w₂ here => ?_⟩
    have volume : w₂.volume = w.volume := here
    refine ⟨.empty target,
      w₂.saying [.notice .warning s!"Skipping {target}: not a directory or a {sourceExtension} file."], ?_,
      Aggregate.sound_empty _, List.forall_mem_nil _, ?_⟩
    · rw [run_check_eq (volume ▸ folder) (volume ▸ file), if_neg worth]
    · change _ ↔ ∀ path ∈ sources w.volume options.recursive target, ¬ Overlong setup.encoding w.volume path
      rw [sources_of_target folder file, if_neg worth]
      exact iff_of_true (List.forall_mem_nil _) (List.forall_mem_nil _)

end Walk

namespace Command

variable {process : String → ProcessOutcome} {args args' : List String} {target : String} {settings : Settings}
variable {recursive verbose : Option Bool} {debug debug' : Bool} {w w₀ w₁ : World}

section

variable (tree : w.volume.Tree) (fixing : request args = .check target ⟨recursive, verbose, some true⟩ debug)
variable (checking : request args' = .check target ⟨recursive, verbose, some false⟩ debug')
variable (loaded : settle.run w = .ok settings w₀) (silent : verbose.getD settings.verbose = false)
variable (fixed : (run styleCheck process args).run w = .ok 0 w₁)
variable (readable : ∀ name cause : String, Event.notice .error s!"Could not read {name}: {cause}" ∉ w₁.events)
variable (w₂ : World) (same : w₂.volume = w₁.volume)
include tree fixing checking loaded silent fixed readable same

/-- The run after a fixing run returns a report. -/
theorem run_after_fix :
    ∃ report w₃, (run styleCheck process args').run w₂ = .ok (exitCode report) w₃ ∧ (exitCode report = 0 ↔
      ∀ path ∈ Walk.sources w₁.volume (recursive.getD settings.recursive) (Path.ofString target).text,
        ¬ Scan.Overlong settings.encoding w₁.volume path) := by
  rw [run_of_check fixing loaded] at fixed
  obtain ⟨report, returned, -⟩ := outcome_of_zero fixed
  obtain ⟨settled, -⟩ := settle_agrees tree (.refl _) rfl loaded
  let options := settings.options ⟨recursive, verbose, some true⟩
  let options' := settings.options ⟨recursive, verbose, some false⟩
  let started := w₀.saying (opening options debug)
  have here : started.volume = w.volume := settled
  have checked : (Walk.check (setupOf process settings) Rule.table options (Path.ofString target).text).run started =
      .ok report w₁ := returned
  have tree' : started.volume.Tree := here ▸ tree
  have on : options.fix = true := rfl
  have off : options'.fix = false := rfl
  have free : ∀ path, (setupOf process settings).locked path = none := fun _ => rfl
  obtain ⟨kept, again⟩ := Walk.run_check_after_fix tree' on silent free off rfl checked readable
  rw [here] at kept
  obtain ⟨-, loads⟩ := settle_agrees tree kept rfl loaded
  obtain ⟨w₂', loaded', there⟩ := loads w₂ same
  obtain ⟨report', w₃, returned', sound, fair, clean⟩ := again (w₂'.saying (opening options' debug')) there
  refine ⟨report', w₃, ?_, ?_⟩
  · rw [run_of_check checking loaded']
    exact run_runCheck returned'
  · rw [exitCode_eq_zero_iff sound fair, clean]
    exact Iff.rfl

end

theorem tree_singleFile (bytes : List UInt8) : (Scan.singleFile bytes).Tree where
  unlinked := by
    intro entry mem target link
    obtain rfl := List.mem_singleton.1 mem
    cases link
  places := List.nodup_singleton _

/-- What is left to report on a source of one line that was fixed. -/
theorem overlong_sources_iff {v : Volume} {line : Text.Line} {out : List UInt8} (cut : Text.WellCut [line])
    (written : Charset.utf8.encodeAll true ((Scan.tidiedFrom (fun _ => true) 1 [line]).map Text.Line.raw) = .ok out)
    (read : v.read "a.m" = .ok out) :
    (∀ path ∈ Walk.sources v false (Path.ofString "a.m").text, ¬ Scan.Overlong "utf-8" v path) ↔
      ¬ Scan.OverlongLine 1 (Line.tidied (fun _ => true) 1 line) := by
  have short : (Path.ofString "a.m").text = "a.m" := by decide
  have worth : (false || (true && isSource "a.m")) = true := by decide
  have source : isSource "a.m" = true := by decide
  obtain ⟨folder, file⟩ := isFile_of_read out read
  have steps : Walk.stepsFrom Stack.standard.folders v false "a.m" false = [.scan "a.m"] := by
    rw [Walk.stepsFrom, source]
    rfl
  have cut' : Text.WellCut [Line.tidied (fun _ => true) 1 line] := Scan.wellCut_tidiedFrom cut (fun _ => true) 1
  rw [short, Walk.sources_of_target folder file, if_pos worth, steps, ← Scan.overlong_singleLine cut' written read]
  exact List.forall_mem_singleton

/-- A line of eighty characters that is too long when it is repaired. -/
def wideLine : Text.Line := ⟨'x' :: '=' :: List.replicate 78 '1', .lineFeed⟩

end Command

end MatlabTidy
