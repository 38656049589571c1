import MatlabTidy.Proofs.Run.Steady
import MatlabTidy.Proofs.Run.Trace
import MatlabTidy.Proofs.Run.Trip

/-!
# What a walk tells about files that fail

The visit of a file is determined by the world in which it begins (`Walk.Visit.unique`). A walk can be told of
any scanner on which it can depend (`Walk.Dependable`): one that does no more than to rewrite its own file, also if
it fails, and leaves a file as it was that it could not replace. If the scans come to what is assigned to their
files (`Walk.Plan.Follows`) the walk ends well (`Walk.exists_done_of_follows`), and the operator gets the reports
that the visits left and one alarm for each file that failed (`Walk.Trip.accounts`).
-/

namespace MatlabTidy

/-- The walk goes on after the failure: it is the trouble of one file, or carries a report. -/
def Failure.IsLocal (failure : Failure) : Prop :=
  failure.isFileTrouble = true ∨ ∃ report, failure.report? = some report

namespace Walk

variable {plan : Plan} {path : String} {outcome : Outcome} {w w' : World} {visits : List (String × Outcome)}

namespace Outcome

/-- The file could not be read. -/
def isUnreadable : Outcome → Bool
  | .unreadable _ => true
  | _ => false

/-- The file could not be read or not be replaced. -/
def isFailed : Outcome → Bool
  | .scanned _ => false
  | _ => true

end Outcome

/-- The alarm for a file that failed; `here` is the current folder. -/
inductive Complains (plan : Plan) (here : String) : String × Outcome → String → Prop where
  | unreplaced {path : String} {failure : Failure} {report : FileReport} (carries : failure.report? = some report) :
      Complains plan here (path, .unreplaced report) s!"{failure.message}. Original file left unchanged."
  | unreadable (path : String) (failure : Failure) :
      Complains plan here (path, .unreadable failure)
        s!"Could not read {Path.displayName here path (some plan.root)}: {failure.message}"

/-- A visit comes to what its attempt has come to. -/
theorem Visit.unique {outcome' : Outcome} {w'' : World} (h : Visit plan path w outcome w')
    (h' : Visit plan path w outcome' w'') : outcome = outcome' ∧ w' = w'' := by
  cases h with
  | scanned run =>
    cases h' with
    | scanned run' =>
      cases run.symm.trans run'
      exact ⟨rfl, rfl⟩
    | unreplaced run' | unreadable run' => cases run.symm.trans run'
  | unreplaced run carries =>
    cases h' with
    | scanned run' => cases run.symm.trans run'
    | unreplaced run' carries' =>
      cases run.symm.trans run'
      cases carries.symm.trans carries'
      exact ⟨rfl, rfl⟩
    | unreadable run' trouble =>
      cases run.symm.trans run'
      cases carries.symm.trans (report?_of_isFileTrouble trouble)
  | unreadable run trouble =>
    cases h' with
    | scanned run' => cases run.symm.trans run'
    | unreplaced run' carries =>
      cases run.symm.trans run'
      cases carries.symm.trans (report?_of_isFileTrouble trouble)
    | unreadable run' =>
      cases run.symm.trans run'
      exact ⟨rfl, rfl⟩

/-- A file that was visited did not stop the walk. -/
theorem Visit.not_halt {failure : Failure} {w'' : World} (h : Visit plan path w outcome w') :
    ¬ Halt plan path w failure w'' := by
  rintro ⟨run, bare, grave⟩
  cases h with
  | scanned run' => cases run.symm.trans run'
  | unreplaced run' carries =>
    cases run.symm.trans run'
    cases bare.symm.trans carries
  | unreadable run' trouble =>
    cases run.symm.trans run'
    cases grave.symm.trans trouble

/-- A scanner on which a walk can depend. It gives no alarms, and it leaves the volume as it was or puts a file at
the entry that the path names, also if there is trouble with the file, but not if it fails to replace it. Unless
there is trouble, it comes to the same in a volume that is as good for the path. -/
structure Dependable (scan : (path name : String) → Job FileReport) : Prop where
  speaks : ∀ path name, Job.Speaks (scan path name)
  puts : ∀ {path name w report w'}, (scan path name).run w = .ok report w' →
    w'.volume = w.volume ∨ Scan.Rewritten w.volume path w'.volume
  breaks : ∀ {path name w failure w'}, (scan path name).run w = .error failure w' → failure.isFileTrouble = true →
    w'.volume = w.volume ∨ Scan.Rewritten w.volume path w'.volume
  restores : ∀ {path name w failure report w'}, (scan path name).run w = .error failure w' →
    failure.report? = some report → w'.volume = w.volume
  again : ∀ {path name w report w' w₂ parent last}, (scan path name).run w = .ok report w' →
    Scan.Alike w.volume w₂.volume path parent last →
    ∃ w₃, (scan path name).run w₂ = .ok report w₃ ∧
      (w'.volume = w.volume ∧ w₃.volume = w₂.volume ∨ ∃ out mode,
        w'.volume = w.volume.put (parent ++ [last]) (.file out mode) ∧
        w₃.volume = w₂.volume.put (parent ++ [last]) (.file out mode))
  heldAgain : ∀ {path name w failure report w' w₂ parent last}, (scan path name).run w = .error failure w' →
    failure.report? = some report → Scan.Alike w.volume w₂.volume path parent last →
    ∃ w₃, (scan path name).run w₂ = .error failure w₃ ∧ w₃.volume = w₂.volume

/-- A walk that asks nobody can depend on the scan of files on a host. -/
theorem dependable_scanOn (host : Host) (setup : Setup) (rules : List Rule) {options : Options}
    (quiet : options.interactive = false) : Dependable (scanOn host setup rules options) where
  speaks path name := scanOn_speaks host setup rules options path name
  puts {path name w report w'} run := by
    rw [scanOn] at run
    have ends := Scan.Parts.volume_of_run_ok (Scan.partsOn_harmless host setup rules options) run
    cases fix : options.fix with
    | false => exact .inl (ends.1 fix)
    | true => exact .inr (ends.2 fix)
  breaks {path name w failure w'} run _ := by
    rw [scanOn] at run
    exact (Scan.volume_of_partsOn_error run).imp_right And.left
  restores {path name w failure report w'} run carries := by
    rw [scanOn] at run
    exact Scan.volume_of_partsOn_held run carries
  again {path name w report w' w₂ parent last} run alike := by
    rw [scanOn] at run ⊢
    exact Scan.run_partsOn_ok_alike quiet alike run
  heldAgain {path name w failure report w' w₂ parent last} run carries alike := by
    rw [scanOn] at run ⊢
    exact (Scan.run_partsOn_held_alike quiet alike run carries).2

section Dependable

variable (dependable : Dependable plan.scan)

include dependable

/-- A visit leaves the volume as it was, or puts a file at the entry that its path names. -/
theorem Visit.volume (h : Visit plan path w outcome w') :
    w'.volume = w.volume ∨ Scan.Rewritten w.volume path w'.volume := by
  cases h with
  | scanned run =>
    have changed := dependable.puts run
    exact changed
  | unreplaced run carries =>
    have same := dependable.restores run carries
    exact .inl same
  | unreadable run trouble =>
    have changed := dependable.breaks run trouble
    exact changed

/-- A visit does not go elsewhere. -/
theorem Visit.here (h : Visit plan path w outcome w') : w'.volume.here = w.volume.here := by
  rcases h.volume dependable with same | ⟨parent, last, out, mode, -, put⟩
  · rw [same]
  · rw [put, Volume.here_put]

end Dependable

namespace Trip

/-- Before its first visit, a trip only speaks. -/
theorem first {visit : String × Outcome} (trip : Trip plan w (visit :: visits) w') :
    ∃ w₁ w₂, Trip plan w [] w₁ ∧ Visit plan visit.1 w₁ visit.2 w₂ ∧ Trip plan w₂ visits w' := by
  generalize whole : visit :: visits = all at trip
  induction trip with
  | done w => cases whole
  | say quiet _ ih =>
    obtain ⟨w₁, w₂, before, here, behind⟩ := ih whole
    exact ⟨w₁, w₂, .say quiet before, here, behind⟩
  | @visit w w₁ w' path outcome visits here rest _ =>
    cases whole
    exact ⟨w, w₁, .done w, here, rest⟩

/-- Before its first visit, a trip leaves the volume as it was. -/
theorem volume_of_nil (trip : Trip plan w [] w') : w'.volume = w.volume := by
  generalize none : ([] : List (String × Outcome)) = visits at trip
  induction trip with
  | done w => rfl
  | say _ _ ih => exact ih none
  | visit => cases none

end Trip

open World (Tells)

/-- The scan of a file gives no alarm, however it ends. -/
theorem Plan.attempt_quiet (speaks : ∀ path name, Job.Speaks (plan.scan path name)) (path : String) (w : World) :
    (∀ report w', plan.attempt path w = .ok report w' → Tells Event.alarm? w w' []) ∧
      ∀ failure w', plan.attempt path w = .error failure w' → Tells Event.alarm? w w' [] := by
  have told : ∀ {w' : World}, World.Speaks (w.saying [.notice .info s!"Evaluating: {plan.shown w path}"]) w' →
      Tells Event.alarm? w w' [] := fun speaks => (World.tells_unheard w rfl).trans speaks.tells_alarm
  have speaks := speaks path (plan.shown w path)
  exact ⟨fun _ _ run => told (speaks.of_ok run), fun _ _ run => told (speaks.of_error run)⟩

/-- A walk gives one alarm for each file that failed, in order, and no other. -/
theorem Trip.complains (dependable : Dependable plan.scan) (trip : Trip plan w visits w') :
    ∃ messages, Tells Event.alarm? w w' messages ∧
      List.Forall₂ (Complains plan w.volume.hereText) (visits.filter (·.2.isFailed)) messages := by
  induction trip with
  | done w => exact ⟨[], .nil _ w, .nil⟩
  | @say w w' events visits quiet _ ih =>
    obtain ⟨messages, told, all⟩ := ih
    have silent : events.filterMap Event.alarm? = [] := List.filterMap_eq_nil_iff.2 fun event mem =>
      Event.alarm?_of_quiet (quiet event mem)
    have before := World.tells_saying Event.alarm? w events
    rw [silent] at before
    exact ⟨messages, before.trans told, all⟩
  | @visit w w₁ w' path outcome visits here _ ih =>
    obtain ⟨messages, told, all⟩ := ih
    have stays : w₁.volume.hereText = w.volume.hereText := by
      rw [Volume.hereText, Volume.hereText, here.here dependable]
    rw [stays] at all
    obtain ⟨scans, fails⟩ := Plan.attempt_quiet dependable.speaks path w
    cases here with
    | scanned run => exact ⟨messages, (scans _ _ run).trans told, all⟩
    | unreplaced run carries =>
      exact ⟨_ :: messages, ((fails _ _ run).trans (World.tells_saying _ _ [.notice .error _])).trans told,
        .cons (.unreplaced carries) all⟩
    | unreadable run trouble =>
      exact ⟨_ :: messages, ((fails _ _ run).trans (World.tells_saying _ _ [.notice .error _])).trans told,
        .cons (.unreadable path _) all⟩

/-- The outcomes that are assigned to files. -/
def assigned (fate : String → Outcome) (paths : List String) : List (String × Outcome) :=
  paths.map fun path => (path, fate path)

section Assigned

variable {fate : String → Outcome} {paths : List String}

@[simp] theorem map_fst_assigned (fate : String → Outcome) (paths : List String) :
    (assigned fate paths).map Prod.fst = paths := by
  rw [assigned, List.map_map]
  exact List.map_id' paths

theorem mem_assigned {visit : String × Outcome} :
    visit ∈ assigned fate paths ↔ visit.1 ∈ paths ∧ visit.2 = fate visit.1 := by
  rw [assigned, List.mem_map]
  constructor
  · rintro ⟨path, mem, rfl⟩
    exact ⟨mem, rfl⟩
  · rintro ⟨mem, same⟩
    exact ⟨visit.1, mem, Prod.ext rfl same.symm⟩

end Assigned

/-- Whichever file is next, its scan comes to what is assigned to it. -/
def Plan.Follows (plan : Plan) (fate : String → Outcome) (w : World) (paths : List String) : Prop :=
  ∀ visits w₁ next rest, Trip plan w visits w₁ → paths = visits.map Prod.fst ++ next :: rest →
    ∃ w₂, Visit plan next w₁ (fate next) w₂

namespace Plan.Follows

variable {fate : String → Outcome} {paths : List String} {events : List Event}

theorem nil (plan : Plan) (fate : String → Outcome) (w : World) : plan.Follows fate w [] :=
  fun _ _ _ _ _ way => absurd way.symm (List.append_ne_nil_of_right_ne_nil _ (List.cons_ne_nil _ _))

/-- Scans come to what is assigned to their files if the first one does, and the others after it. -/
theorem cons (here : ∀ w₁ : World, w₁.volume = w.volume →
      ∃ w₂, Visit plan path w₁ (fate path) w₂ ∧ plan.Follows fate w₂ paths) :
    plan.Follows fate w (path :: paths) := by
  intro visits w₁ next rest trip way
  cases visits with
  | nil =>
    obtain ⟨rfl, rfl⟩ := List.cons.inj way
    obtain ⟨w₂, visit, -⟩ := here w₁ trip.volume_of_nil
    exact ⟨w₂, visit⟩
  | cons visit visits =>
    obtain ⟨rfl, rfl⟩ := List.cons.inj way
    obtain ⟨w₂, w₃, speaking, visited, behind⟩ := trip.first
    obtain ⟨w₄, visited', follows⟩ := here w₂ speaking.volume_of_nil
    obtain ⟨-, rfl⟩ := visited.unique visited'
    exact follows visits w₁ next rest behind rfl

theorem say (h : plan.Follows fate w paths) (quiet : ∀ event ∈ events, event.isAlarm = false) :
    plan.Follows fate (w.saying events) paths :=
  fun visits w₁ next rest trip way => h visits w₁ next rest (.say quiet trip) way

/-- The first scan came to what is assigned to its file, and the others will. -/
theorem visit (h : plan.Follows fate w (path :: paths)) (here : Visit plan path w outcome w') :
    outcome = fate path ∧ plan.Follows fate w' paths := by
  obtain ⟨w₂, foretold⟩ := h [] w path paths (.done w) rfl
  refine ⟨(here.unique foretold).1, fun visits w₁ next rest trip way => ?_⟩
  exact h ((path, outcome) :: visits) w₁ next rest (.visit here trip) (by rw [way]; rfl)

end Plan.Follows

/-- A trip to files whose scans come to what is assigned to them. -/
theorem Trip.eq_assigned {fate : String → Outcome} {rest : List String} (trip : Trip plan w visits w')
    (follows : plan.Follows fate w (visits.map Prod.fst ++ rest)) : visits = assigned fate (visits.map Prod.fst) := by
  induction trip with
  | done w => rfl
  | say quiet _ ih => exact ih (follows.say quiet)
  | @visit w w₁ w' path outcome visits here _ ih =>
    obtain ⟨same, behind⟩ := follows.visit here
    rw [List.map_cons, assigned, List.map_cons, ← same]
    exact congrArg _ (ih behind)

/-- Steps of which none fails end well if the scans come to what is assigned to their files. -/
theorem exists_done_of_follows {steps : List Step} {fate : String → Outcome} (a : Aggregate)
    (fine : Step.failures steps = []) (follows : plan.Follows fate w (Step.scanned steps)) :
    ∃ a' w', (runSteps plan a steps).run w = .ok a' w' ∧
      Done plan steps a w (assigned fate (Step.scanned steps)) a' w' := by
  cases run : (runSteps plan a steps).run w with
  | ok a' w' =>
    obtain ⟨visits, done⟩ := trip_of_runSteps plan steps run
    rw [← done.paths] at follows ⊢
    have same := done.trip.eq_assigned (by rwa [List.append_nil])
    exact ⟨a', w', rfl, same ▸ done⟩
  | error failure w' =>
    obtain ⟨visits, w₁, rest, trip, paths, cause⟩ := stopped_of_runSteps plan steps run
    rcases cause with ⟨next, first, halt⟩ | ⟨mem, -⟩
    · obtain ⟨others, rfl⟩ := List.head?_eq_some_iff.1 first
      obtain ⟨w₂, visit⟩ := follows visits w₁ next others trip paths
      exact absurd halt visit.not_halt
    · rw [fine] at mem
      cases mem

/-- What the operator learns from a walk: the reports that the visits left, in order, and one alarm for each
file that failed. A file that could not be replaced keeps its report, but for the fixes. -/
structure Accounts (plan : Plan) (w : World) (visits : List (String × Outcome)) (a : Aggregate) (w' : World) :
    Prop where
  trip : Trip plan w visits w'
  files : a.files = reportsOf visits
  unreplaced : ∀ path report, (path, .unreplaced report) ∈ visits → ∃ kept ∈ a.files,
    (∀ fixes ∈ kept.fixes, fixes = 0) ∧ kept.name = report.name ∧ kept.errors = report.errors ∧
    kept.score = report.score ∧ kept.advisories = report.advisories
  alarms : ∃ messages, Tells Event.alarm? w w' messages ∧
    List.Forall₂ (Complains plan w.volume.hereText) (visits.filter (·.2.isFailed)) messages

theorem Trip.accounts {a : Aggregate} (dependable : Dependable plan.scan) (trip : Trip plan w visits w')
    (files : a.files = reportsOf visits) : Accounts plan w visits a w' where
  trip := trip
  files := files
  unreplaced := by
    intro path report mem
    refine ⟨report.withoutFixes, ?_, fun fixes mem => ?_, rfl, rfl, rfl, rfl⟩
    · rw [files]
      exact List.mem_filterMap.2 ⟨_, mem, rfl⟩
    · obtain ⟨_, -, rfl⟩ := List.mem_map.1 mem
      rfl
  alarms := trip.complains dependable

end Walk

end MatlabTidy
