import MatlabTidy.Proofs.Run.Job
import MatlabTidy.Proofs.Volume.Replace

/-!
# The steps of a scan

A scan is put together from parts (`Scan.Parts`), and how it ends follows from how they end, whatever they
are. `Scan.Parts.run_replaceFile` says once in which ways the writing of a file can end
(`Scan.Parts.Writes`), and `Scan.Parts.run_run` in which ways a whole scan can (`Scan.Parts.Runs`): it goes
on from a source that was assessed and opened (`Scan.Parts.Opening`), or it has not come so far.
-/

namespace MatlabTidy.Scan

variable {R : Type} [Criterion R] {options : Options} {path name : String} {w w' : World}
variable {locked : String → Option String}

/-- A guarded job that ends well is the job. -/
theorem run_guarding_eq_ok {α : Type} {temp : Place} {job : Job α} {a : α} :
    (guarding temp job).run w = .ok a w' ↔ job.run w = .ok a w' := by
  rw [guarding, Job.run_tryCatch]
  cases job.run w with
  | ok b w₁ => rfl
  | error failure w₁ =>
    constructor
    · intro h
      cases h
    · intro h
      cases h

/-- A guarded job that fails has removed the temporary file. -/
theorem run_guarding_eq_error {α : Type} {temp : Place} {job : Job α} {failure : Failure} :
    (guarding temp job).run w = .error failure w' ↔
      ∃ w₁, job.run w = .error failure w₁ ∧ w' = { w₁ with volume := w₁.volume.erase temp } := by
  rw [guarding, Job.run_tryCatch]
  cases job.run w with
  | ok b w₁ =>
    constructor
    · intro h
      cases h
    · rintro ⟨_, h, -⟩
      cases h
  | error e w₁ =>
    constructor
    · intro h
      cases h
      exact ⟨w₁, rfl, rfl⟩
    · rintro ⟨_, h, rfl⟩
      cases h
      rfl

/-- Why a file is not moved in place: the source is held, or the volume has no way to move the file. -/
inductive HeldBack (locked : String → Option String) (v : Volume) (temp : Place) (path : String) : String → Prop where
  | locked {cause : String} (held : locked path = some cause) : HeldBack locked v temp path cause
  | refused {e : AccessError} (unlocked : locked path = none) (refuses : v.replace temp path = .error e) :
      HeldBack locked v temp path e.message

/-- A file that is held back is not moved, and nothing changes. -/
theorem run_moveInPlace_of_heldBack {temp : Place} {cause : String} (h : HeldBack locked w.volume temp path cause) :
    (moveInPlace locked temp path).run w = .ok (some cause) w := by
  unfold moveInPlace
  cases h with
  | locked held =>
    rw [held]
    rfl
  | refused unlocked refuses =>
    rw [unlocked]
    dsimp only
    rw [Job.run_bind_of_ok (EStateM.run_get w), refuses]
    rfl

/-- A repaired file is in place if nothing holds the source and the volume moves the file. -/
theorem run_moveInPlace_eq_ok {temp : Place} :
    (moveInPlace locked temp path).run w = .ok none w' ↔
      locked path = none ∧
        ∃ volume, w.volume.replace temp path = .ok volume ∧ w' = { w with volume := volume } := by
  unfold moveInPlace
  cases held : locked path with
  | some cause =>
    constructor
    · intro h
      cases h
    · rintro ⟨h, -⟩
      cases h
  | none =>
    dsimp only
    rw [Job.run_bind_of_ok (EStateM.run_get w)]
    cases moved : w.volume.replace temp path with
    | error e =>
      constructor
      · intro h
        cases h
      · rintro ⟨-, volume, h, -⟩
        cases h
    | ok volume =>
      constructor
      · intro h
        cases h
        exact ⟨rfl, volume, rfl, rfl⟩
      · rintro ⟨-, volume', h, rfl⟩
        cases h
        rfl

/-- The name under which a file is shown. -/
def nameFor (path : String) (shownAs : Option String) : String :=
  match shownAs with
  | some name => if name.isEmpty then (Path.ofString path).text else name
  | none => (Path.ofString path).text

section PartsOn

variable {R : Type} [Criterion R] (host : Host) (setup : Setup) (rules : List R) (options : Options)

@[simp] theorem partsOn_rules : (partsOn host setup rules options).rules = rules := rfl

@[simp] theorem partsOn_finish : (partsOn host setup rules options).finish = finishOn host := by
  rw [partsOn]

theorem finishOn_bare : finishOn .bare = finish := by
  rw [finish]

end PartsOn

namespace Parts

variable {parts : Parts R} {assessment : Assessment} {lines : Job (List UInt8 × List Count)} {made : Volume}
variable {temporary : Volume.Temporary} {out : List UInt8} {counts : List Count} {scanned : World}

/-- The last steps for a file that is not moved in place. -/
def giveUp (parts : Parts R) (options : Options) (path : String) (report : FileReport) (cause : String) :
    Job FileReport := do
  parts.finish report.withoutFixes true options.verbose
  throw (.replaceFailed path report cause)

/-- The last steps for a file that is in place. -/
def conclude (parts : Parts R) (options : Options) (report : FileReport) : Job FileReport := do
  parts.finish report options.fix options.verbose
  return report

section Last

variable {report result : FileReport} {cause : String} {failure : Failure}

omit [Criterion R] in
/-- A file that was not moved in place is not returned. -/
theorem not_run_giveUp_eq_ok : (parts.giveUp options path report cause).run w ≠ .ok result w' := by
  intro h
  obtain ⟨_, w₁, -, thrown⟩ := Job.run_bind_eq_ok.1 h
  exact Job.not_run_throw_eq_ok thrown

omit [Criterion R] in
theorem run_giveUp_eq_error : (parts.giveUp options path report cause).run w = .error failure w' ↔
    (parts.finish report.withoutFixes true options.verbose).run w = .error failure w' ∨
      (parts.finish report.withoutFixes true options.verbose).run w = .ok () w' ∧
        failure = .replaceFailed path report cause := by
  rw [giveUp, Job.run_bind_eq_error]
  refine or_congr_right ⟨?_, ?_⟩
  · rintro ⟨_, w₁, finished, thrown⟩
    cases thrown
    exact ⟨finished, rfl⟩
  · rintro ⟨finished, rfl⟩
    exact ⟨(), w', finished, rfl⟩

omit [Criterion R] in
theorem run_conclude_eq_ok : (parts.conclude options report).run w = .ok result w' ↔
    (parts.finish report options.fix options.verbose).run w = .ok () w' ∧ result = report := by
  rw [conclude, Job.run_bind_eq_ok]
  constructor
  · rintro ⟨_, w₁, finished, last⟩
    cases last
    exact ⟨finished, rfl⟩
  · rintro ⟨finished, rfl⟩
    exact ⟨(), w', finished, rfl⟩

omit [Criterion R] in
theorem run_conclude_eq_error : (parts.conclude options report).run w = .error failure w' ↔
    (parts.finish report options.fix options.verbose).run w = .error failure w' := by
  rw [conclude, Job.run_bind_eq_error, or_iff_left_iff_imp]
  rintro ⟨_, w₁, -, last⟩
  cases last

end Last

/-- The last steps of writing a file whose lines were scanned. -/
def settle (parts : Parts R) (options : Options) (path : String) (temp : Place) (report : FileReport) :
    Job FileReport := do
  match ← moveInPlace parts.locked temp path with
  | some cause =>
    Job.modifyVolume (·.erase temp)
    parts.giveUp options path report cause
  | none =>
    Job.log .debug .scanning s!"Rewrote {path} ({report.totalFixes} fixes)"
    parts.conclude options report

/-- How the writing of a file ends: no temporary file could be made, the lines could not be scanned, the new file
was held back, or it was moved in place. In the last two cases what is left is the report. -/
inductive Writes (parts : Parts R) (options : Options) (path name : String) (assessment : Assessment)
    (lines : Job (List UInt8 × List Count)) (w : World) : EStateM.Result Failure World FileReport → Prop where
  | unmade {e : AccessError} (makes : w.volume.makeTemporary path = .error e) :
      Writes parts options path name assessment lines w (.error (.access e) w)
  | unscanned {made : Volume} {temporary : Volume.Temporary} {failure : Failure} {w₁ : World}
      (makes : w.volume.makeTemporary path = .ok (made, temporary))
      (scans : lines.run { w with volume := made } = .error failure w₁) :
      Writes parts options path name assessment lines w
        (.error failure { w₁ with volume := w₁.volume.erase temporary.place })
  | heldBack {made : Volume} {temporary : Volume.Temporary} {out : List UInt8} {counts : List Count} {scanned : World}
      {cause : String} (makes : w.volume.makeTemporary path = .ok (made, temporary))
      (scans : lines.run { w with volume := made } = .ok (out, counts) scanned)
      (held : HeldBack parts.locked (scanned.volume.write temporary.place out) temporary.place path cause) :
      Writes parts options path name assessment lines w
        ((parts.giveUp options path (report name parts.rules counts assessment) cause).run
          { scanned with volume := (scanned.volume.write temporary.place out).erase temporary.place })
  | moved {made : Volume} {temporary : Volume.Temporary} {out : List UInt8} {counts : List Count} {scanned : World}
      {volume : Volume} (makes : w.volume.makeTemporary path = .ok (made, temporary))
      (scans : lines.run { w with volume := made } = .ok (out, counts) scanned)
      (unlocked : parts.locked path = none)
      (moves : (scanned.volume.write temporary.place out).replace temporary.place path = .ok volume) :
      Writes parts options path name assessment lines w
        ((parts.conclude options (report name parts.rules counts assessment)).run
          (World.saying { scanned with volume := volume } [.logged ⟨.debug, .scanning,
            s!"Rewrote {path} ({(report name parts.rules counts assessment).totalFixes} fixes)"⟩]))

theorem run_replaceFile_of_unmade {e : AccessError} (makes : w.volume.makeTemporary path = .error e) :
    (parts.replaceFile options path name assessment lines).run w = .error (.access e) w := by
  rw [replaceFile]
  exact Job.run_bind_eq_error.2 (.inl (Job.run_ask_of_error makes))

/-- If the lines cannot be scanned the temporary file is removed. -/
theorem run_replaceFile_of_unscanned {failure : Failure} {w₁ : World}
    (makes : w.volume.makeTemporary path = .ok (made, temporary))
    (scans : lines.run { w with volume := made } = .error failure w₁) :
    (parts.replaceFile options path name assessment lines).run w =
      .error failure { w₁ with volume := w₁.volume.erase temporary.place } := by
  have asked : (Job.ask (·.makeTemporary path)).run w = .ok (made, temporary) w := Job.run_ask_eq_ok.2 ⟨makes, rfl⟩
  have guarded : (guarding temporary.place lines).run
      { w with volume := made } = .error failure { w₁ with volume := w₁.volume.erase temporary.place } :=
    run_guarding_eq_error.2 ⟨w₁, scans, rfl⟩
  rw [replaceFile, Job.run_bind_of_ok asked]
  dsimp only
  rw [Job.run_bind_of_ok (Job.run_modifyVolume _)]
  exact Job.run_bind_eq_error.2 (.inl guarded)

/-- A new file is written and moved in place once the lines were scanned. -/
theorem run_replaceFile_of_scans (makes : w.volume.makeTemporary path = .ok (made, temporary))
    (scans : lines.run { w with volume := made } = .ok (out, counts) scanned) :
    (parts.replaceFile options path name assessment lines).run w =
      (parts.settle options path temporary.place (report name parts.rules counts assessment)).run
        { scanned with volume := scanned.volume.write temporary.place out } := by
  have asked : (Job.ask (·.makeTemporary path)).run w = .ok (made, temporary) w := Job.run_ask_eq_ok.2 ⟨makes, rfl⟩
  have guarded : (guarding temporary.place lines).run
      { w with volume := made } = .ok (out, counts) scanned := run_guarding_eq_ok.2 scans
  rw [replaceFile, Job.run_bind_of_ok asked]
  dsimp only
  rw [Job.run_bind_of_ok (Job.run_modifyVolume _), Job.run_bind_of_ok guarded]
  rfl

theorem run_replaceFile_of_heldBack {cause : String} (makes : w.volume.makeTemporary path = .ok (made, temporary))
    (scans : lines.run { w with volume := made } = .ok (out, counts) scanned)
    (held : HeldBack parts.locked (scanned.volume.write temporary.place out) temporary.place path cause) :
    (parts.replaceFile options path name assessment lines).run w =
      (parts.giveUp options path (report name parts.rules counts assessment) cause).run
        { scanned with volume := (scanned.volume.write temporary.place out).erase temporary.place } := by
  have stays : (moveInPlace parts.locked temporary.place path).run
      { scanned with volume := scanned.volume.write temporary.place out } = _ := run_moveInPlace_of_heldBack held
  rw [run_replaceFile_of_scans makes scans, settle, Job.run_bind_of_ok stays]
  dsimp only
  rw [Job.run_bind_of_ok (Job.run_modifyVolume _)]

theorem run_replaceFile_of_moved {volume : Volume} (makes : w.volume.makeTemporary path = .ok (made, temporary))
    (scans : lines.run { w with volume := made } = .ok (out, counts) scanned)
    (unlocked : parts.locked path = none)
    (moves : (scanned.volume.write temporary.place out).replace temporary.place path = .ok volume) :
    (parts.replaceFile options path name assessment lines).run w =
      (parts.conclude options (report name parts.rules counts assessment)).run
        (World.saying { scanned with volume := volume } [.logged ⟨.debug, .scanning,
          s!"Rewrote {path} ({(report name parts.rules counts assessment).totalFixes} fixes)"⟩]) := by
  have moved : (moveInPlace parts.locked temporary.place path).run
      { scanned with volume := scanned.volume.write temporary.place out } =
        .ok none { scanned with volume := volume } :=
    run_moveInPlace_eq_ok.2 ⟨unlocked, volume, moves, rfl⟩
  rw [run_replaceFile_of_scans makes scans, settle, Job.run_bind_of_ok moved]
  dsimp only
  rw [Job.run_bind_of_ok (Job.run_log _ _ _)]

/-- Writing a file ends in one of four ways. -/
theorem run_replaceFile (parts : Parts R) (options : Options) (path name : String) (assessment : Assessment)
    (lines : Job (List UInt8 × List Count)) (w : World) :
    Writes parts options path name assessment lines w
      ((parts.replaceFile options path name assessment lines).run w) := by
  cases makes : w.volume.makeTemporary path with
  | error e =>
    rw [run_replaceFile_of_unmade makes]
    exact .unmade makes
  | ok made =>
    obtain ⟨made, temporary⟩ := made
    cases scans : lines.run { w with volume := made } with
    | error failure w₁ =>
      rw [run_replaceFile_of_unscanned makes scans]
      exact .unscanned makes scans
    | ok result scanned =>
      obtain ⟨out, counts⟩ := result
      cases held : parts.locked path with
      | some cause =>
        rw [run_replaceFile_of_heldBack makes scans (.locked held)]
        exact .heldBack makes scans (.locked held)
      | none =>
        cases moves : (scanned.volume.write temporary.place out).replace temporary.place path with
        | error e =>
          rw [run_replaceFile_of_heldBack makes scans (.refused held moves)]
          exact .heldBack makes scans (.refused held moves)
        | ok volume =>
          rw [run_replaceFile_of_moved makes scans held moves]
          exact .moved makes scans held moves

/-- The scan of a source that has been assessed and opened. -/
def scanOpened (parts : Parts R) (options : Options) (path name : String) (assessment : Assessment)
    (lines : Job (List UInt8 × List Count)) : Job FileReport :=
  if options.fix then parts.replaceFile options path name assessment lines
  else do
    let (_, counts) ← lines
    parts.conclude options (report name parts.rules counts assessment)

/-- The first steps of a scan: the source was assessed and opened. -/
structure Opening (parts : Parts R) (path : String) (w : World) where
  assessment : Assessment
  asked : World
  lines : Job (List UInt8 × List Count)
  opened : World
  source : isSource path = true
  assessed : (parts.assess path).run w = .ok assessment asked
  opens : (parts.openLines path).run asked = .ok lines opened

/-- How a scan ends: the path names no source, the source could not be assessed or not be opened, or the scan
has gone on from there. -/
inductive Runs (parts : Parts R) (options : Options) (path : String) (shownAs : Option String) (w : World) :
    EStateM.Result Failure World FileReport → Prop where
  | other (other : isSource path = false) :
      Runs parts options path shownAs w (.error (.unsupportedExtension path (Path.ofString path).suffix) w)
  | unassessed {failure : Failure} {w' : World} (source : isSource path = true)
      (fails : (parts.assess path).run w = .error failure w') : Runs parts options path shownAs w (.error failure w')
  | unopened {assessment : Assessment} {asked w' : World} {failure : Failure} (source : isSource path = true)
      (assessed : (parts.assess path).run w = .ok assessment asked)
      (fails : (parts.openLines path).run asked = .error failure w') :
      Runs parts options path shownAs w (.error failure w')
  | opened (o : Opening parts path w) :
      Runs parts options path shownAs w
        ((parts.scanOpened options path (nameFor path shownAs) o.assessment o.lines).run o.opened)

/-- A file that is no source is not scanned. -/
theorem run_of_not_source (other : isSource path = false) (shownAs : Option String) (w : World) :
    (parts.run options path shownAs).run w =
      .error (.unsupportedExtension path (Path.ofString path).suffix) w := by
  unfold run
  simp only [other, Bool.not_false, if_true]
  rfl

/-- A source that cannot be assessed is not scanned. -/
theorem run_of_unassessed {shownAs : Option String} {failure : Failure} (source : isSource path = true)
    (fails : (parts.assess path).run w = .error failure w') :
    (parts.run options path shownAs).run w = .error failure w' := by
  unfold run
  simp only [source, Bool.not_true, Bool.false_eq_true, if_false]
  exact Job.run_bind_eq_error.2 (.inl fails)

/-- A source that cannot be opened is not scanned. -/
theorem run_of_unopened {shownAs : Option String} {failure : Failure} {asked : World}
    (source : isSource path = true) (assessed : (parts.assess path).run w = .ok assessment asked)
    (fails : (parts.openLines path).run asked = .error failure w') :
    (parts.run options path shownAs).run w = .error failure w' := by
  unfold run
  simp only [source, Bool.not_true, Bool.false_eq_true, if_false]
  rw [Job.run_bind_of_ok assessed]
  exact Job.run_bind_eq_error.2 (.inl fails)

/-- A scan goes on from what was opened. -/
theorem run_of_opening (o : Opening parts path w) (shownAs : Option String) :
    (parts.run options path shownAs).run w =
      (parts.scanOpened options path (nameFor path shownAs) o.assessment o.lines).run o.opened := by
  unfold run
  simp only [o.source, Bool.not_true, Bool.false_eq_true, if_false]
  rw [Job.run_bind_of_ok o.assessed, Job.run_bind_of_ok o.opens]
  rfl

/-- A scan ends in one of four ways. -/
theorem run_run (parts : Parts R) (options : Options) (path : String) (shownAs : Option String) (w : World) :
    Runs parts options path shownAs w ((parts.run options path shownAs).run w) := by
  by_cases source : isSource path = true
  · cases assessed : (parts.assess path).run w with
    | error failure asked =>
      rw [run_of_unassessed source assessed]
      exact .unassessed source assessed
    | ok assessment asked =>
      cases opens : (parts.openLines path).run asked with
      | error failure opened =>
        rw [run_of_unopened source assessed opens]
        exact .unopened source assessed opens
      | ok lines opened =>
        let o : Opening parts path w := ⟨assessment, asked, lines, opened, source, assessed, opens⟩
        rw [run_of_opening o]
        exact .opened o
  · rw [Bool.not_eq_true] at source
    rw [run_of_not_source source]
    exact .other source

/-- A scan that ends well has gone on from a source that was assessed and opened. -/
theorem run_run_eq_ok {shownAs : Option String} {result : FileReport} :
    (parts.run options path shownAs).run w = .ok result w' ↔
      ∃ o : Opening parts path w,
        (parts.scanOpened options path (nameFor path shownAs) o.assessment o.lines).run o.opened = .ok result w' := by
  constructor
  · intro h
    have ends := run_run parts options path shownAs w
    generalize (parts.run options path shownAs).run w = ended at h ends
    cases ends with
    | other => cases h
    | unassessed => cases h
    | unopened => cases h
    | opened o => exact ⟨o, h⟩
  · rintro ⟨o, h⟩
    rw [run_of_opening o, h]

end Parts

end MatlabTidy.Scan
