import MatlabTidy.Proofs.Run.Endings

/-!
# What a scan leaves behind

A scan is made of parts, of which only the writing of the file changes the volume: asking the code checker,
opening the file, scanning its lines and reporting leave it alone, however they end (`Scan.Parts.Harmless`).
That is all that is needed to say what any scan leaves behind (`Scan.volume_after_file`). Before the move, the
volume differs by the temporary file only, and removing that file gives the volume back. After the move only
the report is left to be made; if that fails the file stays as it was written
(`Scan.report_fails_behind_move`).
-/

namespace MatlabTidy

/-- The volume is as it was. -/
def World.Leaves (w w' : World) : Prop := w'.volume = w.volume

instance : Std.Refl World.Leaves := ⟨fun _ => rfl⟩

instance : Trans World.Leaves World.Leaves World.Leaves := ⟨fun h h' => h'.trans h⟩

/-- However it ends, the job leaves the volume as it was. -/
abbrev Job.Leaves {α : Type} (job : Job α) : Prop := Job.Respects World.Leaves (fun _ => True) job

namespace Scan

open Job (Leaves)

variable {R : Type} [Criterion R] {options : Options} {path name : String} {w w' : World}
variable {parts : Parts R} {assessment : Assessment} {lines : Job (List UInt8 × List Count)} {failure : Failure}

/-- The parts of a scan leave the volume as it was, however they end, and what can be opened is a file. -/
structure Parts.Harmless (parts : Parts R) : Prop where
  assess : ∀ path, Leaves (parts.assess path)
  openLines : ∀ path, Leaves (parts.openLines path)
  lines : ∀ {path w lines w'}, (parts.openLines path).run w = .ok lines w' → Leaves lines
  finish : ∀ report fix verbose, Leaves (parts.finish report fix verbose)
  reads : ∀ {path w lines w'}, (parts.openLines path).run w = .ok lines w' →
    ∃ bytes, w.volume.read path = .ok bytes

/-- A file was put at the entry that the path names, and nothing else has changed. -/
def Rewritten (v : Volume) (path : String) (v' : Volume) : Prop :=
  ∃ parent last out mode, Volume.Names v path parent last ∧ v' = v.put (parent ++ [last]) (.file out mode)

namespace Parts

/-- What was moved in place stands at the entry that the path names. -/
theorem rewritten_of_moves {made volume : Volume} {temporary : Volume.Temporary} {out bytes : List UInt8}
    {scanned : World} {result : List UInt8 × List Count} (scans : Leaves lines)
    (read : w.volume.read path = .ok bytes) (makes : w.volume.makeTemporary path = .ok (made, temporary))
    (run : lines.run { w with volume := made } = .ok result scanned)
    (moves : (scanned.volume.write temporary.place out).replace temporary.place path = .ok volume) :
    Rewritten w.volume path volume := by
  have same : scanned.volume = made := scans.of_ok run
  rw [same] at moves
  obtain ⟨parent, last, mode, names, put⟩ := Volume.eq_put_of_replace makes read moves
  exact ⟨parent, last, out, mode, names, put⟩

/-- A scan that was to write a file again and failed has restored the volume, or the file is in place and the
report has failed. -/
theorem volume_of_replaceFile_error {bytes : List UInt8} (scans : Leaves lines)
    (finish : ∀ report fix verbose, Leaves (parts.finish report fix verbose)) (read : w.volume.read path = .ok bytes)
    (h : (parts.replaceFile options path name assessment lines).run w = .error failure w') :
    w'.volume = w.volume ∨ Rewritten w.volume path w'.volume ∧
      ∃ report w₁, (parts.finish report options.fix options.verbose).run w₁ = .error failure w' ∧
        w₁.volume = w'.volume := by
  have ends := parts.run_replaceFile options path name assessment lines w
  generalize (parts.replaceFile options path name assessment lines).run w = ended at h ends
  cases ends with
  | unmade makes =>
    cases h
    exact .inl rfl
  | @unscanned made temporary failure w₁ makes run =>
    cases h
    have same : w₁.volume = made := scans.of_error run
    rw [same]
    exact .inl (Volume.erase_makeTemporary makes)
  | @heldBack made temporary out counts scanned cause makes run held =>
    have same : scanned.volume = made := scans.of_ok run
    have removed : (scanned.volume.write temporary.place out).erase temporary.place = w.volume := by
      rw [Volume.erase_write, same]
      exact Volume.erase_makeTemporary makes
    -- The new file is removed, and the report may fail on top of that.
    rcases run_giveUp_eq_error.1 h with unfinished | ⟨finished, -⟩
    · exact .inl (Eq.trans ((finish _ _ _).of_error unfinished) removed)
    · exact .inl (Eq.trans ((finish _ _ _).of_ok finished) removed)
  | @moved made temporary out counts scanned volume makes run unlocked moves =>
    have rewritten := rewritten_of_moves scans read makes run moves
    have unfinished := run_conclude_eq_error.1 h
    have same : w'.volume = volume := (finish _ _ _).of_error unfinished
    rw [← same] at rewritten
    exact .inr ⟨rewritten, _, _, unfinished, same.symm⟩

/-- A scan that has written a file again has put it at the entry that the path names. -/
theorem volume_of_replaceFile_ok {bytes : List UInt8} {result : FileReport} (scans : Leaves lines)
    (finish : ∀ report fix verbose, Leaves (parts.finish report fix verbose)) (read : w.volume.read path = .ok bytes)
    (h : (parts.replaceFile options path name assessment lines).run w = .ok result w') :
    Rewritten w.volume path w'.volume := by
  have ends := parts.run_replaceFile options path name assessment lines w
  generalize (parts.replaceFile options path name assessment lines).run w = ended at h ends
  cases ends with
  | unmade makes => cases h
  | unscanned makes run => cases h
  | heldBack makes run held => exact absurd h not_run_giveUp_eq_ok
  | @moved made temporary out counts scanned volume makes run unlocked moves =>
    obtain ⟨finished, -⟩ := run_conclude_eq_ok.1 h
    have same : w'.volume = volume := (finish _ _ _).of_ok finished
    rw [same]
    exact rewritten_of_moves scans read makes run moves

/-- Without fixing, a source that was opened is only looked at. -/
theorem scanOpened_leaves (harmless : parts.Harmless) (off : options.fix = false) (scans : Leaves lines) :
    Leaves (parts.scanOpened options path name assessment lines) :=
  scanOpened_respects off scans harmless.finish

omit [Criterion R] in
/-- A source that was opened is a file, and nothing has changed. -/
theorem Harmless.opening (harmless : parts.Harmless) (o : parts.Opening path w) :
    o.opened.volume = w.volume ∧ Leaves o.lines ∧ ∃ bytes, o.opened.volume.read path = .ok bytes := by
  have asked : o.asked.volume = w.volume := (harmless.assess path).of_ok o.assessed
  have same : o.opened.volume = o.asked.volume := (harmless.openLines path).of_ok o.opens
  obtain ⟨bytes, read⟩ := harmless.reads o.opens
  exact ⟨same.trans asked, harmless.lines o.opens, bytes, same ▸ read⟩

theorem volume_of_run_error (harmless : parts.Harmless) {shownAs : Option String}
    (h : (parts.run options path shownAs).run w = .error failure w') :
    w'.volume = w.volume ∨ options.fix = true ∧ Rewritten w.volume path w'.volume ∧
      ∃ report w₁, (parts.finish report options.fix options.verbose).run w₁ = .error failure w' ∧
        w₁.volume = w'.volume := by
  have ends := parts.run_run options path shownAs w
  generalize (parts.run options path shownAs).run w = ended at h ends
  cases ends with
  | other =>
    cases h
    exact .inl rfl
  | unassessed source fails =>
    cases h
    exact .inl ((harmless.assess path).of_error fails)
  | unopened source assessed fails =>
    cases h
    exact .inl (Eq.trans ((harmless.openLines path).of_error fails) ((harmless.assess path).of_ok assessed))
  | opened o =>
    obtain ⟨opened, scans, bytes, read⟩ := harmless.opening o
    cases fix : options.fix with
    | false => exact .inl (Eq.trans ((scanOpened_leaves harmless fix scans).of_error h) opened)
    | true =>
      rw [scanOpened, if_pos fix] at h
      have ends := volume_of_replaceFile_error scans harmless.finish read h
      rw [opened, fix] at ends
      exact ends.imp_right fun rest => ⟨rfl, rest⟩

theorem volume_of_run_ok (harmless : parts.Harmless) {shownAs : Option String} {result : FileReport}
    (h : (parts.run options path shownAs).run w = .ok result w') :
    (options.fix = false → w'.volume = w.volume) ∧ (options.fix = true → Rewritten w.volume path w'.volume) := by
  obtain ⟨o, ended⟩ := run_run_eq_ok.1 h
  obtain ⟨opened, scans, bytes, read⟩ := harmless.opening o
  rw [← opened]
  constructor
  · intro off
    exact (scanOpened_leaves harmless off scans).of_ok ended
  · intro fix
    rw [scanOpened, if_pos fix] at ended
    exact volume_of_replaceFile_ok scans harmless.finish read ended

end Parts

/-- On every host the parts of a scan are harmless, for rules of any kind and however reports are made. -/
theorem harmless_partsOn (host : Host) (setup : Setup) (rules : List R) (options : Options)
    {report : FileReport → (fix verbose : Bool) → Job Unit}
    (reports : ∀ file fix verbose, Leaves (report file fix verbose)) :
    ({ partsOn host setup rules options with finish := report } : Parts R).Harmless where
  assess path := (assess_calm setup path).mono (fun _ _ calm => calm.volume) fun _ _ => trivial
  openLines path := (openLines_calm host setup rules options path).mono (fun _ _ calm => calm.volume) fun _ _ => trivial
  lines {path w lines w'} opens := by
    have opens' : (openLines host setup rules options path).run w = .ok lines w' := opens
    obtain ⟨bytes, encoding, -, -, -, -, rfl, -⟩ := run_openLines_eq_ok.1 opens'
    exact (scanBytes_respects (fun _ _ => trivial) (fun _ _ _ => trivial) encoding rules options bytes).mono
      (fun _ _ calm => calm.volume) fun _ _ => trivial
  finish := reports
  reads {path w lines w'} opens := by
    have opens' : (openLines host setup rules options path).run w = .ok lines w' := opens
    obtain ⟨bytes, encoding, -, read, -⟩ := run_openLines_eq_ok.1 opens'
    exact ⟨bytes, read⟩

theorem finishOn_leaves (host : Host) (report : FileReport) (fix verbose : Bool) :
    Leaves (finishOn host report fix verbose) :=
  (finishOn_calm host report fix verbose).mono (fun _ _ calm => calm.volume) fun _ _ => trivial

/-- The parts of a scan on a host are harmless. -/
theorem partsOn_harmless (host : Host) (setup : Setup) (rules : List R) (options : Options) :
    (partsOn host setup rules options).Harmless :=
  harmless_partsOn host setup rules options (finishOn_leaves host)

/-- A file that is in place stays so if its report cannot be told. -/
theorem run_conclude_of_untold {host : Host} (setup : Setup) (rules : List R) (options : Options)
    {report : FileReport} (untold : ¬ Tellable host report options.fix options.verbose) (w : World) :
    ∃ failure w', ((partsOn host setup rules options).conclude options report).run w = .error failure w' ∧
      w'.volume = w.volume := by
  cases finished : (finishOn host report options.fix options.verbose).run w with
  | ok u w' => exact absurd (run_finishOn_eq_ok.1 finished).1 untold
  | error failure w' =>
    refine ⟨failure, w', Parts.run_conclude_eq_error.2 ?_, (finishOn_leaves host report _ _).of_error finished⟩
    rw [partsOn_finish, finished]

section OneLine

/-- A host on which no report can be made, because there is no space left for it. -/
def fullDisk : Host :=
  { Host.bare with consoleFault? := fun _ _ _ => some (.refused "[Errno 28] No space left on device") }

/-- The parts of a scan with the rules of the table, of which no report can be made. -/
def unreported : Parts Rule := partsOn fullDisk plainSetup Rule.table ⟨false, false, true⟩

theorem not_tellable_fullDisk {file : FileReport} {fix verbose : Bool} : ¬ Tellable fullDisk file fix verbose := by
  rintro ⟨-, taken⟩
  cases taken

/-- The scan fails because of its report, behind the move. -/
theorem run_unreported :
    ∃ failure w', (unreported.run ⟨false, false, true⟩ "a.m" none).run oneLine = .error failure w' ∧
      w'.volume.read "a.m" = .ok [120, 32, 61, 32, 49, 10] := by
  obtain ⟨r, read⟩ := rewriting_oneLine
  let o : unreported.Opening "a.m" oneLine :=
    ⟨r.assessment, _, _, _, r.source, r.assessed, (r.toOpening.parts Rule.table ⟨false, false, true⟩).opens⟩
  have scans : o.lines.run { o.opened with volume := r.made } = .ok (r.out, r.counts) r.scanned :=
    run_scanDelivery_eq_ok.2 ⟨r.delivered, r.scans⟩
  have run : (unreported.run ⟨false, false, true⟩ "a.m" none).run oneLine =
      (unreported.replaceFile ⟨false, false, true⟩ "a.m" (nameFor "a.m" none) o.assessment o.lines).run r.opened :=
    Parts.run_of_opening o none
  have moved : (unreported.replaceFile ⟨false, false, true⟩ "a.m" (nameFor "a.m" none) o.assessment o.lines).run
      r.opened = _ := Parts.run_replaceFile_of_moved r.makes scans r.unlocked r.moves
  obtain ⟨failure, w', fails, same⟩ := run_conclude_of_untold plainSetup Rule.table ⟨false, false, true⟩
    not_tellable_fullDisk _
  refine ⟨failure, w', run.trans (moved.trans fails), ?_⟩
  rw [same]
  exact read

theorem ne_oneLine {v : Volume} (read : v.read "a.m" = .ok [120, 32, 61, 32, 49, 10]) : v ≠ oneLine.volume := by
  rintro rfl
  exact absurd (read_oneLine.symm.trans read) (by decide)

end OneLine

end Scan

end MatlabTidy
