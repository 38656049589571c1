import MatlabTidy.Proofs.Run.Lines
import MatlabTidy.Proofs.Run.Parts

/-!
# The scan of a file

When the scan of a file on a bare host ends well, and what it leaves behind, step by step: opening the
source, scanning what it delivers, moving the repaired file in place and reporting. `Scan.run_file_eq_ok`
gathers the steps of a scan that fixes in `Scan.Rewriting`, and `Scan.run_file_check_eq_ok` those of a scan
that only checks in `Scan.Checking`. Both begin with a `Scan.Opening`.
-/

namespace MatlabTidy.Scan

open Rule (table)

variable {setup : Setup} {rules : List Rule} {options : Options} {path name : String} {w w' : World}

/-- What the operator is told, or the log. -/
def warningOf (checker : Checker) (message : String) : Event :=
  if checker.announces then .notice .warning message else .logged ⟨.warning, .checking, message⟩

theorem run_warn (checker : Checker) (message : String) (w : World) :
    (checker.warn message).run w = .ok () (w.saying [warningOf checker message]) := by
  unfold Checker.warn warningOf
  split
  · exact Job.run_emit _
  · exact Job.run_log _ _ _

/-- The assessment of a file does not depend on what has happened before, and only speaks. -/
theorem assess_uniform (setup : Setup) (path : String) :
    (∃ assessment, ∀ w, ∃ w', (assess setup path).run w = .ok assessment w' ∧ w'.volume = w.volume ∧
      w'.keys = w.keys) ∨ ∀ w assessment w', ¬ (assess setup path).run w = .ok assessment w' := by
  unfold assess
  cases setup.checker with
  | none => exact .inl ⟨_, fun w => ⟨w, rfl, rfl, rfl⟩⟩
  | some checker =>
    dsimp only
    unfold Checker.check
    cases setup.process path with
    | missing =>
      refine .inl ⟨.none, fun w => ?_⟩
      dsimp only
      rw [Job.run_bind_of_ok (EStateM.run_get w)]
      split
      · rw [Job.run_bind_of_ok (run_warn checker _ w)]
        exact ⟨_, rfl, rfl, rfl⟩
      · exact ⟨w, rfl, rfl, rfl⟩
    | timedOut =>
      refine .inl ⟨.none, fun w => ?_⟩
      dsimp only
      rw [Job.run_bind_of_ok (run_warn checker _ w)]
      exact ⟨_, rfl, rfl, rfl⟩
    | refused cause =>
      refine .inl ⟨.none, fun w => ?_⟩
      dsimp only
      rw [Job.run_bind_of_ok (run_warn checker _ w)]
      exact ⟨_, rfl, rfl, rfl⟩
    | finished output errors =>
      cases assessed : checker.assess (Checker.joinStreams output errors) with
      | ok assessment =>
        refine .inl ⟨assessment, fun w => ?_⟩
        dsimp only
        rw [Job.run_bind_of_ok (Job.run_log _ _ _), assessed]
        exact ⟨_, rfl, rfl, rfl⟩
      | error digits =>
        refine .inr fun w assessment w' h => ?_
        obtain ⟨_, w₁, -, h⟩ := Job.run_bind_eq_ok.1 h
        obtain ⟨done, -⟩ := Job.run_ofExcept_eq_ok.1 h
        rw [assessed] at done
        cases done

/-- A file is assessed as before, whatever has happened since. -/
theorem assess_again {assessment : Assessment} (h : (assess setup path).run w = .ok assessment w') :
    w'.volume = w.volume ∧ w'.keys = w.keys ∧
      ∀ w₂ : World, ∃ w₃, (assess setup path).run w₂ = .ok assessment w₃ ∧ w₃.volume = w₂.volume := by
  rcases assess_uniform setup path with ⟨assessment', run⟩ | fails
  · obtain ⟨w₁, run₁, volume, keys⟩ := run w
    rw [h] at run₁
    cases run₁
    refine ⟨volume, keys, fun w₂ => ?_⟩
    obtain ⟨w₃, run₃, volume₃, -⟩ := run w₂
    exact ⟨w₃, run₃, volume₃⟩
  · exact absurd h (fails w assessment w')

/-- What a file delivers is scanned if it delivers all of its lines. -/
theorem run_scanDelivery_eq_ok {charset : Charset} {delivery : Delivery} {result : List UInt8 × List Count} :
    (scanDelivery charset rules options delivery).run w = .ok result w' ↔
      delivery.failure = none ∧
        (scanLines charset rules options 1 delivery.lines).run w = .ok result w' := by
  rw [scanDelivery_eq, Job.run_bind_eq_ok]
  constructor
  · rintro ⟨result', w₁, scanned, h⟩
    split at h
    · exact absurd h Job.not_run_throw_eq_ok
    · rename_i none
      cases h
      exact ⟨none, scanned⟩
  · rintro ⟨none, scanned⟩
    refine ⟨result, w', scanned, ?_⟩
    rw [none]
    rfl

section Finish

variable {host : Host} {report : FileReport} {fix verbose : Bool}

/-- The report of a file can be told: its tally can be written, and the console takes it. -/
def Tellable (host : Host) (report : FileReport) (fix verbose : Bool) : Prop :=
  report.isTallyWritable fix = true ∧ host.consoleFault? report fix verbose = none

/-- On a bare host, a report can be told if its tally can be written. -/
theorem tellable_bare : Tellable .bare report fix verbose ↔ report.isTallyWritable fix = true :=
  and_iff_left rfl

/-- A report that can be told is told. -/
theorem run_finishOn_eq_ok {u : Unit} : (finishOn host report fix verbose).run w = .ok u w' ↔
    Tellable host report fix verbose ∧ w' = w.saying [.fileDone report fix verbose] := by
  unfold finishOn Tellable
  by_cases writable : report.isTallyWritable fix = true
  · simp only [writable, Bool.not_true, Bool.false_eq_true, if_false, true_and]
    unfold tell
    cases host.consoleFault? report fix verbose with
    | some fault => exact ⟨nofun, nofun⟩
    | none =>
      dsimp only
      rw [Job.run_emit]
      constructor
      · intro h
        cases h
        exact ⟨rfl, rfl⟩
      · rintro ⟨-, rfl⟩
        rfl
  · simp only [writable, Bool.not_false, if_true]
    exact ⟨nofun, nofun⟩

/-- On a bare host, a tally that can be written is told. -/
theorem run_finish_eq_ok {u : Unit} : (finish report fix verbose).run w = .ok u w' ↔
    report.isTallyWritable fix = true ∧ w' = w.saying [.fileDone report fix verbose] := by
  rw [finish, run_finishOn_eq_ok, tellable_bare]

/-- A file that is in place is reported and returned if its report can be told. -/
theorem run_conclude_of_tellable {R : Type} [Criterion R] {rules : List R}
    (tellable : Tellable host report options.fix options.verbose) (w : World) :
    ((partsOn host setup rules options).conclude options report).run w =
      .ok report (w.saying [.fileDone report options.fix options.verbose]) := by
  rw [Parts.run_conclude_eq_ok, partsOn_finish]
  exact ⟨run_finishOn_eq_ok.2 ⟨tellable, rfl⟩, rfl⟩

end Finish

/-- The first steps of a scan: the source was assessed and opened. -/
structure Opening (setup : Setup) (path : String) (w : World) where
  assessment : Assessment
  opened : World
  charset : Charset
  bytes : List UInt8
  source : isSource path = true
  assessed : (assess setup path).run w = .ok assessment opened
  named : Charset.checkName setup.encoding = .ok ()
  known : Charset.ofName setup.encoding = .ok charset
  read : opened.volume.read path = .ok bytes

/-- The steps of a scan that has written a file again: a temporary file was made, the lines were scanned,
and the file was moved in place and reported. -/
structure Rewriting (setup : Setup) (options : Options) (path name : String) (w : World) extends
    Opening setup path w where
  made : Volume
  temporary : Volume.Temporary
  out : List UInt8
  counts : List Count
  scanned : World
  volume : Volume
  makes : opened.volume.makeTemporary path = .ok (made, temporary)
  delivered : (charset.read bytes).failure = none
  scans : (scanLines charset table options 1 (charset.read bytes).lines).run
    { opened with volume := made } = .ok (out, counts) scanned
  unlocked : setup.locked path = none
  moves : (scanned.volume.write temporary.place out).replace temporary.place path = .ok volume
  writable : (report name table counts assessment).isTallyWritable true = true

/-- The steps of a scan that has only checked a file. -/
structure Checking (setup : Setup) (options : Options) (path name : String) (w : World) extends
    Opening setup path w where
  out : List UInt8
  counts : List Count
  scanned : World
  delivered : (charset.read bytes).failure = none
  scans : (scanLines charset table options 1 (charset.read bytes).lines).run opened =
    .ok (out, counts) scanned
  writable : (report name table counts assessment).isTallyWritable false = true

namespace Rewriting

variable (r : Rewriting setup options path name w)

/-- The report of the file. -/
def fileReport : FileReport := report name table r.counts r.assessment

/-- The world that the scan leaves. -/
def world : World :=
  World.saying { r.scanned with volume := r.volume }
    [.logged ⟨.debug, .scanning, s!"Rewrote {path} ({r.fileReport.totalFixes} fixes)"⟩,
      .fileDone r.fileReport true options.verbose]

end Rewriting

namespace Checking

variable (c : Checking setup options path name w)

/-- The report of the file. -/
def fileReport : FileReport := report name table c.counts c.assessment

/-- The world that the scan leaves. -/
def world : World := c.scanned.saying [.fileDone c.fileReport false options.verbose]

end Checking

/-- The writing of a file that was read in one of the four encodings. -/
abbrev replaceFile (setup : Setup) (rules : List Rule) (options : Options) (path name : String)
    (assessment : Assessment) (charset : Charset) (delivery : Delivery) : Job FileReport :=
  (partsOn .bare setup rules options).replaceFile options path name assessment
    (scanDelivery charset rules options delivery)

/-- A file is written again if its lines can be scanned and the new file can be moved in place. -/
theorem run_replaceFile_eq_ok {assessment : Assessment} {charset : Charset} {delivery : Delivery}
    {result : FileReport} (fix : options.fix = true) :
    (replaceFile setup rules options path name assessment charset delivery).run w = .ok result w' ↔
      ∃ made temporary out counts scanned volume,
        w.volume.makeTemporary path = .ok (made, temporary) ∧ delivery.failure = none ∧
        (scanLines charset rules options 1 delivery.lines).run { w with volume := made } =
          .ok (out, counts) scanned ∧
        setup.locked path = none ∧
        (scanned.volume.write temporary.place out).replace temporary.place path = .ok volume ∧
        (report name rules counts assessment).isTallyWritable true = true ∧
        result = report name rules counts assessment ∧
        w' = World.saying { scanned with volume := volume }
          [.logged ⟨.debug, .scanning, s!"Rewrote {path} ({result.totalFixes} fixes)"⟩,
            .fileDone result true options.verbose] := by
  constructor
  · intro h
    have ends := (partsOn .bare setup rules options).run_replaceFile options path name assessment
      (scanDelivery charset rules options delivery) w
    generalize (replaceFile setup rules options path name assessment charset delivery).run w = ended at h ends
    cases ends with
    | unmade makes => cases h
    | unscanned makes scans => cases h
    | heldBack makes scans held => exact absurd h Parts.not_run_giveUp_eq_ok
    | @moved made temporary out counts scanned volume makes scans unlocked moves =>
      obtain ⟨delivered, scans⟩ := run_scanDelivery_eq_ok.1 scans
      obtain ⟨finished, rfl⟩ := Parts.run_conclude_eq_ok.1 h
      rw [partsOn_finish, finishOn_bare, fix] at finished
      obtain ⟨writable, rfl⟩ := run_finish_eq_ok.1 finished
      exact ⟨made, temporary, out, counts, scanned, volume, makes, delivered, scans, unlocked, moves, writable, rfl,
        World.saying_saying _ _ _⟩
  · rintro ⟨made, temporary, out, counts, scanned, volume, makes, delivered, scans, unlocked, moves,
      writable, rfl, rfl⟩
    have tellable : Tellable .bare (report name rules counts assessment) options.fix options.verbose := by
      rwa [tellable_bare, fix]
    rw [Parts.run_replaceFile_of_moved makes (run_scanDelivery_eq_ok.2 ⟨delivered, scans⟩) unlocked moves,
      partsOn_rules, run_conclude_of_tellable tellable, World.saying_saying, fix]
    rfl

/-- The scan of a source that has been assessed and opened. -/
def scanOpened (setup : Setup) (rules : List Rule) (options : Options) (path name : String)
    (assessment : Assessment) (charset : Charset) (delivery : Delivery) : Job FileReport :=
  (partsOn .bare setup rules options).scanOpened options path name assessment
    (scanDelivery charset rules options delivery)

theorem scanOpened_eq (setup : Setup) (rules : List Rule) (options : Options) (path name : String)
    (assessment : Assessment) (charset : Charset) (delivery : Delivery) :
    scanOpened setup rules options path name assessment charset delivery =
      if options.fix then replaceFile setup rules options path name assessment charset delivery
      else do
        let (_, counts) ← scanDelivery charset rules options delivery
        let report := report name rules counts assessment
        finish report options.fix options.verbose
        return report := by
  unfold scanOpened Parts.scanOpened Parts.conclude
  rw [partsOn_finish, finishOn_bare]
  rfl

/-- A bare host knows the four encodings. -/
theorem encoding_bare_eq_ok {name : String} {encoding : Charset ⊕ Codec} :
    Host.bare.encoding name = .ok encoding ↔ ∃ charset, Charset.ofName name = .ok charset ∧ encoding = .inl charset := by
  unfold Host.encoding
  cases Charset.ofName name with
  | ok charset =>
    constructor
    · rintro ⟨⟩
      exact ⟨charset, rfl, rfl⟩
    · rintro ⟨_, ⟨⟩, rfl⟩
      rfl
  | error e =>
    constructor
    · cases e <;> exact nofun
    · rintro ⟨_, known, -⟩
      cases known

/-- On a bare host, opening a file for the scan of its lines is `openSource`. -/
theorem openLines_bare {R : Type} [Criterion R] {rules : List R} : openLines .bare setup rules options path = (do
    let (charset, delivery) ← openSource path setup.encoding
    return scanDelivery charset rules options delivery) := by
  rw [openLines, openSource, bind_assoc]
  refine bind_congr fun _ => ?_
  rw [bind_assoc]
  refine bind_congr fun bytes => ?_
  have free : Host.bare.refusal? path = none := rfl
  rw [free, Host.encoding]
  cases Charset.ofName setup.encoding with
  | ok charset => rfl
  | error error => cases error <;> rfl

/-- A source is opened on a host if it can be read, nothing speaks against it and its encoding is known. -/
theorem run_openLines_eq_ok {R : Type} [Criterion R] {rules : List R} {host : Host}
    {lines : Job (List UInt8 × List Count)} :
    (openLines host setup rules options path).run w = .ok lines w' ↔
      ∃ bytes encoding, Charset.checkName setup.encoding = .ok () ∧ w.volume.read path = .ok bytes ∧
        host.refusal? path = none ∧ host.encoding setup.encoding = .ok encoding ∧
        lines = scanBytes encoding rules options bytes ∧ w' = w := by
  rw [openLines, Job.run_bind_eq_ok]
  constructor
  · rintro ⟨_, w₁, named, h⟩
    obtain ⟨named', rfl⟩ := Job.run_ofExcept_eq_ok.1 named
    obtain ⟨bytes, w₂, asked, h'⟩ := Job.run_bind_eq_ok.1 h
    obtain ⟨read, rfl⟩ := Job.run_ask_eq_ok.1 asked
    split at h'
    · exact absurd h' Job.not_run_throw_eq_ok
    · rename_i free
      obtain ⟨encoding, w₃, found, last⟩ := Job.run_bind_eq_ok.1 h'
      obtain ⟨known, rfl⟩ := Job.run_ofExcept_eq_ok.1 found
      cases last
      exact ⟨bytes, encoding, named', read, free, known, rfl, rfl⟩
  · rintro ⟨bytes, encoding, named, read, free, known, rfl, rfl⟩
    refine ⟨(), _, Job.run_ofExcept_eq_ok.2 ⟨named, rfl⟩, ?_⟩
    refine Job.run_bind_eq_ok.2 ⟨bytes, _, Job.run_ask_eq_ok.2 ⟨read, rfl⟩, ?_⟩
    rw [free]
    exact Job.run_bind_eq_ok.2 ⟨encoding, _, Job.run_ofExcept_eq_ok.2 ⟨known, rfl⟩, rfl⟩

/-- The steps of a source that was opened on a bare host, as those of its parts. -/
def Opening.parts (o : Opening setup path w) (rules : List Rule) (options : Options) :
    (partsOn .bare setup rules options).Opening path w where
  assessment := o.assessment
  asked := o.opened
  lines := scanDelivery o.charset rules options (o.charset.read o.bytes)
  opened := o.opened
  source := o.source
  assessed := o.assessed
  opens := run_openLines_eq_ok.2 ⟨o.bytes, .inl o.charset, o.named, o.read, rfl,
    encoding_bare_eq_ok.2 ⟨o.charset, o.known, rfl⟩, rfl, rfl⟩

/-- A scan goes on from what was opened. -/
theorem run_file_of_opening (o : Opening setup path w) (shownAs : Option String) :
    (file setup rules options path shownAs).run w = (scanOpened setup rules options path (nameFor path shownAs)
      o.assessment o.charset (o.charset.read o.bytes)).run o.opened :=
  Parts.run_of_opening (o.parts rules options) shownAs

/-- A source that was opened on a bare host was opened as an opening says. -/
theorem exists_opening (o : (partsOn .bare setup rules options).Opening path w) :
    ∃ o' : Opening setup path w, o'.assessment = o.assessment ∧ o'.opened = o.opened ∧
      o.lines = scanDelivery o'.charset rules options (o'.charset.read o'.bytes) := by
  have opens : (openLines .bare setup rules options path).run o.asked = .ok o.lines o.opened := o.opens
  obtain ⟨bytes, encoding, named, read, -, found, lines, same⟩ := run_openLines_eq_ok.1 opens
  obtain ⟨charset, known, rfl⟩ := encoding_bare_eq_ok.1 found
  rw [← same] at read
  exact ⟨⟨o.assessment, o.opened, charset, bytes, o.source, by rw [same]; exact o.assessed, named, known, read⟩,
    rfl, rfl, lines⟩

/-- Whether it fixes or not, a scan assesses a source and opens it first. -/
theorem run_file_opened_eq_ok {shownAs : Option String} {result : FileReport} :
    (file setup rules options path shownAs).run w = .ok result w' ↔
      ∃ o : Opening setup path w, (scanOpened setup rules options path (nameFor path shownAs) o.assessment
        o.charset (o.charset.read o.bytes)).run o.opened = .ok result w' := by
  constructor
  · intro h
    obtain ⟨o, ended⟩ := Parts.run_run_eq_ok.1 h
    obtain ⟨o', assessment, opened, lines⟩ := exists_opening o
    rw [lines, ← assessment, ← opened] at ended
    exact ⟨o', ended⟩
  · rintro ⟨o, h⟩
    rw [run_file_of_opening o, h]

/-- The steps of a scan that fixes. -/
theorem run_file_eq_ok {shownAs : Option String} {result : FileReport} (fix : options.fix = true) :
    (file setup table options path shownAs).run w = .ok result w' ↔
      ∃ r : Rewriting setup options path (nameFor path shownAs) w, result = r.fileReport ∧ w' = r.world := by
  rw [run_file_opened_eq_ok]
  simp only [scanOpened_eq, if_pos fix, run_replaceFile_eq_ok fix]
  constructor
  · rintro ⟨o, made, temporary, out, counts, scanned, volume, makes, delivered, scans, unlocked, moves,
      writable, rfl, rfl⟩
    exact ⟨⟨o, made, temporary, out, counts, scanned, volume, makes, delivered, scans, unlocked, moves,
      writable⟩, rfl, rfl⟩
  · rintro ⟨r, rfl, rfl⟩
    exact ⟨r.toOpening, r.made, r.temporary, r.out, r.counts, r.scanned, r.volume, r.makes, r.delivered,
      r.scans, r.unlocked, r.moves, r.writable, rfl, rfl⟩

/-- The steps of a scan that only checks. -/
theorem run_file_check_eq_ok {shownAs : Option String} {result : FileReport} (check : options.fix = false) :
    (file setup table options path shownAs).run w = .ok result w' ↔
      ∃ c : Checking setup options path (nameFor path shownAs) w, result = c.fileReport ∧ w' = c.world := by
  rw [run_file_opened_eq_ok]
  simp only [scanOpened_eq, check, Bool.false_eq_true, if_false, Job.run_bind_eq_ok]
  constructor
  · rintro ⟨o, ⟨out, counts⟩, scanned, scans, _, w₂, finished, last⟩
    obtain ⟨delivered, scans'⟩ := run_scanDelivery_eq_ok.1 scans
    obtain ⟨writable, rfl⟩ := run_finish_eq_ok.1 finished
    cases last
    exact ⟨⟨o, out, counts, scanned, delivered, scans', writable⟩, rfl, rfl⟩
  · rintro ⟨c, rfl, rfl⟩
    exact ⟨c.toOpening, _, _, run_scanDelivery_eq_ok.2 ⟨c.delivered, c.scans⟩, (), _,
      run_finish_eq_ok.2 ⟨c.writable, rfl⟩, rfl⟩

end MatlabTidy.Scan
