import MatlabTidy.Proofs.Run.Effects
import MatlabTidy.Proofs.Run.Fairness
import MatlabTidy.Proofs.Run.Rewriting
import MatlabTidy.Proofs.Run.Totals

/-!
# How scans fail

A scan that fails has done nothing but look and speak, unless it fails when it writes the file again
(`Scan.partsOn_run_eq_error`, `Scan.run_file_eq_error`). Then the volume is restored, or the new file is in place
and the tally could not be written, which takes more digits than numbers may have (`Scan.Countless`). What a scan
reports is fair in either case (`Scan.fair_of_file`).
-/

namespace MatlabTidy.Scan

open World (Calm)

variable {host : Host} {setup : Setup} {rules : List Rule} {options : Options} {path name : String} {w w' : World}
variable {failure : Failure} {assessment : Assessment} {charset : Charset} {delivery : Delivery}

/-- The volume has no way to move a file, or the source is held. -/
def Hindered (setup : Setup) (v : Volume) (temp : Place) (path : String) : Prop :=
  setup.locked path ≠ none ∨ ∃ e, v.replace temp path = .error e

theorem HeldBack.hindered {v : Volume} {temp : Place} {cause : String}
    (h : HeldBack setup.locked v temp path cause) :
    Hindered setup v temp path := by
  cases h with
  | locked held => exact .inl (by simp [held])
  | refused _ refuses => exact .inr ⟨_, refuses⟩

/-- Reporting fails if the tally cannot be written, or the console does not take the report. -/
theorem run_finishOn_eq_error {report : FileReport} {fix verbose : Bool}
    (h : (finishOn host report fix verbose).run w = .error failure w') :
    failure = .numberUnwritable ∧ report.isTallyWritable fix = false ∨
      ∃ fault, host.consoleFault? report fix verbose = some fault ∧ failure = fault.failure := by
  unfold finishOn at h
  by_cases writable : report.isTallyWritable fix = true
  · simp only [writable, Bool.not_true, Bool.false_eq_true, if_false] at h
    unfold tell at h
    cases taken : host.consoleFault? report fix verbose with
    | some fault =>
      rw [taken] at h
      cases h
      exact .inr ⟨fault, rfl, rfl⟩
    | none =>
      rw [taken] at h
      cases h
  · simp only [writable, Bool.not_false, if_true] at h
    cases h
    exact .inl ⟨rfl, by simpa using writable⟩

/-- On a bare host, reporting fails only if the tally cannot be written. -/
theorem run_finish_eq_error {report : FileReport} {fix verbose : Bool}
    (h : (finish report fix verbose).run w = .error failure w') :
    failure = .numberUnwritable ∧ report.isTallyWritable fix = false := by
  rw [finish] at h
  rcases run_finishOn_eq_error h with unwritable | ⟨fault, taken, -⟩
  · exact unwritable
  · cases taken

/-- All rules together find no more than this. -/
theorem sum_errors_le {size : Nat} {counts : List Count} (h : List.Forall₂ (Rule.Fair size) rules counts) :
    (counts.map Count.errors).sum ≤ rules.length * size := by
  induction h with
  | nil => exact Nat.zero_le _
  | cons first _ ih =>
    rw [List.map_cons, List.sum_cons, List.length_cons, Nat.succ_mul]
    have := first.errors_le
    omega

theorem sum_fixes_le {size : Nat} {counts : List Count} (h : List.Forall₂ (Rule.Fair size) rules counts) :
    (counts.map Count.fixes).sum ≤ (counts.map Count.errors).sum := by
  induction h with
  | nil => exact Nat.le_refl _
  | cons first _ ih =>
    rw [List.map_cons, List.map_cons, List.sum_cons, List.sum_cons]
    exact Nat.add_le_add first.fixes_le ih

/-- So many rules and characters that the number of offences may have more digits than are written. -/
def Countless (rules : List Rule) (raws : List (List Char)) : Prop :=
  Nat.pow 10 Text.mostDigits ≤ rules.length * raws.flatten.length

/-- A tally of fair counts can be written, unless there are too many characters to be counted. -/
theorem countless_of_unwritable {raws : List (List Char)} {counts : List Count} {fix : Bool}
    (fair : List.Forall₂ (Rule.Fair raws.flatten.length) rules counts)
    (h : (report name rules counts assessment).isTallyWritable fix = false) : Countless rules raws := by
  have errors := sum_errors_le fair
  have fixes := sum_fixes_le fair
  by_contra few
  have small : ∀ n : Nat, n ≤ (counts.map Count.errors).sum → Text.isWritable (n : Int) = true := by
    intro n le
    rw [Text.isWritable, Int.natAbs_natCast, decide_eq_true_eq]
    exact (le.trans errors).trans_lt (Nat.lt_of_not_le few)
  rw [FileReport.isTallyWritable, totalErrors_report, totalFixes_report, small _ (Nat.le_refl _),
    small _ fixes] at h
  simp at h

/-- A new file for the source can be made, but it cannot be moved in place. -/
def Unmovable (setup : Setup) (v : Volume) (path : String) : Prop :=
  ∃ made temporary out, v.makeTemporary path = .ok (made, temporary) ∧
    Hindered setup (made.write temporary.place out) temporary.place path

/-- A scan that was to write a file again and failed has restored the volume, and the report of the failure,
if it carries one, is fair and says that the file could not be moved; or else the file is in place and the
tally could not be written. -/
theorem run_replaceFile_eq_error
    (h : (replaceFile setup rules options path name assessment charset delivery).run w = .error failure w') :
    w'.volume = w.volume ∧
        (∀ report, failure.report? = some report → report.Fair rules ∧ Unmovable setup w.volume path) ∨
      failure = .numberUnwritable ∧ Countless rules delivery.lines := by
  have bare : ∀ {failure : Failure}, failure.report? = none →
      ∀ report, failure.report? = some report → report.Fair rules ∧ Unmovable setup w.volume path := by
    intro failure none report some
    rw [none] at some
    cases some
  have calm := scanDelivery_calm charset rules options delivery
  have ends := (partsOn .bare setup rules options).run_replaceFile options path name assessment
    (scanDelivery charset rules options delivery) w
  generalize (replaceFile setup rules options path name assessment charset delivery).run w = ended at h ends
  cases ends with
  | unmade makes =>
    cases h
    exact .inl ⟨rfl, bare rfl⟩
  | @unscanned made temporary failure w₁ makes scans =>
    cases h
    have removed : w₁.volume.erase temporary.place = w.volume := by
      rw [(calm.of_error scans).volume]
      exact Volume.erase_makeTemporary makes
    exact .inl ⟨removed, bare (calm.failure scans)⟩
  | @heldBack made temporary out counts scanned cause makes scans held =>
    -- The new file is removed, and the tally may fail on top of that.
    have same := (calm.of_ok scans).volume
    have removed : (scanned.volume.write temporary.place out).erase temporary.place = w.volume := by
      rw [Volume.erase_write, same]
      exact Volume.erase_makeTemporary makes
    rw [Parts.run_giveUp_eq_error, partsOn_finish] at h
    have finish := finishOn_calm .bare
    rcases h with unfinished | ⟨finished, rfl⟩
    · exact .inl ⟨((finish _ _ _).of_error unfinished).volume.trans removed, bare ((finish _ _ _).failure unfinished)⟩
    · refine .inl ⟨((finish _ _ _).of_ok finished).volume.trans removed, ?_⟩
      rintro _ ⟨⟩
      rw [same] at held
      exact ⟨fair_report _ _ (fair_of_scanFeed scans), made, temporary, out, makes, held.hindered⟩
  | moved makes scans unlocked moves =>
    rw [Parts.run_conclude_eq_error, partsOn_finish, finishOn_bare] at h
    obtain ⟨rfl, unwritable⟩ := run_finish_eq_error h
    exact .inr ⟨rfl, countless_of_unwritable (fair_of_scanFeed scans) unwritable⟩

theorem Opening.calm (o : Opening setup path w) : Calm w o.opened := (assess_calm setup path).of_ok o.assessed

/-- A source that was opened on a host is read in an encoding that the host knows, and nothing has changed. -/
theorem Parts.Opening.onHost (o : (partsOn host setup rules options).Opening path w) :
    Calm w o.opened ∧ ∃ bytes encoding, w.volume.read path = .ok bytes ∧ host.refusal? path = none ∧
      host.encoding setup.encoding = .ok encoding ∧ o.lines = scanBytes encoding rules options bytes := by
  have calm : Calm w o.asked := (assess_calm setup path).of_ok o.assessed
  have opens : (Scan.openLines host setup rules options path).run o.asked = .ok o.lines o.opened := o.opens
  obtain ⟨bytes, encoding, -, read, free, known, lines, same⟩ := run_openLines_eq_ok.1 opens
  rw [calm.volume] at read
  exact ⟨same ▸ calm, bytes, encoding, read, free, known, lines⟩

theorem Parts.Opening.lines_calm (o : (partsOn host setup rules options).Opening path w) : Job.Calm o.lines := by
  obtain ⟨-, bytes, encoding, -, -, -, lines⟩ := o.onHost
  rw [lines]
  exact scanBytes_calm encoding rules options bytes

/-! What the last steps of a scan respect. -/

namespace Parts

open Job (Respects)

variable {R : Type} {parts : Parts R} {Keeps : World → World → Prop} {P : Failure → Prop} {report : FileReport}
variable [Std.Refl Keeps] [Trans Keeps Keeps Keeps]

theorem conclude_respects (finish : Respects Keeps P (parts.finish report options.fix options.verbose)) :
    Respects Keeps P (parts.conclude options report) :=
  .bind finish fun _ => .pure _

theorem giveUp_respects {cause : String}
    (finish : Respects Keeps P (parts.finish report.withoutFixes true options.verbose))
    (fails : P (.replaceFailed path report cause)) : Respects Keeps P (parts.giveUp options path report cause) :=
  .bind finish fun _ => .throw fails

/-- Without fixing, a source that was opened is scanned and reported, and that is all. -/
theorem scanOpened_respects [Criterion R] (off : options.fix = false) {lines : Job (List UInt8 × List Count)}
    (scans : Respects Keeps P lines) (finish : ∀ report fix verbose, Respects Keeps P (parts.finish report fix verbose)) :
    Respects Keeps P (parts.scanOpened options path name assessment lines) := by
  rw [scanOpened, if_neg (by simp [off])]
  exact .bind scans fun _ => conclude_respects (finish _ _ _)

end Parts

/-- Without fixing, a source that was opened is only looked at. -/
theorem partsOn_scanOpened_calm (off : options.fix = false) {lines : Job (List UInt8 × List Count)}
    (scans : Job.Calm lines) :
    Job.Calm ((partsOn host setup rules options).scanOpened options path name assessment lines) := by
  refine Parts.scanOpened_respects off scans ?_
  rw [partsOn_finish]
  exact finishOn_calm host

theorem scanOpened_calm (off : options.fix = false) :
    Job.Calm (scanOpened setup rules options path name assessment charset delivery) :=
  partsOn_scanOpened_calm off (scanDelivery_calm charset rules options delivery)

/-- However a scan ends, it only adds to what was said, and gives no alarm. -/
theorem partsOn_speaks (host : Host) (setup : Setup) (rules : List Rule) (options : Options) (path : String)
    (shownAs : Option String) : Job.Speaks ((partsOn host setup rules options).run options path shownAs) := by
  have finish : ∀ report fix verbose, Job.Speaks ((partsOn host setup rules options).finish report fix verbose) := by
    intro report fix verbose
    rw [partsOn_finish]
    exact (finishOn_calm host report fix verbose).speaks
  refine ⟨fun w => ?_, fun _ => trivial⟩
  unfold Job.after
  have ends := (partsOn host setup rules options).run_run options path shownAs w
  generalize ((partsOn host setup rules options).run options path shownAs).run w = ended at ends
  cases ends with
  | other => exact Std.Refl.refl w
  | unassessed source fails => exact ((assess_calm setup path).of_error fails).speaks
  | unopened source assessed fails =>
    exact Trans.trans ((assess_calm setup path).of_ok assessed).speaks
      ((openLines_calm host setup rules options path).of_error fails).speaks
  | opened o =>
    have rest : Job.Speaks ((partsOn host setup rules options).scanOpened options path (nameFor path shownAs)
        o.assessment o.lines) := by
      cases fix : options.fix with
      | false => exact (partsOn_scanOpened_calm fix o.lines_calm).speaks
      | true =>
        rw [Parts.scanOpened, if_pos fix]
        exact Parts.replaceFile_speaks finish options path _ o.assessment o.lines_calm.speaks
    exact Trans.trans o.onHost.1.speaks (rest.world o.opened)

theorem file_speaks (setup : Setup) (rules : List Rule) (options : Options) (path : String)
    (shownAs : Option String) : Job.Speaks (file setup rules options path shownAs) :=
  partsOn_speaks .bare setup rules options path shownAs

/-- A scan that fails has done nothing but look and speak, or has failed to write an opened source again. -/
theorem partsOn_run_eq_error {shownAs : Option String}
    (h : ((partsOn host setup rules options).run options path shownAs).run w = .error failure w') :
    Calm w w' ∧ failure.report? = none ∨ options.fix = true ∧
      ∃ o : (partsOn host setup rules options).Opening path w,
        ((partsOn host setup rules options).replaceFile options path (nameFor path shownAs) o.assessment o.lines).run
          o.opened = .error failure w' := by
  have ends := (partsOn host setup rules options).run_run options path shownAs w
  generalize ((partsOn host setup rules options).run options path shownAs).run w = ended at h ends
  cases ends with
  | other =>
    cases h
    exact .inl ⟨Std.Refl.refl _, rfl⟩
  | unassessed source fails =>
    cases h
    exact .inl ⟨(assess_calm setup path).of_error fails, (assess_calm setup path).failure fails⟩
  | unopened source assessed fails =>
    cases h
    have opens := openLines_calm host setup rules options path
    exact .inl ⟨Trans.trans ((assess_calm setup path).of_ok assessed) (opens.of_error fails), opens.failure fails⟩
  | opened o =>
    cases fix : options.fix with
    | false =>
      have scans : Job.Calm ((partsOn host setup rules options).scanOpened options path (nameFor path shownAs)
          o.assessment o.lines) := partsOn_scanOpened_calm fix o.lines_calm
      exact .inl ⟨Trans.trans o.onHost.1 (scans.of_error h), scans.failure h⟩
    | true =>
      rw [Parts.scanOpened, if_pos fix] at h
      exact .inr ⟨rfl, o, h⟩

theorem run_file_eq_error {shownAs : Option String}
    (h : (file setup rules options path shownAs).run w = .error failure w') :
    Calm w w' ∧ failure.report? = none ∨ options.fix = true ∧ ∃ o : Opening setup path w,
      (replaceFile setup rules options path (nameFor path shownAs) o.assessment o.charset
        (o.charset.read o.bytes)).run o.opened = .error failure w' := by
  refine (partsOn_run_eq_error h).imp_right fun ⟨fix, o, failed⟩ => ⟨fix, ?_⟩
  obtain ⟨o', assessment, opened, lines⟩ := exists_opening o
  rw [lines, ← assessment, ← opened] at failed
  exact ⟨o', failed⟩

/-- What a scan reports is fair, and so is the report of a scan that could not replace its file. -/
theorem fair_of_file {shownAs : Option String} :
    (∀ result, (file setup rules options path shownAs).run w = .ok result w' → result.Fair rules) ∧
      ∀ failure, (file setup rules options path shownAs).run w = .error failure w' →
        ∀ report, failure.report? = some report → report.Fair rules := by
  constructor
  · intro result h
    obtain ⟨o, ended⟩ := run_file_opened_eq_ok.1 h
    rw [scanOpened_eq] at ended
    by_cases fix : options.fix = true
    · rw [if_pos fix] at ended
      obtain ⟨_, _, _, _, _, _, -, -, scans, -, -, -, rfl, -⟩ := (run_replaceFile_eq_ok fix).1 ended
      exact fair_report _ _ (fair_of_scanLines scans)
    · rw [if_neg fix] at ended
      obtain ⟨⟨_, counts⟩, _, scans, ended'⟩ := Job.run_bind_eq_ok.1 ended
      obtain ⟨_, _, -, last⟩ := Job.run_bind_eq_ok.1 ended'
      cases last
      exact fair_report _ _ (fair_of_scanFeed scans)
  · intro failure h report some
    rcases run_file_eq_error h with ⟨-, none⟩ | ⟨-, o, failed⟩
    · rw [none] at some
      cases some
    · rcases run_replaceFile_eq_error failed with ⟨-, fair⟩ | ⟨rfl, -⟩
      · exact (fair report some).1
      · cases some

end MatlabTidy.Scan
