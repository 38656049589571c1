import MatlabTidy.Proofs.Run.Restoration
import MatlabTidy.Proofs.Volume.Removal

/-!
# Scans that nobody is asked about

Without questions, what the scan of lines comes to does not depend on the world (`Scan.scanLines_steady`), and
what the scan of a file comes to depends on the volume only in what the path reads, in the entry that it names
and in whether a temporary file can be made there (`Scan.Alike`, `Scan.run_partsOn_ok_alike`,
`Scan.run_partsOn_held_alike`).
-/

namespace MatlabTidy

namespace Job

variable {α β ε : Type} {w w' : World}

/-- The job comes to the same in all worlds. -/
def Steady (job : Job α) : Prop := ∀ w w₂, job.outcome w = job.outcome w₂

namespace Steady

/-- A job that ends well in one world ends well in every other, with the same value. -/
theorem again {job : Job α} {a : α} (h : Steady job) (run : job.run w = .ok a w') (w₂ : World) :
    ∃ w₃, job.run w₂ = .ok a w₃ := by
  have same := h w₂ w
  rw [outcome_of_ok run] at same
  cases run₂ : job.run w₂ with
  | ok b w₃ =>
    rw [outcome_of_ok run₂] at same
    cases same
    exact ⟨w₃, rfl⟩
  | error failure w₃ =>
    rw [outcome_of_error run₂] at same
    cases same

theorem pure (a : α) : Steady (pure a : Job α) := fun _ _ => rfl

theorem throw (failure : Failure) : Steady (throw failure : Job α) := fun _ _ => rfl

theorem emit (event : Event) : Steady (emit event) := fun _ _ => rfl

theorem ofExcept (failure : ε → Failure) (x : Except ε α) : Steady (ofExcept failure x) := by
  cases x with
  | ok a => exact pure a
  | error e => exact throw _

theorem bind {x : Job α} {f : α → Job β} (first : Steady x) (then_ : ∀ a, Steady (f a)) : Steady (x >>= f) := by
  intro w w₂
  have same := first w w₂
  cases run : x.run w with
  | ok a w₁ =>
    obtain ⟨w₃, run₂⟩ := first.again run w₂
    unfold outcome
    rw [run_bind_of_ok run, run_bind_of_ok run₂]
    exact then_ a w₁ w₃
  | error failure w₁ =>
    rw [outcome_of_error run] at same
    cases run₂ : x.run w₂ with
    | ok b w₃ =>
      rw [outcome_of_ok run₂] at same
      cases same
    | error failure₂ w₃ =>
      rw [outcome_of_error run₂] at same
      cases same
      rw [outcome_of_error (run_bind_eq_error.2 (.inl run)), outcome_of_error (run_bind_eq_error.2 (.inl run₂))]

end Steady

end Job

open Job (Steady)

namespace Line

variable {R : Type} [Criterion R] {options : Options} (number : Nat)

theorem report_steady (v : Violation) : Steady (report v) := by
  refine .bind (.emit _) fun _ => ?_
  split
  · exact .bind (.ofExcept _ _) fun _ => .pure _
  · exact .pure _

/-- A fix that nobody is asked about. -/
theorem applyFix_steady (line : List Char) (rule : R) (columns : Columns) (number : Int) :
    Steady (applyFix line rule columns false number) := by
  unfold applyFix
  split
  · exact .throw _
  · split
    · exact .pure _
    · refine .bind (.ofExcept _ _) fun candidate => ?_
      split
      · exact .pure _
      · exact .pure _

variable (quiet : options.interactive = false)

include quiet

theorem turn_steady (asRead : List Char) (rule : R) (columns : Columns) (current : List Char) :
    Steady (turn options number asRead rule columns current) := by
  unfold turn
  rw [quiet]
  split
  · exact .pure _
  · refine .bind (report_steady _) fun _ => ?_
    split
    · exact .bind (.ofExcept _ _) fun _ => .bind (applyFix_steady _ _ _ _) fun _ => .pure _
    · exact .pure _

theorem checkMatches_steady (asRead : List Char) (found : List (R × Columns)) (current : List Char) :
    Steady (checkMatches options number asRead found current) := by
  induction found generalizing current with
  | nil => exact .pure _
  | cons first rest ih =>
    obtain ⟨rule, columns⟩ := first
    rw [checkMatches_cons]
    exact .bind (turn_steady number quiet asRead rule columns current) fun _ => .bind (ih _) fun _ => .pure _

omit quiet in
theorem evaluate_steady (line : List Char) (rules : List R) : Steady (Rule.evaluate line rules) := by
  induction rules with
  | nil => exact .pure _
  | cons rule rules ih => exact .bind (.ofExcept _ _) fun _ => .bind ih fun _ => .pure _

theorem scan_steady (rules : List R) (raw : List Char) : Steady (scan rules options number raw) := by
  unfold scan check
  dsimp only
  split
  · exact .bind (.bind (evaluate_steady _ rules) fun found => checkMatches_steady number quiet _ found _) fun _ =>
      .pure _
  · exact .pure _

end Line

namespace Scan

variable {host : Host} {setup : Setup} {rules : List Rule} {options : Options} {path name : String} {w w' : World}
variable {assessment : Assessment} {lines : Job (List UInt8 × List Count)} {failure : Failure} {report : FileReport}

section Feed

variable {R E : Type} [Criterion R] [Encoder E] (quiet : options.interactive = false)

include quiet

/-- Without questions, the scan of lines comes to the same whenever it is made. -/
theorem scanLines_steady (encoder : E) (rules : List R) (number : Nat)
    (raws : List (List Char)) : Steady (scanLines encoder rules options number raws) := by
  induction raws generalizing number encoder with
  | nil => exact .pure _
  | cons raw raws ih =>
    refine .bind (Line.scan_steady number quiet rules raw) fun _ => ?_
    dsimp only
    split
    · exact .bind (.ofExcept _ _) fun _ => .bind (ih _ _) fun _ => .pure _
    · exact .bind (.pure _) fun _ => .bind (ih _ _) fun _ => .pure _

theorem scanFeed_steady (encoder : E) (rules : List R) (raws : List (List Char)) (broken : Option Failure) :
    Steady (scanFeed encoder rules options raws broken) := by
  refine .bind (scanLines_steady quiet encoder rules 1 _) fun _ => ?_
  split
  · exact .throw _
  · exact .pure _

omit [Encoder E] in
theorem scanBytes_steady (encoding : Charset ⊕ Codec) (rules : List R) (bytes : List UInt8) :
    Steady (scanBytes encoding rules options bytes) := by
  cases encoding with
  | inl charset => exact scanFeed_steady quiet _ _ _ _
  | inr codec => exact scanFeed_steady quiet _ _ _ _

end Feed

theorem tell_steady (host : Host) (report : FileReport) (fix verbose : Bool) :
    Steady (tell host report fix verbose) := by
  unfold tell
  cases host.consoleFault? report fix verbose with
  | some fault => exact .throw _
  | none => exact .emit _

theorem finishOn_steady (host : Host) (report : FileReport) (fix verbose : Bool) :
    Steady (finishOn host report fix verbose) := by
  unfold finishOn
  split
  · exact .bind (.throw _) fun _ => tell_steady host report fix verbose
  · exact tell_steady host report fix verbose

/-- A scan that only checks comes to the same whenever it is made. -/
theorem partsOn_scanOpened_steady (off : options.fix = false) (scans : Steady lines) :
    Steady ((partsOn host setup rules options).scanOpened options path name assessment lines) := by
  have concludes : ∀ report, Steady ((partsOn host setup rules options).conclude options report) := by
    intro report
    rw [Parts.conclude, partsOn_finish]
    exact .bind (finishOn_steady host _ _ _) fun _ => .pure _
  rw [Parts.scanOpened, if_neg (by simp [off])]
  exact .bind scans fun _ => concludes _

/-- A file that could not be replaced, though it could be moved, is held: everything up to the move has been
done, and the report can be told. -/
theorem run_replaceFile_eq_held (calm : Job.Calm lines)
    (movable : ∀ made temporary out, w.volume.makeTemporary path = .ok (made, temporary) →
      ∃ volume, (made.write temporary.place out).replace temporary.place path = .ok volume)
    (carries : failure.report? = some report) :
    (∃ w', ((partsOn host setup rules options).replaceFile options path name assessment lines).run w =
        .error failure w') ↔
      ∃ made temporary out counts scanned cause, w.volume.makeTemporary path = .ok (made, temporary) ∧
        lines.run { w with volume := made } = .ok (out, counts) scanned ∧ setup.locked path = some cause ∧
        Tellable host (Scan.report name rules counts assessment).withoutFixes true options.verbose ∧
        failure = .replaceFailed path (Scan.report name rules counts assessment) cause := by
  have bare : ∀ {failure' : Failure}, failure'.report? = none → failure' ≠ failure := by
    rintro failure' none rfl
    rw [none] at carries
    cases carries
  constructor
  · rintro ⟨w', h⟩
    have ends := (partsOn host setup rules options).run_replaceFile options path name assessment lines w
    generalize ((partsOn host setup rules options).replaceFile options path name assessment lines).run w = ended
      at h ends
    cases ends with
    | unmade makes =>
      cases h
      exact absurd rfl (bare rfl)
    | unscanned makes scans =>
      cases h
      exact absurd rfl (bare (calm.failure scans))
    | @heldBack made temporary out counts scanned cause makes scans held =>
      rw [Parts.run_giveUp_eq_error, partsOn_finish] at h
      rcases h with unfinished | ⟨finished, rfl⟩
      · exact absurd rfl (bare ((finishOn_calm host _ _ _).failure unfinished))
      obtain ⟨tellable, -⟩ := run_finishOn_eq_ok.1 finished
      cases held with
      | locked held => exact ⟨made, temporary, out, counts, scanned, _, makes, scans, held, tellable, rfl⟩
      | refused _ refuses =>
        obtain ⟨volume, moves⟩ := movable made temporary out makes
        rw [(calm.of_ok scans).volume, moves] at refuses
        cases refuses
    | moved makes scans unlocked moves =>
      -- What fails after the move carries no report.
      rw [Parts.run_conclude_eq_error, partsOn_finish] at h
      exact absurd rfl (bare ((finishOn_calm host _ _ _).failure h))
  · rintro ⟨made, temporary, out, counts, scanned, cause, makes, scans, held, tellable, rfl⟩
    rw [Parts.run_replaceFile_of_heldBack makes scans (.locked held), Parts.giveUp, partsOn_finish, partsOn_rules]
    have finished : ∀ w : World, (finishOn host (Scan.report name rules counts assessment).withoutFixes true
        options.verbose).run w = .ok () _ := fun w => run_finishOn_eq_ok.2 ⟨tellable, rfl⟩
    rw [Job.run_bind_of_ok (finished _)]
    exact ⟨_, rfl⟩

/-- Without questions, the lines of a source that was opened are scanned in the same way in all worlds. -/
theorem Parts.Opening.lines_steady (quiet : options.interactive = false)
    (o : (partsOn host setup rules options).Opening path w) : Steady o.lines := by
  obtain ⟨-, bytes, encoding, -, -, -, lines⟩ := o.onHost
  rw [lines]
  exact scanBytes_steady quiet encoding rules bytes

/-- A source that reads the same is opened in the same way. -/
theorem Parts.Opening.again (o : (partsOn host setup rules options).Opening path w) {w₂ : World}
    (read : w₂.volume.read path = w.volume.read path) :
    ∃ o₂ : (partsOn host setup rules options).Opening path w₂, o₂.assessment = o.assessment ∧ o₂.lines = o.lines ∧
      o₂.opened.volume = w₂.volume := by
  have assessed : (Scan.assess setup path).run w = .ok o.assessment o.asked := o.assessed
  obtain ⟨same, -, assess⟩ := assess_again assessed
  obtain ⟨asked, assessed₂, same₂⟩ := assess w₂
  have opens : (Scan.openLines host setup rules options path).run o.asked = .ok o.lines o.opened := o.opens
  obtain ⟨bytes, encoding, named, reads, free, known, lines, -⟩ := run_openLines_eq_ok.1 opens
  have reads₂ : asked.volume.read path = .ok bytes := by
    rw [same₂, read, ← same, reads]
  exact ⟨⟨o.assessment, asked, o.lines, asked, o.source, assessed₂,
    run_openLines_eq_ok.2 ⟨bytes, encoding, named, reads₂, free, known, lines, rfl⟩⟩, rfl, rfl, same₂⟩

/-- For the scan of a path, the second volume is as good as the first: the path reads the same file there and
names the same entry, and a temporary file can be made beside it. -/
structure Alike (v v₂ : Volume) (path : String) (parent : Place) (last : String) : Prop where
  holds : ∀ {bytes mode}, v.Holds path bytes mode → v₂.Holds path bytes mode
  names : v.Names path parent last
  names₂ : v₂.Names path parent last
  temporary : ∀ {made}, v.makeTemporary path = .ok made → ∃ made₂, v₂.makeTemporary path = .ok made₂

section Alike

variable {w₂ : World} {parent : Place} {last : String} {shownAs : Option String}
variable (quiet : options.interactive = false) (alike : Alike w.volume w₂.volume path parent last)

include quiet alike

/-- A scan that ends well does so in a volume that is as good, with the same report, and puts the same file in
the same place, if it writes at all. -/
theorem run_partsOn_ok_alike (h : ((partsOn host setup rules options).run options path shownAs).run w = .ok report w') :
    ∃ w₃, ((partsOn host setup rules options).run options path shownAs).run w₂ = .ok report w₃ ∧
      (w'.volume = w.volume ∧ w₃.volume = w₂.volume ∨ ∃ out mode,
        w'.volume = w.volume.put (parent ++ [last]) (.file out mode) ∧
        w₃.volume = w₂.volume.put (parent ++ [last]) (.file out mode)) := by
  obtain ⟨o, ended⟩ := Parts.run_run_eq_ok.1 h
  obtain ⟨calm, bytes, -, read, -⟩ := o.onHost
  have opened : o.opened.volume = w.volume := calm.volume
  obtain ⟨mode, holds⟩ := Volume.exists_holds read
  have holds₂ := alike.holds holds
  obtain ⟨o₂, assessment, lines, opened₂⟩ := o.again (holds₂.read.trans read.symm)
  rw [Parts.run_of_opening o₂, assessment, lines]
  cases fix : options.fix with
  | false =>
    obtain ⟨w₃, run⟩ := (partsOn_scanOpened_steady fix (o.lines_steady quiet)).again ended o₂.opened
    refine ⟨w₃, run, .inl ⟨?_, ?_⟩⟩
    · exact ((partsOn_scanOpened_calm fix o.lines_calm).of_ok ended).volume.trans opened
    · exact ((partsOn_scanOpened_calm fix o.lines_calm).of_ok run).volume.trans opened₂
  | true =>
    rw [Parts.scanOpened, if_pos fix] at ended ⊢
    have ends := (partsOn host setup rules options).run_replaceFile options path (nameFor path shownAs) o.assessment
      o.lines o.opened
    generalize ((partsOn host setup rules options).replaceFile options path (nameFor path shownAs) o.assessment
      o.lines).run o.opened = finished at ended ends
    cases ends with
    | unmade makes => cases ended
    | unscanned makes scans => cases ended
    | heldBack makes scans held => exact absurd ended Parts.not_run_giveUp_eq_ok
    | @moved made temporary out counts scanned volume makes scans unlocked moves =>
      rw [Parts.run_conclude_eq_ok, partsOn_finish] at ended
      obtain ⟨finished, rfl⟩ := ended
      obtain ⟨tellable, rfl⟩ := run_finishOn_eq_ok.1 finished
      rw [opened] at makes
      obtain ⟨⟨made₂, temporary₂⟩, makes₂⟩ := alike.temporary makes
      obtain ⟨scanned₂, scans₂⟩ := (o.lines_steady quiet).again scans { o₂.opened with volume := made₂ }
      rw [(o.lines_calm.of_ok scans).volume, Volume.replace_eq_put holds alike.names makes] at moves
      obtain rfl := Except.ok.inj moves
      have moves₂ : (scanned₂.volume.write temporary₂.place out).replace temporary₂.place path =
          .ok (w₂.volume.put (parent ++ [last]) (.file out mode)) := by
        rw [(o.lines_calm.of_ok scans₂).volume]
        exact Volume.replace_eq_put holds₂ alike.names₂ makes₂ out
      rw [Parts.run_replaceFile_of_moved (opened₂ ▸ makes₂) scans₂ unlocked moves₂, run_conclude_of_tellable tellable]
      exact ⟨_, rfl, .inr ⟨out, mode, rfl, rfl⟩⟩

omit quiet alike in
/-- A scan that fails has left the volume as it was, or it could not tell of the file that it had put in place. -/
theorem volume_of_partsOn_error
    (h : ((partsOn host setup rules options).run options path shownAs).run w = .error failure w') :
    w'.volume = w.volume ∨ Rewritten w.volume path w'.volume ∧
      (failure = .numberUnwritable ∨ ∃ fault : ConsoleFault, failure = fault.failure) := by
  refine (Parts.volume_of_run_error (partsOn_harmless host setup rules options) h).imp_right ?_
  rintro ⟨-, rewritten, _, _, fails, -⟩
  rw [partsOn_finish] at fails
  exact ⟨rewritten, (run_finishOn_eq_error fails).imp And.left fun ⟨fault, _, same⟩ => ⟨fault, same⟩⟩

omit quiet alike in
/-- A scan that fails with the report of its file has left the volume as it was. -/
theorem volume_of_partsOn_held
    (h : ((partsOn host setup rules options).run options path shownAs).run w = .error failure w')
    (carries : failure.report? = some report) : w'.volume = w.volume := by
  rcases volume_of_partsOn_error h with same | ⟨-, rfl | ⟨fault, rfl⟩⟩
  · exact same
  · cases carries
  · rw [report?_consoleFault] at carries
    cases carries

/-- A scan that could not replace its file fails in the same way in a volume that is as good. -/
theorem run_partsOn_held_alike
    (h : ((partsOn host setup rules options).run options path shownAs).run w = .error failure w')
    (carries : failure.report? = some report) :
    w'.volume = w.volume ∧
      ∃ w₃, ((partsOn host setup rules options).run options path shownAs).run w₂ = .error failure w₃ ∧
        w₃.volume = w₂.volume := by
  refine ⟨volume_of_partsOn_held h carries, ?_⟩
  rcases partsOn_run_eq_error h with ⟨-, bare⟩ | ⟨fix, o, failed⟩
  · rw [bare] at carries
    cases carries
  obtain ⟨calm, bytes, -, read, -⟩ := o.onHost
  have opened : o.opened.volume = w.volume := calm.volume
  obtain ⟨mode, holds⟩ := Volume.exists_holds read
  have holds₂ := alike.holds holds
  obtain ⟨o₂, assessment, lines, opened₂⟩ := o.again (holds₂.read.trans read.symm)
  obtain ⟨made, temporary, out, counts, scanned, cause, makes, scans, held, tellable, rfl⟩ :=
    (run_replaceFile_eq_held o.lines_calm (fun made temporary out makes => ⟨_, Volume.replace_eq_put holds alike.names
      (opened ▸ makes) out⟩) carries).1 ⟨w', failed⟩
  obtain ⟨⟨made₂, temporary₂⟩, makes₂⟩ := alike.temporary (opened ▸ makes)
  obtain ⟨scanned₂, scans₂⟩ := (o.lines_steady quiet).again scans { o₂.opened with volume := made₂ }
  obtain ⟨w₃, failed₂⟩ := (run_replaceFile_eq_held o.lines_calm (fun made temporary out makes =>
    ⟨_, Volume.replace_eq_put holds₂ alike.names₂ (opened₂ ▸ makes) out⟩) carries).2 ⟨made₂, temporary₂, out, counts,
      scanned₂, cause, opened₂ ▸ makes₂, scans₂, held, tellable, rfl⟩
  have run : ((partsOn host setup rules options).run options path shownAs).run w₂ =
      .error (.replaceFailed path (Scan.report (nameFor path shownAs) rules counts o.assessment) cause) w₃ := by
    rw [Parts.run_of_opening o₂, assessment, lines, Parts.scanOpened, if_pos fix]
    exact failed₂
  exact ⟨w₃, run, volume_of_partsOn_held run carries⟩

end Alike

end Scan

end MatlabTidy
