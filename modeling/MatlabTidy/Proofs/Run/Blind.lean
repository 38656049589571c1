import MatlabTidy.Proofs.Run.File

/-!
# Jobs that do not look at the volume

A blind job runs in every volume as in any other, with the same questions, the same answers and the same end,
and leaves the volume as it found it (`Job.Blind`). Asking the code checker is such a job, and so are the scan
of lines and the report of a file. Two scans of files that differ in their contents are compared through the
blind jobs that they have in common (`Job.Blind.endAlike`).
-/

namespace MatlabTidy

namespace Job

variable {α β ε : Type} {w : World} {v v₂ : Volume}

/-- The end of a run, in another volume. -/
def inVolume (v : Volume) : EStateM.Result Failure World α → EStateM.Result Failure World α
  | .ok a w => .ok a { w with volume := v }
  | .error failure w => .error failure { w with volume := v }

/-- The job runs in the same way in every volume and leaves the volume alone. -/
def Blind (job : Job α) : Prop := ∀ w v, job.run { w with volume := v } = inVolume v (job.run w)

/-- Two runs come to the same end, in worlds that differ in their volumes only. -/
inductive EndAlike (V : Volume → Volume → Prop) :
    EStateM.Result Failure World α → EStateM.Result Failure World α → Prop where
  | ok {a : α} {w : World} {v₂ : Volume} (volumes : V w.volume v₂) : EndAlike V (.ok a w) (.ok a { w with volume := v₂ })
  | error {failure : Failure} {w : World} {v₂ : Volume} (volumes : V w.volume v₂) :
      EndAlike V (.error failure w) (.error failure { w with volume := v₂ })

namespace Blind

theorem pure (a : α) : Blind (pure a : Job α) := fun _ _ => rfl

theorem throw (failure : Failure) : Blind (throw failure : Job α) := fun _ _ => rfl

theorem emit (event : Event) : Blind (emit event) := fun _ _ => rfl

theorem ofExcept (failure : ε → Failure) (x : Except ε α) : Blind (ofExcept failure x) := by
  cases x with
  | ok a => exact pure a
  | error e => exact throw (failure e)

theorem bind {x : Job α} {f : α → Job β} (first : Blind x) (then_ : ∀ a, Blind (f a)) : Blind (x >>= f) := by
  intro w v
  have here := first w v
  rw [EStateM.run_bind, EStateM.run_bind, here]
  cases x.run w with
  | ok a w₁ => exact then_ a w₁ v
  | error failure w₁ => rfl

/-- A job that begins with a look at the world, but not at the volume. -/
theorem get_bind {f : World → Job α} (same : ∀ w v, f { w with volume := v } = f w) (then_ : ∀ w, Blind (f w)) :
    Blind (get >>= f) := by
  intro w v
  have here := then_ w w v
  rw [run_bind_of_ok (EStateM.run_get _), run_bind_of_ok (EStateM.run_get _), same]
  exact here

/-- A question uses a key up, wherever it is asked. -/
theorem confirm (prompt : FixPrompt) : Blind (confirm prompt) := by
  refine .bind (.emit _) fun _ w v => ?_
  obtain ⟨volume, keys, missingReported, events⟩ := w
  cases keys with
  | none => rfl
  | some keys => cases keys <;> rfl

/-- A blind job has not changed the volume. -/
theorem volume_of_ok {job : Job α} {a : α} {w' : World} (h : Blind job) (run : job.run w = .ok a w') :
    w'.volume = w.volume := by
  have here := h w w.volume
  rw [run] at here
  have same := congrArg World.volume (EStateM.Result.ok.inj here).2
  exact same

theorem volume_of_error {job : Job α} {failure : Failure} {w' : World} (h : Blind job)
    (run : job.run w = .error failure w') : w'.volume = w.volume := by
  have here := h w w.volume
  rw [run] at here
  have same := congrArg World.volume (EStateM.Result.error.inj here).2
  exact same

/-- A blind job comes to the same end in any two volumes. -/
theorem endAlike {V : Volume → Volume → Prop} {job : Job α} (h : Blind job) (w : World) (volumes : V v v₂) :
    EndAlike V (job.run { w with volume := v }) (job.run { w with volume := v₂ }) := by
  rw [h w v, h w v₂]
  cases job.run w with
  | ok a w' => exact .ok (w := { w' with volume := v }) volumes
  | error failure w' => exact .error (w := { w' with volume := v }) volumes

end Blind

end Job

open Job (Blind)

namespace Checker

variable (checker : Checker)

theorem warn_blind (message : String) : Blind (checker.warn message) := by
  unfold warn
  split
  · exact .emit _
  · exact .emit _

theorem check_blind (file : String) (process : ProcessOutcome) : Blind (checker.check file process) := by
  unfold check
  cases process with
  | missing =>
    refine .get_bind (fun _ _ => rfl) fun w => ?_
    dsimp only
    split
    · exact .bind (checker.warn_blind _) fun _ => .bind (fun _ _ => rfl) fun _ => .pure _
    · exact .pure _
  | timedOut => exact .bind (checker.warn_blind _) fun _ => .pure _
  | refused cause => exact .bind (checker.warn_blind _) fun _ => .pure _
  | finished output errors => exact .bind (.emit _) fun _ => .ofExcept _ _

end Checker

namespace Line

variable {R : Type} [Criterion R] (options : Options) (number : Nat)

theorem report_blind (v : Violation) : Blind (report v) := by
  refine .bind (.emit _) fun _ => ?_
  split
  · exact .bind (.ofExcept _ _) fun _ => .pure _
  · exact .pure _

theorem applyFix_blind (line : List Char) (rule : R) (columns : Columns) (interactive : Bool) (number : Int) :
    Blind (applyFix line rule columns interactive number) := by
  unfold applyFix
  split
  · exact .throw _
  · split
    · exact .pure _
    · refine .bind (.ofExcept _ _) fun candidate => ?_
      split
      · exact .pure _
      · split
        · exact .pure _
        · refine .get_bind (fun _ _ => rfl) fun w => ?_
          split
          · exact .bind (.throw _) fun _ => .bind (.ofExcept _ _) fun _ => .bind (.confirm _) fun _ => .pure _
          · exact .bind (.ofExcept _ _) fun _ => .bind (.confirm _) fun _ => .pure _

theorem turn_blind (asRead : List Char) (rule : R) (columns : Columns) (current : List Char) :
    Blind (turn options number asRead rule columns current) := by
  unfold turn
  split
  · exact .pure _
  · refine .bind (report_blind _) fun _ => ?_
    split
    · exact .bind (.ofExcept _ _) fun _ => .bind (applyFix_blind _ _ _ _ _) fun _ => .pure _
    · exact .pure _

theorem checkMatches_blind (asRead : List Char) (found : List (Rule × Columns)) (current : List Char) :
    Blind (checkMatches options number asRead found current) := by
  induction found generalizing current with
  | nil => exact .pure _
  | cons first rest ih =>
    obtain ⟨rule, columns⟩ := first
    rw [checkMatches_cons]
    exact .bind (turn_blind options number asRead rule columns current) fun _ => .bind (ih _) fun _ => .pure _

theorem evaluate_blind (line : List Char) (rules : List Rule) : Blind (Rule.evaluate line rules) := by
  induction rules with
  | nil => exact .pure _
  | cons rule rules ih => exact .bind (.ofExcept _ _) fun _ => .bind ih fun _ => .pure _

theorem scan_blind (rules : List Rule) (raw : List Char) : Blind (scan rules options number raw) := by
  unfold scan check
  dsimp only
  split
  · exact .bind (.bind (evaluate_blind _ rules) fun found => checkMatches_blind options number _ found _) fun _ =>
      .pure _
  · exact .pure _

end Line

namespace Scan

theorem assess_blind (setup : Setup) (path : String) : Blind (assess setup path) := by
  unfold assess
  cases setup.checker with
  | none => exact .pure _
  | some checker => exact checker.check_blind path _

theorem tell_blind (host : Host) (report : FileReport) (fix verbose : Bool) : Blind (tell host report fix verbose) := by
  unfold tell
  cases host.consoleFault? report fix verbose with
  | some fault => exact .throw _
  | none => exact .emit _

theorem finishOn_blind (host : Host) (report : FileReport) (fix verbose : Bool) :
    Blind (finishOn host report fix verbose) := by
  unfold finishOn
  split
  · exact .bind (.throw _) fun _ => tell_blind host report fix verbose
  · exact tell_blind host report fix verbose

section PartsOn

variable {R : Type} [Criterion R] (host : Host) (setup : Setup) (rules : List R) (options : Options)

theorem giveUp_blind (path : String) (report : FileReport) (cause : String) :
    Blind ((partsOn host setup rules options).giveUp options path report cause) := by
  rw [Parts.giveUp, partsOn_finish]
  exact .bind (finishOn_blind host _ _ _) fun _ => .throw _

theorem conclude_blind (report : FileReport) :
    Blind ((partsOn host setup rules options).conclude options report) := by
  rw [Parts.conclude, partsOn_finish]
  exact .bind (finishOn_blind host _ _ _) fun _ => .pure _

end PartsOn

end Scan

end MatlabTidy
