import MatlabTidy.Proofs.Command.Check
import MatlabTidy.Proofs.Volume.Shape

/-!
# What a run keeps of the volume

However a run ends, the volume has the same places, folders and permissions of files as before, and the bytes
of files that no path of a source names; but where a source was a link, there is a file now
(`Walk.reshaped_after_check`). A scan comes to one rewriting or to none, even if it fails after the move
(`Scan.volume_after_replaceFile`), and everything else in a run looks and speaks only.
-/

namespace MatlabTidy

open Volume (Holds Names)

/-- The volume has kept its shape, if everything in it stood in a folder. -/
def World.Reshaped (w w' : World) : Prop := w.volume.Rooted → w.volume.Reshaped w'.volume

instance : Std.Refl World.Reshaped := ⟨fun w _ => .refl w.volume⟩

instance : Trans World.Reshaped World.Reshaped World.Reshaped :=
  ⟨fun h h' rooted => (h rooted).trans rooted (h' ((h rooted).rooted rooted))⟩

theorem World.reshaped_of_volume {w w' : World} (same : w'.volume = w.volume) : World.Reshaped w w' := by
  intro _
  rw [same]
  exact .refl _

namespace Job

variable {α β : Type} {w w' : World} {failure : Failure}

theorem after_of_run {job other : Job α} (h : job.run w = other.run w') : job.after w = other.after w' := by
  rw [after, after, h]

/-- However it ends, the job keeps the shape of the volume. -/
abbrev Reshapes (job : Job α) : Prop := Respects World.Reshaped (fun _ => True) job

theorem Respects.reshapes {P : Failure → Prop} {job : Job α} (h : Respects World.Calm P job) : Reshapes job :=
  h.mono (fun _ _ calm => World.reshaped_of_volume calm.volume) fun _ _ => trivial

theorem emit_reshapes (event : Event) : Reshapes (emit event) := by
  refine ⟨fun w => ?_, fun _ => trivial⟩
  rw [after_of_ok (run_emit event)]
  exact World.reshaped_of_volume rfl

/-- A job that may fail before it goes on. -/
theorem reshapes_of_throw {c : Prop} [Decidable c] {next : PUnit → Job α} (h : ∀ u, Reshapes (next u)) :
    Reshapes (if c then throw failure >>= next else next ⟨⟩) := by
  split
  · exact .bind (.throw trivial) h
  · exact h _

end Job

open Job (Reshapes)

namespace Scan

variable {setup : Setup} {rules : List Rule} {options : Options} {path name : String} {w : World}
variable {assessment : Assessment} {charset : Charset} {delivery : Delivery} {bytes : List UInt8} {mode : Nat}

/-- After a source was reported, the volume is as the report found it. -/
theorem partsOn_finish_calm (setup : Setup) (rules : List Rule) (options : Options) (report : FileReport)
    (fix verbose : Bool) : Job.Respects World.Calm (fun _ => True)
      ((partsOn .bare setup rules options).finish report fix verbose) := by
  rw [partsOn_finish]
  exact (finishOn_calm .bare report fix verbose).mono (fun _ _ calm => calm) fun _ _ => trivial

/-- However the writing of a source ends, either the volume is as it was, or the source was put at the entry
that its path names, with the permissions of the file that the path read. -/
theorem volume_after_replaceFile (holds : Holds w.volume path bytes mode) :
    ((replaceFile setup rules options path name assessment charset delivery).after w).volume = w.volume ∨
      ∃ parent last out, Names w.volume path parent last ∧
        ((replaceFile setup rules options path name assessment charset delivery).after w).volume =
          w.volume.put (parent ++ [last]) (.file out mode) := by
  have calm := scanDelivery_calm charset rules options delivery
  have ends := (partsOn .bare setup rules options).run_replaceFile options path name assessment
    (scanDelivery charset rules options delivery) w
  generalize run : (replaceFile setup rules options path name assessment charset delivery).run w = ended at ends
  cases ends with
  | unmade makes =>
    rw [Job.after_of_error run]
    exact .inl rfl
  | @unscanned made temporary failure w₁ makes scans =>
    rw [Job.after_of_error run]
    have removed : w₁.volume.erase temporary.place = w.volume := by
      rw [(calm.of_error scans).volume]
      exact Volume.erase_makeTemporary makes
    exact .inl removed
  | @heldBack made temporary out counts scanned cause makes scans held =>
    have removed : (scanned.volume.write temporary.place out).erase temporary.place = w.volume := by
      rw [Volume.erase_write, (calm.of_ok scans).volume]
      exact Volume.erase_makeTemporary makes
    rw [Job.after_of_run run]
    have finish := partsOn_finish_calm setup rules options
    exact .inl (((Parts.giveUp_respects (finish _ _ _) trivial).world _).volume.trans removed)
  | moved makes scans unlocked moves =>
    rw [(calm.of_ok scans).volume] at moves
    obtain ⟨parent, last, names, put⟩ := Volume.exists_put_of_moved holds makes moves
    rw [Job.after_of_run run]
    have finish := partsOn_finish_calm setup rules options
    exact .inr ⟨parent, last, _, names, ((Parts.conclude_respects (finish _ _ _)).world _).volume.trans put⟩

theorem replaceFile_reshapes (source : isSource path = true) (read : w.volume.read path = .ok bytes) :
    World.Reshaped w ((replaceFile setup rules options path name assessment charset delivery).after w) := by
  intro rooted
  obtain ⟨mode, holds⟩ := Volume.exists_holds read
  rcases volume_after_replaceFile holds with same | ⟨parent, last, out, names, put⟩
  · rw [same]
    exact .refl _
  · rw [put]
    exact Volume.reshaped_put source names holds out

theorem file_reshapes (setup : Setup) (rules : List Rule) (options : Options) (path : String)
    (shownAs : Option String) : Reshapes (file setup rules options path shownAs) := by
  refine ⟨fun w => ?_, fun _ => trivial⟩
  -- A source that was opened is only looked at, or written again.
  have opened : ∀ o : Opening setup path w, World.Reshaped w ((replaceFile setup rules options path
      (nameFor path shownAs) o.assessment o.charset (o.charset.read o.bytes)).after o.opened) := fun o =>
    Trans.trans (World.reshaped_of_volume o.calm.volume) (replaceFile_reshapes o.source o.read)
  cases run : (file setup rules options path shownAs).run w with
  | error failure w' =>
    rw [Job.after_of_error run]
    rcases run_file_eq_error run with ⟨calm, -⟩ | ⟨-, o, failed⟩
    · exact World.reshaped_of_volume calm.volume
    · rw [← Job.after_of_error failed]
      exact opened o
  | ok result w' =>
    rw [Job.after_of_ok run]
    obtain ⟨o, ended⟩ := run_file_opened_eq_ok.1 run
    cases fix : options.fix with
    | false =>
      exact World.reshaped_of_volume (((scanOpened_calm fix).of_ok ended).volume.trans o.calm.volume)
    | true =>
      rw [scanOpened_eq, if_pos fix] at ended
      rw [← Job.after_of_ok ended]
      exact opened o

/-- A scan that fixes puts the source at the entry that its path names, with the permissions of the file that
the path read. -/
theorem exists_put_of_file {shownAs : Option String} {result : FileReport} {w' : World} (fix : options.fix = true)
    (h : (file setup rules options path shownAs).run w = .ok result w') :
    ∃ parent last bytes mode out, isSource path = true ∧ Names w.volume path parent last ∧
      Holds w.volume path bytes mode ∧ w'.volume = w.volume.put (parent ++ [last]) (.file out mode) := by
  obtain ⟨o, ended⟩ := run_file_opened_eq_ok.1 h
  rw [scanOpened_eq, if_pos fix] at ended
  obtain ⟨made, temporary, out, counts, scanned, volume, makes, -, scans, -, moves, -, -, rfl⟩ :=
    (run_replaceFile_eq_ok fix).1 ended
  rw [((scanLines_calm _ rules options 1 _).of_ok scans).volume] at moves
  obtain ⟨mode, holds⟩ := Volume.exists_holds o.read
  obtain ⟨parent, last, names, put⟩ := Volume.exists_put_of_moved holds makes moves
  rw [o.calm.volume] at names holds put
  exact ⟨parent, last, o.bytes, mode, out, o.source, names, holds, put⟩

end Scan

namespace Walk

theorem notify_reshapes (level : Level) (message : String) : Reshapes (Job.notify level message) :=
  Job.emit_reshapes _

variable (plan : Plan) (scans : ∀ path name, Reshapes (plan.scan path name))

omit scans in
theorem nameOf_reshapes (path : String) : Reshapes (plan.nameOf path) :=
  .bind .get fun _ => .pure _

omit scans in
theorem skipFile_reshapes (path : String) : Reshapes (plan.skipFile path) :=
  .bind (nameOf_reshapes plan path) fun _ => notify_reshapes _ _

include scans in
theorem mergeFile_reshapes (a : Aggregate) (path : String) : Reshapes (plan.mergeFile a path) := by
  refine .bind (nameOf_reshapes plan path) fun name => .bind (notify_reshapes _ _) fun _ => .tryCatch ?_ ?_
  · exact .bind (scans _ _) fun _ => .pure _
  · intro failure
    split
    · exact .bind (notify_reshapes _ _) fun _ => .pure _
    · split
      · exact .bind (notify_reshapes _ _) fun _ => .pure _
      · exact .throw trivial

mutual

theorem runStep_reshapes (scans : ∀ path name, Reshapes (plan.scan path name)) (a : Aggregate) (step : Step) :
    Reshapes (runStep plan a step) := by
  cases step with
  | scan path =>
    rw [runStep]
    exact mergeFile_reshapes plan scans a path
  | skipFile path =>
    rw [runStep]
    exact .bind (skipFile_reshapes plan path) fun _ => .pure _
  | skipFolder path =>
    rw [runStep]
    exact .bind (Job.emit_reshapes _) fun _ => .pure _
  | skipVisited path =>
    rw [runStep]
    exact .bind (nameOf_reshapes plan path) fun _ => .bind (notify_reshapes _ _) fun _ => .pure _
  | enter path steps =>
    rw [runStep]
    exact .bind (nameOf_reshapes plan path) fun _ => .bind (runSteps_reshapes scans _ steps) fun _ => .pure _
  | fail error =>
    rw [runStep]
    exact .throw trivial

theorem runSteps_reshapes (scans : ∀ path name, Reshapes (plan.scan path name)) (a : Aggregate) (steps : List Step) :
    Reshapes (runSteps plan a steps) := by
  cases steps with
  | nil =>
    rw [runSteps]
    exact .pure _
  | cons step rest =>
    rw [runSteps]
    exact .bind (runStep_reshapes scans a step) fun _ => runSteps_reshapes scans _ rest

end

theorem walkWith_reshapes {scan : (path name : String) → Job FileReport} (scans : ∀ path name, Reshapes (scan path name))
    (limit : Nat) (recursive : Bool) (path : String) (root : Option String) :
    Reshapes (walkWith limit scan recursive path root) := by
  refine .bind (nameOf_reshapes _ path) fun name => .bind (Job.ask_calm _).reshapes fun isFolder => ?_
  split
  · exact .bind .get fun w => runSteps_reshapes _ scans _ _
  · split
    · exact mergeFile_reshapes _ scans _ _
    · exact .bind (notify_reshapes _ _) fun _ => .pure _

theorem walk_reshapes (setup : Setup) (rules : List Rule) (options : Options) (path : String)
    (root : Option String) : Reshapes (walk setup rules options path root) := by
  refine walkWith_reshapes (fun path name => ?_) _ _ _ _
  rw [scanOn]
  exact Scan.file_reshapes setup rules options path (some name)

theorem summarise_reshapes (report : Aggregate) (fix : Bool) : Reshapes (summarise report fix) := by
  refine Job.reshapes_of_throw fun _ => .bind (Job.emit_reshapes _) fun _ => Job.reshapes_of_throw fun _ => ?_
  split
  · exact .throw trivial
  · exact .pure _

theorem check_reshapes (setup : Setup) (rules : List Rule) (options : Options) (target : String) :
    Reshapes (check setup rules options target) := by
  refine .bind (Job.ask_calm _).reshapes fun isFolder => .bind (Job.ask_calm _).reshapes fun isFile => ?_
  split
  · exact .bind (notify_reshapes _ _) fun _ => .bind (walk_reshapes _ _ _ _ _) fun report =>
      .bind (summarise_reshapes report _) fun _ => .pure _
  · exact .bind (notify_reshapes _ _) fun _ => .pure _

section Linked

/-- A source that is a link to a file with another extension. -/
def linkedSource : World :=
  ⟨⟨[(["a.m"], .link "b.txt"), (["b.txt"], .file [120, 61, 49, 10] 0o644)], [], []⟩, none, false, #[]⟩

theorem rooted_linkedSource : linkedSource.volume.Rooted := by
  intro place taken
  by_cases top : place = []
  · rw [top]
    rfl
  · have mem : place ∈ [["a.m"], ["b.txt"]] := Volume.mem_of_node? top taken
    rcases List.mem_pair.1 mem with rfl | rfl
    · rfl
    · rfl

theorem holds_linkedSource : Holds linkedSource.volume "a.m" [120, 61, 49, 10] 0o644 := by
  have target : Volume.steps "b.txt" = ["b.txt"] := by decide
  have start : Volume.linkStart [] "b.txt" = [] := ite_self _
  have onward : Volume.Leads linkedSource.volume 39 (Volume.linkStart [] "b.txt") (Volume.steps "b.txt" ++ [])
      ["b.txt"] 39 := by
    rw [start, target]
    exact .node rfl (by decide) (by decide) (by decide) rfl nofun (.done _ _)
  have walk : Volume.Leads linkedSource.volume Volume.mostLinks [] ["a.m"] ["b.txt"] 39 :=
    .link rfl (by decide) (by decide) (by decide) rfl onward
  exact ⟨["b.txt"], Volume.resolve_eq_ok.2 ⟨rfl, _, walk⟩, rfl⟩

end Linked

end Walk

end MatlabTidy
