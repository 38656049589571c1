import MatlabTidy.Proofs.Command.ExitCode
import MatlabTidy.Proofs.Volume.Outline

/-!
# Settling in

The settings are found by looking at the volume. They are found again in a volume that differs in the
contents of sources only (`Command.settle_agrees`), since the file that holds them is no source.
-/

namespace MatlabTidy

namespace Job

variable {α β ε : Type} {v v' : Volume}

/-- The job leaves the volume alone, and what it sees is the same in both volumes: if it ends well in the first,
it ends well in the second with the same value. -/
def Agrees (v v' : Volume) (job : Job α) : Prop :=
  ∀ ⦃w a w₁⦄, w.volume = v → job.run w = .ok a w₁ → w₁.volume = v ∧
    ∀ w', w'.volume = v' → ∃ w₁', job.run w' = .ok a w₁' ∧ w₁'.volume = v'

namespace Agrees

theorem pure (a : α) : Agrees v v' (pure a : Job α) := by
  intro w b w₁ here run
  cases run
  exact ⟨here, fun w' there => ⟨w', rfl, there⟩⟩

theorem throw (failure : Failure) : Agrees v v' (throw failure : Job α) :=
  fun _ _ _ _ run => absurd run not_run_throw_eq_ok

theorem emit (event : Event) : Agrees v v' (emit event) := by
  intro w a w₁ here run
  rw [run_emit] at run
  cases run
  exact ⟨here, fun w' there => ⟨_, run_emit event, there⟩⟩

theorem ofExcept (failure : ε → Failure) (x : Except ε α) : Agrees v v' (ofExcept failure x) := by
  cases x with
  | ok a => exact pure a
  | error e => exact throw _

theorem bind {x : Job α} {f : α → Job β} (first : Agrees v v' x)
    (then_ : ∀ {w a w₁}, x.run w = .ok a w₁ → w.volume = v → Agrees v v' (f a)) : Agrees v v' (x >>= f) := by
  intro w b w₂ here run
  obtain ⟨a, w₁, run₁, run₂⟩ := run_bind_eq_ok.1 run
  obtain ⟨between, again⟩ := first here run₁
  obtain ⟨after, again'⟩ := then_ run₁ here between run₂
  refine ⟨after, fun w' there => ?_⟩
  obtain ⟨w₁', run₁', there₁⟩ := again w' there
  obtain ⟨w₂', run₂', there₂⟩ := again' w₁' there₁
  exact ⟨w₂', run_bind_eq_ok.2 ⟨a, w₁', run₁', run₂'⟩, there₂⟩

/-- A job that goes on with the world goes on in the same way. -/
theorem get_bind {f : World → Job β} (same : ∀ {w w'}, w.volume = v → w'.volume = v' → f w' = f w)
    (then_ : ∀ {w}, w.volume = v → Agrees v v' (f w)) : Agrees v v' (get >>= f) := by
  intro w b w₁ here run
  rw [run_bind_of_ok (EStateM.run_get w)] at run
  obtain ⟨after, again⟩ := then_ here here run
  refine ⟨after, fun w' there => ?_⟩
  rw [run_bind_of_ok (EStateM.run_get w'), same here there]
  exact again w' there

theorem ask {question : Volume → Except AccessError α} (same : question v' = question v) :
    Agrees v v' (ask question) := by
  refine get_bind (fun here there => ?_) fun _ => ofExcept _ _
  rw [here, there, same]

theorem forM {f : α → Job PUnit} (each : ∀ a, Agrees v v' (f a)) (as : List α) : Agrees v v' (as.forM f) := by
  induction as with
  | nil => exact pure _
  | cons a as ih => exact bind (each a) fun _ _ => ih

theorem findM? {p : α → Job Bool} {as : List α} (each : ∀ a, Agrees v v' (p a)) : Agrees v v' (as.findM? p) := by
  induction as with
  | nil => exact pure _
  | cons a as ih =>
    rw [List.findM?]
    refine bind (each a) fun {_ found _} _ _ => ?_
    cases found with
    | true => exact pure _
    | false => exact ih

end Agrees

/-- What a search finds is in the list. -/
theorem mem_of_findM? {p : α → Job Bool} {as : List α} {a : α} {w w' : World}
    (h : (as.findM? p).run w = .ok (some a) w') : a ∈ as := by
  induction as generalizing w with
  | nil => cases h
  | cons b as ih =>
    rw [List.findM?] at h
    obtain ⟨found, w₁, -, rest⟩ := run_bind_eq_ok.1 h
    cases found with
    | true =>
      cases rest
      exact List.mem_cons_self
    | false => exact List.mem_cons_of_mem _ (ih rest)

end Job

open Job (Agrees)

namespace Discovery

variable {v v' : Volume}

/-- The settings file is an entry of a folder, and its name is the last of its path text. -/
theorem steps_fileIn (folder : Path) (top : folder.slashes = 1) :
    ∃ names, Volume.steps (fileIn folder) = names ++ [fileName] := by
  have joined : ∀ parts : List (List Char), ∃ front,
      '/' :: List.intercalate ['/'] (parts ++ [fileName.toList]) = front ++ '/' :: fileName.toList := by
    intro parts
    induction parts with
    | nil => exact ⟨[], rfl⟩
    | cons part parts ih =>
      obtain ⟨front, joined⟩ := ih
      refine ⟨'/' :: part ++ front, ?_⟩
      rw [List.append_assoc, ← joined]
      cases parts with
      | nil => simp [List.intercalate_cons_cons]
      | cons next parts => simp [List.intercalate_cons_cons]
  obtain ⟨front, whole⟩ := joined (folder.names.map String.toList)
  have text : (fileIn folder).toList = (String.ofList front).toList ++ '/' :: fileName.toList := by
    rw [fileIn, Volume.toList_text (by simp [Path.child]), Path.child, top, String.toList_ofList, ← whole]
    simp
  have suffix : (fileIn folder).toList = (front ++ ['/']) ++ fileName.toList := by
    rw [text, String.toList_ofList]
    simp
  have names := Volume.namesOf_append text
  have own : Volume.namesOf fileName = [fileName] := Volume.namesOf_name (by decide) (by decide)
  rw [own] at names
  refine ⟨Volume.namesOf (String.ofList front), ?_⟩
  rw [Volume.steps, Volume.endsInSlash_of_suffix suffix (by decide) (by decide), names]
  simp

theorem slashes_of_mem_outward {path folder : Path} (h : folder ∈ outward path) : folder.slashes = path.slashes := by
  obtain ⟨n, -, rfl⟩ := List.mem_map.1 h
  rfl

theorem refuse_agrees (file cause : String) : Agrees v v' (refuse file cause) :=
  .bind (.emit _) fun _ _ => .pure _

theorem sectionOf_agrees (document : Table) : Agrees v v' (sectionOf document) := by
  unfold sectionOf
  split
  · exact .pure _
  · exact .pure _
  · exact .throw _

theorem readFile_agrees {stack : Stack} {file : String} (same : v'.read file = v.read file) :
    Agrees v v' (readFile stack file) := by
  refine .get_bind (fun here there => ?_) fun here => ?_
  · dsimp only
    rw [here, there, same]
  · dsimp only
    split
    · exact refuse_agrees _ _
    · refine .bind (.ofExcept _ _) fun _ _ => ?_
      split
      · exact refuse_agrees _ _
      · exact .throw _
      · exact .throw _
      · refine .bind (sectionOf_agrees _) fun _ _ => ?_
        split
        · exact .bind (.emit _) fun _ _ => .pure _
        · exact .bind (.emit _) fun _ _ => .pure _
        · exact .bind (.emit _) fun _ _ => .pure _

variable (kept : Volume.Kept v v')
include kept

theorem find_agrees (stack : Stack) : Agrees v v' (findWith stack none) := by
  refine .get_bind (fun here there => ?_) fun here => ?_
  · dsimp only
    rw [here, there, kept.here, pure_bind, pure_bind, kept.same (·.resolve _) fun v => Volume.resolve_outline v _]
  · refine .bind (.pure _) fun _ _ => ?_
    dsimp only
    split
    · exact .throw _
    · exact .throw _
    · exact .findM? fun file => .ask (kept.same (·.isFile file) fun v => Volume.isFile_outline v file)

/-- The table of settings is found again when only sources have changed. -/
theorem load_agrees (stack : Stack) (tree : v.Tree) : Agrees v v' (loadWith stack none) := by
  refine .bind (find_agrees kept stack) fun {w file? w₁} found here => ?_
  cases file? with
  | none => exact .pure _
  | some file =>
    refine readFile_agrees ?_
    have mem : ∃ folder ∈ outward ⟨1, w.volume.here⟩, fileIn folder = file := by
      unfold findWith at found
      rw [Job.run_bind_of_ok (EStateM.run_get w)] at found
      dsimp only at found
      rw [pure_bind] at found
      split at found
      · cases found
      · cases found
      · exact List.mem_map.1 (Job.mem_of_findM? found)
    obtain ⟨folder, mem, rfl⟩ := mem
    exact kept.read tree (steps_fileIn folder (slashes_of_mem_outward mem)) (by decide) (by decide) (by decide)

end Discovery

namespace Command

theorem warn_agrees (v v' : Volume) (stack : Stack) (log : Log) (fault : Settings.Fault) :
    Agrees v v' (warn stack log fault) := by
  unfold warn
  split
  · exact .emit _
  · exact .emit _
  · exact .throw _

/-- The settings are found again when only sources have changed. -/
theorem settle_agrees {v v' : Volume} (tree : v.Tree) (kept : Volume.Kept v v') : Agrees v v' settle := by
  refine .bind (Discovery.load_agrees kept .standard tree) fun _ _ => ?_
  unfold loadSettings loadSettingsWith
  exact .bind (.forM (warn_agrees v v' _ _) _) fun _ _ => .pure _

end Command

end MatlabTidy
