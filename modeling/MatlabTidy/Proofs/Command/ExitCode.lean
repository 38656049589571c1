import MatlabTidy.Proofs.Command.Check

/-!
# The exit code

The program compares two totals. Since the reports of all visited files are fair (`Walk.Trip.fair`) and
the totals are those of the files (`Aggregate.Sound`), the exit code is zero exactly if in every file the
fixes of every rule are as many as its offences (`Command.exitCode_truthful`).
-/

namespace MatlabTidy

namespace Walk

variable {setup : Setup} {rules : List Rule} {options : Options} {target : String} {root : Option String}
variable {a a' : Aggregate} {visits : List (String × Outcome)} {w w' : World}

/-- What the visits of a walk leave is fair, and without fixes for files that could not be replaced. -/
theorem Trip.fair (trip : Trip (planOf setup rules options target root) w visits w') :
    ∀ visit ∈ visits, ∀ report, visit.2.report? = some report → report.Fair rules ∧
      ((∃ before, visit.2 = .unreplaced before) → ∀ fixes ∈ report.fixes, fixes = 0) := by
  intro visit mem report left
  obtain ⟨w₁, w₂, here⟩ := trip.visited mem
  exact here.fair left

theorem Trip.fair_reportsOf (trip : Trip (planOf setup rules options target root) w visits w') :
    ∀ report ∈ reportsOf visits, report.Fair rules := by
  intro report mem
  obtain ⟨visit, visited, left⟩ := List.mem_filterMap.1 mem
  exact (trip.fair visit visited report left).1

/-- A check that returns a report has kept the totals with the files, and all of these are fair. -/
theorem report_of_check (h : (check setup rules options target).run w = .ok a w') :
    a.Sound ∧ ∀ report ∈ a.files, report.Fair rules := by
  unfold check at h
  obtain ⟨isFolder, w₁, -, h₁⟩ := Job.run_bind_eq_ok.1 h
  obtain ⟨isFile, w₂, -, h₂⟩ := Job.run_bind_eq_ok.1 h₁
  split at h₂
  · obtain ⟨_, w₃, -, h₃⟩ := Job.run_bind_eq_ok.1 h₂
    obtain ⟨report, w₄, walked, h₄⟩ := Job.run_bind_eq_ok.1 h₃
    obtain ⟨_, w₅, -, last⟩ := Job.run_bind_eq_ok.1 h₄
    cases last
    obtain ⟨_, visits, -, done⟩ := done_of_walk walked
    refine ⟨done.sound (Aggregate.sound_empty _), fun report mem => ?_⟩
    rw [done.files] at mem
    exact done.trip.fair_reportsOf report mem
  · obtain ⟨_, w₃, -, last⟩ := Job.run_bind_eq_ok.1 h₂
    cases last
    exact ⟨Aggregate.sound_empty _, nofun⟩

end Walk

namespace Command

theorem exitCode_cases (report : Aggregate) : exitCode report = 0 ∨ exitCode report = 1 := by
  unfold exitCode
  split
  · exact .inr rfl
  · exact .inl rfl

/-- Where all reports are fair, the exit code tells whether in some file something is left for some rule. -/
theorem exitCode_eq_zero_iff {report : Aggregate} {rules : List Rule} (sound : report.Sound)
    (fair : ∀ file ∈ report.files, file.Fair rules) :
    exitCode report = 0 ↔ ∀ file ∈ report.files, file.fixes = file.errors := by
  rw [← sound.totals_fixed_iff fair]
  unfold exitCode
  split
  · rename_i left
    exact ⟨nofun, fun none => absurd left none⟩
  · rename_i none
    exact ⟨fun _ => none, fun _ => rfl⟩

end Command

end MatlabTidy
