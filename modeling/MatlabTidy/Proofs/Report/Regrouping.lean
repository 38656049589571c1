import MatlabTidy.Proofs.Report.Totals

/-!
# Files in other groups

A report that is put together from empty folders by merging, in any nesting and any order, keeps the figures
of its files beside the tree, and the two never come apart (`Aggregate.Built.sound`). So the summary prints
one row for each figure that it adds up, and it does not matter into which folders the files are grouped, as
long as their order stays (`Aggregate.summary_of_regrouping`).
-/

namespace MatlabTidy.Aggregate

/-- The report is put together from empty folders and single files by merging files and such reports. -/
inductive Built : Aggregate → Prop where
  | empty (name : String) : Built (.empty name)
  | single (report : FileReport) : Built (.ofFile report)
  | file {a : Aggregate} (front : Built a) (report : FileReport) : Built (a.merge (.file report))
  | folder {a inner : Aggregate} (front : Built a) (inside : Built inner) : Built (a.merge inner.toReport)

variable {a b : Aggregate}

/-- A merge keeps the figures and the tree together. -/
theorem Built.sound (h : Built a) : a.Sound := by
  induction h with
  | empty name => exact sound_empty name
  | single report => exact (sound_empty report.name).merge_file report
  | file front report ih => exact ih.merge_file report
  | folder front inside ih inner => exact ih.merge_folder inner

namespace Sound

/-- As many figures of each kind are kept as there are files. -/
theorem lengths (h : a.Sound) :
    a.totals.scores.length = a.files.length ∧ a.totals.errors.length = a.files.length ∧
      a.totals.fixes.length = a.files.length := by
  rw [h]
  exact ⟨List.length_map _, List.length_map _, List.length_map _⟩

/-- The rows of the summary show the figures, one for each file. -/
theorem columns_eq (h : a.Sound) (fix : Bool) :
    columns a.files fix =
      [⟨"File", false, a.files.map FileReport.name⟩, ⟨"Errors", true, a.totals.errors.map toString⟩]
        ++ (if fix then [⟨"Fixes", true, a.totals.fixes.map toString⟩] else [])
        ++ [⟨"Complexity", true, a.totals.scores.map toString⟩] := by
  rw [h, columns, Totals.ofFiles, List.map_map, List.map_map, List.map_map]
  rfl

/-- What is printed of a report depends on its files alone. -/
theorem summary_eq (h : a.Sound) (h' : b.Sound) (same : b.files = a.files) (fix : Bool) :
    b.totals = a.totals ∧ b.table fix = a.table fix ∧ b.totalLines fix = a.totalLines fix := by
  have totals : b.totals = a.totals := by rw [h, h', same]
  refine ⟨totals, ?_, ?_⟩
  · rw [table, table, same]
  · rw [totalLines, totalLines, totals?, totals?, totals]

end Sound

/-- In a report that was put together by merging, the three lists of figures are those of its files, in order.
So they are as long as the number of files, the totals are the sums of the rows that the summary prints, and a
report with the same files in other folders has the same figures, totals and summary. -/
theorem summary_of_regrouping (built : Built a) :
    (a.totals.errors = a.files.map FileReport.totalErrors ∧ a.totals.fixes = a.files.map FileReport.totalFixes ∧
      a.totals.scores = a.files.map FileReport.score) ∧
    (a.totals.errors.length = a.totals.filesAnalyzed ∧ a.totals.fixes.length = a.totals.filesAnalyzed ∧
      a.totals.scores.length = a.totals.filesAnalyzed ∧ a.files.length = a.totals.filesAnalyzed) ∧
    (∀ fix, columns a.files fix =
      [⟨"File", false, a.files.map FileReport.name⟩, ⟨"Errors", true, a.totals.errors.map toString⟩]
        ++ (if fix then [⟨"Fixes", true, a.totals.fixes.map toString⟩] else [])
        ++ [⟨"Complexity", true, a.totals.scores.map toString⟩]) ∧
    (a.totals.totalErrors = (a.files.map FileReport.totalErrors).foldr (· + ·) 0 ∧
      a.totals.totalFixes = (a.files.map FileReport.totalFixes).foldr (· + ·) 0) ∧
    ∀ b, Built b → b.files = a.files →
      (b.totals.errors = a.totals.errors ∧ b.totals.fixes = a.totals.fixes ∧ b.totals.scores = a.totals.scores) ∧
      (b.totals.totalErrors = a.totals.totalErrors ∧ b.totals.totalFixes = a.totals.totalFixes ∧
        b.totals.filesAnalyzed = a.totals.filesAnalyzed) ∧
      ∀ fix, b.table fix = a.table fix ∧ b.totalLines fix = a.totalLines fix := by
  have sound := built.sound
  have figures : a.totals = Totals.ofFiles a.files := sound
  obtain ⟨scores, errors, fixes⟩ := sound.lengths
  have number : a.totals.filesAnalyzed = a.files.length := errors
  refine ⟨?_, ?_, sound.columns_eq, ?_, ?_⟩
  · rw [figures]
    exact ⟨rfl, rfl, rfl⟩
  · rw [number]
    exact ⟨errors, fixes, scores, rfl⟩
  · rw [figures]
    exact ⟨rfl, rfl⟩
  · intro b built' same
    have equal : b.totals = a.totals := (sound.summary_eq built'.sound same false).1
    refine ⟨?_, ?_, fun fix => (sound.summary_eq built'.sound same fix).2⟩
    · rw [equal]
      exact ⟨rfl, rfl, rfl⟩
    · rw [equal]
      exact ⟨rfl, rfl, rfl⟩

/-- A file with the given numbers of offences and fixes against a single rule. -/
def singleRule (name : String) (errors fixes score : Int) : FileReport := ⟨name, [""], [errors], [fixes], score, []⟩

/-- Two files in a folder of their own behind a third one, and the three side by side. -/
theorem summary_of_three_files :
    ∃ nested flat : Aggregate, Built nested ∧ Built flat ∧ nested.children.length = 2 ∧ flat.children.length = 3 ∧
      nested.totals.errors = [3, 1, 4] ∧ flat.totals.errors = nested.totals.errors ∧
      flat.totals.totalFixes = nested.totals.totalFixes ∧ flat.table true = nested.table true := by
  have inner : Built (((empty "lib").merge (.file (singleRule "lib/b.m" 1 1 5))).merge
      (.file (singleRule "lib/c.m" 4 0 9))) := .file (.file (.empty _) _) _
  have nested : Built (((empty "src").merge (.file (singleRule "a.m" 3 2 2))).merge (toReport
      (((empty "lib").merge (.file (singleRule "lib/b.m" 1 1 5))).merge (.file (singleRule "lib/c.m" 4 0 9))))) :=
    .folder (.file (.empty _) _) inner
  have flat : Built ((((empty "src").merge (.file (singleRule "a.m" 3 2 2))).merge
      (.file (singleRule "lib/b.m" 1 1 5))).merge (.file (singleRule "lib/c.m" 4 0 9))) :=
    .file (.file (.file (.empty _) _) _) _
  obtain ⟨⟨errors, -⟩, -, -, -, regrouped⟩ := summary_of_regrouping nested
  obtain ⟨⟨same, -⟩, ⟨-, fixes, -⟩, printed⟩ := regrouped _ flat rfl
  exact ⟨_, _, nested, flat, rfl, rfl, errors, same, fixes, (printed true).1⟩

end MatlabTidy.Aggregate
