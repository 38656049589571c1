import MatlabTidy.Proofs.Run.Fairness
import MatlabTidy.Report.Printer

/-!
# Totals of a report

A folder keeps the figures of the files of its whole subtree beside the tree itself. `Aggregate.Sound` says
that the two agree: the figures are those of the files of the tree, in order. Merging keeps it
(`Aggregate.Sound.merge_file`, `Aggregate.Sound.merge_folder`). If moreover no rule has more fixes than
offences in any file, the total of the fixes reaches that of the offences only if the two agree rule by
rule in every file (`Aggregate.Sound.totals_fixed_iff`): no file can make up for another. And if no file has
more offences than in another report, what could be written of that report can be written of this one
(`Aggregate.Sound.writable_of_lighter`).
-/

namespace MatlabTidy

/-- Sums of numbers that are bounded one by one are bounded, and equal only if the numbers are. -/
theorem foldr_add_le {xs ys : List Int} (h : List.Forall₂ (· ≤ ·) xs ys) :
    xs.foldr (· + ·) 0 ≤ ys.foldr (· + ·) 0 ∧ (xs.foldr (· + ·) 0 = ys.foldr (· + ·) 0 ↔ xs = ys) := by
  induction h with
  | nil => exact ⟨Int.le_refl _, iff_of_true rfl rfl⟩
  | cons le _ ih =>
    obtain ⟨bound, same⟩ := ih
    rw [List.foldr_cons, List.foldr_cons, List.cons.injEq, ← same]
    omega

/-- In a fair report the fixes make up for the offences only if they do so rule by rule. -/
theorem FileReport.Fair.totals {rules : List Rule} {report : FileReport} (h : report.Fair rules) :
    report.totalFixes ≤ report.totalErrors ∧
      (report.totalFixes = report.totalErrors ↔ report.fixes = report.errors) :=
  foldr_add_le (h.fixes_le.imp fun _ _ le => le.2)

/-- The figures of some files. -/
def Totals.ofFiles (files : List FileReport) : Totals :=
  ⟨files.map FileReport.score, files.map FileReport.totalErrors, files.map FileReport.totalFixes⟩

theorem Totals.ofFiles_append (files more : List FileReport) :
    Totals.ofFiles (files ++ more) = Totals.ofFiles files ++ Totals.ofFiles more := by
  simp only [ofFiles, List.map_append]
  rfl

theorem Report.filesOf_append (children more : List Report) :
    filesOf (children ++ more) = filesOf children ++ filesOf more := by
  induction children with
  | nil => rfl
  | cons child children ih => rw [List.cons_append, filesOf, filesOf, ih, List.append_assoc]

namespace Aggregate

variable {a inner : Aggregate} {rules : List Rule}

@[simp] theorem files_empty (name : String) : (empty name).files = [] := rfl

@[simp] theorem files_merge (a : Aggregate) (child : Report) : (a.merge child).files = a.files ++ child.files := by
  rw [files, merge, Report.filesOf_append, Report.filesOf, Report.filesOf, List.append_nil]
  rfl

@[simp] theorem files_toReport (a : Aggregate) : a.toReport.files = a.files := rfl

/-- The figures that a folder keeps are those of the files of its tree. -/
def Sound (a : Aggregate) : Prop := a.totals = .ofFiles a.files

theorem sound_empty (name : String) : (empty name).Sound := rfl

namespace Sound

theorem merge_file (h : a.Sound) (report : FileReport) : (a.merge (.file report)).Sound := by
  rw [Sound, files_merge, Totals.ofFiles_append, ← h]
  rfl

theorem merge_folder (h : a.Sound) (inside : inner.Sound) : (a.merge inner.toReport).Sound := by
  rw [Sound, files_merge, Totals.ofFiles_append, ← h, files_toReport, ← inside]
  rfl

/-- Where all reports are fair, more offences than fixes are left in all exactly if they are left in some
file for some rule. -/
theorem totals_fixed_iff (h : a.Sound) (fair : ∀ report ∈ a.files, report.Fair rules) :
    ¬ a.totals.totalFixes < a.totals.totalErrors ↔ ∀ report ∈ a.files, report.fixes = report.errors := by
  have each : List.Forall₂ (· ≤ ·) (a.files.map FileReport.totalFixes) (a.files.map FileReport.totalErrors) :=
    List.forall₂_map_left_iff.2 (List.forall₂_map_right_iff.2
      (List.forall₂_same.2 fun report mem => (fair report mem).totals.1))
  obtain ⟨bound, same⟩ := foldr_add_le each
  rw [h]
  calc ¬ (Totals.ofFiles a.files).totalFixes < (Totals.ofFiles a.files).totalErrors
    _ ↔ (Totals.ofFiles a.files).totalFixes = (Totals.ofFiles a.files).totalErrors :=
      ⟨fun least => Int.le_antisymm bound (Int.not_lt.1 least), fun equal => by rw [equal]; exact Int.lt_irrefl _⟩
    _ ↔ a.files.map FileReport.totalFixes = a.files.map FileReport.totalErrors := same
    _ ↔ ∀ report ∈ a.files, report.totalFixes = report.totalErrors := List.map_inj_left
    _ ↔ ∀ report ∈ a.files, report.fixes = report.errors :=
      forall₂_congr fun report mem => (fair report mem).totals.2

end Sound

end Aggregate

/-- Of two numbers that are not negative, the smaller can be written if the greater can. -/
theorem isWritable_of_between {n m : Int} (nonneg : 0 ≤ n) (le : n ≤ m) (h : Text.isWritable m = true) :
    Text.isWritable n = true := by
  rw [Text.isWritable, decide_eq_true_eq] at *
  have least : n.natAbs ≤ m.natAbs := by omega
  exact least.trans_lt h

/-- A report of no more than another: the scores agree, and no more offences are counted. -/
structure FileReport.Lighter (result report : FileReport) : Prop where
  score : result.score = report.score
  nonneg : 0 ≤ result.totalErrors
  errors_le : result.totalErrors ≤ report.totalErrors

theorem FileReport.isTallyWritable_of_isRowWritable {report : FileReport} {fix : Bool}
    (h : report.isRowWritable fix = true) : report.isTallyWritable fix = true :=
  (Bool.and_eq_true_iff.1 h).1

theorem FileReport.Lighter.isRowWritable {result report : FileReport} {fix : Bool} (h : result.Lighter report)
    (writable : report.isRowWritable fix = true) : result.isRowWritable false = true := by
  obtain ⟨tally, score⟩ := Bool.and_eq_true_iff.1 writable
  obtain ⟨errors, -⟩ := Bool.and_eq_true_iff.1 tally
  rw [FileReport.isRowWritable, FileReport.isTallyWritable, h.score, score,
    isWritable_of_between h.nonneg h.errors_le errors]
  rfl

namespace Aggregate.Sound

variable {a a' : Aggregate} {fix : Bool}

/-- Of a report of no more than another, without fixes, all can be written that could be written of the other. -/
theorem writable_of_lighter (sound : a.Sound) (sound' : a'.Sound)
    (lighter : List.Forall₂ FileReport.Lighter a'.files a.files) (table : a.isTableWritable fix = true)
    (totals : a.areTotalsWritable fix = true) :
    a'.isTableWritable false = true ∧ a'.areTotalsWritable false = true ∧
      a'.totals.average = a.totals.average := by
  have rows : ∀ {files files' : List FileReport}, List.Forall₂ FileReport.Lighter files' files →
      (files.all fun report => report.isRowWritable fix) = true →
      (files'.all fun report => report.isRowWritable false) = true := by
    intro files files' lighter writable
    induction lighter with
    | nil => rfl
    | cons first _ ih =>
      obtain ⟨here, there⟩ := Bool.and_eq_true_iff.1 writable
      exact Bool.and_eq_true_iff.2 ⟨first.isRowWritable here, ih there⟩
  have bounds : ∀ {files files' : List FileReport}, List.Forall₂ FileReport.Lighter files' files →
      files'.map FileReport.score = files.map FileReport.score ∧
        0 ≤ (files'.map FileReport.totalErrors).foldr (· + ·) 0 ∧
        (files'.map FileReport.totalErrors).foldr (· + ·) 0 ≤ (files.map FileReport.totalErrors).foldr (· + ·) 0 := by
    intro files files' lighter
    induction lighter with
    | nil => exact ⟨rfl, Int.le_refl _, Int.le_refl _⟩
    | @cons result report _ _ first _ ih =>
      obtain ⟨scores, nonneg, le⟩ := ih
      have here := first.nonneg
      have less := first.errors_le
      simp only [List.map_cons, List.foldr_cons, first.score, scores, true_and]
      omega
  obtain ⟨scores, nonneg, le⟩ := bounds lighter
  obtain ⟨errors, -⟩ := Bool.and_eq_true_iff.1 totals
  have errors_eq : a.totals.totalErrors = (a.files.map FileReport.totalErrors).foldr (· + ·) 0 := by
    rw [sound]
    rfl
  have errors_eq' : a'.totals.totalErrors = (a'.files.map FileReport.totalErrors).foldr (· + ·) 0 := by
    rw [sound']
    rfl
  rw [errors_eq] at errors
  refine ⟨rows lighter table, ?_, ?_⟩
  · rw [areTotalsWritable, errors_eq', isWritable_of_between nonneg le errors]
    rfl
  · have same : a'.totals.scores = a.totals.scores := by
      rw [sound, sound']
      exact scores
    rw [Totals.average, Totals.average, same]

end Aggregate.Sound

end MatlabTidy
