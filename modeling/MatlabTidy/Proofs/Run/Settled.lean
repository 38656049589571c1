import MatlabTidy.Proofs.Run.FixedPoint
import MatlabTidy.Proofs.Run.Trip
import MatlabTidy.Proofs.Volume.Outline

/-!
# What a fixing walk settles

A file is settled if it holds what a fixing scan without questions has written (`Scan.Settled`). Such a file
can be checked, nothing is reported on it but lines that are too long (`Scan.Settled.check`), and it stays
settled when other files are written or when it is written again, since nothing is left to repair.

On a tree of files and folders, a walk that fixes without questions settles every file that it can read
(`Walk.Visit.settles` for one visit, `Walk.Trip.settles` for all), and about every other file it gives notice
(`Walk.Trip.told`).
-/

namespace MatlabTidy

namespace Scan

open Rule (table)

variable {setup : Setup} {options options' : Options} {path path' name name' : String} {w w' : World}
variable {v : Volume} {report : FileReport}

namespace Rewriting

variable (r : Rewriting setup options path name w)

/-- The source was read where the scan started. -/
theorem read_before : w.volume.read path = .ok r.bytes := by
  have read := r.read
  rwa [(assess_again r.assessed).1] at read

/-- The repaired file was put at the entry that the path names. -/
theorem eq_put : ∃ parent last mode, Volume.Names w.volume path parent last ∧
    r.volume = w.volume.put (parent ++ [last]) (.file r.out mode) := by
  obtain ⟨_, _, -, -, -, -, kept⟩ := r.lines
  have made : r.scanned.volume = r.made := kept.volume
  have moves := r.moves
  rw [made] at moves
  have put := Volume.eq_put_of_replace r.makes r.read moves
  rwa [(assess_again r.assessed).1] at put

/-- What was repaired without questions is written again as it is. -/
theorem out_eq (fix : options.fix = true) (silent : options.verbose = false)
    (r' : Rewriting setup options' path' name' w') (fix' : options'.fix = true) (same : r'.bytes = r.out) :
    r'.out = r.out := by
  obtain ⟨lines, cut, written, -⟩ := r.written fix silent
  obtain charset : r'.charset = r.charset := Except.ok.inj (r'.known.symm.trans r.known)
  have delivered := Charset.read_of_encodeAll (wellCut_tidiedFrom cut (fun _ => true) 1) written
  have all : Written r.charset options'.fix true (tidiedFrom (fun _ => true) 1 lines) r.out := by
    rw [fix']
    exact written
  have scans := r'.scans
  rw [same, charset, delivered] at scans
  obtain ⟨_, run, -⟩ := run_scanLines_tidiedFrom cut options' all { r'.opened with volume := r'.made }
  rw [run] at scans
  obtain ⟨result, -⟩ := EStateM.Result.ok.inj scans
  exact (Prod.mk.inj result).1.symm

end Rewriting

/-- The path leads to what a fixing scan without questions has written, and the report is that of the scan. -/
def Settled (setup : Setup) (v : Volume) (path : String) (report : FileReport) : Prop :=
  ∃ options name w, ∃ r : Rewriting setup options path name w,
    options.fix = true ∧ options.verbose = false ∧ report = r.fileReport ∧ v.read path = .ok r.out

/-- A line that the rules look at is too long. -/
def OverlongLine (number : Nat) (line : Text.Line) : Prop :=
  Line.isChecked (Line.body number line) = true ∧ lineLimit < lineLength (Line.body number line)

/-- Some line of the file is too long. -/
def Overlong (encoding : String) (v : Volume) (path : String) : Prop :=
  ∃ charset bytes index raw, Charset.ofName encoding = .ok charset ∧ v.read path = .ok bytes ∧
    (charset.read bytes).lines[index]? = some raw ∧ OverlongLine (index + 1) (.ofRaw raw)

/-- A file of one line is too long if the line is. -/
theorem overlong_singleLine {line : Text.Line} {bytes : List UInt8} (cut : Text.WellCut [line])
    (written : Charset.utf8.encodeAll true ([line].map Text.Line.raw) = .ok bytes) (read : v.read path = .ok bytes) :
    Overlong "utf-8" v path ↔ OverlongLine 1 line := by
  have delivered := Charset.read_of_encodeAll cut written
  have utf8 : Charset.ofName "utf-8" = .ok .utf8 := by decide
  have own := Text.Line.ofRaw_raw (cut.unbroken line List.mem_cons_self)
  constructor
  · rintro ⟨charset, bytes', index, raw, known, read', found, long⟩
    obtain rfl := Except.ok.inj (known.symm.trans utf8)
    obtain rfl := Except.ok.inj (read'.symm.trans read)
    rw [delivered] at found
    obtain ⟨least, rfl⟩ := List.getElem?_eq_some_iff.1 found
    obtain rfl : index = 0 := Nat.lt_one_iff.1 least
    exact own ▸ long
  · intro long
    exact ⟨.utf8, bytes, 0, line.raw, utf8, read, by rw [delivered]; rfl, by rwa [own]⟩

theorem errors_countOf_tooLong (number : Nat) (line : Text.Line) (column : Int) :
    (Line.countOf false number line (.line (tooLong column))).errors = 0 ↔ ¬ OverlongLine number line := by
  unfold Line.countOf OverlongLine
  by_cases checked : Line.isChecked (Line.body number line) = true
  · simp [checked, Rule.countOn, Rule.columnsOn, tooLong]
  · simp [checked, Count.zero]

/-- No line is counted exactly if none is too long. -/
theorem errors_totalFrom_tooLong (column : Int) (number : Nat) (lines : List Text.Line) :
    (totalFrom false (.line (tooLong column)) number lines).errors = 0 ↔
      ∀ index line, lines[index]? = some line → ¬ OverlongLine (number + index) line := by
  induction lines generalizing number with
  | nil => exact iff_of_true rfl nofun
  | cons line lines ih =>
    rw [totalFrom, Count.add, Nat.add_eq_zero_iff, errors_countOf_tooLong, ih]
    constructor
    · rintro ⟨here, there⟩ index other found
      cases index with
      | zero =>
        cases found
        exact here
      | succ index =>
        rw [Nat.add_comm index, ← Nat.add_assoc]
        exact there index other found
    · intro all
      refine ⟨all 0 line rfl, fun index other found => ?_⟩
      rw [Nat.add_assoc, Nat.add_comm 1]
      exact all (index + 1) other found

/-- A settled file can be checked: no more is reported than was by the fixing scan, and something is left to
fix exactly if a line is too long. -/
theorem Settled.check {options₂ : Options} {w₂ : World} (settled : Settled setup v path report)
    (off : options₂.fix = false) (shownAs : Option String) (here : w₂.volume = v) :
    ∃ result w₃, (file setup table options₂ path shownAs).run w₂ = .ok result w₃ ∧ w₃.volume = v ∧
      result.Lighter report ∧ (result.fixes = result.errors ↔ ¬ Overlong setup.encoding v path) := by
  obtain ⟨options, name, w, r, fix, silent, rfl, read⟩ := settled
  subst here
  obtain ⟨lines, cut, written, counts⟩ := r.written fix silent
  have writable := r.writable
  rw [counts] at writable
  obtain ⟨c, counted, assessment, volume⟩ := r.check_of_read (nameFor path shownAs) cut written writable read off
  refine ⟨c.fileReport, c.world, (run_file_check_eq_ok off).2 ⟨c, rfl, rfl⟩, volume, ⟨?_, ?_, ?_⟩, ?_⟩
  · exact congrArg Assessment.score assessment
  · rw [Checking.fileReport, totalErrors_report]
    exact Int.natCast_nonneg _
  · have long : c.fileReport.totalErrors = (totalFrom false (.line (tooLong lineLimit)) 1
        (tidiedFrom (fun _ => true) 1 lines)).errors := by
      rw [Checking.fileReport, counted, totalsFrom_tidiedFrom, totalErrors_report]
      simp [Count.zero]
    rw [long, Rewriting.fileReport, counts, totalErrors_totalsFrom]
    exact Int.ofNat_le.2 (errors_tidiedFrom_le false 1 lines)
  · have cut' := wellCut_tidiedFrom cut (fun _ => true) 1
    have delivered := Charset.read_of_encodeAll cut' written
    have fixed : c.fileReport.fixes = c.fileReport.errors ↔ (totalFrom false (.line (tooLong lineLimit)) 1
        (tidiedFrom (fun _ => true) 1 lines)).errors = 0 := by
      rw [Checking.fileReport, counted, totalsFrom_tidiedFrom]
      simp only [Scan.report, Count.zero, List.map_cons, List.map_nil, List.cons.injEq, and_true, Nat.cast_zero]
      omega
    rw [fixed, errors_totalFrom_tooLong]
    constructor
    · rintro none ⟨charset, bytes, index, raw, known, read', found, long⟩
      obtain rfl := Except.ok.inj (known.symm.trans r.known)
      obtain rfl := Except.ok.inj (read'.symm.trans read)
      rw [delivered, List.getElem?_map] at found
      obtain ⟨line, at_index, rfl⟩ := Option.map_eq_some_iff.1 found
      rw [Text.Line.ofRaw_raw (cut'.unbroken line (List.mem_of_getElem? at_index)), Nat.add_comm] at long
      exact none index line at_index long
    · intro none index line at_index long
      refine none ⟨r.charset, r.out, index, line.raw, r.known, read, ?_, ?_⟩
      · rw [delivered, List.getElem?_map, at_index]
        rfl
      · rwa [Text.Line.ofRaw_raw (cut'.unbroken line (List.mem_of_getElem? at_index)), Nat.add_comm]

end Scan

namespace Walk

open Scan (Settled)
open Volume (Kept)

variable {plan : Plan} {path target : String} {outcome : Outcome} {w w' : World} {visits : List (String × Outcome)}
variable {setup : Setup} {rules : List Rule} {options : Options} {root : Option String} {v v' v'' : Volume}

/-- A run that fixes without questions, with sources that can be replaced. -/
structure Mends (setup : Setup) (options : Options) : Prop where
  fix : options.fix = true
  silent : options.verbose = false
  free : ∀ path, setup.locked path = none

/-- Only sources change, and those that are settled stay so. -/
structure Settles (setup : Setup) (v v' : Volume) : Prop where
  kept : Kept v v'
  settled : ∀ path report, Settled setup v path report → Settled setup v' path report

theorem Settles.refl (setup : Setup) (v : Volume) : Settles setup v v := ⟨.refl v, fun _ _ settled => settled⟩

theorem Settles.trans (h : Settles setup v v') (h' : Settles setup v' v'') : Settles setup v v'' :=
  ⟨h.kept.trans h'.kept, fun path report settled => h'.settled path report (h.settled path report settled)⟩

/-- In a tree, a source that was opened can be moved over. -/
theorem not_unmovable {bytes : List UInt8} (tree : v.Tree) (source : isSource path = true)
    (read : v.read path = .ok bytes) (free : ∀ path, setup.locked path = none) : ¬ Scan.Unmovable setup v path := by
  rintro ⟨made, temporary, out, makes, hindered⟩
  obtain ⟨parent, last, mode, names, -, file⟩ := tree.names_of_read source read
  obtain ⟨moved, moves, -⟩ := names.exists_replace file makes out
  rcases hindered with locked | ⟨e, fails⟩
  · exact locked (free path)
  · rw [moves] at fails
    cases fails

/-- A visit of a file that can be read settles it, and what was settled before stays so. -/
theorem Visit.settles (mends : Mends setup options) (tree : w.volume.Tree)
    (h : Visit (planOf setup Rule.table options target root) path w outcome w') :
    Settles setup w.volume w'.volume ∧ ((∃ failure, outcome = .unreadable failure) ∨
      ∃ report, outcome = .scanned report ∧ Settled setup w'.volume path report) := by
  cases h with
  | @scanned report w' run =>
    rw [attempt_planOf] at run
    obtain ⟨r, rfl, rfl⟩ := (Scan.run_file_eq_ok mends.fix).1 run
    change Settles setup w.volume r.volume ∧ _
    obtain ⟨_, _, replaced⟩ := r.replaced
    obtain ⟨_, _, mode, names, put⟩ := r.eq_put
    obtain ⟨parent, last, _, names', source, file⟩ := tree.names_of_read r.source r.read_before
    rw [← Except.ok.inj (names'.locate.symm.trans names.locate)] at put
    refine ⟨⟨?_, ?_⟩, .inr ⟨_, rfl, _, _, _, r, mends.fix, mends.silent, rfl, replaced.read⟩⟩
    · rw [put]
      exact tree.kept_put file source r.out mode
    · -- The file may be the same one, reached by another path text: then it is written again as it is.
      rintro path₀ _ ⟨options₀, name₀, w₀, r₀, fix₀, silent₀, rfl, read₀⟩
      refine ⟨options₀, name₀, w₀, r₀, fix₀, silent₀, rfl, ?_⟩
      rw [put]
      rcases tree.read_put file r₀.source read₀ r.out mode with unchanged | ⟨same, changed⟩
      · exact unchanged
      · rwa [r₀.out_eq fix₀ silent₀ r mends.fix same.symm] at changed ⊢
  | @unreplaced failure report w' run carries =>
    exfalso
    rw [attempt_planOf] at run
    rcases Scan.run_file_eq_error run with ⟨-, bare⟩ | ⟨-, o, failed⟩
    · rw [carries] at bare
      cases bare
    · rcases Scan.run_replaceFile_eq_error failed with ⟨-, stuck⟩ | ⟨rfl, -⟩
      · have opened : o.opened.volume = w.volume := o.calm.volume
        refine not_unmovable (opened ▸ tree) o.source o.read mends.free (stuck report carries).2
      · cases carries
  | @unreadable failure w' run trouble =>
    have same : w'.volume = w.volume := by
      rw [attempt_planOf] at run
      rcases Scan.run_file_eq_error run with ⟨calm, -⟩ | ⟨-, o, failed⟩
      · exact calm.volume
      · rcases Scan.run_replaceFile_eq_error failed with ⟨same, -⟩ | ⟨rfl, -⟩
        · exact same.trans o.calm.volume
        · cases trouble
    refine ⟨?_, .inl ⟨failure, rfl⟩⟩
    change Settles setup w.volume w'.volume
    rw [same]
    exact .refl _ _

/-- All files that a walk can read are settled in the end. -/
theorem Trip.settles (mends : Mends setup options) (tree : w.volume.Tree)
    (trip : Trip (planOf setup Rule.table options target root) w visits w') :
    Settles setup w.volume w'.volume ∧ ∀ visit ∈ visits, (∃ failure, visit.2 = .unreadable failure) ∨
      ∃ report, visit.2 = .scanned report ∧ Settled setup w'.volume visit.1 report := by
  induction trip with
  | done w => exact ⟨.refl _ _, nofun⟩
  | say _ _ ih => exact ih tree
  | visit here _ ih =>
    obtain ⟨first, ended⟩ := here.settles mends tree
    obtain ⟨others, all⟩ := ih (tree.of_outline first.kept.outline)
    refine ⟨first.trans others, fun visit mem => ?_⟩
    rcases List.mem_cons.1 mem with rfl | mem
    · exact ended.imp_right fun ⟨report, scanned, settled⟩ => ⟨report, scanned, others.settled _ _ settled⟩
    · exact all visit mem

theorem Visit.recalls (speaks : ∀ path name, Job.Speaks (plan.scan path name)) (h : Visit plan path w outcome w') :
    World.Recalls w w' := by
  have scan : ∀ name, World.Recalls w ((plan.scan path name).after
      (w.saying [.notice .info s!"Evaluating: {plan.shown w path}"])) := fun name =>
    Trans.trans (w.recalls_saying _) ((speaks path name).world _).recalls
  cases h with
  | scanned run => exact Job.after_of_ok run ▸ scan _
  | unreplaced run carries => exact Trans.trans (Job.after_of_error run ▸ scan _) (World.recalls_saying _ _)
  | unreadable run trouble => exact Trans.trans (Job.after_of_error run ▸ scan _) (World.recalls_saying _ _)

theorem Trip.recalls (speaks : ∀ path name, Job.Speaks (plan.scan path name)) (trip : Trip plan w visits w') :
    World.Recalls w w' := by
  induction trip with
  | done w => exact Std.Refl.refl w
  | say _ _ ih => exact Trans.trans (World.recalls_saying _ _) ih
  | visit here _ ih => exact Trans.trans (here.recalls speaks) ih

/-- The operator has been told about a file that could not be read. -/
theorem Trip.told {failure : Failure} (speaks : ∀ path name, Job.Speaks (plan.scan path name))
    (trip : Trip plan w visits w') (mem : (path, .unreadable failure) ∈ visits) :
    ∃ name : String, Event.notice .error s!"Could not read {name}: {failure.message}" ∈ w'.events := by
  induction trip with
  | done w => cases mem
  | say _ _ ih => exact ih mem
  | visit here rest ih =>
    rcases List.mem_cons.1 mem with first | mem
    · cases first
      cases here with
      | unreadable run trouble =>
        exact ⟨_, rest.recalls speaks _ (Array.mem_append_right _ (List.mem_toArray.2 List.mem_cons_self))⟩
    · exact ih mem

end Walk

end MatlabTidy
