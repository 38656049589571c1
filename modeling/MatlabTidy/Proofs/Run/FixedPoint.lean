import MatlabTidy.Proofs.Run.Rewriting
import MatlabTidy.Proofs.Run.Totals

/-!
# One pass is enough

A file that was fixed without questions stays as it is when it is scanned again, and only long lines are
reported (`Scan.scan_again_of_fix`). The lines that were written are the repaired lines
(`Scan.Rewriting.written`), they are delivered again as they were written, repairing them again changes
nothing, and the path leads to them (`Scan.Rewriting.replaced`).
-/

namespace MatlabTidy.Scan

open Rule (table)

variable {setup : Setup} {options : Options} {path name : String} {w w' : World}

section Report

/-- Smaller numbers can be written if greater ones can. -/
theorem isWritable_of_le {n m : Nat} (le : n ≤ m) (h : Text.isWritable (m : Int) = true) :
    Text.isWritable (n : Int) = true := by
  rw [Text.isWritable, Int.natAbs_natCast, decide_eq_true_eq] at *
  exact Nat.lt_of_le_of_lt le h

variable (fix : Bool) (number : Nat) (lines : List Text.Line)

/-- The report counts all offences. -/
theorem totalErrors_totalsFrom (name : String) (assessment : Assessment) :
    (report name table (totalsFrom fix number lines) assessment).totalErrors =
      offencesFrom number lines := by
  have counted : (totalsFrom fix number lines).map Count.errors =
      table.map fun rule => (totalFrom false rule number lines).errors := by
    rw [totalsFrom, List.map_map]
    exact List.map_congr_left fun rule _ => errors_totalFrom fix rule number lines
  rw [totalErrors_report, counted, offencesFrom]

/-- On repaired lines only the length is reported. -/
theorem totalsFrom_tidiedFrom :
    totalsFrom fix number (tidiedFrom (fun _ => true) number lines) =
      [⟨(totalFrom fix (.line (tooLong lineLimit)) number (tidiedFrom (fun _ => true) number lines)).errors, 0⟩,
        .zero, .zero, .zero, .zero] := by
  have long : ∀ lines, totalFrom fix (.line (tooLong lineLimit)) number lines =
      ⟨(totalFrom fix (.line (tooLong lineLimit)) number lines).errors, 0⟩ := by
    intro lines
    have none : (totalFrom fix (.line (tooLong lineLimit)) number lines).fixes = 0 := by
      rw [fixes_totalFrom]
      cases fix <;> rfl
    generalize totalFrom fix (.line (tooLong lineLimit)) number lines = count at none
    obtain ⟨errors, fixes⟩ := count
    obtain rfl : fixes = 0 := none
    rfl
  have spacing := totalFrom_tidiedFrom fix number lines
  exact List.cons_eq_cons.2 ⟨long _, List.cons_eq_cons.2 ⟨spacing .operatorStart,
    List.cons_eq_cons.2 ⟨spacing .operatorEnd, List.cons_eq_cons.2 ⟨spacing .commaEnd,
      List.cons_eq_cons.2 ⟨spacing .wideGap, rfl⟩⟩⟩⟩⟩

/-- A report on repaired lines can be written if the report on the lines before could. -/
theorem isTallyWritable_tidiedFrom {name name' : String} {assessment : Assessment} (fix' : Bool)
    (h : (report name table (totalsFrom true number lines) assessment).isTallyWritable true = true) :
    (report name' table (totalsFrom fix number (tidiedFrom (fun _ => true) number lines))
      assessment).isTallyWritable fix' = true := by
  obtain ⟨first, -⟩ := Bool.and_eq_true_iff.1 h
  rw [totalErrors_totalsFrom] at first
  have bound := errors_tidiedFrom_le fix number lines
  rw [totalsFrom_tidiedFrom]
  generalize (totalFrom fix (.line (tooLong lineLimit)) number
    (tidiedFrom (fun _ => true) number lines)).errors = long at bound
  have errors : (report name' table [⟨long, 0⟩, .zero, .zero, .zero, .zero] assessment).totalErrors = long := by
    simp [FileReport.totalErrors, report, Count.zero]
  have fixes : (report name' table [⟨long, 0⟩, .zero, .zero, .zero, .zero] assessment).totalFixes = (0 : Nat) := by
    simp [FileReport.totalFixes, report, Count.zero]
  rw [FileReport.isTallyWritable, errors, fixes, isWritable_of_le bound first,
    isWritable_of_le (Nat.zero_le _) first]
  simp

end Report

/-- The scan of repaired lines ends well if they can be written, and they are written as they are. -/
theorem run_scanLines_tidiedFrom {charset : Charset} {lines : List Text.Line} {out : List UInt8}
    (cut : Text.WellCut lines) (options : Options)
    (written : Written charset options.fix true (tidiedFrom (fun _ => true) 1 lines) out) (w : World) :
    ∃ w', (scanLines charset table options 1
        ((tidiedFrom (fun _ => true) 1 lines).map Text.Line.raw)).run w =
        .ok (out, totalsFrom options.fix 1 (tidiedFrom (fun _ => true) 1 lines)) w' ∧
      w'.volume = w.volume := by
  have cut' := wellCut_tidiedFrom cut (fun _ => true) 1
  have again : (if options.fix then tidiedFrom (fun _ => true) 1 (tidiedFrom (fun _ => true) 1 lines)
      else tidiedFrom (fun _ => true) 1 lines) = tidiedFrom (fun _ => true) 1 lines := by
    rw [tidiedFrom_tidiedFrom, ite_self]
  rw [← again] at written
  obtain ⟨w', run⟩ := (run_scanLines_eq_ok (w := w) Nat.one_pos cut'.ofRaw_raw
    (smoothFrom_tidiedFrom options 1 lines)).2 ⟨written, rfl⟩
  obtain ⟨-, -, -, kept⟩ := scannedFrom_of_run Nat.one_pos cut'.unbroken run
  exact ⟨w', run, kept.volume⟩

section Again

variable (r : Rewriting setup options path name w) {lines : List Text.Line} {options₂ : Options} {w₂ : World}

/-- What was written can be opened again wherever the path leads to it. -/
theorem Rewriting.exists_opening_of_read (read : w₂.volume.read path = .ok r.out) :
    ∃ o : Opening setup path w₂, o.assessment = r.assessment ∧ o.charset = r.charset ∧ o.bytes = r.out ∧
      o.opened.volume = w₂.volume := by
  obtain ⟨-, -, reassess⟩ := assess_again r.assessed
  obtain ⟨opened, assessed, volume⟩ := reassess w₂
  have read' : opened.volume.read path = .ok r.out := by
    rw [volume, read]
  exact ⟨⟨r.assessment, opened, r.charset, r.out, r.source, assessed, r.named, r.known, read'⟩, rfl, rfl, rfl,
    volume⟩

/-- A source that was written again can be opened again. -/
theorem Rewriting.exists_opening (same : w₂.volume = r.volume) :
    ∃ o : Opening setup path w₂, o.assessment = r.assessment ∧ o.charset = r.charset ∧ o.bytes = r.out ∧
      o.opened.volume = r.volume := by
  obtain ⟨parent, last, replaced⟩ := r.replaced
  rw [← same]
  exact r.exists_opening_of_read (same ▸ replaced.read)

variable (name₂ : String) (cut : Text.WellCut lines)
variable (written : r.charset.encodeAll true ((tidiedFrom (fun _ => true) 1 lines).map Text.Line.raw) = .ok r.out)
variable (writable : (report name table (totalsFrom true 1 lines) r.assessment).isTallyWritable true = true)

section

include cut written writable

/-- Repaired lines can be checked wherever the path leads to them. -/
theorem Rewriting.check_of_read (read : w₂.volume.read path = .ok r.out) (check : options₂.fix = false) :
    ∃ c : Checking setup options₂ path name₂ w₂,
      c.counts = totalsFrom false 1 (tidiedFrom (fun _ => true) 1 lines) ∧ c.assessment = r.assessment ∧
        c.world.volume = w₂.volume := by
  have delivered := Charset.read_of_encodeAll (wellCut_tidiedFrom cut (fun _ => true) 1) written
  have nothing : Written r.charset options₂.fix true (tidiedFrom (fun _ => true) 1 lines) [] := by
    rw [check]
    rfl
  obtain ⟨o, assessment, charset, bytes, volume⟩ := r.exists_opening_of_read read
  obtain ⟨scanned, run, kept⟩ := run_scanLines_tidiedFrom cut options₂ nothing o.opened
  have same : o.charset.read o.bytes = r.charset.read r.out := by
    rw [charset, bytes]
  rw [check] at run
  let c : Checking setup options₂ path name₂ w₂ :=
    { o with
      out := [], counts := totalsFrom false 1 (tidiedFrom (fun _ => true) 1 lines), scanned
      delivered := by rw [same, delivered]
      scans := by rw [same, delivered, charset]; exact run
      writable := by rw [assessment]; exact isTallyWritable_tidiedFrom false 1 lines false writable }
  exact ⟨c, rfl, assessment, kept.trans volume⟩

end

variable (same : w₂.volume = r.volume)
include cut written writable same

/-- A file of repaired lines can be checked. -/
theorem Rewriting.check_again (check : options₂.fix = false) :
    ∃ c : Checking setup options₂ path name₂ w₂,
      c.counts = totalsFrom false 1 (tidiedFrom (fun _ => true) 1 lines) ∧ c.world.volume = r.volume := by
  obtain ⟨parent, last, replaced⟩ := r.replaced
  obtain ⟨c, counts, -, volume⟩ := r.check_of_read name₂ cut written writable (same ▸ replaced.read) check
  exact ⟨c, counts, volume.trans same⟩

/-- A file of repaired lines can be fixed, and stays as it is. -/
theorem Rewriting.fix_again (fix : options₂.fix = true) :
    ∃ r₂ : Rewriting setup options₂ path name₂ w₂,
      r₂.counts = totalsFrom true 1 (tidiedFrom (fun _ => true) 1 lines) ∧ r₂.volume.read path = .ok r.out := by
  have delivered := Charset.read_of_encodeAll (wellCut_tidiedFrom cut (fun _ => true) 1) written
  have all : Written r.charset options₂.fix true (tidiedFrom (fun _ => true) 1 lines) r.out := by
    rw [fix]
    exact written
  obtain ⟨parent, last, replaced⟩ := r.replaced
  obtain ⟨before, -, -⟩ := assess_again r.assessed
  have makes := r.makes
  rw [before] at makes
  obtain ⟨⟨made, temporary⟩, makes₂⟩ := replaced.makeTemporary makes
  obtain ⟨final, moves, read₂⟩ := replaced.again makes₂ r.out
  obtain ⟨o, assessment, charset, bytes, volume⟩ := r.exists_opening same
  obtain ⟨scanned, run, kept⟩ := run_scanLines_tidiedFrom cut options₂ all { o.opened with volume := made }
  have read : o.charset.read o.bytes = r.charset.read r.out := by
    rw [charset, bytes]
  rw [fix] at run
  let r₂ : Rewriting setup options₂ path name₂ w₂ :=
    { o with
      made, temporary, out := r.out, counts := totalsFrom true 1 (tidiedFrom (fun _ => true) 1 lines), scanned
      volume := final
      makes := by rw [volume]; exact makes₂
      delivered := by rw [read, delivered]
      scans := by rw [read, delivered, charset]; exact run
      unlocked := r.unlocked
      moves := by rw [kept]; exact moves
      writable := by rw [assessment]; exact isTallyWritable_tidiedFrom true 1 lines true writable }
  exact ⟨r₂, rfl, read₂⟩

end Again

/-- A file that was fixed without questions is scanned again, with or without fixing: only long lines are
reported, nothing is fixed, and the file stays as it was written. -/
theorem scan_again_of_fix {shownAs : Option String} {result : FileReport} (fix : options.fix = true)
    (silent : options.verbose = false)
    (h : (file setup table options path shownAs).run w = .ok result w') :
    ∃ bytes, w'.volume.read path = .ok bytes ∧
      ∀ (options₂ : Options) (shownAs₂ : Option String) (w₂ : World), w₂.volume = w'.volume →
        ∃ result₂ w₃, (file setup table options₂ path shownAs₂).run w₂ = .ok result₂ w₃ ∧
          (∃ long, result₂.errors = [long, 0, 0, 0, 0]) ∧ result₂.fixes = [0, 0, 0, 0, 0] ∧
          w₃.volume.read path = .ok bytes := by
  obtain ⟨r, rfl, rfl⟩ := (run_file_eq_ok fix).1 h
  obtain ⟨parent, last, replaced⟩ := r.replaced
  refine ⟨r.out, replaced.read, fun options₂ shownAs₂ w₂ same => ?_⟩
  obtain ⟨lines, cut, written, counts⟩ := r.written fix silent
  have writable := r.writable
  rw [counts] at writable
  cases fix₂ : options₂.fix with
  | false =>
    obtain ⟨c, counted, volume⟩ := r.check_again (nameFor path shownAs₂) cut written writable same fix₂
    refine ⟨c.fileReport, c.world, (run_file_check_eq_ok fix₂).2 ⟨c, rfl, rfl⟩, ?_⟩
    rw [Checking.fileReport, counted, totalsFrom_tidiedFrom, volume]
    exact ⟨⟨_, rfl⟩, rfl, replaced.read⟩
  | true =>
    obtain ⟨r₂, counted, read₂⟩ := r.fix_again (nameFor path shownAs₂) cut written writable same fix₂
    refine ⟨r₂.fileReport, r₂.world, (run_file_eq_ok fix₂).2 ⟨r₂, rfl, rfl⟩, ?_⟩
    rw [Rewriting.fileReport, counted, totalsFrom_tidiedFrom]
    exact ⟨⟨_, rfl⟩, rfl, read₂⟩

/-- A file of one line is fixed, and then fixed again. -/
theorem scan_again_oneLine :
    ∃ result w' bytes result₂ w₃,
      (file plainSetup table ⟨false, false, true⟩ "a.m" none).run oneLine = .ok result w' ∧
      w'.volume.read "a.m" = .ok bytes ∧
      (file plainSetup table ⟨false, false, true⟩ "a.m" none).run w' = .ok result₂ w₃ ∧
      result₂.fixes = [0, 0, 0, 0, 0] ∧ w₃.volume.read "a.m" = .ok bytes := by
  obtain ⟨result, w', run⟩ := run_file_oneLine
  obtain ⟨bytes, read, again⟩ := scan_again_of_fix rfl rfl run
  obtain ⟨result₂, w₃, run₂, -, fixes, read₂⟩ := again ⟨false, false, true⟩ none w' rfl
  exact ⟨result, w', bytes, result₂, w₃, run, read, run₂, fixes, read₂⟩

end MatlabTidy.Scan
