import MatlabTidy.Proofs.Charset.Reading
import MatlabTidy.Proofs.Run.File
import MatlabTidy.Proofs.Volume.Removal

/-!
# What a fixing scan writes

A scan that has ended well has written a line for each line of the source (`Scan.Rewriting.lines`), and the
path leads to what it has written (`Scan.Rewriting.replaced`). A scan that asks nobody has written the
repaired lines (`Scan.Rewriting.written`).
-/

namespace MatlabTidy.Scan

open Rule (table)

variable {setup : Setup} {options : Options} {path name : String} {w w' : World}

namespace Rewriting

variable (r : Rewriting setup options path name w)

/-- The lines of the source, and those that were written for them. -/
theorem lines : ∃ lines lines', Text.WellCut lines ∧
    (r.charset.read r.bytes).lines = lines.map Text.Line.raw ∧
    ScannedFrom options { r.opened with volume := r.made } 1 lines lines' r.counts ∧
    Written r.charset options.fix true lines' r.out ∧
    Line.Keeps { r.opened with volume := r.made } r.scanned := by
  obtain ⟨lines, cut, delivered⟩ := Charset.exists_lines_of_read r.delivered
  have scans := r.scans
  rw [delivered] at scans
  obtain ⟨lines', scanned, written, kept⟩ := scannedFrom_of_run Nat.one_pos cut.unbroken scans
  exact ⟨lines, lines', cut, delivered, scanned, written, kept⟩

/-- The path leads to what was written, and nothing else has changed. -/
theorem replaced : ∃ parent last, Volume.Replaced w.volume r.volume path r.out parent last := by
  obtain ⟨_, _, -, -, -, -, kept⟩ := r.lines
  have made : r.scanned.volume = r.made := kept.volume
  obtain ⟨volume, -, -⟩ := assess_again r.assessed
  obtain ⟨free, filled⟩ := Volume.free_of_makeTemporary r.makes r.out
  have moves := r.moves
  rw [made] at moves
  have replaced := Volume.replaced_of_replace filled free r.read moves
  rwa [volume] at replaced

/-- Without questions, the lines that are written are the repaired lines. -/
theorem written (fix : options.fix = true) (silent : options.verbose = false) :
    ∃ lines, Text.WellCut lines ∧
      r.charset.encodeAll true ((tidiedFrom (fun _ => true) 1 lines).map Text.Line.raw) = .ok r.out ∧
      r.counts = totalsFrom true 1 lines := by
  obtain ⟨lines, cut, delivered⟩ := Charset.exists_lines_of_read r.delivered
  have scans := r.scans
  rw [delivered] at scans
  have smooth := smoothFrom_of_silent silent 1 lines
  obtain ⟨written, counts⟩ := (run_scanLines_eq_ok Nat.one_pos cut.ofRaw_raw smooth).1 ⟨_, scans⟩
  rw [fix] at written counts
  exact ⟨lines, cut, written, counts⟩

end Rewriting

/-- A fixing scan of a source that the path names ends well, if its lines can be read and the repaired lines
written; then they are at the entry of the path, with the permissions of the file that it read. -/
theorem run_file_of_lines {recursive : Bool} {charset : Charset} {bytes out : List UInt8} {mode : Nat}
    {parent : Place} {last : String} {made : Volume × Volume.Temporary} {lines : List Text.Line}
    {assessment : Assessment} {opened : World}
    (shownAs : Option String) (source : isSource path = true) (holds : w.volume.Holds path bytes mode)
    (names : w.volume.Names path parent last) (makes : w.volume.makeTemporary path = .ok made)
    (named : Charset.checkName setup.encoding = .ok ()) (known : Charset.ofName setup.encoding = .ok charset)
    (free : setup.locked path = none) (assessed : (assess setup path).run w = .ok assessment opened)
    (cut : Text.WellCut lines) (delivered : charset.read bytes = ⟨lines.map Text.Line.raw, none⟩)
    (written : charset.encodeAll true ((tidiedFrom (fun _ => true) 1 lines).map Text.Line.raw) = .ok out)
    (writable : (report "" table (totalsFrom true 1 lines) assessment).isTallyWritable true = true) :
    ∃ w', (file setup table ⟨recursive, false, true⟩ path shownAs).run w =
        .ok (report (nameFor path shownAs) table (totalsFrom true 1 lines) assessment) w' ∧
      w'.volume = w.volume.put (parent ++ [last]) (.file out mode) := by
  have same : opened.volume = w.volume := (assess_again assessed).1
  have smooth := smoothFrom_of_silent (show (⟨recursive, false, true⟩ : Options).verbose = false from rfl) 1 lines
  obtain ⟨scanned, scans⟩ := (run_scanLines_eq_ok (w := { opened with volume := made.1 }) Nat.one_pos
    cut.ofRaw_raw smooth).2 ⟨written, rfl⟩
  obtain ⟨-, -, -, kept⟩ := scannedFrom_of_run Nat.one_pos cut.unbroken scans
  let r : Rewriting setup ⟨recursive, false, true⟩ path (nameFor path shownAs) w :=
    { assessment, opened, charset, bytes, made := made.1, temporary := made.2, out,
      counts := totalsFrom true 1 lines, scanned, volume := w.volume.put (parent ++ [last]) (.file out mode), source,
      assessed, named, known, read := by rw [same]; exact holds.read, makes := by rw [same]; exact makes,
      delivered := by rw [delivered], scans := by rw [delivered]; exact scans, unlocked := free,
      moves := by rw [kept.volume]; exact Volume.replace_eq_put holds names makes out, writable }
  exact ⟨r.world, (run_file_eq_ok rfl).2 ⟨r, rfl, rfl⟩, rfl⟩

section Single

/-- A volume with one source. -/
def singleFile (bytes : List UInt8) : Volume := ⟨[(["a.m"], .file bytes 0o644)], [], []⟩

section Top

variable {v : Volume} (here : v.here = [])

include here

theorem names_top : Volume.Names v "a.m" [] "a.m" := by
  have start : v.startOf "a.m" = [] := (if_neg (by decide)).trans here
  have walk : Volume.Leads v Volume.mostLinks (v.startOf "a.m") [] [] Volume.mostLinks := by
    rw [start]
    exact .done _ _
  exact ⟨rfl, by decide, by decide, by decide, by decide, by decide, ⟨_, walk⟩, rfl⟩

theorem makeTemporary_top : ∃ made, v.makeTemporary "a.m" = .ok made := by
  have folder : (Path.absolute v.hereText (Path.ofString "a.m").parent.text).text = "/" := by
    rw [Volume.hereText, here]
    decide
  have text : Volume.checkText (Path.entry "/" (Volume.temporaryName (Path.ofString "a.m").name 0)) =
    .ok () := rfl
  have top : v.resolve "/" = .ok [] := v.resolve_top
  rw [← folder] at text top
  exact ⟨_, Volume.makeTemporary_eq_ok.2 ⟨[], text, top, by decide, rfl, rfl⟩⟩

end Top

variable (bytes : List UInt8)

theorem names_singleFile : Volume.Names (singleFile bytes) "a.m" [] "a.m" := names_top rfl

theorem read_singleFile : (singleFile bytes).read "a.m" = .ok bytes := (names_singleFile bytes).read rfl

variable {bytes} {line : Text.Line} {out : List UInt8} {assessment : Assessment} {opened : World}

/-- A fixing scan of a source of one line ends well, if the line can be read and the repaired line written. -/
theorem run_file_singleFile (shownAs : Option String) (here : w.volume = singleFile bytes)
    (utf8 : setup.encoding = "utf-8") (free : setup.locked "a.m" = none)
    (assessed : (assess setup "a.m").run w = .ok assessment opened) (cut : Text.WellCut [line])
    (encoded : Charset.utf8.encodeAll true ([line].map Text.Line.raw) = .ok bytes)
    (written : Charset.utf8.encodeAll true ((tidiedFrom (fun _ => true) 1 [line]).map Text.Line.raw) = .ok out)
    (writable : (report "" table (totalsFrom true 1 [line]) assessment).isTallyWritable true = true) :
    ∃ w', (file setup table ⟨false, false, true⟩ "a.m" shownAs).run w =
        .ok (report (nameFor "a.m" shownAs) table (totalsFrom true 1 [line]) assessment) w' ∧
      w'.volume.read "a.m" = .ok out := by
  obtain ⟨made, makes⟩ := makeTemporary_top (v := singleFile bytes) rfl
  have names := names_singleFile bytes
  have holds : (singleFile bytes).Holds "a.m" bytes 0o644 := ⟨_, names.resolve rfl, rfl⟩
  rw [← here] at names holds makes
  obtain ⟨w', run, put⟩ := run_file_of_lines shownAs (by decide) holds names makes (by rw [utf8]; rfl)
    (by rw [utf8]; decide) free assessed cut (Charset.read_of_encodeAll cut encoded) written writable
  refine ⟨w', run, ?_⟩
  rw [put, here]
  exact read_singleFile out

end Single

/-- A run without a code checker, for sources in UTF-8. -/
def plainSetup : Setup := ⟨"utf-8", none, fun _ => .missing, fun _ => none⟩

/-- A volume with one source, which holds one line with two offences, and nobody to ask. -/
def oneLine : World := ⟨⟨[(["a.m"], .file [120, 61, 49, 10] 0o644)], [], []⟩, none, false, #[]⟩

theorem read_oneLine : oneLine.volume.read "a.m" = .ok [120, 61, 49, 10] := read_singleFile _

/-- The steps of a fixing scan of the source, which puts blanks around the sign. -/
theorem rewriting_oneLine :
    ∃ r : Rewriting plainSetup ⟨false, false, true⟩ "a.m" (nameFor "a.m" none) oneLine,
      r.volume.read "a.m" = .ok [120, 32, 61, 32, 49, 10] := by
  have cut : Text.WellCut [⟨['x', '=', '1'], .lineFeed⟩] := .cons (by decide) (by decide) nofun .nil
  have written : Charset.utf8.encodeAll true ((tidiedFrom (fun _ => true) 1
      [⟨['x', '=', '1'], .lineFeed⟩]).map Text.Line.raw) = .ok [120, 32, 61, 32, 49, 10] := by decide +kernel
  have here : oneLine.volume = singleFile [120, 61, 49, 10] := rfl
  have assessed : (assess plainSetup "a.m").run oneLine = .ok .none oneLine := rfl
  obtain ⟨w', run, read⟩ := run_file_singleFile none here rfl rfl assessed cut rfl written (by decide +kernel)
  obtain ⟨r, -, rfl⟩ := (run_file_eq_ok rfl).1 run
  exact ⟨r, read⟩

/-- A fixing scan of the source ends well. -/
theorem run_file_oneLine :
    ∃ result w', (file plainSetup table ⟨false, false, true⟩ "a.m" none).run oneLine = .ok result w' := by
  obtain ⟨r, -⟩ := rewriting_oneLine
  exact ⟨_, _, (run_file_eq_ok rfl).2 ⟨r, rfl, rfl⟩⟩

end MatlabTidy.Scan
