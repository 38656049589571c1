import MatlabTidy.Proofs.Charset.Marked
import MatlabTidy.Proofs.Run.Preservation
import MatlabTidy.Proofs.Run.Restoration

/-!
# Scans without a fix

Where no fix is counted, none was made, so that every line is written as it was read
(`Scan.encodeAll_of_scanLines`). In UTF-8 with a mark this does not mean that the bytes of the file stay as they
are: a file gets a mark, and loses one that is all there is (`Scan.bytes_of_marked`).
-/

namespace MatlabTidy

namespace Line

variable {options : Options} {number : Nat} {asRead current next last raw raw' : List Char} {rules : List Rule}
variable {counts : List Count} {w w' : World}

/-- A fix that was made is counted. -/
theorem Turn.eq_of_fixes {rule : Rule} {columns : Columns} {count : Count}
    (h : Turn options w current rule columns next count) (none : count.fixes = 0) : next = current := by
  cases h with
  | kept => rfl
  | fixed rule _ _ found _ => exact absurd (List.eq_nil_of_length_eq_zero none) found

theorem eq_of_checkMatches {found : List (Rule × Columns)}
    (h : (checkMatches options number asRead found current).run w = .ok (last, counts) w')
    (none : ∀ count ∈ counts, count.fixes = 0) : last = current := by
  induction found generalizing current counts w with
  | nil =>
    cases h
    rfl
  | cons first found ih =>
    obtain ⟨rule, columns⟩ := first
    rw [checkMatches_cons] at h
    obtain ⟨⟨next, count⟩, w₁, turned, h⟩ := Job.run_bind_eq_ok.1 h
    obtain ⟨⟨line, others⟩, w₂, rest, h⟩ := Job.run_bind_eq_ok.1 h
    cases h
    obtain ⟨here, behind⟩ := List.forall_mem_cons.1 none
    rw [ih rest behind, (turn_of_run turned).1.eq_of_fixes here]

/-- A line without a fix is written as it was read. -/
theorem eq_of_scan (h : (scan rules options number raw).run w = .ok (raw', counts) w')
    (none : ∀ count ∈ counts, count.fixes = 0) : raw' = raw := by
  have whole : mark number (.ofRaw raw) ++ body number (.ofRaw raw) ++ (Text.Line.ofRaw raw).ending.chars = raw := by
    rw [mark_append_body]
    exact Text.Line.raw_ofRaw raw
  unfold scan at h
  dsimp only at h
  split at h
  · obtain ⟨⟨text, counts'⟩, w₁, checked, h⟩ := Job.run_bind_eq_ok.1 h
    obtain ⟨found, w₂, -, turned⟩ := Job.run_bind_eq_ok.1 checked
    cases h
    rw [eq_of_checkMatches turned none]
    exact whole
  · cases h
    exact whole

end Line

namespace Scan

variable {charset : Charset} {setup : Setup} {options : Options} {number : Nat} {rules : List Rule} {path : String}
variable {bytes : List UInt8} {text : List Char} {counts : List Count} {w w' : World}

/-- Lines without a fix are written as they were read. -/
theorem encodeAll_of_scanLines {raws : List (List Char)} (fix : options.fix = true) (positive : number ≠ 0)
    (h : (scanLines charset rules options number raws).run w = .ok (bytes, counts) w')
    (none : ∀ count ∈ counts, count.fixes = 0) : charset.encodeAll (number == 1) raws = .ok bytes := by
  induction raws generalizing number bytes counts w with
  | nil =>
    cases h
    rfl
  | cons raw raws ih =>
    obtain ⟨raw', own, w₁, front, back, others, scanned, encoded, rest, rfl, rfl⟩ := run_scanLines_cons_eq_ok.1 h
    have same := (Line.fair_of_scan scanned).length_eq.symm.trans (fair_of_scanLines rest).length_eq
    obtain ⟨here, behind⟩ := Count.forall_fixes_of_addAll same none
    have later : (number + 1 == 1) = false := by simpa using positive
    have written := ih (Nat.succ_ne_zero number) rest behind
    rw [later] at written
    rw [if_pos fix, Line.eq_of_scan scanned here] at encoded
    rw [Charset.encodeAll, encoded, written]
    rfl

/-- A fixing scan that makes no fix writes the lines that it has read. -/
theorem exists_encodeAll_of_file {shownAs : Option String} {result : FileReport} (fix : options.fix = true)
    (known : Charset.ofName setup.encoding = .ok charset) (read : w.volume.read path = .ok bytes)
    (h : (file setup rules options path shownAs).run w = .ok result w') (none : result.totalFixes = 0) :
    ∃ out, charset.encodeAll true (charset.read bytes).lines = .ok out ∧ w'.volume.read path = .ok out := by
  obtain ⟨o, ended⟩ := run_file_opened_eq_ok.1 h
  rw [scanOpened_eq, if_pos fix] at ended
  obtain ⟨made, temporary, out, counts, scanned, volume, makes, -, scans, -, moves, -, rfl, rfl⟩ :=
    (run_replaceFile_eq_ok fix).1 ended
  obtain rfl : charset = o.charset := Except.ok.inj (known.symm.trans o.known)
  obtain rfl : bytes = o.bytes := Except.ok.inj (read.symm.trans (o.calm.volume ▸ o.read))
  rw [((scanLines_calm _ rules options 1 _).of_ok scans).volume] at moves
  exact ⟨out, encodeAll_of_scanLines fix Nat.one_ne_zero scans (fixes_of_totalFixes none),
    Volume.read_of_replace makes o.read moves⟩

/-- In UTF-8 with a mark, a fixing scan that makes no fix writes the text of the file behind a mark, if there is
a text. So the bytes stay as they are exactly if there was a mark with something behind it, or nothing. -/
theorem bytes_of_marked {shownAs : Option String} {result : FileReport} (fix : options.fix = true)
    (known : Charset.ofName setup.encoding = .ok .utf8Marked) (read : w.volume.read path = .ok bytes)
    (decoded : Charset.utf8Marked.decode bytes = .ok text)
    (h : (file setup rules options path shownAs).run w = .ok result w') (none : result.totalFixes = 0) :
    w'.volume.read path = .ok (Charset.marked text) ∧
      (Charset.marked text = bytes ↔ bytes = [] ∨ ∃ rest, rest ≠ [] ∧ bytes = markBytes ++ rest) := by
  have reads := Charset.readsMarked_of_decode decoded
  obtain ⟨out, written, after⟩ := exists_encodeAll_of_file fix known read h none
  rw [reads.read] at written
  rw [after, Charset.eq_marked_of_encodeAll written]
  exact ⟨rfl, Charset.marked_eq_iff reads⟩

section Marked

/-- A run without a code checker, for sources in UTF-8 with a mark. -/
def markedSetup : Setup := { plainSetup with encoding := "utf-8-sig" }

/-- A world with one source, and nobody to ask. -/
def worldOf (bytes : List UInt8) : World := ⟨singleFile bytes, none, false, #[]⟩

/-- A source in which no rule finds anything is scanned without a fix. -/
theorem run_file_markedSetup {lines : List Text.Line} {out : List UInt8} (cut : Text.WellCut lines)
    (delivered : Charset.utf8Marked.read bytes = ⟨lines.map Text.Line.raw, none⟩)
    (written : Charset.utf8Marked.encodeAll true ((tidiedFrom (fun _ => true) 1 lines).map Text.Line.raw) = .ok out)
    (clean : totalsFrom true 1 lines = List.replicate 5 .zero) :
    ∃ result w', (file markedSetup Rule.table ⟨false, false, true⟩ "a.m" none).run (worldOf bytes) = .ok result w' ∧
      result.totalFixes = 0 ∧ w'.volume.read "a.m" = .ok out := by
  have known : Charset.ofName markedSetup.encoding = .ok .utf8Marked := by decide
  have assessed : (assess markedSetup "a.m").run (worldOf bytes) = .ok .none (worldOf bytes) := rfl
  have fixes : ∀ name, (report name Rule.table (totalsFrom true 1 lines) .none).totalFixes = 0 := by
    intro name
    rw [clean]
    rfl
  have writable : (report "" Rule.table (totalsFrom true 1 lines) .none).isTallyWritable true = true := by
    rw [clean]
    decide +kernel
  obtain ⟨made, makes⟩ := makeTemporary_top (v := singleFile bytes) rfl
  have names := names_singleFile bytes
  obtain ⟨w', run, put⟩ := run_file_of_lines (w := worldOf bytes) none (by decide) ⟨_, names.resolve rfl, rfl⟩ names
    makes rfl known rfl assessed cut delivered written writable
  refine ⟨_, w', run, fixes _, ?_⟩
  rw [put]
  exact read_singleFile out

theorem decode_unmarked : Charset.utf8Marked.decode [120, 10] = .ok ['x', '\n'] := by decide +kernel

theorem run_file_unmarked :
    ∃ result w', (file markedSetup Rule.table ⟨false, false, true⟩ "a.m" none).run (worldOf [120, 10]) =
      .ok result w' ∧ result.totalFixes = 0 ∧ w'.volume.read "a.m" = .ok [0xef, 0xbb, 0xbf, 120, 10] := by
  have cut : Text.WellCut [⟨['x'], .lineFeed⟩] := .cons (by decide) (by decide) nofun .nil
  have delivered := (Charset.readsMarked_of_decode decode_unmarked).read
  rw [show ['x', '\n'] = ([⟨['x'], .lineFeed⟩].map Text.Line.raw).flatten from rfl, Text.rawLines_flatten cut] at delivered
  exact run_file_markedSetup cut delivered (by decide +kernel) (by decide +kernel)

/-- A source without a mark, in which there is nothing to fix, gets one. -/
theorem bytes_of_marked_unmarked :
    ∃ result w', (file markedSetup Rule.table ⟨false, false, true⟩ "a.m" none).run (worldOf [120, 10]) =
      .ok result w' ∧ w'.volume.read "a.m" = .ok (Charset.marked ['x', '\n']) := by
  obtain ⟨result, w', run, none, -⟩ := run_file_unmarked
  exact ⟨result, w', run, (bytes_of_marked rfl (show Charset.ofName markedSetup.encoding = .ok .utf8Marked by decide)
    (read_singleFile _) decode_unmarked run none).1⟩

/-- A scan that makes no fix puts a mark in front of a source without one, and empties a source that is nothing
but a mark. -/
theorem unfixed_sources_change :
    (∃ result w', (file markedSetup Rule.table ⟨false, false, true⟩ "a.m" none).run (worldOf [120, 10]) =
      .ok result w' ∧ result.totalFixes = 0 ∧ w'.volume.read "a.m" = .ok [0xef, 0xbb, 0xbf, 120, 10]) ∧
    ∃ result w', (file markedSetup Rule.table ⟨false, false, true⟩ "a.m" none).run (worldOf [0xef, 0xbb, 0xbf]) =
      .ok result w' ∧ result.totalFixes = 0 ∧ w'.volume.read "a.m" = .ok [] := by
  have coded : [0xef, 0xbb, 0xbf] = markBytes ++ Utf8.encode [] := rfl
  have bare : Charset.utf8Marked.read [0xef, 0xbb, 0xbf] = ⟨[], none⟩ := (Charset.ReadsMarked.marked coded).read
  exact ⟨run_file_unmarked, run_file_markedSetup .nil bare rfl (by decide +kernel)⟩

end Marked

end Scan

end MatlabTidy
