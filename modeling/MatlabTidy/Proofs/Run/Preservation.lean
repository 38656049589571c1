import MatlabTidy.Proofs.Run.Rewriting
import MatlabTidy.Proofs.Run.Totals

/-!
# Fixing touches spaces only

Whatever the operator answers, a file that was fixed differs from the source in the widths of gaps inside of
code lines only (`Scan.keepsLayout_of_fix`): there are as many lines, each with its terminator, its mark, its
indentation, its characters and its blanks at the end (`Line.KeepsLayout`). A scan in which no fix was
accepted leaves the bytes of the file as they were.
-/

namespace MatlabTidy

namespace Line

/-- What a fix keeps of the raw line of a number. -/
structure KeepsLayout (number : Nat) (raw raw' : List Char) : Prop where
  ending : (Text.Line.ofRaw raw').ending = (Text.Line.ofRaw raw).ending
  mark : mark number (.ofRaw raw') = mark number (.ofRaw raw)
  /-- Empty lines and comments stay as they are. -/
  passed : body number (.ofRaw raw) = [] ∨ isCommentLine (body number (.ofRaw raw)) = true → raw' = raw
  respaced : Text.Respaced (body number (.ofRaw raw)) (body number (.ofRaw raw'))

theorem respaced_repaired (on : Spacing → Bool) (text : List Char) : Text.Respaced text (repaired on text) := by
  unfold repaired
  split
  · exact Text.Respaced.of_rules on text
  · exact .refl text

/-- A repaired line keeps its layout. -/
theorem keepsLayout_tidied (on : Spacing → Bool) (number : Nat) {line : Text.Line}
    (unbroken : Text.Unbroken line.text) :
    KeepsLayout number line.raw (tidied on number line).raw := by
  have own := Text.Line.ofRaw_raw unbroken
  have own' := Text.Line.ofRaw_raw (unbroken_tidied on number line unbroken)
  constructor
  · rw [own, own']
    rfl
  · rw [own, own', mark_tidied]
  · rw [own]
    intro passed
    have unchecked : ¬ isChecked (body number line) = true := by
      rcases passed with empty | comment
      · simp [isChecked, empty]
      · simp [isChecked, comment]
    rw [tidied, repaired, if_neg unchecked, mark_append_body]
  · rw [own, own', body_tidied]
    exact respaced_repaired on _

end Line

namespace Scan

open Rule (table)

variable {setup : Setup} {options : Options} {path : String} {w w' : World} {charset : Charset}
variable {bytes : List UInt8} {text : List Char}

/-- A report without fixes counts none for any rule. -/
theorem fixes_of_totalFixes {name : String} {rules : List Rule} {counts : List Count} {assessment : Assessment}
    (h : (report name rules counts assessment).totalFixes = 0) : ∀ count ∈ counts, count.fixes = 0 := by
  rw [totalFixes_report, Int.natCast_eq_zero] at h
  intro count mem
  exact List.sum_eq_zero_iff_forall_eq_nat.1 h _ (List.mem_map_of_mem mem)

/-- A source that can be decoded delivers the lines of its text. -/
theorem read_of_decode (plain : charset ≠ .utf8Marked) (decoded : charset.decode bytes = .ok text) :
    charset.read bytes = ⟨Text.rawLines text, none⟩ :=
  (Charset.reads_of_writes plain (Charset.writes_of_decode plain decoded)).read

/-- Whatever the operator answers, fixing a file changes the widths of gaps inside of code lines only, and
nothing at all if no fix is accepted. -/
theorem keepsLayout_of_fix {shownAs : Option String} {result : FileReport} (fix : options.fix = true)
    (plain : charset ≠ .utf8Marked) (known : Charset.ofName setup.encoding = .ok charset)
    (read : w.volume.read path = .ok bytes) (decoded : charset.decode bytes = .ok text)
    (h : (file setup table options path shownAs).run w = .ok result w') :
    ∃ bytes' text', w'.volume.read path = .ok bytes' ∧ charset.decode bytes' = .ok text' ∧
      (Text.rawLines text').length = (Text.rawLines text).length ∧
      (∀ (i : Nat) (raw raw' : List Char), (Text.rawLines text)[i]? = some raw →
        (Text.rawLines text')[i]? = some raw' → Line.KeepsLayout (i + 1) raw raw') ∧
      (result.totalFixes = 0 ∨ (options.interactive = true ∧ ¬ Line.Willing w) → bytes' = bytes) := by
  obtain ⟨r, rfl, rfl⟩ := (run_file_eq_ok fix).1 h
  obtain ⟨parent, last, replaced⟩ := r.replaced
  obtain ⟨volume, keys, -⟩ := assess_again r.assessed
  obtain rfl : charset = r.charset := Except.ok.inj (known.symm.trans r.known)
  obtain rfl : bytes = r.bytes := Except.ok.inj (read.symm.trans (volume ▸ r.read))
  obtain ⟨lines, lines', cut, delivered, scanned, written, -⟩ := r.lines
  have cutText : Text.rawLines text = lines.map Text.Line.raw := by
    rw [← delivered, read_of_decode plain decoded]
  rw [fix] at written
  have cut' := scanned.wellCut cut
  have cutAgain := Text.rawLines_flatten cut'
  refine ⟨r.out, (lines'.map Text.Line.raw).flatten, replaced.read,
    (Charset.reads_of_encodeAll written).decode, ?_, ?_, ?_⟩
  · rw [cutAgain, cutText, List.length_map, List.length_map, scanned.length_eq]
  · intro i raw raw' here here'
    rw [cutText, List.getElem?_map] at here
    obtain ⟨line, at_i, rfl⟩ := Option.map_eq_some_iff.1 here
    obtain ⟨on, at_i'⟩ := scanned.getElem? at_i
    rw [cutAgain, List.getElem?_map, at_i'] at here'
    obtain rfl := Option.some.inj here'
    rw [Nat.add_comm 1 i]
    exact Line.keepsLayout_tidied on (i + 1) (cut.unbroken line (List.mem_of_getElem? at_i))
  · intro unaccepted
    have same : lines' = lines := by
      rcases unaccepted with none | ⟨asked, unwilling⟩
      · exact scanned.eq_of_fixes (fixes_of_totalFixes none)
      · refine scanned.eq_of_not_allowed fun allowed => unwilling ?_
        obtain ⟨pressed, key, left, mem, accepts⟩ := allowed.2 asked
        exact ⟨pressed, key, keys ▸ left, mem, accepts⟩
    have out : r.charset.Writes r.out text := by
      have coded : r.charset.encodeAll false (lines'.map Text.Line.raw) = .ok r.out := by
        rw [← Charset.encodeAll_plain plain]
        exact written
      have whole := Charset.writes_of_encodeAll coded
      rwa [same, ← cutText, Text.flatten_rawLines] at whole
    exact out.unique (Charset.writes_of_decode plain decoded)

/-- A file of one line keeps the layout of its line. -/
theorem keepsLayout_oneLine :
    ∃ result w' bytes' text',
      (file plainSetup table ⟨false, false, true⟩ "a.m" none).run oneLine = .ok result w' ∧
      w'.volume.read "a.m" = .ok bytes' ∧ Charset.utf8.decode bytes' = .ok text' ∧
      (Text.rawLines text').length = 1 ∧
      ∀ raw', (Text.rawLines text')[0]? = some raw' → Line.KeepsLayout 1 ['x', '=', '1', '\n'] raw' := by
  obtain ⟨result, w', run⟩ := run_file_oneLine
  have decoded : Charset.utf8.decode [120, 61, 49, 10] = .ok ['x', '=', '1', '\n'] :=
    (Charset.reads_of_encodeAll (show Charset.utf8.encodeAll true [['x', '=', '1', '\n']] = _ from rfl)).decode
  obtain ⟨bytes', text', read', decoded', length, kept, -⟩ := keepsLayout_of_fix rfl
    (show Charset.utf8 ≠ .utf8Marked by decide)
    (show Charset.ofName plainSetup.encoding = .ok .utf8 by decide)
    read_oneLine decoded run
  exact ⟨result, w', bytes', text', run, read', decoded', length, fun raw' here => kept 0 _ raw' rfl here⟩

end Scan

end MatlabTidy
