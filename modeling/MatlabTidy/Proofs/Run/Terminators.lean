import MatlabTidy.Proofs.Charset.Reading
import MatlabTidy.Proofs.Rule.Bounds
import MatlabTidy.Proofs.Run.Blind
import MatlabTidy.Proofs.Run.Steady
import MatlabTidy.Proofs.Volume.Likeness

/-!
# Line terminators do not matter

A file of the same texts may end its lines by any of the three terminators, and go without one at its end
(`Text.LineEnds`). The scan of a line is the scan of its bare text, with the terminator put back
(`Line.scan_raw`), so the scan of the lines of a file is the scan of their texts, in whatever way the file ends
them (`Scan.scanLines_raw`).
-/

namespace MatlabTidy

namespace Text

/-- A text without breaks is a line without terminator. -/
theorem Line.ofRaw_text {text : List Char} (unbroken : Unbroken text) : ofRaw text = ⟨text, .none⟩ := by
  have whole : ofRaw (raw ⟨text, .none⟩) = ⟨text, .none⟩ := ofRaw_raw unbroken
  rwa [raw, Ending.chars, List.append_nil] at whole

/-- How the lines of a file are ended: by a terminator, which the last line may lack. -/
structure LineEnds where
  terminator : Ending
  terminates : terminator ≠ .none
  /-- The last line has no terminator, unless it is empty. -/
  bare : Bool

namespace LineEnds

variable (ends : LineEnds)

/-- The lines of the given texts. -/
def lines : List (List Char) → List Line
  | [] => []
  | [text] => [⟨text, if ends.bare && !text.isEmpty then .none else ends.terminator⟩]
  | text :: next :: rest => ⟨text, ends.terminator⟩ :: lines (next :: rest)

/-- The file of the given texts, in UTF-8. -/
def bytes (texts : List (List Char)) : List UInt8 := Utf8.encode ((ends.lines texts).map Line.raw).flatten

@[simp] theorem map_text_lines (texts : List (List Char)) : (ends.lines texts).map Line.text = texts := by
  fun_induction lines ends texts with
  | case1 => rfl
  | case2 text => rfl
  | case3 text next rest ih => rw [List.map_cons, ih]

/-- A line is ended by the terminator or not at all. -/
theorem ending_of_head? {texts : List (List Char)} {line : Line} (first : (ends.lines texts).head? = some line) :
    line.ending = .none ∨ line.ending = ends.terminator := by
  fun_cases lines ends texts with
  | case1 => cases first
  | case2 text =>
    obtain rfl := Option.some.inj first
    dsimp only
    split
    · exact .inl rfl
    · exact .inr rfl
  | case3 text next rest =>
    obtain rfl := Option.some.inj first
    exact .inr rfl

/-- Texts without breaks are lines of a file. -/
theorem wellCut {texts : List (List Char)} (unbroken : ∀ text ∈ texts, Unbroken text) :
    WellCut (ends.lines texts) := by
  fun_induction lines ends texts with
  | case1 => exact .nil
  | case2 text =>
    have here := unbroken text List.mem_cons_self
    split
    · rename_i bare
      exact .last here (by rintro rfl; simp at bare)
    · exact .cons here ends.terminates (fun _ => nofun) .nil
  | case3 text next rest ih =>
    obtain ⟨here, there⟩ := List.forall_mem_cons.1 unbroken
    refine .cons here ends.terminates (fun ret first => ?_) (ih there)
    rcases ends.ending_of_head? first with none | same
    · cases none
    · cases same.trans ret

/-- Other texts in the lines of a file are the lines of those texts, if the same ones are empty. -/
theorem lines_congr {texts texts' : List (List Char)}
    (same : List.Forall₂ (fun text text' => text' = [] ↔ text = []) texts texts') :
    (ends.lines texts).zipWith (fun line text => ⟨text, line.ending⟩) texts' = ends.lines texts' := by
  induction same with
  | nil => rfl
  | @cons text text' rest rest' here there ih =>
    cases there with
    | nil =>
      have empty : text'.isEmpty = text.isEmpty := by rw [Bool.eq_iff_iff, List.isEmpty_iff, List.isEmpty_iff, here]
      simp [lines, empty]
    | cons _ _ =>
      simp only [lines, List.zipWith_cons_cons]
      rw [ih]

end LineEnds

end Text

namespace SpacingRule

variable (rule : SpacingRule) {line : List Char}

/-- Repairs do not empty a line. -/
theorem fix_ne_nil (ne : line ≠ []) : rule.fix line ≠ [] := by
  have some : ∀ run : List Char, run ≠ [] → rule.repair.apply run ≠ [] := by
    intro run ne
    cases rule.repair <;> simp [Repair.apply]
  obtain ⟨c, rest, rfl⟩ := List.exists_cons_of_ne_nil ne
  rw [fix, Pattern.pieces, Pattern.piecesAfter]
  split
  · simp [some]
  · simp

/-- Repairs do not break a line. -/
theorem unbroken_fix (unbroken : Text.Unbroken line) : Text.Unbroken (rule.fix line) := by
  intro c mem
  rcases rule.mem_fix mem with mem | rfl
  · exact unbroken c mem
  · decide

end SpacingRule

namespace Line

variable {rules : List Rule} {options : Options} {number : Nat} {w w' : World}

/-- The scan of a line is the scan of its text, with the terminator put back. -/
theorem scan_raw {line : Text.Line} (unbroken : Text.Unbroken line.text) :
    scan rules options number line.raw = (do
      let (text, counts) ← scan rules options number line.text
      return (text ++ line.ending.chars, counts)) := by
  unfold scan
  rw [Text.Line.ofRaw_raw unbroken, Text.Line.ofRaw_text unbroken]
  dsimp only
  split
  · simp [Text.Ending.chars]
  · simp [Text.Ending.chars]

/-- The text of a line that was scanned has no break in it, and is empty if the text was. -/
theorem unbroken_of_scan {text text' : List Char} {counts : List Count} (unbroken : Text.Unbroken text)
    (h : (scan rules options number text).run w = .ok (text', counts) w') :
    Text.Unbroken text' ∧ (text' = [] ↔ text = []) := by
  have parts : (splitMark number text).1 ++ (splitMark number text).2 = text := mark_append_body number ⟨text, .none⟩
  unfold scan at h
  rw [Text.Line.ofRaw_text unbroken] at h
  dsimp only at h
  generalize splitMark number text = cut at h parts
  obtain ⟨marked, inner⟩ := cut
  dsimp only at h parts
  split at h
  · rename_i checked
    have ne : inner ≠ [] := by
      rintro rfl
      cases checked
    have inside : Text.Unbroken inner := fun c mem => unbroken c (parts ▸ List.mem_append_right _ mem)
    obtain ⟨⟨last, others⟩, w₁, checks, h⟩ := Job.run_bind_eq_ok.1 h
    obtain ⟨found, w₂, -, turns⟩ := Job.run_bind_eq_ok.1 checks
    cases h
    obtain ⟨ne', inside'⟩ := checkMatches_keeps (P := fun line => line ≠ [] ∧ Text.Unbroken line)
      (fun rule line holds => ⟨rule.fix_ne_nil holds.1, rule.unbroken_fix holds.2⟩) ⟨ne, inside⟩ turns
    constructor
    · intro c mem
      simp only [Text.Ending.chars, List.append_nil] at mem
      rcases List.mem_append.1 mem with mem | mem
      · exact unbroken c (parts ▸ List.mem_append_left _ mem)
      · exact inside' c mem
    · have some : text ≠ [] := by
        rw [← parts]
        simp [ne]
      simp [ne', some]
  · cases h
    rw [parts, Text.Ending.chars, List.append_nil]
    exact ⟨unbroken, Iff.rfl⟩

end Line

namespace Scan

variable {rules : List Rule} {options : Options} {number : Nat} {w w' : World}

/-- Scans bare texts; gives the texts that are to be written and the counts. -/
def scanTexts (rules : List Rule) (options : Options) (number : Nat) :
    List (List Char) → Job (List (List Char) × List Count)
  | [] => return ([], rules.map fun _ => .zero)
  | text :: rest => do
    let (text, counts) ← Line.scan rules options number text
    let (others, otherCounts) ← scanTexts rules options (number + 1) rest
    return (text :: others, Count.addAll counts otherCounts)

/-- The scan of the lines of a file is the scan of their texts, with the terminators put back. -/
theorem scanLines_raw {lines : List Text.Line} (unbroken : ∀ line ∈ lines, Text.Unbroken line.text) :
    scanLines Charset.utf8 rules options number (lines.map Text.Line.raw) = (do
      let (texts, counts) ← scanTexts rules options number (lines.map Text.Line.text)
      return (if options.fix then
          Utf8.encode ((lines.zipWith (fun line text => ⟨text, line.ending⟩) texts).map Text.Line.raw).flatten
        else [], counts)) := by
  induction lines generalizing number with
  | nil => simp [scanLines, scanTexts, Utf8.encode]
  | cons line lines ih =>
    obtain ⟨here, there⟩ := List.forall_mem_cons.1 unbroken
    rw [List.map_cons, List.map_cons, scanLines_cons, scanTexts, Line.scan_raw here]
    by_cases fix : options.fix = true
    · simp [fix, ih there, Charset.encode, Job.ofExcept, Utf8.encode_append, Text.Line.raw]
    · simp [fix, ih there]

theorem scanTexts_blind (rules : List Rule) (options : Options) (number : Nat) (texts : List (List Char)) :
    Job.Blind (scanTexts rules options number texts) := by
  induction texts generalizing number with
  | nil => exact .pure _
  | cons text texts ih =>
    exact .bind (Line.scan_blind options number rules text) fun _ => .bind (ih _) fun _ => .pure _

/-- A text is written for each text, without breaks, and an empty one for an empty one. -/
theorem unbroken_of_scanTexts {texts texts' : List (List Char)} {counts : List Count}
    (unbroken : ∀ text ∈ texts, Text.Unbroken text)
    (h : (scanTexts rules options number texts).run w = .ok (texts', counts) w') :
    (∀ text' ∈ texts', Text.Unbroken text') ∧ List.Forall₂ (fun text text' => text' = [] ↔ text = []) texts texts' := by
  induction texts generalizing number w texts' counts with
  | nil =>
    cases h
    exact ⟨nofun, .nil⟩
  | cons text texts ih =>
    obtain ⟨here, there⟩ := List.forall_mem_cons.1 unbroken
    obtain ⟨⟨text', own⟩, w₁, scanned, h⟩ := Job.run_bind_eq_ok.1 h
    obtain ⟨⟨rest, others⟩, w₂, behind, h⟩ := Job.run_bind_eq_ok.1 h
    cases h
    obtain ⟨here', empty⟩ := Line.unbroken_of_scan here scanned
    obtain ⟨there', same⟩ := ih there behind
    exact ⟨List.forall_mem_cons.2 ⟨here', there'⟩, .cons empty same⟩

section File

variable {setup : Setup} {path name : String} {assessment : Assessment} {texts texts' : List (List Char)}
variable {counts : List Count} {failure : Failure} {ends : Text.LineEnds}

/-- The scan of a file in UTF-8 is the scan of its texts, in whatever way it ends its lines. -/
theorem scanDelivery_bytes (ends : Text.LineEnds) (unbroken : ∀ text ∈ texts, Text.Unbroken text) :
    scanDelivery Charset.utf8 rules options (Charset.utf8.read (ends.bytes texts)) = (do
      let (texts', counts) ← scanTexts rules options 1 texts
      return (if options.fix then
          Utf8.encode (((ends.lines texts).zipWith (fun line text => ⟨text, line.ending⟩) texts').map
            Text.Line.raw).flatten
        else [], counts)) := by
  have cut := ends.wellCut unbroken
  have writes : Charset.utf8.Writes (ends.bytes texts) ((ends.lines texts).map Text.Line.raw).flatten := rfl
  have reads : Charset.utf8.read (ends.bytes texts) = ⟨(ends.lines texts).map Text.Line.raw, none⟩ := by
    have plain : Charset.utf8 ≠ .utf8Marked := nofun
    rw [(Charset.reads_of_writes plain writes).read, Text.rawLines_flatten cut]
  rw [reads, scanDelivery_eq]
  dsimp only
  rw [scanLines_raw cut.unbroken, ends.map_text_lines]
  simp

theorem run_scanDelivery_of_ok (ends : Text.LineEnds) (unbroken : ∀ text ∈ texts, Text.Unbroken text)
    (h : (scanTexts rules options 1 texts).run w = .ok (texts', counts) w') :
    (scanDelivery Charset.utf8 rules options (Charset.utf8.read (ends.bytes texts))).run w =
      .ok (if options.fix then ends.bytes texts' else [], counts) w' := by
  rw [scanDelivery_bytes ends unbroken, Job.run_bind_of_ok h]
  dsimp only
  rw [ends.lines_congr (unbroken_of_scanTexts unbroken h).2]
  rfl

theorem run_scanDelivery_of_error (ends : Text.LineEnds) (unbroken : ∀ text ∈ texts, Text.Unbroken text)
    (h : (scanTexts rules options 1 texts).run w = .error failure w') :
    (scanDelivery Charset.utf8 rules options (Charset.utf8.read (ends.bytes texts))).run w = .error failure w' := by
  rw [scanDelivery_bytes ends unbroken]
  exact Job.run_bind_eq_error.2 (.inl h)

/-- A scan that only checks scans the texts and reports. -/
theorem scanOpened_texts (ends : Text.LineEnds) (unbroken : ∀ text ∈ texts, Text.Unbroken text)
    (check : options.fix = false) :
    scanOpened setup rules options path name assessment .utf8 (Charset.utf8.read (ends.bytes texts)) =
      scanTexts rules options 1 texts >>= fun result =>
        (partsOn .bare setup rules options).conclude options (report name rules result.2 assessment) := by
  simp [scanOpened_eq, Parts.conclude, check, scanDelivery_bytes ends unbroken, finishOn_bare]

/-- Files that are held back for the same cause stay as they were. -/
theorem heldBack_endAlike {V : Volume → Volume → Prop} {v₂ made made₂ : Volume} {temporary : Volume.Temporary}
    {scanned : World} {delivery delivery₂ : Delivery} {out out₂ : List UInt8} {cause : String}
    (makes : w.volume.makeTemporary path = .ok (made, temporary)) (makes₂ : v₂.makeTemporary path = .ok (made₂, temporary))
    (scans : (scanDelivery Charset.utf8 rules options delivery).run { w with volume := made } = .ok (out, counts) scanned)
    (scans₂ : (scanDelivery Charset.utf8 rules options delivery₂).run { w with volume := made₂ } =
      .ok (out₂, counts) { scanned with volume := made₂ })
    (kept : scanned.volume = made)
    (held : HeldBack setup.locked (scanned.volume.write temporary.place out) temporary.place path cause)
    (held₂ : HeldBack setup.locked (made₂.write temporary.place out₂) temporary.place path cause) (before : V w.volume v₂) :
    Job.EndAlike V ((replaceFile setup rules options path name assessment .utf8 delivery).run w)
      ((replaceFile setup rules options path name assessment .utf8 delivery₂).run { w with volume := v₂ }) := by
  rw [Parts.run_replaceFile_of_heldBack makes scans held,
    Parts.run_replaceFile_of_heldBack (w := { w with volume := v₂ }) makes₂ scans₂ held₂, kept]
  dsimp only
  rw [Volume.erase_write, Volume.erase_write, Volume.erase_makeTemporary makes, Volume.erase_makeTemporary makes₂]
  exact (giveUp_blind .bare setup rules options path _ cause).endAlike scanned before

/-- Two volumes in which the path leads to files of the same texts, which may have been rewritten. -/
def Paired (path : String) (fix : Bool) (texts : List (List Char)) (ends ends₂ : Text.LineEnds) (v v₂ : Volume) : Prop :=
  ∃ texts', texts'.length = texts.length ∧ (∀ text ∈ texts', Text.Unbroken text) ∧ (fix = false → texts' = texts) ∧
    v.read path = .ok (ends.bytes texts') ∧ v₂.read path = .ok (ends₂.bytes texts')

section Pair

variable {ends₂ : Text.LineEnds} {v₂ : Volume}
variable (unbroken : ∀ text ∈ texts, Text.Unbroken text) (like : v₂.outline = w.volume.outline)
variable (read : w.volume.read path = .ok (ends.bytes texts)) (read₂ : v₂.read path = .ok (ends₂.bytes texts))

include unbroken like read read₂

/-- Two files of the same texts are written again in the same way, each with its own terminators. -/
theorem replaceFile_endAlike (fix : options.fix = true) :
    Job.EndAlike (Paired path options.fix texts ends ends₂)
      ((replaceFile setup rules options path name assessment .utf8 (Charset.utf8.read (ends.bytes texts))).run w)
      ((replaceFile setup rules options path name assessment .utf8 (Charset.utf8.read (ends₂.bytes texts))).run
        { w with volume := v₂ }) := by
  have before : Paired path options.fix texts ends ends₂ w.volume v₂ :=
    ⟨texts, rfl, unbroken, fun _ => rfl, read, read₂⟩
  have made_like := Volume.makeTemporary_like like path
  cases makes : w.volume.makeTemporary path with
  | error e =>
    have makes₂ := Volume.error_of_map_eq made_like makes
    rw [Parts.run_replaceFile_of_unmade makes, Parts.run_replaceFile_of_unmade (w := { w with volume := v₂ }) makes₂]
    exact .error before
  | ok made =>
    obtain ⟨made, temporary⟩ := made
    obtain ⟨⟨made₂, temporary₂⟩, makes₂, same⟩ := Volume.ok_of_map_eq made_like makes
    have outline : made₂.outline = made.outline := congrArg Prod.fst same
    obtain rfl : temporary₂ = temporary := congrArg Prod.snd same
    have blind := scanTexts_blind rules options 1 texts { w with volume := made } made₂
    have removed := Volume.erase_makeTemporary makes
    have removed₂ := Volume.erase_makeTemporary makes₂
    cases scans : (scanTexts rules options 1 texts).run { w with volume := made } with
    | error failure w₁ =>
      have volume : w₁.volume = made := (scanTexts_blind rules options 1 texts).volume_of_error scans
      rw [scans] at blind
      rw [Parts.run_replaceFile_of_unscanned makes (run_scanDelivery_of_error ends unbroken scans),
        Parts.run_replaceFile_of_unscanned (w := { w with volume := v₂ }) makes₂
          (run_scanDelivery_of_error ends₂ unbroken blind), volume, removed]
      dsimp only
      rw [removed₂]
      exact .error before
    | ok result w₁ =>
      obtain ⟨texts', counts⟩ := result
      have volume : w₁.volume = made := (scanTexts_blind rules options 1 texts).volume_of_ok scans
      rw [scans] at blind
      have scans' := run_scanDelivery_of_ok ends unbroken scans
      have scans₂ := run_scanDelivery_of_ok ends₂ unbroken blind
      rw [if_pos fix] at scans' scans₂
      cases locked : setup.locked path with
      | some cause =>
        exact heldBack_endAlike makes makes₂ scans' scans₂ volume (.locked locked) (.locked locked) before
      | none =>
        have replaces := Volume.replace_like
          (Volume.write_like outline temporary₂.place (ends.bytes texts') (ends₂.bytes texts')) temporary₂.place path
        cases moves : (made.write temporary₂.place (ends.bytes texts')).replace temporary₂.place path with
        | error e =>
          have moves₂ := Volume.error_of_map_eq replaces moves
          rw [← volume] at moves
          exact heldBack_endAlike makes makes₂ scans' scans₂ volume (.refused locked moves) (.refused locked moves₂)
            before
        | ok moved =>
          obtain ⟨moved₂, moves₂, -⟩ := Volume.ok_of_map_eq replaces moves
          obtain ⟨kept, same⟩ := unbroken_of_scanTexts unbroken scans
          have after : Paired path options.fix texts ends ends₂ moved moved₂ :=
            ⟨texts', same.length_eq.symm, kept, fun check => absurd fix (by simp [check]),
              Volume.read_of_replace makes read moves, Volume.read_of_replace makes₂ read₂ moves₂⟩
          rw [← volume] at moves
          rw [Parts.run_replaceFile_of_moved makes scans' locked moves,
            Parts.run_replaceFile_of_moved (w := { w with volume := v₂ }) makes₂ scans₂ locked moves₂]
          exact (conclude_blind .bare setup rules options _).endAlike (w₁.saying [_]) after

/-- Line terminators do not matter: the scans of two files of the same texts come to the same end, with the same
report or the same failure, and with the same events, violations among them. What they leave are files of the
same texts again, each with its own terminators. -/
theorem file_of_lineEnds (known : Charset.ofName setup.encoding = .ok .utf8) (shownAs : Option String) :
    Job.EndAlike (Paired path options.fix texts ends ends₂) ((file setup rules options path shownAs).run w)
      ((file setup rules options path shownAs).run { w with volume := v₂ }) := by
  have before : Paired path options.fix texts ends ends₂ w.volume v₂ :=
    ⟨texts, rfl, unbroken, fun _ => rfl, read, read₂⟩
  by_cases source : isSource path = true
  · have blind := assess_blind setup path w v₂
    cases assessed : (assess setup path).run w with
    | error failure w₁ =>
      rw [assessed] at blind
      have parts : ∀ {w w' : World} {failure : Failure}, (assess setup path).run w = .error failure w' →
          (file setup rules options path shownAs).run w = .error failure w' := fun fails =>
        Parts.run_of_unassessed source fails
      rw [parts assessed, parts blind]
      rw [← (assess_blind setup path).volume_of_error assessed] at before
      exact .error before
    | ok assessment w₁ =>
      have named := Charset.checkName_of_ofName known
      rw [assessed] at blind
      have volume : w₁.volume = w.volume := (assess_blind setup path).volume_of_ok assessed
      rw [← volume] at like read
      let o : Opening setup path w := ⟨assessment, w₁, .utf8, ends.bytes texts, source, assessed, named, known, read⟩
      let o₂ : Opening setup path { w with volume := v₂ } :=
        ⟨assessment, { w₁ with volume := v₂ }, .utf8, ends₂.bytes texts, source, blind, named, known, read₂⟩
      rw [run_file_of_opening o, run_file_of_opening o₂]
      by_cases fix : options.fix = true
      · rw [scanOpened_eq, scanOpened_eq, if_pos fix, if_pos fix]
        exact replaceFile_endAlike unbroken like read read₂ fix
      · have check : options.fix = false := by simpa using fix
        have before' : Paired path options.fix texts ends ends₂ w₁.volume v₂ := volume ▸ before
        rw [scanOpened_texts ends unbroken check, scanOpened_texts ends₂ unbroken check]
        have blind : Job.Blind (scanTexts rules options 1 texts >>= fun result =>
            (partsOn .bare setup rules options).conclude options
              (report (nameFor path shownAs) rules result.2 assessment)) :=
          .bind (scanTexts_blind rules options 1 texts) fun _ => conclude_blind .bare setup rules options _
        exact blind.endAlike w₁ before'
  · rw [Bool.not_eq_true] at source
    unfold file
    rw [Parts.run_of_not_source source, Parts.run_of_not_source source]
    exact .error before

end Pair

/-- The same source of one line, with two terminators. -/
theorem file_of_lineEnds_oneLine :
    Job.EndAlike
      (Paired "a.m" (Options.fix ⟨false, false, true⟩) [['x', '=', '1']] ⟨.lineFeed, nofun, false⟩
        ⟨.both, nofun, false⟩)
      ((file plainSetup Rule.table ⟨false, false, true⟩ "a.m" none).run oneLine)
      ((file plainSetup Rule.table ⟨false, false, true⟩ "a.m" none).run
        { oneLine with volume := singleFile [120, 61, 49, 13, 10] }) := by
  have unbroken : ∀ text ∈ [['x', '=', '1']], Text.Unbroken text := by decide
  have known : Charset.ofName plainSetup.encoding = .ok .utf8 := by decide
  have read : oneLine.volume.read "a.m" =
    .ok (Text.LineEnds.bytes ⟨.lineFeed, nofun, false⟩ [['x', '=', '1']]) := read_oneLine
  have read₂ : (singleFile [120, 61, 49, 13, 10]).read "a.m" =
    .ok (Text.LineEnds.bytes ⟨.both, nofun, false⟩ [['x', '=', '1']]) := read_singleFile _
  have like : (singleFile [120, 61, 49, 13, 10]).outline = oneLine.volume.outline := rfl
  exact file_of_lineEnds unbroken like read read₂ known none

end File

end Scan

end MatlabTidy
