import MatlabTidy.Proofs.Run.Turns
import MatlabTidy.Proofs.Text.Lines

/-!
# The scan of a line

`Line.tidied` is a line of a file after the repairs of a set of rules: the byte order mark of the first
line and the terminator stay, and so does a text that the rules do not look at. A scan gives such a line
whatever the operator answers (`Line.scanned_of_run`), and the line repaired by all rules when nobody is
asked (`Line.run_scan`). A tidied line is cut off from its neighbours where the line was
(`Line.unbroken_tidied`, `Line.text_tidied_eq_nil`), and scanning it again finds its mark and its text
(`Line.mark_tidied`, `Line.body_tidied`).
-/

namespace MatlabTidy

theorem Spacing.among_table : Spacing.among Rule.table = fun _ => true := by
  funext s
  exact among_eq_true.2 (Rule.spacing_mem_table s)

namespace Line

open Rule (table)

/-- The byte order mark of a line. -/
def mark (number : Nat) (line : Text.Line) : List Char := (splitMark number line.text).1

/-- What the rules look at. -/
def body (number : Nat) (line : Text.Line) : List Char := (splitMark number line.text).2

/-- A text that the rules of a set have repaired, if they look at it. -/
def repaired (on : Spacing → Bool) (text : List Char) : List Char :=
  if isChecked text then respaced on text else text

/-- A line that the rules of a set have repaired. -/
def tidied (on : Spacing → Bool) (number : Nat) (line : Text.Line) : Text.Line :=
  ⟨mark number line ++ repaired on (body number line), line.ending⟩

section Repaired

variable (on : Spacing → Bool) (text : List Char)

@[simp] theorem isChecked_repaired : isChecked (repaired on text) = isChecked text := by
  unfold repaired
  split
  · have empty : (respaced on text).isEmpty = text.isEmpty := by
      rw [Bool.eq_iff_iff, List.isEmpty_iff, List.isEmpty_iff, respaced_eq_nil]
    rw [isChecked, isChecked, empty, isCommentLine_respaced]
  · rfl

theorem head?_repaired : (repaired on text).head? = text.head? := by
  unfold repaired
  split
  · exact head?_respaced on text
  · rfl

theorem mem_repaired {c : Char} (h : c ∈ repaired on text) : c ∈ text ∨ c = ' ' := by
  unfold repaired at h
  split at h
  · exact mem_respaced on text h
  · exact .inl h

theorem repaired_repaired (also : Spacing → Bool) :
    repaired also (repaired on text) = repaired (fun s => on s || also s) text := by
  rw [repaired, isChecked_repaired]
  unfold repaired
  split
  · exact respaced_respaced on text also
  · rfl

@[simp] theorem repaired_none : repaired (fun _ => false) text = text := by
  simp [repaired]

end Repaired

section Tidied

variable (on : Spacing → Bool) (number : Nat) (line : Text.Line)

@[simp] theorem mark_append_body : mark number line ++ body number line = line.text := by
  unfold mark body splitMark
  split
  · split <;> simp [*]
  · simp [*]

/-- The mark, the text and the terminator of a raw line are the raw line. -/
theorem mark_append_body_append (number : Nat) (raw : List Char) :
    mark number (.ofRaw raw) ++ body number (.ofRaw raw) ++ (Text.Line.ofRaw raw).ending.chars = raw := by
  rw [mark_append_body]
  exact Text.Line.raw_ofRaw raw

/-- A line whose text is put together anew, from its characters and blanks, has no others. -/
theorem mem_of_forall_body {raw text : List Char} (inside : ∀ c ∈ text, c ∈ body number (.ofRaw raw) ∨ c = ' ') :
    ∀ c ∈ mark number (.ofRaw raw) ++ text ++ (Text.Line.ofRaw raw).ending.chars, c ∈ raw ∨ c = ' ' := by
  intro c mem
  rw [← mark_append_body_append number raw]
  simp only [List.mem_append] at mem ⊢
  rcases mem with (mem | mem) | mem
  · exact .inl (.inl (.inl mem))
  · exact (inside c mem).imp (fun mem => .inl (.inr mem)) id
  · exact .inl (.inr mem)

/-- The text of a line is no longer than the line. -/
theorem length_body_le (number : Nat) (raw : List Char) : (body number (.ofRaw raw)).length ≤ raw.length := by
  have parts := congrArg List.length (mark_append_body_append number raw)
  rw [List.length_append, List.length_append] at parts
  omega

@[simp] theorem ending_tidied : (tidied on number line).ending = line.ending := rfl

/-- A repaired line has the mark of the line and the repaired text. -/
theorem splitMark_tidied :
    splitMark number (tidied on number line).text = (mark number line, repaired on (body number line)) := by
  obtain ⟨text, ending⟩ := line
  unfold tidied mark body
  match text with
  | [] => rfl
  | c :: rest =>
    by_cases marked : number = 1 ∧ c = byteOrderMark
    · simp [splitMark, marked]
    · have first : (repaired on (c :: rest)).head? = some c := head?_repaired on (c :: rest)
      obtain ⟨rest', shape⟩ := List.head?_eq_some_iff.1 first
      simp [splitMark, marked, shape]

@[simp] theorem mark_tidied : mark number (tidied on number line) = mark number line := by
  rw [mark, splitMark_tidied]

@[simp] theorem body_tidied : body number (tidied on number line) = repaired on (body number line) := by
  rw [body, splitMark_tidied]

theorem tidied_tidied (also : Spacing → Bool) :
    tidied also number (tidied on number line) = tidied (fun s => on s || also s) number line := by
  rw [tidied, mark_tidied, body_tidied, repaired_repaired, ending_tidied, tidied]

@[simp] theorem tidied_none : tidied (fun _ => false) number line = line := by
  rw [tidied, repaired_none, mark_append_body]

/-- A repaired line has no break in it. -/
theorem unbroken_tidied (h : Text.Unbroken line.text) : Text.Unbroken (tidied on number line).text := by
  intro c mem
  have from_line : c ∈ line.text ∨ c = ' ' := by
    rw [← mark_append_body number line]
    rcases List.mem_append.1 mem with mem | mem
    · exact .inl (List.mem_append_left _ mem)
    · exact (mem_repaired on _ mem).imp (fun mem => List.mem_append_right _ mem) id
  rcases from_line with mem | rfl
  · exact h c mem
  · decide

theorem text_tidied_eq_nil : (tidied on number line).text = [] ↔ line.text = [] := by
  have body_nil : repaired on (body number line) = [] ↔ body number line = [] := by
    rw [← List.head?_eq_none_iff, head?_repaired, List.head?_eq_none_iff]
  rw [← mark_append_body number line, tidied, List.append_eq_nil_iff, List.append_eq_nil_iff, body_nil]

end Tidied

/-- What is counted for a rule on a line when nobody is asked about fixes. -/
def countOf (fix : Bool) (number : Nat) (line : Text.Line) (rule : Rule) : Count :=
  if isChecked (body number line) then rule.countOn fix (body number line) else .zero

/-- What a scan gives for a line. -/
structure Scanned (options : Options) (w : World) (number : Nat) (line line' : Text.Line)
    (counts : List Count) : Prop where
  /-- The line is repaired by some of the rules. -/
  tidied : ∃ on, line' = tidied on number line
  /-- A line that was changed has been fixed, and the fixes are counted. -/
  counted : line' ≠ line → Allowed options w ∧ ∃ count ∈ counts, count.fixes ≠ 0
  length : counts.length = table.length

variable {options : Options} {number : Nat} {line : Text.Line} {raw : List Char}
variable {counts : List Count} {w w' : World}

/-- The scan of a line that the rules do not look at. -/
theorem scan_unchecked (whole : Text.Line.ofRaw line.raw = line) (h : ¬ isChecked (body number line) = true)
    (options : Options) :
    scan table options number line.raw = pure (line.raw, table.map fun _ => .zero) := by
  have parts : mark number line ++ body number line ++ line.ending.chars = line.raw := by
    rw [mark_append_body, Text.Line.raw]
  rw [mark, body] at parts
  rw [body] at h
  rw [scan, whole]
  dsimp only
  rw [if_neg h, parts]

/-- The scan of a line that the rules look at. -/
theorem scan_checked (whole : Text.Line.ofRaw line.raw = line) (h : isChecked (body number line) = true)
    (options : Options) :
    scan table options number line.raw = (do
      let (text, counts) ← check table options number (body number line)
      return (mark number line ++ text ++ line.ending.chars, counts)) := by
  rw [body] at h
  rw [scan, whole]
  dsimp only
  rw [if_pos h]
  rfl

theorem raw_tidied (h : isChecked (body number line) = true) (on : Spacing → Bool) :
    (tidied on number line).raw =
      mark number line ++ respaced on (body number line) ++ line.ending.chars := by
  rw [Text.Line.raw, tidied, repaired, if_pos h]

/-- Whatever the operator answers, a scan gives the line repaired by some of the rules. -/
theorem scanned_of_run (unbroken : Text.Unbroken line.text)
    (h : (scan table options number line.raw).run w = .ok (raw, counts) w') :
    ∃ line', raw = line'.raw ∧ Scanned options w number line line' counts ∧ Keeps w w' := by
  by_cases checked : isChecked (body number line) = true
  · rw [scan_checked (Text.Line.ofRaw_raw unbroken) checked, Job.run_bind_eq_ok] at h
    obtain ⟨⟨text, counts'⟩, w₁, run, h⟩ := h
    cases h
    rw [check_eq_turns options number _ fun _ mem => mem] at run
    have start : (turns options number (body number line) table
        (respaced (fun _ => false) (body number line))).run w = .ok (text, counts) w' := by
      rw [respaced_none]
      exact run
    obtain ⟨⟨⟨on, rfl, -⟩, counted, errors⟩, kept⟩ := turns_of_run (fun _ mem => mem) start
    refine ⟨tidied on number line, (raw_tidied checked on).symm, ⟨⟨on, rfl⟩, fun ne => ?_, ?_⟩, kept⟩
    · refine counted fun same => ne ?_
      rw [tidied, repaired, if_pos checked, same, respaced_none, mark_append_body]
    · have lengths := congrArg List.length errors
      rwa [List.length_map, List.length_map] at lengths
  · rw [scan_unchecked (Text.Line.ofRaw_raw unbroken) checked] at h
    cases h
    refine ⟨line, rfl, ⟨⟨fun _ => false, (tidied_none number line).symm⟩, fun ne => absurd rfl ne, ?_⟩,
      .refl w⟩
    rw [List.length_map]

/-- Nobody has to be asked about the line, and the rulers that are shown under it can be drawn. -/
structure Smooth (options : Options) (number : Nat) (line : Text.Line) : Prop where
  quiet : isChecked (body number line) = true →
    ∀ s : Spacing, s.rule.columns (body number line) ≠ [] → options.interactive = false
  drawable : isChecked (body number line) = true →
    ∀ rule ∈ table, Drawable options (rule.columnsOn (body number line))

theorem smooth_of_silent (silent : options.verbose = false) (number : Nat) (line : Text.Line) :
    Smooth options number line where
  quiet := by
    intro _ s _
    rw [Options.interactive, silent, Bool.false_and]
  drawable := by
    intro _ rule _ verbose
    rw [silent] at verbose
    cases verbose

/-- The spacing rules find nothing on a line that all of them have repaired. -/
theorem columns_tidied (checked : isChecked (body number line) = true) (s : Spacing) :
    s.rule.columns (body number (tidied (fun _ => true) number line)) = [] := by
  apply List.eq_nil_of_length_eq_zero
  rw [body_tidied, repaired, if_pos checked, Spacing.length_columns_respaced, if_pos rfl]

/-- Nobody is asked about a line that all rules have repaired. -/
theorem smooth_tidied (options : Options) (number : Nat) (line : Text.Line) :
    Smooth options number (tidied (fun _ => true) number line) where
  quiet := by
    intro checked s found
    rw [body_tidied, isChecked_repaired] at checked
    exact absurd (columns_tidied checked s) found
  drawable := by
    intro checked rule mem
    rw [body_tidied, isChecked_repaired] at checked
    rcases Rule.mem_table.1 mem with rfl | ⟨s, rfl⟩
    · intro _
      rw [Rule.columnsOn]
      split
      · exact ⟨_, rfl⟩
      · exact ⟨_, rfl⟩
    · intro _
      rw [Rule.columnsOn, columns_tidied checked s]
      exact ⟨_, rfl⟩

/-- The scan of a line when nobody is asked, or there is nothing to ask about. -/
theorem run_scan (w : World) (whole : Text.Line.ofRaw line.raw = line) (smooth : Smooth options number line) :
    ∃ events, (scan table options number line.raw).run w =
      .ok ((if options.fix then tidied (fun _ => true) number line else line).raw,
        table.map (countOf options.fix number line)) (w.saying events) := by
  by_cases checked : isChecked (body number line) = true
  · have run := run_check number (body number line) w (smooth.quiet checked) (fun _ mem => mem)
      Rule.nodup_table (smooth.drawable checked)
    rw [Spacing.among_table] at run
    refine ⟨table.flatMap fun rule => reports options number (body number line) rule
      (rule.columnsOn (body number line)), ?_⟩
    have counted : countOf options.fix number line = Rule.countOn options.fix (body number line) := by
      funext rule
      rw [countOf, if_pos checked]
    rw [scan_checked whole checked, Job.run_bind_of_ok run, counted]
    by_cases fix : options.fix = true
    · simp only [fix, if_true, raw_tidied checked]
      rfl
    · have parts : mark number line ++ body number line ++ line.ending.chars = line.raw := by
        rw [mark_append_body, Text.Line.raw]
      simp only [fix, if_false, Bool.false_eq_true, parts]
      rfl
  · have same : (if options.fix then tidied (fun _ => true) number line else line) = line := by
      split
      · rw [tidied, repaired, if_neg checked, mark_append_body]
      · rfl
    have counted : countOf options.fix number line = fun _ => .zero := by
      funext rule
      rw [countOf, if_neg checked]
    refine ⟨[], ?_⟩
    rw [scan_unchecked whole checked, same, World.saying_nil, counted]
    rfl

end Line

end MatlabTidy
