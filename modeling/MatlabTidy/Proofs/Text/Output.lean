import MatlabTidy.Proofs.Text.Scan
import Mathlib.Data.List.DropRight

/-!
# The lines of program output

`Broken` says how program output is cut into lines: at every break, where a carriage return and a line feed
behind it are one break. That is what `brokenLines` does (`broken_iff`). A line feed that is put between two
outputs ends the last line of the first one, or makes a line of nothing (`brokenLines_append_feed`). `Trimmed`
says what is left of a line without the blanks at its ends (`trimmed_iff`).
-/

namespace MatlabTidy.Text

variable {text rest run front line : List Char} {lines : List (List Char)} {test : Char → Bool}

/-- A text of at least one character, all of them of a class. -/
structure IsRun (test : Char → Bool) (run : List Char) : Prop where
  ne : run ≠ []
  all : ∀ c ∈ run, test c = true

/-- A run begins with a character of its class. -/
theorem IsRun.exists_cons (h : IsRun test run) : ∃ c cs, run = c :: cs ∧ test c = true := by
  obtain ⟨c, cs, rfl⟩ := List.exists_cons_of_ne_nil h.ne
  exact ⟨c, cs, rfl, h.all c List.mem_cons_self⟩

theorem span?_append (h : IsRun test run) (stop : rest.head?.any test = false) :
    span? test (run ++ rest) = some (run, rest) :=
  span?_eq_some.2 ⟨rfl, h.ne, h.all, stop⟩

/-- A run is read up to a run of another class. -/
theorem span?_append_isRun {other : Char → Bool} {behind : List Char} (h : IsRun test run) (h' : IsRun other behind)
    (apart : ∀ c, other c = true → test c = false) (rest : List Char) :
    span? test (run ++ (behind ++ rest)) = some (run, behind ++ rest) := by
  obtain ⟨c, cs, rfl, first⟩ := h'.exists_cons
  exact span?_append h (apart c first)

/-- What ends a line in front of the rest of an output. -/
inductive Break : (mark rest : List Char) → Prop
  | pair {rest : List Char} : Break ['\r', '\n'] rest
  | single {c : Char} {rest : List Char} (ends : isBreak c = true) (alone : c = '\r' → rest.head? ≠ some '\n') :
      Break [c] rest

/-- How program output is cut into lines. -/
inductive Broken : (text : List Char) → (lines : List (List Char)) → Prop
  | nil : Broken [] []
  | last {line : List Char} (unbroken : ∀ c ∈ line, isBreak c = false) (ne : line ≠ []) : Broken line [line]
  | cons {line mark rest : List Char} {lines : List (List Char)} (unbroken : ∀ c ∈ line, isBreak c = false)
      (ended : Break mark rest) (others : Broken rest lines) : Broken (line ++ (mark ++ rest)) (line :: lines)

/-- A break at the start ends a line of nothing. -/
theorem Broken.blank {mark : List Char} (ended : Break mark rest) (others : Broken rest lines) :
    Broken (mark ++ rest) ([] :: lines) := @Broken.cons [] _ _ _ (List.forall_mem_nil _) ended others

theorem brokenLines_cons {c : Char} (onward : isBreak c = false) (rest : List Char) :
    brokenLines (c :: rest) = prependChar c (brokenLines rest) := by
  rw [brokenLines]
  · simp [onward]
  · rintro rest' rfl -
    cases onward

theorem brokenLines_break {mark : List Char} (ended : Break mark rest) :
    brokenLines (mark ++ rest) = [] :: brokenLines rest := by
  cases ended with
  | pair => rfl
  | @single c _ ends alone =>
    rw [List.singleton_append, brokenLines]
    · simp [ends]
    · rintro rest' rfl rfl
      exact alone rfl rfl

/-- A text without breaks belongs to the line that follows it. -/
theorem brokenLines_append (unbroken : ∀ c ∈ front, isBreak c = false) (h : brokenLines text = line :: lines) :
    brokenLines (front ++ text) = (front ++ line) :: lines := by
  induction front with
  | nil => exact h
  | cons c front ih =>
    obtain ⟨onward, others⟩ := List.forall_mem_cons.1 unbroken
    rw [List.cons_append, brokenLines_cons onward, ih others]
    rfl

theorem broken_brokenLines (text : List Char) : Broken text (brokenLines text) := by
  fun_induction brokenLines text with
  | case1 => exact .nil
  | case2 rest ih => exact .blank .pair ih
  | case3 c rest pair ends ih =>
    refine .blank (.single ends fun ret first => ?_) ih
    obtain ⟨rest', rfl⟩ := List.head?_eq_some_iff.1 first
    exact pair rest' ret rfl
  | case4 c rest pair onward ih =>
    have longer : ∀ {line : List Char}, (∀ d ∈ line, isBreak d = false) → ∀ d ∈ c :: line, isBreak d = false :=
      fun unbroken => List.forall_mem_cons.2 ⟨Bool.eq_false_iff.2 onward, unbroken⟩
    generalize brokenLines rest = lines at ih
    cases ih with
    | nil => exact .last (longer (List.forall_mem_nil _)) (List.cons_ne_nil _ _)
    | last unbroken ne => exact .last (longer unbroken) (List.cons_ne_nil _ _)
    | cons unbroken ended others => exact .cons (longer unbroken) ended others

/-- An output has one cut into lines. -/
theorem broken_iff : Broken text lines ↔ brokenLines text = lines := by
  constructor
  · intro h
    induction h with
    | nil => rfl
    | last unbroken ne => exact brokenLines_unbroken unbroken ne
    | @cons line mark rest lines unbroken ended others ih =>
      have here := brokenLines_append unbroken (brokenLines_break ended)
      rwa [List.append_nil, ih] at here
  · rintro rfl
    exact broken_brokenLines text

/-- A line feed between two outputs ends the last line of the first one; if that line has ended already, a line of
nothing may come between the others. -/
theorem brokenLines_append_feed (text more : List Char) :
    ∃ gap, (∀ line ∈ gap, line = []) ∧
      brokenLines (text ++ '\n' :: more) = brokenLines text ++ gap ++ brokenLines more := by
  have feed (rest : List Char) : Break ['\n'] rest := .single (by decide) fun ret => absurd ret (by decide)
  have behind := broken_brokenLines more
  suffices h : ∀ lines, Broken text lines → ∃ gap, (∀ line ∈ gap, line = []) ∧
      Broken (text ++ '\n' :: more) (lines ++ gap ++ brokenLines more) by
    obtain ⟨gap, empty, broken⟩ := h _ (broken_brokenLines text)
    exact ⟨gap, empty, broken_iff.1 broken⟩
  intro lines broken
  induction broken with
  | nil =>
    have whole : Broken (['\n'] ++ more) ([] :: brokenLines more) := .blank (feed more) behind
    exact ⟨[[]], fun _ => List.mem_singleton.1, whole⟩
  | last unbroken ne => exact ⟨[], List.forall_mem_nil _, .cons unbroken (feed more) behind⟩
  | @cons line mark rest lines unbroken ended others ih =>
    obtain ⟨gap, empty, broken⟩ := ih
    rw [List.append_assoc, List.append_assoc]
    cases ended with
    | pair => exact ⟨gap, empty, .cons unbroken .pair broken⟩
    | @single c _ ends alone =>
      by_cases joined : c = '\r' ∧ rest = []
      · -- The carriage return that ended the output takes the line feed to itself.
        obtain ⟨rfl, rfl⟩ := joined
        obtain rfl : [] = lines := broken_iff.1 others
        have whole : Broken (line ++ (['\r', '\n'] ++ more)) (line :: brokenLines more) := .cons unbroken .pair behind
        exact ⟨[], List.forall_mem_nil _, whole⟩
      · refine ⟨gap, empty, .cons unbroken (.single ends fun ret => ?_) broken⟩
        cases rest with
        | nil => exact absurd ⟨ret, rfl⟩ joined
        | cons d rest => exact alone ret

/-- What is left of a line without the blanks at its ends. -/
inductive Trimmed : (line text : List Char) → Prop
  | intro {front text back : List Char} (before : ∀ c ∈ front, isBlank c = true) (behind : ∀ c ∈ back, isBlank c = true)
      (begins : text.head?.any isBlank = false) (ends : text.getLast?.any isBlank = false) :
      Trimmed (front ++ text ++ back) text

/-- A run that the class does not go on behind is dropped, and no more. -/
theorem dropWhile_append_of_stop (all : ∀ c ∈ front, test c = true) (stop : text.head?.any test = false) :
    (front ++ text).dropWhile test = text := by
  rw [List.dropWhile_append_of_pos all]
  cases text with
  | nil => rfl
  | cons c text => exact List.dropWhile_cons_of_neg (Bool.eq_false_iff.1 stop)

theorem head?_trimLeft (text : List Char) : (trimLeft text).head?.any isBlank = false := by
  have stop := List.head?_dropWhile_not isBlank text
  rw [trimLeft]
  cases first : (text.dropWhile isBlank).head? with
  | none => rfl
  | some c =>
    rw [first] at stop
    simpa using stop

theorem trimmed_trim (line : List Char) : Trimmed line (trim line) := by
  have right : trimRight line ++ line.rtakeWhile isBlank = line := List.rdropWhile_append_rtakeWhile
  have left : (trimRight line).takeWhile isBlank ++ trim line = trimRight line := List.takeWhile_append_dropWhile
  have ends : (trim line).getLast?.any isBlank = false := by
    by_cases empty : trim line = []
    · rw [empty]
      rfl
    · -- The last character is the last one that the blanks at the end left over.
      have same : (trimRight line).getLast? = (trim line).getLast? := by
        rw [← left, List.getLast?_append_of_ne_nil _ empty]
      have first := head?_trimLeft line.reverse
      rw [← same, trimRight, List.getLast?_reverse]
      exact first
  have whole : Trimmed ((trimRight line).takeWhile isBlank ++ trim line ++ line.rtakeWhile isBlank) (trim line) :=
    .intro (fun c => List.mem_takeWhile_imp) (fun c => List.mem_rtakeWhile_imp) (head?_trimLeft (trimRight line)) ends
  rwa [left, right] at whole

/-- A line has one text without blanks at its ends. -/
theorem trimmed_iff : Trimmed line text ↔ trim line = text := by
  constructor
  · rintro ⟨before, behind, begins, ends⟩
    rename_i front back
    have back' : ∀ c ∈ back.reverse, isBlank c = true := fun c mem => behind c (List.mem_reverse.1 mem)
    by_cases empty : text = []
    · subst empty
      have all : ∀ c ∈ (front ++ [] ++ back).reverse, isBlank c = true := by
        intro c mem
        rw [List.append_nil, List.mem_reverse, List.mem_append] at mem
        exact mem.elim (before c) (behind c)
      rw [trim, trimRight, List.dropWhile_eq_nil_iff.2 all]
      rfl
    · have stop : (front ++ text).reverse.head?.any isBlank = false := by
        rwa [List.head?_reverse, List.getLast?_append_of_ne_nil _ empty]
      rw [trim, trimRight, List.reverse_append, dropWhile_append_of_stop back' stop, List.reverse_reverse]
      exact dropWhile_append_of_stop before begins
  · rintro rfl
    exact trimmed_trim line

end MatlabTidy.Text
