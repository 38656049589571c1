import MatlabTidy.Checker.Basic
import MatlabTidy.Proofs.Checker.Grammar

/-!
# The numbers in the output of the code checker

The score of a file is the sum of numbers that stand in the messages of its advisories (`Checker.counted`).
Each of them is a run of digits in one of the two output streams (`Checker.infix_of_counted`): the message of
an advisory is a part of the line that the advisory was read from (`Advisory.message_infix`), and it is found
again in the text of the advisory (`Advisory.messageOf_text`). The sum fails at a number that is too long, and
at no other (`Score.sumValues_ok_iff`).
-/

namespace MatlabTidy

open Text (isDigit)

namespace Advisory

variable {text : List Char} {a : Advisory}

theorem suffix_of_withoutLabel (text : List Char) : withoutLabel text <:+ text := by
  unfold withoutLabel
  split
  · rename_i word rest labelled
    split
    · rename_i blanks message gap
      obtain ⟨rfl, -⟩ := Text.span?_eq_some.1 labelled
      obtain ⟨rfl, -⟩ := Text.span?_eq_some.1 gap
      exact (List.suffix_append _ _).trans ((List.suffix_cons _ _).trans (List.suffix_append _ _))
    · exact List.suffix_rfl
  · exact List.suffix_rfl

/-- What is read from a line that is an advisory: a number of digits, columns, and the message in what ends
the line. -/
theorem parse?_eq_some (h : parse? text = some a) :
    (∃ behind, behind <:+ text ∧ a.message = withoutLabel (Text.trimLeft behind)) ∧
      (∀ c ∈ a.line, isDigit c = true) ∧ ∀ c ∈ a.columns, isColumnChar c = true := by
  obtain ⟨rest, written, told⟩ := parse?_eq_some_iff.1 h
  generalize a.line = line, a.columns = columns at written ⊢
  obtain ⟨blank, digits, blank', blank'', range⟩ := written
  exact ⟨⟨rest, List.suffix_append _ _, (tells_iff.1 told).symm⟩, digits.all, range.all⟩

/-- The message of an advisory ends the line that it was read from. -/
theorem message_suffix (h : parse? text = some a) : a.message <:+ text := by
  obtain ⟨⟨behind, ends, message⟩, -, -⟩ := parse?_eq_some h
  rw [message]
  exact (suffix_of_withoutLabel _).trans ((List.dropWhile_suffix _).trans ends)

/-- The message of an advisory is a part of the output. -/
theorem message_infix {output : List Char} (mem : a ∈ ofOutput output) : a.message <:+: output := by
  obtain ⟨line, mem_lines, parsed⟩ := List.mem_filterMap.1 mem
  have trimmed : Text.trim line <:+: line := by
    have right : Text.trimRight line <+: line := by
      have reversed := List.dropWhile_suffix (l := line.reverse) Text.isBlank
      simpa [Text.trimRight] using List.reverse_prefix.2 reversed
    exact (List.dropWhile_suffix _).isInfix.trans right.isInfix
  exact (message_suffix parsed).isInfix.trans
    (trimmed.trans ((Text.infix_of_mem_brokenLines output).2 line mem_lines))

/-- The message is found again in the text of the advisory: no colon stands before the one in front of it. -/
theorem messageOf_text (h : parse? text = some a) : Score.messageOf a.text = a.message := by
  obtain ⟨-, line, columns⟩ := parse?_eq_some h
  have absent : ':' ∉ "L ".toList ++ a.line ++ " (C ".toList ++ a.columns ++ [')'] := by
    have noDigit : isDigit ':' = false := by decide
    intro mem
    simp only [List.mem_append] at mem
    rcases mem with (((mem | mem) | mem) | mem) | mem
    · exact absurd mem (by decide)
    · rw [line _ mem] at noDigit
      cases noDigit
    · exact absurd mem (by decide)
    · have column := columns _ mem
      rw [isColumnChar, noDigit] at column
      exact absurd column (by decide)
    · exact absurd mem (by decide)
  have sep : ": ".toList = ':' :: [' '] := rfl
  have found := Text.after?_append sep absent a.message
  have same : a.text = "L ".toList ++ a.line ++ " (C ".toList ++ a.columns ++ [')'] ++ ": ".toList ++ a.message := by
    simp [Advisory.text]
  rw [Score.messageOf, same, found]
  rfl

end Advisory

namespace Score

variable {message digits : List Char}

/-- The numbers of a message are runs of digits in it. -/
theorem infix_of_mem_numbers (message : List Char) :
    ∀ digits ∈ numbers message, digits <:+: message ∧ ∀ c ∈ digits, isDigit c = true := by
  fun_induction numbers message with
  | case1 => exact nofun
  | case2 c rest digit ih =>
    intro digits mem
    rcases List.mem_cons.1 mem with rfl | mem
    · refine ⟨List.IsPrefix.isInfix (List.cons_prefix_cons.2 ⟨rfl, List.takeWhile_prefix _⟩), fun d hd => ?_⟩
      rcases List.mem_cons.1 hd with rfl | hd
      · exact digit
      · exact List.mem_takeWhile_imp hd
    · obtain ⟨inside, all⟩ := ih digits mem
      exact ⟨inside.trans ((List.dropWhile_suffix _).isInfix.trans (List.suffix_cons c rest).isInfix), all⟩
  | case3 c rest digit ih =>
    intro digits mem
    obtain ⟨inside, all⟩ := ih digits mem
    exact ⟨inside.trans (List.suffix_cons c rest).isInfix, all⟩

/-- Characters in front of the first digit do not matter. -/
theorem numbers_append {front : List Char} (h : ∀ c ∈ front, isDigit c = false) (text : List Char) :
    numbers (front ++ text) = numbers text := by
  induction front with
  | nil => rfl
  | cons c front ih =>
    rw [List.cons_append, numbers, h c List.mem_cons_self]
    exact ih fun d hd => h d (List.mem_cons_of_mem _ hd)

theorem numbers_of_forall (h : ∀ c ∈ digits, isDigit c = true) (ne : digits ≠ []) : numbers digits = [digits] := by
  obtain ⟨c, rest, rfl⟩ := List.exists_cons_of_ne_nil ne
  have all : ∀ d ∈ rest, isDigit d = true := fun d hd => h d (List.mem_cons_of_mem _ hd)
  rw [numbers, if_pos (h c List.mem_cons_self), List.takeWhile_eq_self_iff.2 all, List.dropWhile_eq_nil_iff.2 all,
    numbers]

theorem infix_of_statedNumber? (h : statedNumber? message = some digits) :
    digits <:+: message ∧ ∀ c ∈ digits, isDigit c = true := by
  fun_induction statedNumber? message with
  | case1 text found rest stated =>
    obtain rfl := Option.some.inj h
    obtain ⟨behind, skipped, spanned⟩ := Option.bind_eq_some_iff.1 stated
    obtain rfl := Text.skip?_eq_some.1 skipped
    obtain ⟨rfl, -, all, -⟩ := Text.span?_eq_some.1 spanned
    exact ⟨(List.prefix_append _ _).isInfix.trans (List.suffix_append _ _).isInfix, all⟩
  | case2 => cases h
  | case3 => cases h
  | case4 c rest _ _ ih =>
    obtain ⟨inside, all⟩ := ih h
    exact ⟨inside.trans (List.suffix_cons c rest).isInfix, all⟩

theorem complexityAt?_eq_some {rest behind : List Char} (name : Text.skip? "McCabe " message = some rest)
    (plain : Text.skip? "cyclomatic " rest = none) (words : Text.skip? "complexity of " rest = some behind)
    (stated : statedNumber? behind = some digits) : complexityAt? message = some digits := by
  simp only [complexityAt?, name, plain, words, stated, Option.bind_eq_bind, Option.bind_some, Option.getD_none]

theorem infix_of_complexityAt? (h : complexityAt? message = some digits) :
    digits <:+: message ∧ ∀ c ∈ digits, isDigit c = true := by
  simp only [complexityAt?, Option.bind_eq_bind, Option.bind_eq_some_iff] at h
  obtain ⟨rest, name, rest', words, stated⟩ := h
  have optional : (Text.skip? "cyclomatic " rest).getD rest <:+ rest := by
    cases skipped : Text.skip? "cyclomatic " rest with
    | none => exact List.suffix_rfl
    | some behind => exact ⟨_, (Text.skip?_eq_some.1 skipped).symm⟩
  have tail : rest' <:+ message := by
    rw [Text.skip?_eq_some.1 name]
    rw [Text.skip?_eq_some.1 words] at optional
    exact (List.suffix_append _ _).trans (optional.trans (List.suffix_append _ _))
  obtain ⟨inside, all⟩ := infix_of_statedNumber? stated
  exact ⟨inside.trans tail.isInfix, all⟩

theorem infix_of_complexity? (h : complexity? message = some digits) :
    digits <:+: message ∧ ∀ c ∈ digits, isDigit c = true := by
  fun_induction complexity? message with
  | case1 => cases h
  | case2 c rest found stated =>
    obtain rfl := Option.some.inj h
    exact infix_of_complexityAt? stated
  | case3 c rest _ ih =>
    obtain ⟨inside, all⟩ := ih h
    exact ⟨inside.trans (List.suffix_cons c rest).isInfix, all⟩

/-- In either way of scoring, the numbers that a message adds to the score are runs of digits in it. -/
theorem infix_of_mem_counted {digitSum : Bool} (mem : digits ∈ counted digitSum message) :
    digits <:+: message ∧ ∀ c ∈ digits, isDigit c = true := by
  unfold counted at mem
  split at mem
  · exact infix_of_mem_numbers message digits mem
  · exact infix_of_complexity? (Option.mem_toList.1 mem)

/-- Numbers can be added up if none of them is too long. -/
theorem sumValues_ok_iff (numbers : List (List Char)) :
    (∃ n, sumValues numbers = .ok n) ↔ ∀ digits ∈ numbers, digits.length ≤ Text.mostDigits := by
  induction numbers with
  | nil => simp [sumValues]
  | cons first rest ih =>
    rw [sumValues, value, List.forall_mem_cons, ← ih]
    by_cases long : Text.mostDigits < first.length
    · simp [long, bind, Except.bind, Nat.not_le_of_lt long]
    · rw [if_neg long]
      cases sumValues rest with
      | error n => simp [bind, Except.bind]
      | ok n => simp [bind, Except.bind, pure, Except.pure, Nat.le_of_not_lt long]

/-- A sum fails with the length of a number that is too long. -/
theorem exists_of_sumValues_error {numbers : List (List Char)} {size : Nat} (h : sumValues numbers = .error size) :
    ∃ digits ∈ numbers, Text.mostDigits < digits.length ∧ size = digits.length := by
  induction numbers with
  | nil => cases h
  | cons first rest ih =>
    rw [sumValues, value] at h
    by_cases long : Text.mostDigits < first.length
    · rw [if_pos long] at h
      cases h
      exact ⟨first, List.mem_cons_self, long, rfl⟩
    · rw [if_neg long] at h
      cases others : sumValues rest with
      | error n =>
        rw [others] at h
        cases h
        obtain ⟨digits, mem, found⟩ := ih others
        exact ⟨digits, List.mem_cons_of_mem _ mem, found⟩
      | ok n =>
        rw [others] at h
        cases h

end Score

namespace Checker

variable (checker : Checker) {output errors : String} {digits : List Char}

/-- The numbers, as texts of digits, that the score of an output is the sum of. -/
def counted (output : String) : List (List Char) :=
  ((Advisory.ofOutput output.toList).map Advisory.text).flatMap fun advisory =>
    Score.counted checker.digitSum (Score.messageOf advisory)

/-- An output is assessed if none of its numbers is too long. -/
theorem assess_ok_iff (output : String) :
    (∃ assessment, checker.assess output = .ok assessment) ↔
      ∀ digits ∈ checker.counted output, digits.length ≤ Text.mostDigits := by
  rw [← Score.sumValues_ok_iff]
  change (∃ assessment, (Score.sumValues (checker.counted output) >>= fun score => _) = .ok assessment) ↔ _
  cases Score.sumValues (checker.counted output) with
  | error n => simp [bind, Except.bind]
  | ok n => simp [bind, Except.bind, pure, Except.pure]

theorem exists_of_assess_error {size : Nat} (h : checker.assess output = .error size) :
    ∃ digits ∈ checker.counted output, Text.mostDigits < digits.length ∧ size = digits.length := by
  refine Score.exists_of_sumValues_error ?_
  change (Score.sumValues (checker.counted output) >>= fun score => _) = .error size at h
  cases sum : Score.sumValues (checker.counted output) with
  | error n =>
    rw [sum] at h
    cases h
    rfl
  | ok n =>
    rw [sum] at h
    cases h

/-- A number that is counted is a run of digits in the output. -/
theorem infix_of_mem_counted (mem : digits ∈ checker.counted output) :
    digits <:+: output.toList ∧ ∀ c ∈ digits, isDigit c = true := by
  obtain ⟨_, text, inside⟩ := List.mem_flatMap.1 mem
  obtain ⟨a, here, rfl⟩ := List.mem_map.1 text
  obtain ⟨line, -, parsed⟩ := List.mem_filterMap.1 here
  rw [Advisory.messageOf_text parsed] at inside
  obtain ⟨part, all⟩ := Score.infix_of_mem_counted inside
  exact ⟨part.trans (Advisory.message_infix here), all⟩

theorem joinStreams_left (ne : output ≠ "") : joinStreams output "" = output := by
  simp [joinStreams, ne]

theorem joinStreams_right (errors : String) : joinStreams "" errors = errors := by
  by_cases ne : errors = "" <;> simp [joinStreams, ne]

/-- Two streams that are not empty are joined by a line feed. -/
theorem toList_joinStreams (ne : output ≠ "") (ne' : errors ≠ "") :
    (joinStreams output errors).toList = output.toList ++ '\n' :: errors.toList := by
  simp [joinStreams, ne, ne']

/-- A run without a line break that stands in the joined streams stands in one of them. -/
theorem infix_of_joinStreams (unbroken : '\n' ∉ digits) (h : digits <:+: (joinStreams output errors).toList) :
    digits <:+: output.toList ∨ digits <:+: errors.toList := by
  by_cases first : output = ""
  · rw [first, joinStreams_right] at h
    exact .inr h
  · by_cases second : errors = ""
    · rw [second, joinStreams_left first] at h
      exact .inl h
    · rw [toList_joinStreams first second] at h
      exact Text.infix_of_infix_append_cons unbroken h

end Checker

end MatlabTidy
