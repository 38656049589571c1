import MatlabTidy.Proofs.Checker.Numbers
import MatlabTidy.Proofs.Run.File

/-!
# When a file is assessed

Whatever the call of the code checker came to, the file gets an assessment, unless the score is to be the sum
of a number of more than `Text.mostDigits` digits (`Checker.assessed_iff`). Such a number stands in the output
of the call, so an output without one is always assessed; and the failure tells its length.
-/

namespace MatlabTidy.Checker

variable {checker : Checker} {file output errors : String} {w w' : World}

theorem run_check_finished (checker : Checker) (file output errors : String) (w : World) :
    ∃ events, (checker.check file (.finished output errors)).run w =
      (Job.ofExcept .numberTooLong (checker.assess (joinStreams output errors))).run (w.saying events) :=
  ⟨_, Job.run_bind_of_ok (Job.run_log _ _ _)⟩

theorem run_warn_none (checker : Checker) (message : String) (w : World) :
    (do checker.warn message; return Assessment.none : Job Assessment).run w =
      .ok .none (w.saying [Scan.warningOf checker message]) := by
  rw [Job.run_bind_of_ok (Scan.run_warn checker message w)]
  rfl

/-- Without an output there is nothing to assess, and the call only speaks. -/
theorem run_check_unfinished (checker : Checker) (file : String) {outcome : ProcessOutcome}
    (unfinished : ∀ output errors, outcome ≠ .finished output errors) (w : World) :
    ∃ w', (checker.check file outcome).run w = .ok .none w' := by
  cases outcome with
  | finished output errors => exact absurd rfl (unfinished output errors)
  | missing =>
    unfold check
    dsimp only
    rw [Job.run_bind_of_ok (EStateM.run_get w)]
    split
    · rw [Job.run_bind_of_ok (Scan.run_warn checker _ w)]
      exact ⟨_, rfl⟩
    · exact ⟨w, rfl⟩
  | timedOut | refused => exact ⟨_, run_warn_none checker _ w⟩

/-- The numbers that the score of a call is the sum of. -/
def numbersOf (checker : Checker) : ProcessOutcome → List (List Char)
  | .finished output errors => checker.counted (joinStreams output errors)
  | _ => []

/-- Every number of a call is a run of digits in one of its streams. -/
theorem run_of_mem_numbersOf {digits : List Char}
    (mem : digits ∈ checker.numbersOf (.finished output errors)) :
    (∀ c ∈ digits, Text.isDigit c = true) ∧ (digits <:+: output.toList ∨ digits <:+: errors.toList) := by
  obtain ⟨inside, all⟩ := checker.infix_of_mem_counted mem
  refine ⟨all, infix_of_joinStreams (fun broken => ?_) inside⟩
  exact absurd (all _ broken) (by decide)

/-- A finished call is assessed if none of its numbers is too long. -/
theorem check_finished_ok_iff (checker : Checker) (file output errors : String) (w : World) :
    (∃ assessment w', (checker.check file (.finished output errors)).run w = .ok assessment w') ↔
      ∀ digits ∈ checker.numbersOf (.finished output errors), digits.length ≤ Text.mostDigits := by
  obtain ⟨events, run⟩ := run_check_finished checker file output errors w
  rw [run, numbersOf, ← checker.assess_ok_iff]
  simp only [Job.run_ofExcept_eq_ok]
  constructor
  · rintro ⟨assessment, _, assessed, -⟩
    exact ⟨assessment, assessed⟩
  · rintro ⟨assessment, assessed⟩
    exact ⟨assessment, _, assessed, rfl⟩

/-- The failure of a finished call is that one of its numbers is too long. -/
theorem exists_of_check_error {failure : Failure}
    (h : (checker.check file (.finished output errors)).run w = .error failure w') :
    ∃ digits ∈ checker.numbersOf (.finished output errors), Text.mostDigits < digits.length ∧
      failure = .numberTooLong digits.length := by
  obtain ⟨events, run⟩ := run_check_finished checker file output errors w
  rw [run] at h
  cases assessed : checker.assess (joinStreams output errors) with
  | ok assessment =>
    rw [assessed] at h
    cases h
  | error size =>
    rw [assessed] at h
    cases h
    obtain ⟨digits, mem, long, rfl⟩ := checker.exists_of_assess_error assessed
    exact ⟨digits, mem, long, rfl⟩

/-- A call of the code checker gives an assessment exactly if none of the numbers that are added up is too
long. Otherwise it fails with the length of such a number. Each number stands in one of the two streams. -/
theorem assessed_iff (checker : Checker) (file : String) (outcome : ProcessOutcome) (w : World) :
    ((∃ assessment w', (checker.check file outcome).run w = .ok assessment w') ↔
      ∀ digits ∈ checker.numbersOf outcome, digits.length ≤ Text.mostDigits) ∧
    (∀ failure w', (checker.check file outcome).run w = .error failure w' →
      ∃ digits ∈ checker.numbersOf outcome, Text.mostDigits < digits.length ∧
        failure = .numberTooLong digits.length) ∧
    ∀ digits ∈ checker.numbersOf outcome, (∀ c ∈ digits, Text.isDigit c = true) ∧
      ∃ output errors, outcome = .finished output errors ∧
        (digits <:+: output.toList ∨ digits <:+: errors.toList) := by
  by_cases finished : ∃ output errors, outcome = .finished output errors
  · obtain ⟨output, errors, rfl⟩ := finished
    refine ⟨check_finished_ok_iff checker file output errors w, fun failure w' => exists_of_check_error,
      fun digits mem => ?_⟩
    obtain ⟨all, inside⟩ := run_of_mem_numbersOf mem
    exact ⟨all, output, errors, rfl, inside⟩
  · have none : checker.numbersOf outcome = [] := by
      cases outcome with
      | finished output errors => exact absurd ⟨output, errors, rfl⟩ finished
      | missing | timedOut | refused => rfl
    obtain ⟨w', run⟩ := run_check_unfinished checker file (fun output errors h => finished ⟨output, errors, h⟩) w
    rw [none, run]
    exact ⟨iff_of_true ⟨_, _, rfl⟩ nofun, nofun, nofun⟩

section Stated

variable (tail : List Char)

/-- A message that states a complexity. -/
def statement (digits : List Char) : List Char := "McCabe complexity of f is ".toList ++ digits

/-- An advisory with that message, on a line of its own. -/
def statementLine (digits : List Char) : List Char := "L 1 (C 1): ".toList ++ statement digits

theorem parse?_statementLine :
    Advisory.parse? (statementLine ('1' :: tail)) = some ⟨['1'], ['1'], statement ('1' :: tail)⟩ := rfl

variable {tail} (all : ∀ c ∈ '1' :: tail, Text.isDigit c = true)
include all

theorem complexity?_statement : Score.complexity? (statement ('1' :: tail)) = some ('1' :: tail) := by
  have digits : Text.span? Text.isDigit ('1' :: tail) = some ('1' :: tail, []) :=
    Text.span?_eq_some.2 ⟨(List.append_nil _).symm, List.cons_ne_nil _ _, all, rfl⟩
  have stated : Score.statedNumber? ('f' :: (" is ".toList ++ '1' :: tail)) = some ('1' :: tail) := by
    have early : Text.skip? " is " ('f' :: (" is ".toList ++ '1' :: tail)) = none := rfl
    have found : Text.skip? " is " (" is ".toList ++ '1' :: tail) = some ('1' :: tail) := Text.skip?_eq_some.2 rfl
    rw [Score.statedNumber?, early]
    change Score.statedNumber? (" is ".toList ++ '1' :: tail) = _
    rw [Score.statedNumber?.eq_def, found, Option.bind_some, digits]
  have here : Score.complexityAt? (statement ('1' :: tail)) = some ('1' :: tail) :=
    Score.complexityAt?_eq_some (Text.skip?_eq_some.2 rfl) rfl (Text.skip?_eq_some.2 rfl) stated
  change Score.complexityAt? ('M' :: ("cCabe complexity of f is ".toList ++ '1' :: tail)) = _ at here
  change Score.complexity? ('M' :: ("cCabe complexity of f is ".toList ++ '1' :: tail)) = _
  rw [Score.complexity?, here]

/-- In either way of scoring, the number of the message is the one that counts. -/
theorem counted_statement (digitSum : Bool) : Score.counted digitSum (statement ('1' :: tail)) = ['1' :: tail] := by
  cases digitSum with
  | false => exact congrArg Option.toList (complexity?_statement all)
  | true =>
    have words : "McCabe complexity of f is ".toList.all (fun c => !Text.isDigit c) = true := by decide +kernel
    have wordy : ∀ c ∈ "McCabe complexity of f is ".toList, Text.isDigit c = false := fun c mem =>
      (Bool.not_eq_true' _).mp (List.all_eq_true.1 words c mem)
    exact (Score.numbers_append wordy _).trans (Score.numbers_of_forall all (List.cons_ne_nil _ _))

end Stated

/-- What every character of a text satisfies, they satisfy when the last one is repeated. -/
theorem forall_of_all_append_singleton {front : List Char} {last : Char} {test : Char → Bool}
    (h : (front ++ [last]).all test = true) (n : Nat) :
    ∀ c ∈ front ++ last :: List.replicate n last, test c = true := by
  rw [List.all_append, Bool.and_eq_true, List.all_eq_true, List.all_cons, Bool.and_eq_true] at h
  intro c mem
  rcases List.mem_append.1 mem with mem | mem
  · exact h.1 c mem
  · rw [← List.replicate_succ] at mem
    rw [List.eq_of_mem_replicate mem]
    exact h.2.1

/-- An output that states a complexity of `n + 1` digits. -/
def statementOutput (n : Nat) : String := String.ofList (statementLine ('1' :: List.replicate n '1'))

theorem ofOutput_statementLine (n : Nat) : Advisory.ofOutput (statementLine ('1' :: List.replicate n '1')) =
    [⟨['1'], ['1'], statement ('1' :: List.replicate n '1')⟩] := by
  have ones : '1' :: List.replicate n '1' = List.replicate n '1' ++ ['1'] := List.replicate_succ'
  have known : ("L 1 (C 1): ".toList ++ "McCabe complexity of f is ".toList ++ ['1']).all
      (fun c => !Text.isBreak c) = true := by decide +kernel
  have unbroken : ∀ c ∈ statementLine ('1' :: List.replicate n '1'), Text.isBreak c = false := by
    have all := forall_of_all_append_singleton known n
    rw [List.append_assoc] at all
    intro c mem
    exact (Bool.not_eq_true' _).mp (all c mem)
  have single := Text.brokenLines_unbroken unbroken (List.cons_ne_nil _ _)
  have trimmed : Text.trim (statementLine ('1' :: List.replicate n '1')) =
      statementLine ('1' :: List.replicate n '1') := by
    rw [ones]
    exact Text.trim_eq_self (by decide) (by decide)
      (" 1 (C 1): McCabe complexity of f is ".toList ++ List.replicate n '1')
  rw [Advisory.ofOutput, single, List.filterMap_cons, trimmed, parse?_statementLine]
  rfl

theorem numbersOf_statementOutput (checker : Checker) (n : Nat) :
    checker.numbersOf (.finished (statementOutput n) "") = ['1' :: List.replicate n '1'] := by
  have ne : statementOutput n ≠ "" := by
    intro empty
    have chars := congrArg String.toList empty
    rw [statementOutput, String.toList_ofList] at chars
    exact List.cons_ne_nil _ _ chars
  have all : ∀ c ∈ '1' :: List.replicate n '1', Text.isDigit c = true := by
    rw [← List.replicate_succ]
    intro c mem
    rw [List.eq_of_mem_replicate mem]
    decide
  have message := Advisory.messageOf_text (parse?_statementLine (List.replicate n '1'))
  rw [numbersOf, joinStreams_left ne, counted, statementOutput, String.toList_ofList, ofOutput_statementLine,
    List.map_singleton, List.flatMap_singleton, message, counted_statement all]

/-- In either way of scoring there is no assessment of an output that states a complexity of 4301 digits. -/
theorem unassessed_statement :
    (∀ assessment w', (check ⟨["mlint"], false, 120, true⟩ "a.m" (.finished (statementOutput 4300) "")).run
      ⟨⟨[], [], []⟩, none, false, #[]⟩ ≠ .ok assessment w') ∧
    ∀ assessment w', (check ⟨["mlint"], true, 120, true⟩ "a.m" (.finished (statementOutput 4300) "")).run
      ⟨⟨[], [], []⟩, none, false, #[]⟩ ≠ .ok assessment w' := by
  have none : ∀ digitSum assessment w',
      (check ⟨["mlint"], digitSum, 120, true⟩ "a.m" (.finished (statementOutput 4300) "")).run
        ⟨⟨[], [], []⟩, none, false, #[]⟩ ≠ .ok assessment w' := by
    intro digitSum assessment w' run
    have short := (check_finished_ok_iff _ _ _ _ _).1 ⟨assessment, w', run⟩
    rw [numbersOf_statementOutput, List.forall_mem_singleton, List.length_cons, List.length_replicate] at short
    exact absurd short (by decide)
  exact ⟨none false, none true⟩

end MatlabTidy.Checker
