import MatlabTidy.Proofs.Run.Assessing

/-!
# The two streams of the code checker

Both streams of a call are read as one text, in which a line feed stands between them, but no line is made of parts of
both: the advisories are those of the one stream and then those of the other (`Advisory.ofOutput_joinStreams`). The
score is computed from the texts of the advisories, in which their messages are found again, so that it is the sum of
what the messages are worth (`Checker.assessed_by_streams`).
-/

namespace MatlabTidy

namespace Advisory

/-- A line of nothing is no advisory. -/
theorem filterMap_parse?_of_empty {gap : List (List Char)} (empty : ∀ line ∈ gap, line = []) :
    (gap.filterMap fun line => parse? (Text.trim line)) = [] := by
  rw [List.filterMap_eq_nil_iff]
  intro line mem
  rw [empty line mem]
  rfl

/-- However the first text ends and the second begins, a line feed between them keeps their advisories apart. -/
theorem ofOutput_append_feed (text more : List Char) :
    ofOutput (text ++ '\n' :: more) = ofOutput text ++ ofOutput more := by
  obtain ⟨gap, empty, lines⟩ := Text.brokenLines_append_feed text more
  rw [ofOutput, lines, List.filterMap_append, List.filterMap_append, filterMap_parse?_of_empty empty, List.append_nil]
  rfl

/-- The advisories of both streams. -/
theorem ofOutput_joinStreams (output errors : String) :
    ofOutput (Checker.joinStreams output errors).toList = ofOutput output.toList ++ ofOutput errors.toList := by
  have none : ofOutput "".toList = [] := rfl
  by_cases first : output = ""
  · rw [first, Checker.joinStreams_right, none, List.nil_append]
  · by_cases second : errors = ""
    · rw [second, Checker.joinStreams_left first, none, List.append_nil]
    · rw [Checker.toList_joinStreams first second, ofOutput_append_feed]

end Advisory

namespace Score

/-- What texts of digits amount to. -/
def total (numbers : List (List Char)) : Nat := (numbers.map Text.digitsValue).foldr (· + ·) 0

/-- What a message adds to the score. -/
def worth (digitSum : Bool) (message : List Char) : Nat := total (counted digitSum message)

theorem total_append (numbers more : List (List Char)) : total (numbers ++ more) = total numbers + total more := by
  induction numbers with
  | nil => exact (Nat.zero_add _).symm
  | cons digits numbers ih =>
    simp only [total, List.cons_append, List.map_cons, List.foldr_cons] at ih ⊢
    rw [ih, Nat.add_assoc]

theorem sumValues_eq_ok {numbers : List (List Char)} {n : Nat} (h : sumValues numbers = .ok n) : n = total numbers := by
  induction numbers generalizing n with
  | nil =>
    cases h
    rfl
  | cons first rest ih =>
    rw [sumValues, value] at h
    split at h
    · cases h
    · cases others : sumValues rest with
      | error size =>
        rw [others] at h
        cases h
      | ok m =>
        rw [others] at h
        cases h
        rw [ih others]
        rfl

/-- Numbers are added up if none of them is too long. -/
theorem sumValues_eq_ok_iff {numbers : List (List Char)} {n : Nat} :
    sumValues numbers = .ok n ↔ (∀ digits ∈ numbers, digits.length ≤ Text.mostDigits) ∧ n = total numbers := by
  rw [← sumValues_ok_iff]
  constructor
  · intro h
    exact ⟨⟨n, h⟩, sumValues_eq_ok h⟩
  · rintro ⟨⟨m, h⟩, rfl⟩
    rwa [sumValues_eq_ok h] at h

/-- What the messages of advisories are worth together. -/
def sum (digitSum : Bool) (advisories : List Advisory) : Nat :=
  (advisories.map fun a => worth digitSum a.message).foldr (· + ·) 0

theorem sum_append (digitSum : Bool) (advisories more : List Advisory) :
    sum digitSum (advisories ++ more) = sum digitSum advisories + sum digitSum more := by
  induction advisories with
  | nil => exact (Nat.zero_add _).symm
  | cons a advisories ih =>
    simp only [sum, List.cons_append, List.map_cons, List.foldr_cons] at ih ⊢
    rw [ih, Nat.add_assoc]

/-- The numbers of all messages amount to what the messages are worth together. -/
theorem total_flatMap (digitSum : Bool) (advisories : List Advisory) :
    total (advisories.flatMap fun a => counted digitSum a.message) = sum digitSum advisories := by
  induction advisories with
  | nil => rfl
  | cons a advisories ih => rw [List.flatMap_cons, total_append, ih, sum, sum, List.map_cons, List.foldr_cons, worth]

end Score

namespace Checker

variable {checker : Checker} {output errors : String}

/-- The advisories of a call: those of its output, and then those of its errors. -/
def advisoriesOf (output errors : String) : List Advisory :=
  Advisory.ofOutput output.toList ++ Advisory.ofOutput errors.toList

theorem messageOf_of_mem {a : Advisory} (mem : a ∈ advisoriesOf output errors) :
    Score.messageOf a.text = a.message := by
  have read : ∀ {text : List Char}, a ∈ Advisory.ofOutput text → Score.messageOf a.text = a.message := by
    intro text mem
    obtain ⟨line, -, parsed⟩ := List.mem_filterMap.1 mem
    exact Advisory.messageOf_text parsed
  exact (List.mem_append.1 mem).elim read read

/-- The numbers that are counted are those of the messages. -/
theorem counted_joinStreams (checker : Checker) (output errors : String) :
    checker.counted (joinStreams output errors) =
      (advisoriesOf output errors).flatMap fun a => Score.counted checker.digitSum a.message := by
  rw [counted, Advisory.ofOutput_joinStreams, ← advisoriesOf, List.flatMap_map]
  exact List.flatMap_congr fun a mem => by rw [messageOf_of_mem mem]

/-- An output is assessed by its advisories and the total of its numbers. -/
theorem assess_eq_ok_iff {assessment : Assessment} :
    checker.assess output = .ok assessment ↔
      (∀ digits ∈ checker.counted output, digits.length ≤ Text.mostDigits) ∧
        assessment = ⟨Score.total (checker.counted output),
          (Advisory.ofOutput output.toList).map (String.ofList ∘ Advisory.text)⟩ := by
  have whole : checker.assess output = (Score.sumValues (checker.counted output)).map fun score =>
      ⟨score, (Advisory.ofOutput output.toList).map (String.ofList ∘ Advisory.text)⟩ := by
    rw [← List.map_map]
    rfl
  rw [whole]
  cases sum : Score.sumValues (checker.counted output) with
  | error size =>
    refine iff_of_false nofun fun h => ?_
    cases sum.symm.trans (Score.sumValues_eq_ok_iff.2 ⟨h.1, rfl⟩)
  | ok n =>
    obtain ⟨short, rfl⟩ := Score.sumValues_eq_ok_iff.1 sum
    constructor
    · intro h
      exact ⟨short, (Except.ok.inj h).symm⟩
    · rintro ⟨-, rfl⟩
      rfl

theorem check_eq_ok_iff (checker : Checker) (file output errors : String) (w : World) {assessment : Assessment} :
    (∃ w', (checker.check file (.finished output errors)).run w = .ok assessment w') ↔
      checker.assess (joinStreams output errors) = .ok assessment := by
  obtain ⟨events, run⟩ := run_check_finished checker file output errors w
  rw [run]
  simp only [Job.run_ofExcept_eq_ok]
  constructor
  · rintro ⟨_, assessed, -⟩
    exact assessed
  · intro assessed
    exact ⟨_, assessed, rfl⟩

/-- The advisories of a call are those of its output, and then those of its errors, each stream read by itself. The
message of each is found again in its text. If no number in the messages is too long, then there is an assessment with
these advisories, whose score is the sum of what the messages are worth, in either way of scoring. -/
theorem assessed_by_streams (checker : Checker) (file output errors : String) (w : World) :
    (∀ a ∈ advisoriesOf output errors, Score.messageOf a.text = a.message) ∧
    ∀ assessment, (∃ w', (checker.check file (.finished output errors)).run w = .ok assessment w') ↔
      (∀ a ∈ advisoriesOf output errors, ∀ digits ∈ Score.counted checker.digitSum a.message,
        digits.length ≤ Text.mostDigits) ∧
      assessment.advisories = (Advisory.ofOutput output.toList).map (String.ofList ∘ Advisory.text) ++
        (Advisory.ofOutput errors.toList).map (String.ofList ∘ Advisory.text) ∧
      assessment.score = Score.sum checker.digitSum (Advisory.ofOutput output.toList) +
        Score.sum checker.digitSum (Advisory.ofOutput errors.toList) := by
  refine ⟨fun a => messageOf_of_mem, fun assessment => ?_⟩
  have short : (∀ digits ∈ checker.counted (joinStreams output errors), digits.length ≤ Text.mostDigits) ↔
      ∀ a ∈ advisoriesOf output errors, ∀ digits ∈ Score.counted checker.digitSum a.message,
        digits.length ≤ Text.mostDigits := by
    rw [counted_joinStreams, List.forall_mem_flatMap]
  have worth : Score.total (checker.counted (joinStreams output errors)) =
      Score.sum checker.digitSum (Advisory.ofOutput output.toList) +
        Score.sum checker.digitSum (Advisory.ofOutput errors.toList) := by
    rw [counted_joinStreams, Score.total_flatMap, advisoriesOf, Score.sum_append]
  rw [check_eq_ok_iff, assess_eq_ok_iff, short, worth, Advisory.ofOutput_joinStreams, List.map_append]
  refine and_congr_right fun _ => ?_
  obtain ⟨score, texts⟩ := assessment
  simp only [Assessment.mk.injEq, Int.natCast_add, and_comm]

/-- One stream ends in a carriage return and the other begins with a line feed. -/
theorem assessed_by_streams_both :
    ∃ w', (check ⟨["mlint"], false, 120, true⟩ "a.m" (.finished "L 1 (C 1): CABE: McCabe complexity of f is 3.\r"
      "\nL 2 (C 5-9): McCabe complexity of g: h is 4")).run ⟨⟨[], [], []⟩, none, false, #[]⟩ =
        .ok ⟨7, ["L 1 (C 1): McCabe complexity of f is 3.", "L 2 (C 5-9): McCabe complexity of g: h is 4"]⟩ w' := by
  refine ((assessed_by_streams _ _ _ _ _).2 _).2 ⟨?_, ?_, ?_⟩
  · decide +kernel
  · decide +kernel
  · decide +kernel

end Checker

end MatlabTidy
