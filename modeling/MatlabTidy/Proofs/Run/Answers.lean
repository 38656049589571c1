import MatlabTidy.Proofs.Charset.Writing
import MatlabTidy.Proofs.Rule.Bounds
import MatlabTidy.Proofs.Run.Lines
import MatlabTidy.Proofs.Run.Trace
import Mathlib.Algebra.BigOperators.Group.List.Basic

/-!
# The questions of an interactive scan, and their answers

An interactive scan asks one question for each rule that finds something on a line that is checked
(`Scan.questions`). That the questions do not depend on the answers is the invariant of the turns: the line is by
now respaced by the rules whose fixes were accepted, and a rule that has not had its turn finds on it as much as it
found at first (`Line.run_turns_answered`). So the answers come to a set of rules for each line
(`granted`) and the scan writes the lines as the rules of these sets repair them (`Scan.run_scanLines_answered`).
-/

namespace MatlabTidy

open Rule (table)
open World (Tells)

/-- What the operator is asked about: the fix of a rule on a line. -/
structure Question where
  number : Nat
  text : List Char
  rule : Spacing
  deriving DecidableEq

/-- What of a question is heard in the trace. -/
def Question.heard (question : Question) : Int × String := (question.number, question.rule.rule.reason)

/-- A question and the key that is pressed. -/
abbrev Answer := Question × String

/-- Whether an answer accepts the fix of a rule. -/
def Answer.grants (answer : Answer) (s : Spacing) : Bool :=
  decide (answer.1.rule = s) && FixPrompt.accepts answer.2

/-- The rules whose fixes are accepted on the line of the given number. -/
def grantedOn (answers : List Answer) (number : Nat) (s : Spacing) : Bool :=
  answers.any fun answer => decide (answer.1.number = number) && Answer.grants answer s

/-- The rules whose fixes are accepted by some answer. -/
def granted (answers : List Answer) (s : Spacing) : Bool := answers.any fun answer => Answer.grants answer s

/-- The number of columns of a rule on the lines on which its fix is accepted. -/
def fixesOf (answers : List Answer) (s : Spacing) : Nat :=
  (answers.map fun answer => if Answer.grants answer s then (s.rule.columns answer.1.text).length else 0).foldr
    (· + ·) 0

section Answers

variable {answers : List Answer} {s : Spacing}

theorem fixesOf_cons (answer : Answer) (answers : List Answer) (s : Spacing) :
    fixesOf (answer :: answers) s =
      (if Answer.grants answer s then (s.rule.columns answer.1.text).length else 0) + fixesOf answers s := by
  rw [fixesOf, List.map_cons, List.foldr_cons, fixesOf]

theorem fixesOf_append (answers more : List Answer) (s : Spacing) :
    fixesOf (answers ++ more) s = fixesOf answers s + fixesOf more s := by
  induction answers with
  | nil => exact (Nat.zero_add _).symm
  | cons answer answers ih => rw [List.cons_append, fixesOf_cons, ih, fixesOf_cons, Nat.add_assoc]

/-- Answers about other rules fix nothing for a rule. -/
theorem fixesOf_of_forall_ne (others : ∀ answer ∈ answers, answer.1.rule ≠ s) : fixesOf answers s = 0 := by
  induction answers with
  | nil => rfl
  | cons answer answers ih =>
    obtain ⟨here, there⟩ := List.forall_mem_cons.1 others
    rw [fixesOf_cons, ih there]
    simp [Answer.grants, here]

theorem grants_of_accepts {answer : Answer} (accepted : FixPrompt.accepts answer.2 = true) (s : Spacing) :
    Answer.grants answer s = decide (answer.1.rule = s) := by
  rw [Answer.grants, accepted, Bool.and_true]

theorem grants_of_rejects {answer : Answer} (rejected : FixPrompt.accepts answer.2 = false) (s : Spacing) :
    Answer.grants answer s = false := by
  rw [Answer.grants, rejected, Bool.and_false]

end Answers

namespace World

variable {w w₁ w' : World} {answers others : List Answer} {more : List String}

/-- The questions were asked in between, and the keys were pressed for them. -/
structure Answered (answers : List Answer) (left : List String) (w w' : World) : Prop where
  keys : w'.keys = some left
  tells : Tells Event.asked? w w' (answers.map fun answer => answer.1.heard)

theorem Answered.trans {left : List String} (h : Answered answers left w w₁) (h' : Answered others more w₁ w') :
    Answered (answers ++ others) more w w' where
  keys := h'.keys
  tells := by
    rw [List.map_append]
    exact h.tells.trans h'.tells

/-- Where nobody is asked no key is pressed. -/
theorem answered_saying (keys : w.keys = some more) {events : List Event}
    (unheard : ∀ event ∈ events, event.asked? = none) : Answered [] more w (w.saying events) where
  keys := keys
  tells := by
    have told := tells_saying Event.asked? w events
    rwa [List.filterMap_eq_nil_iff.2 unheard] at told

end World

open World (Answered)

namespace Line

variable (recursive : Bool) {number : Nat} {line : List Char} {on : Spacing → Bool} {s : Spacing}
variable {answers : List Answer} {more : List String} {w : World}

theorem unheard_reports (options : Options) (number : Nat) (line : List Char) (rule : Rule) (columns : Columns) :
    ∀ event ∈ reports options number line rule columns, event.asked? = none := by
  unfold reports
  split
  · exact fun event mem => absurd mem List.not_mem_nil
  · simp [Event.asked?]

/-- The next key answers a question. -/
theorem run_confirm {key : String} (prompt : FixPrompt) (keys : w.keys = some (key :: more)) :
    (Job.confirm prompt).run w = .ok (FixPrompt.accepts key)
      (({ w with keys := some more } : World).saying [.prompt prompt, .answer key]) := by
  have pressed : (w.saying [.prompt prompt]).keys = some (key :: more) := keys
  rw [Job.confirm, Job.run_bind_of_ok (Job.run_emit _), Job.run_bind_of_ok (EStateM.run_get _), pressed]
  dsimp only
  rw [Job.run_bind_of_ok (EStateM.run_set _ _), Job.run_bind_of_ok (Job.run_emit _),
    show [Event.prompt prompt, Event.answer key] = [.prompt prompt] ++ [.answer key] from rfl,
    ← World.saying_saying]
  rfl

/-- A fix that changes the line is asked about, and made if the key says so. -/
theorem run_applyFix_asked {rule : SpacingRule} {current ruler : List Char} {key : String} (number : Int)
    (found : rule.columns current ≠ []) (changes : rule.fix current ≠ current)
    (drawn : (rule.columns current).markers = .ok ruler) (keys : w.keys = some (key :: more)) :
    ∃ w', (applyFix current (Rule.spacing rule) (rule.columns current) true number).run w =
        .ok (if FixPrompt.accepts key then (rule.fix current, true) else (current, false)) w' ∧
      w'.keys = some more ∧ Tells Event.asked? w w' [(number, rule.reason)] := by
  have worth : ¬ ((rule.columns current).isEmpty || decide (rule.fix current = current)) = true := by
    simp [found, changes]
  have present : w.keys.isNone = false := by
    rw [keys]
    rfl
  refine ⟨({ w with keys := some more } : World).saying
    [.prompt ⟨number, current, ruler, rule.fix current, rule.reason⟩, .answer key], ?_, rfl, ?_⟩
  swap
  · exact World.tells_saying Event.asked? { w with keys := some more } _
  rw [applyFix_spacing, if_neg worth, drawn]
  simp only [Bool.not_true, Bool.false_eq_true, if_false]
  rw [Job.run_bind_of_ok (EStateM.run_get _), present]
  simp only [Bool.false_eq_true, if_false]
  rw [Job.run_bind_of_ok (Job.run_ofExcept_ok _ _), Job.run_bind_of_ok (run_confirm _ keys)]
  rfl

theorem Showable.columns (h : Showable line) (s : Spacing) : ∃ ruler, (s.rule.columns line).markers = .ok ruler := by
  have shown := h (fun _ => false) s
  rwa [respaced_none] at shown

/-- A line that is respaced once more if an answer accepts it. -/
theorem respaced_grants (on : Spacing → Bool) (question : Question) (key : String) (line : List Char) :
    respaced (fun t => on t || Answer.grants (question, key) t) line =
      if FixPrompt.accepts key then question.rule.rule.fix (respaced on line) else respaced on line := by
  cases accepted : FixPrompt.accepts key with
  | true =>
    rw [if_pos rfl, Spacing.fix_respaced]
    congr 1
    funext t
    rw [grants_of_accepts accepted, decide_eq_decide.2 eq_comm]
  | false =>
    rw [if_neg Bool.false_ne_true]
    congr 1
    funext t
    rw [grants_of_rejects accepted, Bool.or_false]

/-- The turn of a rule that finds something: the answer decides whether the rule joins the set. -/
theorem run_turn_asked {key : String} (found : s.rule.columns line ≠ []) (fresh : on s = false)
    (showable : Showable line) (keys : w.keys = some (key :: more)) :
    ∃ w', (turn ⟨recursive, true, true⟩ number line (Rule.spacing s.rule) (s.rule.columns line)
          (respaced on line)).run w =
        .ok (respaced (fun t => on t || Answer.grants (⟨number, line, s⟩, key) t) line,
          ⟨(s.rule.columns line).length, fixesOf [(⟨number, line, s⟩, key)] s⟩) w' ∧
      Answered [(⟨number, line, s⟩, key)] more w w' := by
  have same : (s.rule.columns (respaced on line)).length = (s.rule.columns line).length := by
    rw [Spacing.length_columns_respaced, fresh]
    rfl
  have again : s.rule.columns (respaced on line) ≠ [] := by
    intro none
    rw [none, List.length_nil, eq_comm, List.length_eq_zero_iff] at same
    exact found same
  have changes : s.rule.fix (respaced on line) ≠ respaced on line := by
    rwa [Ne, Spacing.fix_eq_self_iff]
  have worth : ¬ (s.rule.columns line).isEmpty = true := by simpa using found
  have heard : (w.saying [.violation ⟨number, line, s.rule.columns line, s.rule.reason, true⟩]).keys =
      some (key :: more) := keys
  have drawable : Drawable ⟨recursive, true, true⟩ (s.rule.columns line) := fun _ => showable.columns s
  obtain ⟨ruler, drawn⟩ := showable on s
  obtain ⟨w', applied, left, told⟩ := run_applyFix_asked (number : Int) again changes drawn heard
  refine ⟨w', ?_, left, (World.tells_unheard w rfl).trans told⟩
  rw [turn_eq, if_neg worth,
    Job.run_bind_of_ok (run_report_of_drawable number line w drawable (Rule.spacing s.rule))]
  simp only [if_true]
  have search : ∀ w : World, ((Rule.spacing s.rule).search (respaced on line)).run w =
      .ok (s.rule.columns (respaced on line)) w := fun _ => rfl
  rw [Job.run_bind_of_ok (search _)]
  refine (Job.run_bind_of_ok applied).trans ?_
  rw [respaced_grants, fixesOf_cons]
  cases accepted : FixPrompt.accepts key with
  | true =>
    rw [grants_of_accepts accepted, decide_eq_true rfl]
    rfl
  | false =>
    rw [grants_of_rejects accepted]
    rfl

/-- The questions about a text, for some of the spacing rules. -/
def questions (number : Nat) (text : List Char) (rules : List Spacing) : List Question :=
  (rules.filter fun s => !(s.rule.columns text).isEmpty).map (Question.mk number text)

theorem questions_cons (number : Nat) (text : List Char) (s : Spacing) (rules : List Spacing) :
    questions number text (s :: rules) =
      (if s.rule.columns text = [] then [] else [⟨number, text, s⟩]) ++ questions number text rules := by
  unfold questions
  by_cases quiet : s.rule.columns text = []
  · simp [quiet]
  · simp [quiet]

/-- A rule asks about a text that has gaps to which it objects. -/
theorem questions_eq (number : Nat) (text : List Char) (rules : List Spacing) :
    questions number text rules =
      (rules.filter fun s => offences s.offends (Text.cells text) != 0).map (Question.mk number text) := by
  rw [questions]
  congr 2
  funext s
  rw [← Spacing.length_columns]
  cases s.rule.columns text <;> rfl

/-- The questions about other rules fix nothing for a rule. -/
theorem fixesOf_of_absent {rules : List Spacing} (absent : s ∉ rules)
    (asked : answers.map Prod.fst = questions number line rules) : fixesOf answers s = 0 := by
  apply fixesOf_of_forall_ne
  rintro answer mem rfl
  have question : answer.1 ∈ questions number line rules := by
    rw [← asked]
    exact List.mem_map_of_mem mem
  obtain ⟨t, found, same⟩ := List.mem_map.1 question
  apply absent
  rw [← same]
  exact List.mem_of_mem_filter found

/-- The turns of different spacing rules: each rule that finds something asks, whatever was answered before. -/
theorem run_turns_answered {rules : List Spacing} (nodup : rules.Nodup)
    (fresh : ∀ s ∈ rules, on s = false) (asked : answers.map Prod.fst = questions number line rules)
    (showable : Showable line)
    (keys : w.keys = some (answers.map Prod.snd ++ more)) :
    ∃ w', (turns ⟨recursive, true, true⟩ number line (rules.map fun s => .spacing s.rule)
          (respaced on line)).run w =
        .ok (respaced (fun s => on s || granted answers s) line,
          rules.map fun s => ⟨(s.rule.columns line).length, fixesOf answers s⟩) w' ∧
      Answered answers more w w' := by
  induction rules generalizing on answers w with
  | nil =>
    obtain rfl : answers = [] := List.map_eq_nil_iff.1 asked
    refine ⟨w, ?_, keys, .nil _ w⟩
    simp [turns, granted]
  | cons s rules ih =>
    obtain ⟨absent, nodup'⟩ := List.nodup_cons.1 nodup
    obtain ⟨fresh', later⟩ := List.forall_mem_cons.1 fresh
    have apart : ∀ t ∈ rules, t ≠ s := by
      rintro t mem rfl
      exact absent mem
    rw [questions_cons] at asked
    by_cases quiet : s.rule.columns line = []
    · -- The rule has nothing to ask about, and its turn is over at once.
      rw [if_pos quiet, List.nil_append] at asked
      obtain ⟨w', rest, answered⟩ := ih nodup' later asked keys
      refine ⟨w', ?_, answered⟩
      apply run_turns_cons_eq_ok.2
      refine ⟨respaced on line, ⟨0, 0⟩, w, _, ?_, rest, ?_⟩
      · rw [Rule.columnsOn, quiet]
        rfl
      · rw [List.map_cons, quiet, fixesOf_of_absent absent asked]
        rfl
    · rw [if_neg quiet, List.singleton_append] at asked
      obtain ⟨⟨question, key⟩, others, rfl, rfl, asked'⟩ := List.map_eq_cons_iff.1 asked
      obtain ⟨w₁, first, answered⟩ := run_turn_asked recursive quiet fresh' showable keys
      have denied : ∀ t ∈ rules, Answer.grants (⟨number, line, s⟩, key) t = false := by
        intro t mem
        rw [Answer.grants, decide_eq_false (apart t mem).symm, Bool.false_and]
      have later' : ∀ t ∈ rules, (on t || Answer.grants (⟨number, line, s⟩, key) t) = false := by
        intro t mem
        rw [later t mem, denied t mem]
        rfl
      obtain ⟨w', rest, answered'⟩ := ih nodup' later' asked' answered.keys
      refine ⟨w', ?_, answered.trans answered'⟩
      apply run_turns_cons_eq_ok.2
      simp only [Bool.or_assoc] at rest
      refine ⟨_, _, w₁, _, first, rest, ?_⟩
      rw [List.map_cons]
      congr 1
      · rw [fixesOf_cons, fixesOf_of_absent absent asked', fixesOf_cons]
        rfl
      · apply List.map_congr_left
        intro t mem
        rw [fixesOf_cons, denied t mem]
        simp

/-- What is counted on a text when questions about it are answered. -/
def answeredCounts (text : List Char) (answers : List Answer) : List Count :=
  ⟨((Rule.line (tooLong lineLimit)).columnsOn text).length, 0⟩ ::
    Spacing.all.map fun s => ⟨(s.rule.columns text).length, fixesOf answers s⟩

/-- Checking a line by the table: the rule on long lines asks nothing, the others in their order. -/
theorem run_check_answered (asked : answers.map Prod.fst = questions number line Spacing.all)
    (showable : Showable line) (keys : w.keys = some (answers.map Prod.snd ++ more)) :
    ∃ w', (check table ⟨recursive, true, true⟩ number line).run w =
        .ok (respaced (granted answers) line, answeredCounts line answers) w' ∧
      Answered answers more w w' := by
  have drawable : Drawable ⟨recursive, true, true⟩ ((Rule.line (tooLong lineLimit)).columnsOn line) := by
    intro _
    rw [Rule.columnsOn]
    split
    · exact ⟨_, rfl⟩
    · exact ⟨_, rfl⟩
  have first := run_turn_line number line line w drawable (tooLong lineLimit)
  have quiet := World.answered_saying keys
    (unheard_reports ⟨recursive, true, true⟩ number line (.line (tooLong lineLimit))
      ((Rule.line (tooLong lineLimit)).columnsOn line))
  obtain ⟨w', rest, answered⟩ := run_turns_answered recursive (by decide) (fun _ _ => rfl) asked
    showable quiet.keys
  rw [respaced_none] at rest
  refine ⟨w', ?_, quiet.trans answered⟩
  rw [check_eq_turns _ number line fun _ mem => mem]
  apply run_turns_cons_eq_ok.2
  simp only [Bool.false_or] at rest
  exact ⟨_, _, _, _, first, rest, rfl⟩

end Line

namespace Scan

/-- The questions about the raw lines from the given number on, line by line. -/
def questions (number : Nat) : List (List Char) → List Question
  | [] => []
  | raw :: rest =>
    (if Line.isChecked (Line.body number (.ofRaw raw)) then
      Line.questions number (Line.body number (.ofRaw raw)) Spacing.all
    else []) ++ questions (number + 1) rest

/-- The raw lines from the given number on as the accepted fixes repair them. -/
def repairedBy (answers : List Answer) (number : Nat) : List (List Char) → List (List Char)
  | [] => []
  | raw :: rest =>
    (Line.tidied (grantedOn answers number) number (.ofRaw raw)).raw :: repairedBy answers (number + 1) rest

/-- What is counted on the lines from the given number on when questions about them are answered. -/
def answeredTotals (number : Nat) (raws : List (List Char)) (answers : List Answer) : List Count :=
  ⟨(totalFrom true (.line (tooLong lineLimit)) number (raws.map .ofRaw)).errors, 0⟩ ::
    Spacing.all.map fun s =>
      ⟨(totalFrom true (.spacing s.rule) number (raws.map .ofRaw)).errors, fixesOf answers s⟩

variable {charset : Charset} (recursive : Bool) {number : Nat} {raw : List Char} {raws : List (List Char)}
variable {answers others : List Answer} {more : List String} {w : World}

theorem totalFrom_singleton (rule : Rule) (number : Nat) (line : Text.Line) :
    (totalFrom true rule number [line]).errors = (Line.countOf true number line rule).errors := by
  rw [totalFrom, totalFrom, Count.add]
  exact Nat.add_zero _

theorem answeredTotals_checked (checked : Line.isChecked (Line.body number (.ofRaw raw)) = true)
    (answers : List Answer) :
    answeredTotals number [raw] answers = Line.answeredCounts (Line.body number (.ofRaw raw)) answers := by
  have counted : ∀ rule, (totalFrom true rule number [.ofRaw raw]).errors =
      (rule.columnsOn (Line.body number (.ofRaw raw))).length := by
    intro rule
    rw [totalFrom_singleton, Line.countOf, if_pos checked, Rule.countOn]
  simp only [answeredTotals, List.map_cons, List.map_nil, counted]
  rfl

theorem answeredTotals_unchecked (unchecked : ¬ Line.isChecked (Line.body number (.ofRaw raw)) = true) :
    answeredTotals number [raw] [] = table.map fun _ => .zero := by
  have counted : ∀ rule, (totalFrom true rule number [.ofRaw raw]).errors = 0 := by
    intro rule
    rw [totalFrom_singleton, Line.countOf, if_neg unchecked, Count.zero]
  simp only [answeredTotals, List.map_cons, List.map_nil, counted]
  rfl

/-- The scan of a line: the answers are a set of rules, and the line is repaired by them. -/
theorem run_scan_answered (asked : answers.map Prod.fst = questions number [raw]) 
    (showable : Line.Showable (Line.body number (.ofRaw raw)))
    (keys : w.keys = some (answers.map Prod.snd ++ more)) :
    ∃ w', (Line.scan table ⟨recursive, true, true⟩ number raw).run w =
        .ok ((Line.tidied (granted answers) number (.ofRaw raw)).raw, answeredTotals number [raw] answers) w' ∧
      Answered answers more w w' := by
  have whole : Text.Line.ofRaw (Text.Line.ofRaw raw).raw = Text.Line.ofRaw raw := by
    rw [Text.Line.raw_ofRaw]
  rw [questions, questions, List.append_nil] at asked
  by_cases checked : Line.isChecked (Line.body number (.ofRaw raw)) = true
  · rw [if_pos checked] at asked
    obtain ⟨w', run, answered⟩ := Line.run_check_answered recursive asked showable keys
    refine ⟨w', ?_, answered⟩
    have scan := Line.scan_checked whole checked ⟨recursive, true, true⟩
    rw [Text.Line.raw_ofRaw] at scan
    rw [scan, Job.run_bind_of_ok run, Line.raw_tidied checked, answeredTotals_checked checked]
    rfl
  · rw [if_neg checked] at asked
    obtain rfl : answers = [] := List.map_eq_nil_iff.1 asked
    refine ⟨w, ?_, keys, .nil _ w⟩
    have scan := Line.scan_unchecked whole checked ⟨recursive, true, true⟩
    rw [Text.Line.raw_ofRaw] at scan
    have none : granted [] = fun _ => false := rfl
    rw [scan, none, Line.tidied_none, Text.Line.raw_ofRaw, answeredTotals_unchecked checked]
    rfl

theorem questions_cons (number : Nat) (raw : List Char) (raws : List (List Char)) :
    questions number (raw :: raws) = questions number [raw] ++ questions (number + 1) raws := by
  rw [questions, questions, questions, List.append_nil]

/-- The questions about a line have its number. -/
theorem number_of_mem_singleton {question : Question} (h : question ∈ questions number [raw]) :
    question.number = number := by
  rw [questions, questions, List.append_nil] at h
  split at h
  · obtain ⟨s, -, rfl⟩ := List.mem_map.1 h
    rfl
  · cases h

theorem number_le_of_mem {question : Question} (h : question ∈ questions number raws) :
    number ≤ question.number := by
  induction raws generalizing number with
  | nil => cases h
  | cons raw raws ih =>
    rw [questions_cons] at h
    rcases List.mem_append.1 h with here | behind
    · exact (number_of_mem_singleton here).ge
    · have later := ih behind
      omega

/-- The answers about a line are those with its number. -/
theorem grantedOn_append (asked : answers.map Prod.fst = questions number [raw])
    (behind : others.map Prod.fst = questions (number + 1) raws) :
    grantedOn (answers ++ others) number = granted answers := by
  funext s
  have own : answers.any (fun answer => decide (answer.1.number = number) && Answer.grants answer s) =
      answers.any fun answer => Answer.grants answer s := by
    rw [Bool.eq_iff_iff, List.any_eq_true, List.any_eq_true]
    have same : ∀ answer ∈ answers, answer.1.number = number := by
      intro answer mem
      refine number_of_mem_singleton (?_ : answer.1 ∈ questions number [raw])
      rw [← asked]
      exact List.mem_map_of_mem mem
    constructor
    · rintro ⟨answer, mem, h⟩
      exact ⟨answer, mem, (Bool.and_eq_true_iff.1 h).2⟩
    · rintro ⟨answer, mem, h⟩
      exact ⟨answer, mem, Bool.and_eq_true_iff.2 ⟨decide_eq_true (same answer mem), h⟩⟩
  have foreign : others.any (fun answer => decide (answer.1.number = number) && Answer.grants answer s) = false := by
    rw [List.any_eq_false]
    intro answer mem h
    have question := List.mem_map_of_mem (f := Prod.fst) mem
    rw [behind] at question
    have later := number_le_of_mem question
    have same := of_decide_eq_true (Bool.and_eq_true_iff.1 h).1
    omega
  rw [grantedOn, List.any_append, own, foreign, Bool.or_false, granted]

theorem repairedBy_congr (same : ∀ n, number ≤ n → grantedOn answers n = grantedOn others n) :
    repairedBy answers number raws = repairedBy others number raws := by
  induction raws generalizing number with
  | nil => rfl
  | cons raw raws ih =>
    rw [repairedBy, repairedBy, same number (Nat.le_refl number), ih fun n le => same n (by omega)]

/-- The answers about the first line decide about it, and the others about the others. -/
theorem repairedBy_append (asked : answers.map Prod.fst = questions number [raw])
    (behind : others.map Prod.fst = questions (number + 1) raws) :
    repairedBy (answers ++ others) number (raw :: raws) =
      (Line.tidied (granted answers) number (.ofRaw raw)).raw :: repairedBy others (number + 1) raws := by
  rw [repairedBy, grantedOn_append asked behind]
  congr 1
  apply repairedBy_congr
  intro n le
  funext s
  have earlier : answers.any (fun answer => decide (answer.1.number = n) && Answer.grants answer s) = false := by
    rw [List.any_eq_false]
    intro answer mem h
    have same : answer.1.number = number := by
      refine number_of_mem_singleton (?_ : answer.1 ∈ questions number [raw])
      rw [← asked]
      exact List.mem_map_of_mem mem
    have here := of_decide_eq_true (Bool.and_eq_true_iff.1 h).1
    omega
  rw [grantedOn, List.any_append, earlier, Bool.false_or, grantedOn]

theorem answeredTotals_append (number : Nat) (raw : List Char) (raws : List (List Char))
    (answers others : List Answer) :
    answeredTotals number (raw :: raws) (answers ++ others) =
      Count.addAll (answeredTotals number [raw] answers) (answeredTotals (number + 1) raws others) := by
  simp only [answeredTotals, fixesOf_append, List.map_cons, List.map_nil, totalFrom]
  rfl

/-- The scan of the lines of a file asks its questions in order, and writes the lines as the accepted fixes repair
them. -/
theorem run_scanLines_answered (asked : answers.map Prod.fst = questions number raws)
    (writable : ∀ raw ∈ raws, ∀ c ∈ raw, charset.has c = true)
    (showable : ∀ (i : Nat) (raw : List Char), raws[i]? = some raw →
      Line.Showable (Line.body (number + i) (.ofRaw raw))) (positive : 0 < number)
    (keys : w.keys = some (answers.map Prod.snd ++ more)) :
    ∃ out w', (scanLines charset table ⟨recursive, true, true⟩ number raws).run w =
        .ok (out, answeredTotals number raws answers) w' ∧
      charset.encodeAll (number == 1) (repairedBy answers number raws) = .ok out ∧ Answered answers more w w' := by
  induction raws generalizing number answers w with
  | nil =>
    obtain rfl : answers = [] := List.map_eq_nil_iff.1 asked
    exact ⟨[], w, rfl, rfl, keys, .nil _ w⟩
  | cons raw raws ih =>
    rw [questions_cons] at asked
    obtain ⟨own, others, rfl, asked, behind⟩ := List.map_eq_append_iff.1 asked
    obtain ⟨here, writable'⟩ := List.forall_mem_cons.1 writable
    have showable' : ∀ (i : Nat) (raw : List Char), raws[i]? = some raw →
        Line.Showable (Line.body (number + 1 + i) (.ofRaw raw)) := by
      intro i raw here
      rw [Nat.add_assoc, Nat.add_comm 1 i]
      exact showable (i + 1) raw here
    rw [List.map_append, List.append_assoc] at keys
    obtain ⟨w₁, scanned, answered⟩ := run_scan_answered recursive asked (showable 0 raw rfl) keys
    obtain ⟨back, w', rest, encoded, answered'⟩ := ih behind writable' showable' (Nat.succ_pos number) answered.keys
    have later : (number + 1 == 1) = false := by
      rw [beq_eq_false_iff_ne]
      omega
    rw [later] at encoded
    obtain ⟨front, first⟩ := (Charset.exists_encode_iff (number == 1)).2 fun c mem => by
      rcases Line.mem_of_forall_body number (fun c => Line.mem_repaired (granted own) _) c mem with inside | rfl
      · exact here c inside
      · exact charset.has_blank
    refine ⟨front ++ back, w', ?_, ?_, answered.trans answered'⟩
    · rw [answeredTotals_append]
      exact run_scanLines_cons_eq_ok.2 ⟨_, _, w₁, front, back, _, scanned, first, rest, rfl, rfl⟩
    · rw [repairedBy_append asked behind, Charset.encodeAll, Line.tidied, Text.Line.raw, first, encoded]
      rfl

theorem showable_oneLine (i : Nat) (raw : List Char) (here : [['x', '=', '1']][i]? = some raw) :
    Line.Showable (Line.body (1 + i) (.ofRaw raw)) := by
  obtain rfl := List.mem_singleton.1 (List.mem_of_getElem? here)
  apply Line.showable_of_length
  have short := Line.length_body_le (1 + i) ['x', '=', '1']
  rw [show ['x', '=', '1'].length = 3 from rfl] at short
  rw [Columns.mostCells]
  omega

/-- On a line that is an assignment without spaces two rules ask. -/
theorem questions_oneLine : questions 1 [['x', '=', '1']] =
    [⟨1, ['x', '=', '1'], .operatorStart⟩, ⟨1, ['x', '=', '1'], .operatorEnd⟩] := by
  simp only [questions, Line.questions_eq]
  decide

end Scan

end MatlabTidy
