import MatlabTidy.Proofs.Run.Answers
import MatlabTidy.Proofs.Run.Totals

/-!
# Interactive and automatic fixing agree

The questions of an interactive scan are read off the lines before anything is fixed, and each is asked once
(`Scan.nodup_questions`). If all fixes are accepted the lines are repaired as by a scan that asks nobody
(`Scan.repairedBy_of_accepts`, `Scan.fixesOf_of_accepts`), since a rule that finds nothing on a line repairs nothing
there; if all are rejected the lines stay as they are. Both are cases of `Scan.interactive_agrees`, which says for any
keys what is asked, what is written and what is counted.
-/

namespace MatlabTidy

open Rule (table)
open World (Tells)

/-- Rules that find nothing on a line do not matter for its repair. -/
theorem respaced_of_quiet {on : Spacing → Bool} {line : List Char}
    (quiet : ∀ s : Spacing, on s = false → s.rule.columns line = []) :
    respaced on line = respaced (fun _ => true) line := by
  have settled : ∀ s : Spacing, s.rule.columns (respaced on line) = [] := by
    intro s
    rw [← List.length_eq_zero_iff, Spacing.length_columns_respaced]
    split
    · rfl
    · rename_i unused
      rw [quiet s (by simpa using unused), List.length_nil]
  have again := Spacing.respaced_eq_self (fun _ => true) settled
  rw [respaced_respaced] at again
  rw [← again]
  simp only [Bool.or_true]

namespace Line

variable {number : Nat} {text : List Char} {answers : List Answer} {rules : List Spacing} {s : Spacing}

theorem mem_questions (number : Nat) (found : s.rule.columns text ≠ []) (mem : s ∈ rules) :
    ⟨number, text, s⟩ ∈ questions number text rules := by
  apply List.mem_map_of_mem
  rw [List.mem_filter]
  exact ⟨mem, by simpa using found⟩

/-- If all fixes on a text are accepted, the rules that find something on it are accepted. -/
theorem granted_of_accepts (asked : answers.map Prod.fst = questions number text rules)
    (accepted : ∀ answer ∈ answers, FixPrompt.accepts answer.2 = true) (mem : s ∈ rules)
    (denied : granted answers s = false) : s.rule.columns text = [] := by
  by_contra found
  have question := mem_questions number found mem
  rw [← asked] at question
  obtain ⟨answer, given, about⟩ := List.mem_map.1 question
  rw [granted, List.any_eq_false] at denied
  apply denied answer given
  rw [grants_of_accepts (accepted answer given), about]
  exact decide_eq_true rfl

/-- If all fixes on a text are accepted, each rule fixes what it finds. -/
theorem fixesOf_of_accepts (nodup : rules.Nodup) (asked : answers.map Prod.fst = questions number text rules)
    (accepted : ∀ answer ∈ answers, FixPrompt.accepts answer.2 = true) (mem : s ∈ rules) :
    fixesOf answers s = (s.rule.columns text).length := by
  induction rules generalizing answers with
  | nil => cases mem
  | cons t rules ih =>
    obtain ⟨absent, nodup'⟩ := List.nodup_cons.1 nodup
    rw [questions_cons] at asked
    by_cases quiet : t.rule.columns text = []
    · rw [if_pos quiet, List.nil_append] at asked
      rcases List.mem_cons.1 mem with rfl | mem
      · rw [fixesOf_of_absent absent asked, quiet, List.length_nil]
      · exact ih nodup' asked accepted mem
    · rw [if_neg quiet, List.singleton_append] at asked
      obtain ⟨⟨question, key⟩, others, rfl, rfl, asked'⟩ := List.map_eq_cons_iff.1 asked
      obtain ⟨here, there⟩ := List.forall_mem_cons.1 accepted
      rw [fixesOf_cons, grants_of_accepts here]
      rcases List.mem_cons.1 mem with rfl | mem
      · rw [fixesOf_of_absent absent asked', decide_eq_true rfl, Nat.add_zero]
        rfl
      · have other : t ≠ s := by
          rintro rfl
          exact absent mem
        rw [ih nodup' asked' there mem, decide_eq_false other]
        exact Nat.zero_add _

end Line

namespace Scan

variable {number : Nat} {raw : List Char} {raws : List (List Char)} {answers : List Answer}

/-- No rule asks about a line twice. -/
theorem nodup_questions (number : Nat) (raws : List (List Char)) :
    ((questions number raws).map fun question => (question.number, question.rule)).Nodup := by
  induction raws generalizing number with
  | nil => exact List.nodup_nil
  | cons raw raws ih =>
    rw [questions_cons, List.map_append, List.nodup_append]
    refine ⟨?_, ih (number + 1), ?_⟩
    · rw [questions, questions, List.append_nil]
      split
      · rw [Line.questions, List.map_map]
        apply List.Nodup.map
        · intro s t same
          exact (Prod.mk.inj same).2
        · exact List.Nodup.filter _ (by decide)
      · exact List.nodup_nil
    · intro here first there second
      obtain ⟨question, mem, rfl⟩ := List.mem_map.1 first
      obtain ⟨question', mem', rfl⟩ := List.mem_map.1 second
      have own := number_of_mem_singleton mem
      have later := number_le_of_mem mem'
      intro same
      have equal := (Prod.mk.inj same).1
      omega

/-- If all fixes on a line are accepted, the line is repaired by all rules. -/
theorem tidied_of_accepts (asked : answers.map Prod.fst = questions number [raw])
    (accepted : ∀ answer ∈ answers, FixPrompt.accepts answer.2 = true) :
    Line.tidied (granted answers) number (.ofRaw raw) = Line.tidied (fun _ => true) number (.ofRaw raw) := by
  rw [Line.tidied, Line.tidied]
  rw [questions, questions, List.append_nil] at asked
  unfold Line.repaired
  split
  · rename_i checked
    rw [if_pos checked] at asked
    rw [respaced_of_quiet fun s => Line.granted_of_accepts asked accepted s.mem_all]
  · rfl

theorem fixesOf_singleton (asked : answers.map Prod.fst = questions number [raw])
    (accepted : ∀ answer ∈ answers, FixPrompt.accepts answer.2 = true) (s : Spacing) :
    fixesOf answers s = (Line.countOf true number (.ofRaw raw) (.spacing s.rule)).errors := by
  rw [questions, questions, List.append_nil] at asked
  unfold Line.countOf
  split
  · rename_i checked
    rw [if_pos checked] at asked
    rw [Line.fixesOf_of_accepts (by decide) asked accepted s.mem_all]
    rfl
  · rename_i unchecked
    rw [if_neg unchecked] at asked
    obtain rfl : answers = [] := List.map_eq_nil_iff.1 asked
    rfl

/-- If all fixes are accepted the lines are repaired by all rules. -/
theorem repairedBy_of_accepts (asked : answers.map Prod.fst = questions number raws)
    (accepted : ∀ answer ∈ answers, FixPrompt.accepts answer.2 = true) :
    repairedBy answers number raws =
      (tidiedFrom (fun _ => true) number (raws.map Text.Line.ofRaw)).map Text.Line.raw := by
  induction raws generalizing number answers with
  | nil => rfl
  | cons raw raws ih =>
    rw [questions_cons] at asked
    obtain ⟨own, others, rfl, asked, behind⟩ := List.map_eq_append_iff.1 asked
    obtain ⟨here, there⟩ := List.forall_mem_append.1 accepted
    rw [repairedBy_append asked behind, tidied_of_accepts asked here, ih behind there]
    rfl

/-- If all fixes are accepted each rule fixes what it finds. -/
theorem fixesOf_of_accepts (asked : answers.map Prod.fst = questions number raws)
    (accepted : ∀ answer ∈ answers, FixPrompt.accepts answer.2 = true) (s : Spacing) :
    fixesOf answers s = (totalFrom true (.spacing s.rule) number (raws.map Text.Line.ofRaw)).errors := by
  induction raws generalizing number answers with
  | nil =>
    obtain rfl : answers = [] := List.map_eq_nil_iff.1 asked
    rfl
  | cons raw raws ih =>
    rw [questions_cons] at asked
    obtain ⟨own, others, rfl, asked, behind⟩ := List.map_eq_append_iff.1 asked
    obtain ⟨here, there⟩ := List.forall_mem_append.1 accepted
    rw [fixesOf_append, fixesOf_singleton asked here, ih behind there]
    rfl

theorem answeredTotals_of_accepts (asked : answers.map Prod.fst = questions number raws)
    (accepted : ∀ answer ∈ answers, FixPrompt.accepts answer.2 = true) :
    answeredTotals number raws answers = totalsFrom true number (raws.map Text.Line.ofRaw) := by
  have fixed : ∀ rule, totalFrom true rule number (raws.map Text.Line.ofRaw) =
      ⟨(totalFrom true rule number (raws.map Text.Line.ofRaw)).errors,
        if rule.isSpacing then (totalFrom true rule number (raws.map Text.Line.ofRaw)).errors else 0⟩ := by
    intro rule
    have counted := fixes_totalFrom true rule number (raws.map Text.Line.ofRaw)
    rw [Bool.true_and] at counted
    rw [← counted]
  simp only [answeredTotals, fixesOf_of_accepts asked accepted]
  rw [totalsFrom, List.map_congr_left fun rule _ => fixed rule]
  rfl

/-- If all fixes are rejected nothing is granted. -/
theorem granted_of_rejects (rejected : ∀ answer ∈ answers, FixPrompt.accepts answer.2 = false) (number : Nat) :
    grantedOn answers number = fun _ => false := by
  funext s
  rw [grantedOn, List.any_eq_false]
  intro answer mem
  rw [grants_of_rejects (rejected answer mem), Bool.and_false]
  exact Bool.false_ne_true

theorem repairedBy_of_rejects (rejected : ∀ answer ∈ answers, FixPrompt.accepts answer.2 = false) (number : Nat)
    (raws : List (List Char)) : repairedBy answers number raws = raws := by
  induction raws generalizing number with
  | nil => rfl
  | cons raw raws ih =>
    rw [repairedBy, granted_of_rejects rejected, Line.tidied_none, Text.Line.raw_ofRaw, ih]

theorem fixesOf_of_rejects (rejected : ∀ answer ∈ answers, FixPrompt.accepts answer.2 = false) (s : Spacing) :
    fixesOf answers s = 0 := by
  induction answers with
  | nil => rfl
  | cons answer answers ih =>
    obtain ⟨here, there⟩ := List.forall_mem_cons.1 rejected
    rw [fixesOf_cons, grants_of_rejects here, ih there]
    rfl

/-- The scan that asks nobody, of any raw lines. -/
theorem run_scanLines_automatic {charset : Charset} {out : List UInt8} (recursive : Bool) (raws : List (List Char))
    (w : World)
    (encoded : charset.encodeAll true
      ((tidiedFrom (fun _ => true) 1 (raws.map Text.Line.ofRaw)).map Text.Line.raw) = .ok out) :
    ∃ w', (scanLines charset table ⟨recursive, false, true⟩ 1 raws).run w =
      .ok (out, totalsFrom true 1 (raws.map Text.Line.ofRaw)) w' := by
  have same : (raws.map Text.Line.ofRaw).map Text.Line.raw = raws := by
    rw [List.map_map]
    exact (List.map_congr_left fun raw _ => Text.Line.raw_ofRaw raw).trans (List.map_id _)
  have whole : ∀ line ∈ raws.map Text.Line.ofRaw, Text.Line.ofRaw line.raw = line := by
    intro line mem
    obtain ⟨raw, -, rfl⟩ := List.mem_map.1 mem
    rw [Text.Line.raw_ofRaw]
  have smooth := smoothFrom_of_silent (show (⟨recursive, false, true⟩ : Options).verbose = false from rfl) 1
    (raws.map Text.Line.ofRaw)
  rw [← same]
  exact (run_scanLines_eq_ok Nat.one_pos whole smooth).2 ⟨encoded, by rw [same]⟩

/-- Whatever keys are pressed, an interactive scan asks about each rule that finds something on a checked line, in
order and once, and each rule fixes what it found on the lines where its fix was accepted. If all fixes are accepted
this comes to the scan that asks nobody; if none is, the lines are written as they were read. -/
theorem interactive_agrees (charset : Charset) (recursive : Bool) (raws : List (List Char))
    (keys more : List String) (w : World)
    (writable : ∃ bytes, charset.encodeAll true raws = .ok bytes)
    (showable : ∀ (i : Nat) (raw : List Char), raws[i]? = some raw → Line.Showable (Line.body (i + 1) (.ofRaw raw)))
    (enough : keys.length = (questions 1 raws).length) (operator : w.keys = some (keys ++ more)) :
    ((questions 1 raws).map fun question => (question.number, question.rule)).Nodup ∧
    ∃ out counts w',
      (scanLines charset table ⟨recursive, true, true⟩ 1 raws).run w = .ok (out, counts) w' ∧
      w'.keys = some more ∧
      Tells Event.asked? w w' ((questions 1 raws).map Question.heard) ∧
      charset.encodeAll true (repairedBy ((questions 1 raws).zip keys) 1 raws) = .ok out ∧
      counts.map Count.fixes = 0 :: Spacing.all.map (fixesOf ((questions 1 raws).zip keys)) ∧
      ((∀ key ∈ keys, FixPrompt.accepts key = true) → ∀ w₂, ∃ w₂',
        (scanLines charset table ⟨recursive, false, true⟩ 1 raws).run w₂ = .ok (out, counts) w₂') ∧
      ((∀ key ∈ keys, FixPrompt.accepts key = false) →
        charset.encodeAll true raws = .ok out ∧ ∀ count ∈ counts, count.fixes = 0) := by
  refine ⟨nodup_questions 1 raws, ?_⟩
  generalize hanswers : (questions 1 raws).zip keys = answers
  have asked : answers.map Prod.fst = questions 1 raws := by
    rw [← hanswers]
    exact List.map_fst_zip (Nat.le_of_eq enough.symm)
  have pressed : answers.map Prod.snd = keys := by
    rw [← hanswers]
    exact List.map_snd_zip (Nat.le_of_eq enough)
  rw [← pressed] at operator ⊢
  have writable' := (Charset.exists_encodeAll_iff true).1 writable
  have showable' : ∀ (i : Nat) (raw : List Char), raws[i]? = some raw →
      Line.Showable (Line.body (1 + i) (.ofRaw raw)) := by
    intro i raw here
    rw [Nat.add_comm]
    exact showable i raw here
  obtain ⟨out, w', run, encoded, answered⟩ :=
    run_scanLines_answered recursive asked writable' showable' Nat.one_pos operator
  have told : Tells Event.asked? w w' ((questions 1 raws).map Question.heard) := by
    rw [← asked, List.map_map]
    exact answered.tells
  have every : ∀ {kind : String → Prop}, (∀ key ∈ answers.map Prod.snd, kind key) → ∀ answer ∈ answers, kind answer.2 :=
    fun of_keys answer mem => of_keys _ (List.mem_map_of_mem mem)
  refine ⟨out, _, w', run, answered.keys, told, encoded, ?_, fun accepted w₂ => ?_, fun rejected => ⟨?_, ?_⟩⟩
  · rw [answeredTotals, List.map_cons, List.map_map]
    rfl
  · have accepted' := every accepted
    rw [answeredTotals_of_accepts asked accepted']
    apply run_scanLines_automatic
    rwa [← repairedBy_of_accepts asked accepted']
  · rwa [repairedBy_of_rejects (every rejected)] at encoded
  · intro count mem
    rcases List.mem_cons.1 mem with rfl | mem
    · rfl
    · obtain ⟨s, -, rfl⟩ := List.mem_map.1 mem
      exact fixesOf_of_rejects (every rejected) s

/-- Of the two fixes on a line the second alone is accepted, and made. -/
theorem interactive_oneLine :
    ∃ out counts w',
      (scanLines Charset.utf8 table ⟨false, true, true⟩ 1 [['x', '=', '1']]).run
        ⟨⟨[], [], []⟩, some ["n", "y", "left"], false, #[]⟩ = .ok (out, counts) w' ∧
      w'.keys = some ["left"] ∧
      Tells Event.asked? ⟨⟨[], [], []⟩, some ["n", "y", "left"], false, #[]⟩ w'
        [(1, operatorStart.reason), (1, operatorEnd.reason)] ∧
      Charset.utf8.encodeAll true [['x', '=', ' ', '1']] = .ok out ∧ counts.map Count.fixes = [0, 0, 1, 0, 0] := by
  have showable : ∀ (i : Nat) (raw : List Char), [['x', '=', '1']][i]? = some raw →
      Line.Showable (Line.body (i + 1) (.ofRaw raw)) := by
    intro i raw here
    rw [Nat.add_comm]
    exact showable_oneLine i raw here
  have enough : ["n", "y"].length = (questions 1 [['x', '=', '1']]).length := by
    rw [questions_oneLine]
    rfl
  obtain ⟨-, out, counts, w', run, left, told, encoded, fixed, -, -⟩ :=
    interactive_agrees .utf8 false [['x', '=', '1']] ["n", "y"] ["left"]
      ⟨⟨[], [], []⟩, some ["n", "y", "left"], false, #[]⟩ ⟨_, rfl⟩ showable enough rfl
  rw [questions_oneLine] at told encoded fixed
  have repaired : repairedBy ([⟨1, ['x', '=', '1'], .operatorStart⟩, ⟨1, ['x', '=', '1'], .operatorEnd⟩].zip ["n", "y"])
      1 [['x', '=', '1']] = [['x', '=', ' ', '1']] := by decide
  have counted : Spacing.all.map (fixesOf ([⟨1, ['x', '=', '1'], .operatorStart⟩,
      ⟨1, ['x', '=', '1'], .operatorEnd⟩].zip ["n", "y"])) = [0, 1, 0, 0] := by
    simp only [Spacing.all, List.map_cons, List.map_nil, fixesOf, Spacing.length_columns]
    decide
  rw [repaired] at encoded
  rw [counted] at fixed
  exact ⟨out, counts, w', run, left, told, encoded, fixed⟩

end Scan

end MatlabTidy
