import MatlabTidy.Proofs.Run.Answers
import MatlabTidy.Proofs.Run.Findings

/-!
# Fixing does not change what is reported

The scan that fixes and the scan that does not are run side by side, from any two worlds (`Job.Mirrors`). In each
turn both report what the rule found on the line as it was read; the repairs only touch the line that is written.
So the two scans report the same violations and count the same errors, whatever the rules are and whatever the
operator answers, and the scan with fixes returns only if the other does (`Scan.reports_of_fix`). What the scan
with fixes does besides may fail in ways of its own: with the question of a fix, with the rule of a fix
(`Failure.OfFix`), or with the encoding. Then it has reported no more than the other reports, and it may have
reported less (`Scan.reports_cut_short`).
-/

namespace MatlabTidy

open Job (Mirrors Mirrored)
open World (Tells)

/-- The failures of a fix: a question that gets no answer or cannot be shown, and a rule with a repair that fails on
a line that was fixed before. -/
inductive Failure.OfFix {R : Type} [Criterion R] (rules : List R) (verbose : Bool) : Failure → Prop where
  | nobodyToAsk (asks : verbose = true) : OfFix rules verbose .nobodyToAsk
  | noMoreKeys (asks : verbose = true) : OfFix rules verbose .noMoreKeys
  | undrawn {columns : Columns} {error : RulerError} (asks : verbose = true)
      (undrawn : columns.markers = .error error) : OfFix rules verbose (.ruler error)
  | raised {rule : R} {failure : Failure} (mem : rule ∈ rules) (repairs : (Criterion.repair? rule).isSome = true)
      (raises : Criterion.Raises rule failure) : OfFix rules verbose failure

/-- The failures of an encoding at work. -/
def Encoder.Refuses (E : Type) [Encoder E] (failure : Failure) : Prop :=
  ∃ (encoder : E) (number : Nat) (text : List Char), write encoder number text = .error failure

namespace Job

variable {α β : Type} {R : α → β → Prop} {own : Failure → Prop}

theorem emit_mirrors (event : Event) : Mirrors (fun _ _ => True) own (emit event) (emit event) := by
  intro w w₂
  exact .ok (run_emit event) (run_emit event) trivial (World.tells_saying _ w [event])
    (World.tells_saying _ w₂ [event])

/-- A job that begins with a look at the world. -/
theorem get_bind_mirrors {f : World → Job α} {y : Job β} (h : ∀ w w₂, Mirrored R own (f w) y w w₂) :
    Mirrors R own (get >>= f) y := by
  intro w w₂
  cases h w w₂ with
  | ok run run₂ related tells tells₂ => exact .ok run run₂ related tells tells₂
  | error run run₂ tells tells₂ => exact .error run run₂ tells tells₂
  | own run reason tells tells₂ => exact .own run reason tells tells₂

/-- A question is no report, and fails only if there is no answer. -/
theorem confirm_mirrors (prompt : FixPrompt) (silence : own .noMoreKeys) :
    Mirrors (fun _ _ => True) own (confirm prompt) (pure ()) := by
  refine .bind_left (?_ : Mirrors (fun _ _ => True) _ (emit _) (pure ())) (fun _ _ => ?_) (.pure _)
  · intro w w₂
    exact .ok (run_emit _) rfl trivial (World.tells_unheard w rfl) (.nil _ w₂)
  · apply get_bind_mirrors
    intro w w₂
    split
    · exact .own rfl silence (.nil _ w) ⟨[], .nil _ w₂⟩
    · exact .own rfl silence (.nil _ w) ⟨[], .nil _ w₂⟩
    · rename_i key rest pressed
      exact .ok rfl rfl trivial ⟨[.answer key], Array.push_eq_append, rfl⟩ (.nil _ w₂)

end Job

section

variable {R : Type} [Criterion R] {rules : List R} {recursive verbose : Bool} {number : Nat} {own : Failure → Prop}

namespace Line

theorem evaluate_speaks (text : List Char) (rules : List R) : Job.Speaks (Rule.evaluate text rules) :=
  Job.Respects.speaks (evaluate_respects (P := fun _ => True) (fun _ _ _ => trivial) text rules)

theorem checkMatches_speaks (options : Options) (asRead : List Char) (found : List (R × Columns)) (current : List Char) :
    Job.Speaks (checkMatches options number asRead found current) :=
  Job.Respects.speaks (checkMatches_respects (P := fun _ => True) options number (fun _ _ => trivial)
    (fun _ _ _ => trivial) asRead found current)

theorem report_mirrors (v : Violation) : Mirrors (fun _ _ => True) own (report v) (report v) := by
  refine .bind (Job.emit_mirrors _) (fun _ _ _ => ?_) fun _ => ?_
  · split
    · have drawn : Mirrors (fun _ _ => True) own (Job.ofExcept .ruler v.columns.markers)
          (Job.ofExcept .ruler v.columns.markers) := .ofExcept .ruler _ fun _ _ => trivial
      exact .bind drawn (fun _ _ _ => .pure trivial) fun _ => .pure _
    · exact .pure trivial
  · split
    · exact .bind (Job.ofExcept_calm _).speaks fun _ => .pure _
    · exact .pure _

section Turn

variable {rule : R} (mem : rule ∈ rules) (repairs : (Criterion.repair? rule).isSome = true)
include mem repairs

/-- A rule that is searched again reports nothing. -/
theorem search_mirrors (current : List Char) :
    Mirrors (fun _ _ => True) (Failure.OfFix rules verbose) (Criterion.search rule current) (pure ()) :=
  (Mirrors.ofExcept_own _ fun _ fails => .raised mem repairs (.search fails)).mono (fun _ _ _ => trivial) fun _ => id

/-- A fix is made or not, and nothing is reported. -/
theorem applyFix_mirrors (current : List Char) (columns : Columns) {interactive : Bool}
    (asks : interactive = true → verbose = true) (number : Int) :
    Mirrors (fun _ _ => True) (Failure.OfFix rules verbose) (applyFix current rule columns interactive number)
      (pure ()) := by
  unfold applyFix
  split
  · rename_i none
    rw [none] at repairs
    cases repairs
  rename_i repair found
  split
  · exact .pure trivial
  refine .bind_left (.ofExcept_own (repair current) fun failure fails => .raised mem repairs (.repair found fails))
    (fun candidate _ => ?_) (.pure _)
  split
  · exact .pure trivial
  split
  · exact .pure trivial
  rename_i asked
  have asks : verbose = true := asks (by simpa using asked)
  apply Job.get_bind_mirrors
  intro w w₂
  split
  · exact .own rfl (.nobodyToAsk asks) (.nil _ w) ⟨[], .nil _ w₂⟩
  cases drawn : columns.markers with
  | error error => exact .own rfl (.undrawn asks drawn) (.nil _ w) ⟨[], .nil _ w₂⟩
  | ok ruler =>
    have answered : Mirrors (fun _ _ => True) (Failure.OfFix rules verbose) (do
        let accepted ← Job.confirm ⟨number, current, ruler, candidate, Criterion.reason rule⟩
        return if accepted then (candidate, true) else (current, false)) (pure ()) :=
      .bind_left (Job.confirm_mirrors _ (.noMoreKeys asks)) (fun _ _ => .pure trivial) (.pure _)
    exact answered w w₂

omit repairs in
/-- A turn reports what the rule has found and counts it, whatever is done about it. -/
theorem turn_mirrors (asRead : List Char) (columns : Columns) (current current₂ : List Char) :
    Mirrors (fun result result₂ => result.2.errors = result₂.2.errors) (Failure.OfFix rules verbose)
      (turn ⟨recursive, verbose, true⟩ number asRead rule columns current)
      (turn ⟨recursive, verbose, false⟩ number asRead rule columns current₂) := by
  unfold turn
  split
  · exact .pure rfl
  · refine .bind (report_mirrors _) (fun _ _ _ => ?_) fun _ => .pure _
    rw [Bool.true_and, Bool.false_and, if_neg Bool.false_ne_true]
    split
    · rename_i repairs
      have asks : Options.interactive ⟨recursive, verbose, true⟩ = true → verbose = true := by
        simp [Options.interactive]
      exact .bind_left (search_mirrors mem repairs current) (fun again _ =>
        .bind_left (applyFix_mirrors mem repairs current again asks number) (fun _ _ => .pure rfl) (.pure _)) (.pure _)
    · exact .pure rfl

end Turn

/-- The turns of the rules, one after the other. -/
theorem checkMatches_mirrors (asRead : List Char) {found : List (R × Columns)}
    (known : ∀ matched ∈ found, matched.1 ∈ rules) (current current₂ : List Char) :
    Mirrors (fun result result₂ => result.2.map Count.errors = result₂.2.map Count.errors)
      (Failure.OfFix rules verbose)
      (checkMatches ⟨recursive, verbose, true⟩ number asRead found current)
      (checkMatches ⟨recursive, verbose, false⟩ number asRead found current₂) := by
  induction found generalizing current current₂ with
  | nil => exact .pure rfl
  | cons first rest ih =>
    obtain ⟨rule, columns⟩ := first
    obtain ⟨here, there⟩ := List.forall_mem_cons.1 known
    rw [checkMatches_cons, checkMatches_cons]
    refine .bind (turn_mirrors here asRead columns current current₂) (fun result result₂ related => ?_) fun _ => ?_
    · refine .bind (ih there result.1 result₂.1) (fun last last₂ counted => .pure ?_) fun _ => .pure _
      rw [List.map_cons, List.map_cons, related, counted]
    · exact .bind (checkMatches_speaks _ _ _ _) fun _ => .pure _

/-- Both scans search for the same. -/
theorem evaluate_mirrors (text : List Char) (rules : List R) :
    Mirrors (fun found found₂ => found = found₂ ∧ ∀ matched ∈ found, matched.1 ∈ rules) own
      (Rule.evaluate text rules) (Rule.evaluate text rules) := by
  induction rules with
  | nil => exact .pure ⟨rfl, nofun⟩
  | cons rule rules ih =>
    rw [Rule.evaluate]
    have searches : Mirrors Eq own (Criterion.search rule text) (Criterion.search rule text) :=
      .ofExcept _ _ fun _ _ => rfl
    refine searches.bind (fun columns _ same => ?_) fun _ => ?_
    · subst same
      refine .bind ih (fun others others₂ same => .pure ⟨by rw [same.1], ?_⟩) fun _ => .pure _
      exact List.forall_mem_cons.2 ⟨List.mem_cons_self, fun matched mem => List.mem_cons_of_mem _ (same.2 matched mem)⟩
    · exact .bind (evaluate_speaks text rules) fun _ => .pure _

theorem check_mirrors (rules : List R) (text : List Char) :
    Mirrors (fun result result₂ => result.2.map Count.errors = result₂.2.map Count.errors)
      (Failure.OfFix rules verbose)
      (check rules ⟨recursive, verbose, true⟩ number text)
      (check rules ⟨recursive, verbose, false⟩ number text) := by
  refine .bind (evaluate_mirrors text rules) (fun found found₂ same => ?_) fun _ => ?_
  · rw [← same.1]
    exact checkMatches_mirrors text same.2 text text
  · exact checkMatches_speaks _ _ _ _

theorem scan_mirrors (rules : List R) (raw : List Char) :
    Mirrors (fun result result₂ => result.2.map Count.errors = result₂.2.map Count.errors)
      (Failure.OfFix rules verbose)
      (scan rules ⟨recursive, verbose, true⟩ number raw)
      (scan rules ⟨recursive, verbose, false⟩ number raw) := by
  unfold scan
  dsimp only
  split
  · exact .bind (check_mirrors rules _) (fun _ _ counted => .pure counted) fun _ => .pure _
  · exact .pure rfl

end Line

namespace Scan

variable {E : Type} [Encoder E]

theorem scanLines_speaks (encoder : E) (rules : List R) (options : Options) (number : Nat) (raws : List (List Char)) :
    Job.Speaks (scanLines encoder rules options number raws) :=
  Job.Respects.speaks (scanLines_respects (P := fun _ => True) (fun _ _ => trivial) (fun _ _ _ => trivial)
    (fun _ _ _ _ _ => trivial) encoder rules options number raws)

/-- The scan with fixes and the scan without report the same and count the same errors. -/
theorem scanLines_mirrors (encoder encoder₂ : E) (rules : List R) (recursive verbose : Bool) (number : Nat)
    (raws : List (List Char)) :
    Mirrors (fun result result₂ => result.2.map Count.errors = result₂.2.map Count.errors)
      (fun failure => failure.OfFix rules verbose ∨ Encoder.Refuses E failure)
      (scanLines encoder rules ⟨recursive, verbose, true⟩ number raws)
      (scanLines encoder₂ rules ⟨recursive, verbose, false⟩ number raws) := by
  induction raws generalizing number encoder with
  | nil => exact .pure rfl
  | cons raw raws ih =>
    have plain : Options.fix ⟨recursive, verbose, false⟩ = false := rfl
    rw [scanLines_cons_of_plain plain, scanLines]
    simp only [if_true]
    refine ((Line.scan_mirrors rules raw).mono (fun _ _ => id) fun _ => .inl).bind
      (fun result result₂ related => ?_) fun _ => ?_
    · refine .bind_left (.ofExcept_own _ fun failure fails => .inr ⟨_, _, _, fails⟩) (fun written _ => ?_) ?_
      · refine .bind (ih written.2 (number + 1)) (fun rest rest₂ counted => .pure ?_) fun _ => .pure _
        rw [errors_addAll, errors_addAll, related, counted]
      · exact .bind (scanLines_speaks _ _ _ _ _) fun _ => .pure _
    · exact .bind (scanLines_speaks _ _ _ _ _) fun _ => .pure _

/-- The scan with fixes returns only if the scan without them does, and then both report the findings. -/
theorem returns_of_fix {encoder : E} {rules : List R} {recursive verbose : Bool} {raws : List (List Char)}
    {bytes : List UInt8} {counts : List Count} {w w' : World}
    (h : (scanLines encoder rules ⟨recursive, verbose, true⟩ 1 raws).run w = .ok (bytes, counts) w') (w₂ : World) :
    ∃ counts₂ w₂', (scanLines encoder rules ⟨recursive, verbose, false⟩ 1 raws).run w₂ = .ok ([], counts₂) w₂' ∧
      Reported rules verbose raws w w' counts ∧ Reported rules verbose raws w₂ w₂' counts₂ := by
  have plain : Options.fix ⟨recursive, verbose, false⟩ = false := rfl
  cases scanLines_mirrors encoder encoder rules recursive verbose 1 raws w w₂ with
  | @ok result result₂ _ w₂' told run run₂ same tells tells₂ =>
    rw [h] at run
    cases run
    obtain ⟨bytes₂, counts₂⟩ := result₂
    obtain ⟨rfl, reported⟩ := reported_of_run plain run₂
    have heard := tells₂.unique reported.told
    exact ⟨counts₂, w₂', run₂, ⟨heard ▸ tells, same.trans reported.counted⟩, reported⟩
  | error run =>
    rw [h] at run
    cases run
  | own run =>
    rw [h] at run
    cases run

/-- A scan without fixes reports the findings on the lines as they were read and counts their columns, rule by rule,
whenever it returns. The scan with fixes does the same, and returns only if the scan without fixes does. If it fails,
either the other fails in the same way after the same reports, at an obstacle to the search or to the report of what
was found; or the failure is one of a fix or of the encoding, and the reports of the other begin with those that were
made. -/
theorem reports_of_fix (encoder : E) (rules : List R) (recursive verbose : Bool) (raws : List (List Char))
    (w w₂ : World) :
    (∀ bytes counts w', (scanLines encoder rules ⟨recursive, verbose, true⟩ 1 raws).run w = .ok (bytes, counts) w' →
      ∃ counts₂ w₂', (scanLines encoder rules ⟨recursive, verbose, false⟩ 1 raws).run w₂ = .ok ([], counts₂) w₂' ∧
        Reported rules verbose raws w w' counts ∧ Reported rules verbose raws w₂ w₂' counts₂) ∧
    (∀ bytes counts w₂', (scanLines encoder rules ⟨recursive, verbose, false⟩ 1 raws).run w₂ = .ok (bytes, counts) w₂' →
      bytes = [] ∧ Reported rules verbose raws w₂ w₂' counts) ∧
    ∀ failure w', (scanLines encoder rules ⟨recursive, verbose, true⟩ 1 raws).run w = .error failure w' →
      (∃ told w₂', (scanLines encoder rules ⟨recursive, verbose, false⟩ 1 raws).run w₂ = .error failure w₂' ∧
        Tells Event.violation? w w' told ∧ Tells Event.violation? w₂ w₂' told ∧
        Obstacle rules verbose (findings rules verbose 1 raws) failure) ∨
      (failure.OfFix rules verbose ∨ Encoder.Refuses E failure) ∧ ∃ told more, Tells Event.violation? w w' told ∧
        Tells Event.violation? w₂ ((scanLines encoder rules ⟨recursive, verbose, false⟩ 1 raws).after w₂)
          (told ++ more) := by
  have plain : Options.fix ⟨recursive, verbose, false⟩ = false := rfl
  refine ⟨fun bytes counts w' h => returns_of_fix h w₂, fun bytes counts w₂' h => reported_of_run plain h,
    fun failure w' h => ?_⟩
  cases scanLines_mirrors encoder encoder rules recursive verbose 1 raws w w₂ with
  | ok run =>
    rw [h] at run
    cases run
  | error run run₂ tells tells₂ =>
    rw [h] at run
    cases run
    exact .inl ⟨_, _, run₂, tells, tells₂, obstacle_of_run plain run₂⟩
  | own run reason tells tells₂ =>
    rw [h] at run
    cases run
    obtain ⟨more, tells₂⟩ := tells₂
    exact .inr ⟨reason, _, more, tells, tells₂⟩

end Scan

end

namespace Scan

/-- A rule that objects to the first character of every line, with a template that names a group which its pattern
does not have. -/
def misnamed : FreeRule := .pattern (fun _ => [0]) (fun _ => .error (.ruler (.unknownGroup "x"))) "Misnamed."

/-- A rule that objects to every line. -/
def objecting : FreeRule := .test (fun _ => .ok true) 1 "Objection."

/-- A world in which nobody can be asked. -/
def deserted : World := ⟨⟨[], [], []⟩, none, false, #[]⟩

/-- On a line that is an assignment without spaces two rules find something. -/
theorem findings_oneLine : (findings Rule.table true 1 [['x', '=', '1']]).map Prod.snd =
    [⟨1, ['x', '=', '1'], [2], Spacing.operatorStart.rule.reason, true⟩,
      ⟨1, ['x', '=', '1'], [2], Spacing.operatorEnd.rule.reason, true⟩] := by decide +kernel

theorem tally_oneLine : tally Rule.table (findings Rule.table true 1 [['x', '=', '1']]) = [0, 1, 1, 0, 0] := by
  decide +kernel

/-- The operator rejects the first fix and accepts the second. -/
theorem run_oneLine_answered :
    ∃ bytes counts w', (scanLines Charset.utf8 Rule.table ⟨false, true, true⟩ 1 [['x', '=', '1']]).run
      { deserted with keys := some ["n", "y"] } = .ok (bytes, counts) w' := by
  have asked : [(⟨1, ['x', '=', '1'], .operatorStart⟩, "n"), (⟨1, ['x', '=', '1'], .operatorEnd⟩, "y")].map
      Prod.fst = questions 1 [['x', '=', '1']] := questions_oneLine.symm
  have writable : ∀ raw ∈ [['x', '=', '1']], ∀ c ∈ raw, Charset.utf8.has c = true :=
    (Charset.exists_encodeAll_iff true).1 ⟨_, rfl⟩
  have keys : ({ deserted with keys := some ["n", "y"] } : World).keys = some (["n", "y"] ++ []) := rfl
  obtain ⟨bytes, w', run, -, -⟩ := run_scanLines_answered false asked writable showable_oneLine Nat.one_pos keys
  exact ⟨bytes, _, w', run⟩

/-- Two rules object to a line, and the operator rejects one fix and accepts the other; and a rule fails with its
repair. -/
theorem reports_of_fix_oneLine :
    (∃ bytes counts counts₂ w' w₂', (scanLines Charset.utf8 Rule.table ⟨false, true, true⟩ 1 [['x', '=', '1']]).run
          { deserted with keys := some ["n", "y"] } = .ok (bytes, counts) w' ∧
        (scanLines Charset.utf8 Rule.table ⟨false, true, false⟩ 1 [['x', '=', '1']]).run deserted =
          .ok ([], counts₂) w₂' ∧
        Reported Rule.table true [['x', '=', '1']] { deserted with keys := some ["n", "y"] } w' counts ∧
        Reported Rule.table true [['x', '=', '1']] deserted w₂' counts₂ ∧
        counts.map Count.errors = [0, 1, 1, 0, 0]) ∧
      ∃ w' told more, (scanLines Charset.utf8 [misnamed, objecting] ⟨false, false, true⟩ 1 [['x']]).run deserted =
          .error (.ruler (.unknownGroup "x")) w' ∧
        Tells Event.violation? deserted w' told ∧ Tells Event.violation? deserted
          ((scanLines Charset.utf8 [misnamed, objecting] ⟨false, false, false⟩ 1 [['x']]).after deserted)
            (told ++ more) := by
  constructor
  · obtain ⟨answered, checked, -⟩ := reports_of_fix Charset.utf8 Rule.table false true [['x', '=', '1']]
      { deserted with keys := some ["n", "y"] } deserted
    obtain ⟨bytes, counts, w', run⟩ := run_oneLine_answered
    obtain ⟨counts₂, w₂', dry, reported, -⟩ := answered _ _ _ run
    exact ⟨_, _, counts₂, _, w₂', run, dry, reported, (checked _ _ _ dry).2, reported.counted.trans tally_oneLine⟩
  · obtain ⟨-, -, failed⟩ := reports_of_fix Charset.utf8 [misnamed, objecting] false false [['x']] deserted deserted
    rcases failed _ _ rfl with ⟨_, _, dry, -⟩ | ⟨-, told, more, tells, tells₂⟩
    · cases dry
    · exact ⟨_, told, more, rfl, tells, tells₂⟩

/-- The scan with fixes stops in a world in which nobody can be asked, and has reported less than the scan without
fixes, which returns. -/
def CutShort {R : Type} [Criterion R] (rules : List R) (verbose : Bool) (raws : List (List Char)) (failure : Failure) :
    Prop :=
  ∃ first second counts w' w₂',
    (scanLines Charset.utf8 rules ⟨false, verbose, true⟩ 1 raws).run deserted = .error failure w' ∧
    (scanLines Charset.utf8 rules ⟨false, verbose, false⟩ 1 raws).run deserted = .ok ([], counts) w₂' ∧
    Tells Event.violation? deserted w' [first] ∧ Tells Event.violation? deserted w₂' [first, second]

/-- A template that names an unknown group, or nobody to ask about the first fix: what comes behind is not reported
by the scan with fixes. -/
theorem reports_cut_short : CutShort [misnamed, objecting] false [['x']] (.ruler (.unknownGroup "x")) ∧
    CutShort Rule.table true [['x', '=', '1']] .nobodyToAsk := by
  constructor
  · exact ⟨⟨1, ['x'], [1], "Misnamed.", false⟩, ⟨1, ['x'], [1], "Objection.", false⟩, [⟨1, 0⟩, ⟨1, 0⟩], _, _, rfl, rfl,
      ⟨[_], rfl, rfl⟩, ⟨[_, _], rfl, rfl⟩⟩
  · obtain ⟨_, _, _, run⟩ := run_oneLine_answered
    obtain ⟨counts, w₂', dry, -, reported⟩ := returns_of_fix run deserted
    have told := reported.told
    rw [findings_oneLine] at told
    have stops : (scanLines Charset.utf8 Rule.table ⟨false, true, true⟩ 1 [['x', '=', '1']]).run deserted =
        .error .nobodyToAsk (deserted.saying
          [.violation ⟨1, ['x', '=', '1'], [2], Spacing.operatorStart.rule.reason, true⟩]) := by
      with_unfolding_all rfl
    exact ⟨_, _, counts, _, w₂', stops, dry, World.tells_saying _ _ _, told⟩

end Scan

end MatlabTidy
