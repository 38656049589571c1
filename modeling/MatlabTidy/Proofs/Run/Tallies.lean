import MatlabTidy.Proofs.Run.Rewriting
import MatlabTidy.Proofs.Run.Totals

/-!
# Fixes are counted as they are made

The offences of a rule are counted on the line as it was read, and its repair is applied to the line as the
rules before left it. Still the two agree (`Line.turn_honest`): on the line that the rules before have
respaced, whichever of their repairs were accepted, a rule finds as many columns as at first, and its repair
rewrites as many gaps. So a file that is fixed without questions reports as many fixes as offences for every
spacing rule (`Scan.tallies_honest`).
-/

namespace MatlabTidy

open Rule (table)

namespace Line

variable {options : Options} {number : Nat} {line current next : List Char} {rule : SpacingRule}
variable {before after : List Rule} {counts : List Count} {count : Count} {w w' : World}

/-- The turn of a rule of the table stands between the turns of the rules before and behind it. -/
theorem check_eq_turn (place : table = before ++ .spacing rule :: after) (options : Options) (number : Nat)
    (line : List Char) :
    check table options number line = (do
      let (current, counts) ← turns options number line before line
      let (next, count) ← turn options number line (Rule.spacing rule) (rule.columns line) current
      let (last, others) ← turns options number line after next
      return (last, counts ++ count :: others)) := by
  rw [check_eq_turns options number line fun _ mem => mem, place, turns_append]
  simp only [turns, List.map_cons, checkMatches_cons, bind_assoc, pure_bind, Rule.columnsOn]

/-- When the turn of a rule comes, the rule finds on the line as many columns as it found at first. -/
theorem length_columns_of_turns (place : table = before ++ .spacing rule :: after)
    (h : (turns options number line before line).run w = .ok (current, counts) w') :
    (rule.columns current).length = (rule.columns line).length := by
  have known : ∀ rule ∈ before, rule ∈ table := by
    intro rule mem
    rw [place]
    exact List.mem_append_left _ mem
  have own : .spacing rule ∈ table := by
    rw [place]
    exact List.mem_append_right _ List.mem_cons_self
  obtain ⟨s, rfl⟩ := Rule.exists_of_spacing_mem own
  have start : (turns options number line before (respaced (fun _ => false) line)).run w =
      .ok (current, counts) w' := by
    rw [respaced_none]
    exact h
  obtain ⟨⟨⟨on, rfl, from_before⟩, -, -⟩, -⟩ := turns_of_run known start
  have unused : on s = false := by
    by_contra used
    have distinct := Rule.nodup_table
    rw [place, List.nodup_append] at distinct
    rcases from_before s (by simpa using used) with h | h
    · cases h
    · exact distinct.2.2 _ h _ List.mem_cons_self rfl
  rw [Spacing.length_columns_respaced, unused]
  rfl

/-- What a turn counts is what it does: the offences are the columns found at first, and the fixes are the
gaps that the turn rewrites. -/
theorem turn_honest (place : table = before ++ .spacing rule :: after)
    (h : (turns options number line before line).run w = .ok (current, counts) w')
    {w'' : World} (h' : (turn options number line (Rule.spacing rule) (rule.columns line) current).run w' =
      .ok (next, count) w'') :
    (next = current ∨ next = rule.fix current) ∧
      count = ⟨(rule.columns line).length, Text.rewritten current next⟩ := by
  have same := length_columns_of_turns place h
  have own : .spacing rule ∈ table := by
    rw [place]
    exact List.mem_append_right _ List.mem_cons_self
  obtain ⟨s, rfl⟩ := Rule.exists_of_spacing_mem own
  generalize hrule : Rule.spacing s.rule = rule at h'
  generalize hcolumns : s.rule.columns line = columns at h' same
  cases (turn_of_run h').1 with
  | kept =>
    refine ⟨.inl rfl, ?_⟩
    rw [Spacing.rewritten_self]
  | fixed rule _ allowed found changed =>
    cases hrule
    refine ⟨.inr rfl, ?_⟩
    rw [Spacing.rewritten_fix, same]

end Line

namespace Scan

variable {setup : Setup} {options : Options} {path : String} {w w' : World}

/-- A report counts each offence against a spacing rule as fixed, and no long line. -/
def Balanced (result : FileReport) : Prop :=
  ∀ (i : Nat) (rule : Rule), table[i]? = some rule →
    ∃ errors, result.errors[i]? = some errors ∧ result.fixes[i]? = some (if rule.isSpacing then errors else 0)

theorem balanced_totalsFrom (name : String) (number : Nat) (lines : List Text.Line) (assessment : Assessment) :
    Balanced (report name table (totalsFrom true number lines) assessment) := by
  intro i rule here
  have counted : (totalsFrom true number lines)[i]? = some (totalFrom true rule number lines) := by
    rw [totalsFrom, List.getElem?_map, here]
    rfl
  refine ⟨(totalFrom true rule number lines).errors, ?_, ?_⟩
  · rw [report, List.getElem?_map, counted]
    rfl
  · rw [report, List.getElem?_map, counted, Option.map_some, fixes_totalFrom, Bool.true_and]
    split <;> rfl

/-- A scan without questions fixes what it finds. -/
theorem balanced_of_scanDelivery {charset : Charset} {bytes out : List UInt8} {counts : List Count}
    (fix : options.fix = true) (silent : options.verbose = false)
    (h : (scanDelivery charset table options (charset.read bytes)).run w = .ok (out, counts) w')
    (name : String) (assessment : Assessment) :
    Balanced (report name table counts assessment) := by
  obtain ⟨delivered, scans⟩ := run_scanDelivery_eq_ok.1 h
  obtain ⟨lines, cut, read⟩ := Charset.exists_lines_of_read delivered
  rw [read] at scans
  have smooth := smoothFrom_of_silent silent 1 lines
  obtain ⟨-, rfl⟩ := (run_scanLines_eq_ok Nat.one_pos cut.ofRaw_raw smooth).1 ⟨_, scans⟩
  rw [fix]
  exact balanced_totalsFrom name 1 lines assessment

/-- Whatever the operator answers, a rule has as many offences on the line as it was read as on the line that
its turn finds, and the turn counts as fixes the gaps that it rewrites. So a scan without questions reports as
many fixes as offences. -/
theorem tallies_honest :
    (∀ (rule : SpacingRule) (before after : List Rule), table = before ++ .spacing rule :: after →
      ∀ (options : Options) (number : Nat) (line : List Char),
        Line.check table options number line = (do
          let (current, counts) ← Line.turns options number line before line
          let (next, count) ← Line.turn options number line (Rule.spacing rule) (rule.columns line) current
          let (last, others) ← Line.turns options number line after next
          return (last, counts ++ count :: others)) ∧
        ∀ (w w₁ : World) (current : List Char) (counts : List Count),
          (Line.turns options number line before line).run w = .ok (current, counts) w₁ →
          (rule.columns current).length = (rule.columns line).length ∧
          ∀ (next : List Char) (count : Count) (w₂ : World),
            (Line.turn options number line (Rule.spacing rule) (rule.columns line) current).run w₁ =
              .ok (next, count) w₂ →
            (next = current ∨ next = rule.fix current) ∧
              count = ⟨(rule.columns line).length, Text.rewritten current next⟩) ∧
    (∀ (options : Options), options.fix = true → options.interactive = false →
      (∀ (charset : Charset) (bytes out : List UInt8) (counts : List Count) (w w' : World),
        (scanDelivery charset table options (charset.read bytes)).run w = .ok (out, counts) w' →
        ∀ (name : String) (assessment : Assessment), Balanced (report name table counts assessment)) ∧
      ∀ (setup : Setup) (path : String) (shownAs : Option String) (result : FileReport) (w w' : World),
        (file setup table options path shownAs).run w = .ok result w' → Balanced result) := by
  refine ⟨fun rule before after place options number line => ⟨Line.check_eq_turn place options number line, ?_⟩,
    fun options fix plain => ?_⟩
  · intro w w₁ current counts h
    refine ⟨Line.length_columns_of_turns place h, ?_⟩
    intro next count w₂ h'
    exact Line.turn_honest place h h'
  · have silent : options.verbose = false := by
      rw [Options.interactive, fix] at plain
      simpa using plain
    refine ⟨fun charset bytes out counts w w' h => balanced_of_scanDelivery fix silent h, ?_⟩
    intro setup path shownAs result w w' h
    obtain ⟨r, rfl, rfl⟩ := (run_file_eq_ok fix).1 h
    exact balanced_of_scanDelivery fix silent (run_scanDelivery_eq_ok.2 ⟨r.delivered, r.scans⟩) _ _

/-- The operator of a line gets the blank behind it as counted, after the one in front of it, and the report on
a file of the line is balanced. -/
theorem tallies_oneLine :
    (∃ current counts w₁ next count w₂,
      (Line.turns ⟨false, false, true⟩ 1 ['x', '=', '1'] [.line (tooLong lineLimit), .spacing operatorStart]
        ['x', '=', '1']).run oneLine = .ok (current, counts) w₁ ∧
      (operatorEnd.columns current).length = (operatorEnd.columns ['x', '=', '1']).length ∧
      (Line.turn ⟨false, false, true⟩ 1 ['x', '=', '1'] (Rule.spacing operatorEnd)
        (operatorEnd.columns ['x', '=', '1']) current).run w₁ = .ok (next, count) w₂ ∧
      count = ⟨(operatorEnd.columns ['x', '=', '1']).length, Text.rewritten current next⟩) ∧
    ∃ result w', (file plainSetup table ⟨false, false, true⟩ "a.m" none).run oneLine = .ok result w' ∧
      Balanced result := by
  obtain ⟨turns, scans⟩ := tallies_honest
  constructor
  · obtain ⟨check, counted⟩ := turns operatorEnd [.line (tooLong lineLimit), .spacing operatorStart]
      [.spacing commaEnd, .spacing wideGap] rfl ⟨false, false, true⟩ 1 ['x', '=', '1']
    have run := Line.run_check 1 ['x', '=', '1'] oneLine
      (fun _ _ => show Options.interactive ⟨false, false, true⟩ = false from rfl) (fun _ mem => mem)
      Rule.nodup_table (fun _ _ => nofun)
    rw [check] at run
    obtain ⟨⟨current, counts⟩, w₁, first, others⟩ := Job.run_bind_eq_ok.1 run
    obtain ⟨⟨next, count⟩, w₂, second, -⟩ := Job.run_bind_eq_ok.1 others
    obtain ⟨same, honest⟩ := counted _ _ _ _ first
    exact ⟨current, counts, w₁, next, count, w₂, first, same, second, (honest _ _ _ second).2⟩
  · obtain ⟨result, w', run⟩ := run_file_oneLine
    exact ⟨result, w', run, (scans ⟨false, false, true⟩ rfl rfl).2 _ _ _ _ _ _ run⟩

end Scan

end MatlabTidy
