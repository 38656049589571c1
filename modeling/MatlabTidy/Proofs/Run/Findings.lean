import MatlabTidy.Proofs.Run.Lines
import MatlabTidy.Proofs.Run.Trace
import Mathlib.Algebra.BigOperators.Group.List.Basic

/-!
# What a scan finds

`Scan.findings` lists the violations on the lines of a file for rules of any kind, each with the place of its
rule in the list: line by line, and on a line in the order of the rules. A scan that fixes nothing reports
exactly these, its counts are the columns of the violations rule by rule (`Scan.reported_of_run`), and it
fails only where the search of a rule fails or at a violation whose ruler cannot be drawn
(`Scan.obstacle_of_run`).
-/

namespace MatlabTidy

variable {R : Type} [Criterion R]

namespace Criterion

/-- The columns of a rule on a line; where its search fails it has none. -/
def columnsOn (rule : R) (line : List Char) : Columns :=
  match columns rule line with
  | .ok columns => columns
  | .error _ => []

theorem columnsOn_of_ok {rule : R} {line : List Char} {found : Columns} (h : columns rule line = .ok found) :
    columnsOn rule line = found := by
  rw [columnsOn, h]

/-- What a rule finds on a line, if it finds anything. -/
def violation? (verbose : Bool) (number : Nat) (line : List Char) (rule : R) : Option Violation :=
  if (columnsOn rule line).isEmpty then none
  else some ⟨number, line, columnsOn rule line, reason rule, verbose⟩

end Criterion

/-- A violation and the place of its rule in the list of rules. -/
abbrev Finding := Nat × Violation

namespace Line

/-- What the rules find on a text, for rules that stand in the list from the given place on. -/
def findings (verbose : Bool) (number : Nat) (text : List Char) : Nat → List R → List Finding
  | _, [] => []
  | place, rule :: rest =>
    ((Criterion.violation? verbose number text rule).map fun violation => (place, violation)).toList
      ++ findings verbose number text (place + 1) rest

end Line

namespace Scan

/-- What the rules find on the raw lines from the given number on. -/
def findings (rules : List R) (verbose : Bool) (number : Nat) : List (List Char) → List Finding
  | [] => []
  | raw :: rest =>
    (if Line.isChecked (Line.body number (.ofRaw raw)) then
      Line.findings verbose number (Line.body number (.ofRaw raw)) 0 rules
    else []) ++ findings rules verbose (number + 1) rest

/-- The number of columns of the violations of one rule. -/
def columnsOf (place : Nat) (found : List Finding) : Nat :=
  (found.map fun finding => if finding.1 = place then finding.2.columns.length else 0).foldr (· + ·) 0

end Scan

section Columns

variable {place : Nat}

theorem Scan.columnsOf_append (place : Nat) (found more : List Finding) :
    columnsOf place (found ++ more) = columnsOf place found + columnsOf place more := by
  induction found with
  | nil => exact (Nat.zero_add _).symm
  | cons finding found ih =>
    unfold columnsOf at ih ⊢
    rw [List.cons_append, List.map_cons, List.foldr_cons, ih, List.map_cons, List.foldr_cons, Nat.add_assoc]

namespace Line

variable (verbose : Bool) (number : Nat) (text : List Char)

/-- A rule behind which the list begins is not heard of. -/
theorem columnsOf_findings_of_lt {start : Nat} (rules : List R) (before : place < start) :
    Scan.columnsOf place (findings verbose number text start rules) = 0 := by
  induction rules generalizing start with
  | nil => rfl
  | cons rule rules ih =>
    have rest := ih (Nat.lt_succ_of_lt before)
    rw [findings, Scan.columnsOf_append, rest, Nat.add_zero]
    unfold Scan.columnsOf
    have other : start ≠ place := by omega
    cases Criterion.violation? verbose number text rule with
    | none => rfl
    | some violation => simp [other]

/-- The columns of the violations of a rule are the columns that it finds. -/
theorem columnsOf_findings (start : Nat) {rules : List R} {rule : R} (here : rules[place]? = some rule) :
    Scan.columnsOf (start + place) (findings verbose number text start rules) =
      (Criterion.columnsOn rule text).length := by
  induction rules generalizing start place with
  | nil => cases here
  | cons first rules ih =>
    rw [findings, Scan.columnsOf_append]
    cases place with
    | zero =>
      obtain rfl := Option.some.inj here
      have behind := columnsOf_findings_of_lt verbose number text rules (Nat.lt_succ_self start)
      rw [Nat.add_zero, behind, Nat.add_zero]
      unfold Criterion.violation? Scan.columnsOf
      by_cases quiet : Criterion.columnsOn first text = []
      · simp [quiet]
      · simp [quiet]
    | succ place =>
      have rest := ih (start + 1) here
      rw [Nat.add_right_comm, Nat.add_assoc] at rest
      rw [rest]
      unfold Scan.columnsOf
      cases Criterion.violation? verbose number text first with
      | none => exact Nat.zero_add _
      | some violation => simp

end Line

end Columns

namespace Line

variable {options : Options} {number : Nat} {asRead current next text : List Char} {rules : List R}
variable {counts : List Count} {w w' : World}

theorem reports_eq (options : Options) (number : Nat) (text : List Char) (rule : R) :
    reports options number text rule (Criterion.columnsOn rule text) =
      ((Criterion.violation? options.verbose number text rule).map Event.violation).toList := by
  unfold reports Criterion.violation?
  split <;> rfl

/-- A turn that fixes nothing reports what the rule has found, and counts it. -/
theorem run_turn_plain {rule : R} {columns : Columns} {count : Count} (plain : options.fix = false)
    (h : (turn options number asRead rule columns current).run w = .ok (next, count) w') :
    w' = w.saying (reports options number asRead rule columns) ∧ count.errors = columns.length := by
  unfold turn at h
  unfold reports
  split at h
  · rename_i quiet
    rw [if_pos quiet, World.saying_nil, List.isEmpty_iff.1 quiet]
    cases h
    exact ⟨rfl, rfl⟩
  · rename_i found
    rw [if_neg found]
    rw [Job.run_bind_eq_ok] at h
    obtain ⟨_, w₁, reported, h⟩ := h
    obtain ⟨-, rfl⟩ := run_report_eq_ok.1 reported
    rw [plain, Bool.false_and, if_neg Bool.false_ne_true] at h
    cases h
    exact ⟨rfl, rfl⟩

theorem run_checkMatches_plain {found : List (R × Columns)} (plain : options.fix = false)
    (h : (checkMatches options number asRead found current).run w = .ok (next, counts) w') :
    w' = w.saying (found.flatMap fun matched => reports options number asRead matched.1 matched.2) ∧
      counts.map Count.errors = found.map fun matched => matched.2.length := by
  induction found generalizing current w counts with
  | nil =>
    cases h
    exact ⟨(World.saying_nil _).symm, rfl⟩
  | cons first rest ih =>
    obtain ⟨rule, columns⟩ := first
    rw [checkMatches_cons] at h
    obtain ⟨⟨middle, count⟩, w₁, turned, h⟩ := Job.run_bind_eq_ok.1 h
    obtain ⟨⟨last, others⟩, w₂, behind, h⟩ := Job.run_bind_eq_ok.1 h
    cases h
    obtain ⟨rfl, counted⟩ := run_turn_plain plain turned
    obtain ⟨rfl, counted'⟩ := ih behind
    rw [World.saying_saying, List.flatMap_cons, List.map_cons, List.map_cons, counted, counted']
    exact ⟨rfl, rfl⟩

/-- Rules that have columns on a line have the columns that they find. -/
theorem run_evaluate_eq_ok {found : List (R × Columns)}
    (h : (Rule.evaluate text rules).run w = .ok found w') :
    found = (rules.map fun rule => (rule, Criterion.columnsOn rule text)) ∧ w' = w := by
  induction rules generalizing found w with
  | nil =>
    cases h
    exact ⟨rfl, rfl⟩
  | cons rule rules ih =>
    rw [Rule.evaluate, Job.run_bind_eq_ok] at h
    obtain ⟨columns, w₁, searched, h⟩ := h
    obtain ⟨matched, rfl⟩ := Criterion.run_search_eq_ok.1 searched
    rw [Job.run_bind_eq_ok] at h
    obtain ⟨others, w₂, behind, h⟩ := h
    cases h
    obtain ⟨rfl, rfl⟩ := ih behind
    rw [List.map_cons, Criterion.columnsOn_of_ok matched]
    exact ⟨rfl, rfl⟩

theorem flatMap_reports (options : Options) (number : Nat) (text : List Char) (place : Nat) (rules : List R) :
    ((rules.map fun rule => (rule, Criterion.columnsOn rule text)).flatMap fun matched =>
        reports options number text matched.1 matched.2) =
      (findings options.verbose number text place rules).map fun finding => .violation finding.2 := by
  induction rules generalizing place with
  | nil => rfl
  | cons rule rules ih =>
    rw [List.map_cons, List.flatMap_cons, ih (place + 1), findings, List.map_append, reports_eq]
    cases Criterion.violation? options.verbose number text rule <;> rfl

/-- A rule that finds something is heard of. -/
theorem exists_mem_findings (verbose : Bool) (number : Nat) {rule : R} (place : Nat) (mem : rule ∈ rules)
    (found : Criterion.columnsOn rule text ≠ []) :
    ∃ finding ∈ findings verbose number text place rules, finding.2.columns = Criterion.columnsOn rule text := by
  induction rules generalizing place with
  | nil => cases mem
  | cons first rules ih =>
    rw [findings]
    rcases List.mem_cons.1 mem with rfl | mem
    · refine ⟨(place, ⟨number, text, Criterion.columnsOn rule text, Criterion.reason rule, verbose⟩), ?_, rfl⟩
      rw [Criterion.violation?, if_neg (by simpa using found)]
      exact List.mem_append_left _ (List.mem_singleton.2 rfl)
    · obtain ⟨finding, later, same⟩ := ih (place + 1) mem
      exact ⟨finding, List.mem_append_right _ later, same⟩

/-- A violation that cannot be reported has a ruler that cannot be drawn. -/
theorem undrawn_of_report {v : Violation} {failure : Failure} (h : (report v).run w = .error failure w') :
    v.verbose = true ∧ ∃ error, v.columns.markers = .error error ∧ failure = .ruler error := by
  rw [report, Job.run_bind_of_ok (Job.run_emit _)] at h
  split at h
  · rename_i shown
    refine ⟨shown, ?_⟩
    rcases Job.run_bind_eq_error.1 h with h | ⟨_, w₂, -, h⟩
    · cases drawn : v.columns.markers with
      | ok ruler =>
        rw [drawn] at h
        cases h
      | error error =>
        rw [drawn] at h
        cases h
        exact ⟨error, rfl, rfl⟩
    · cases h
  · cases h

/-- Without a question, a repair fails only where the rule does. -/
theorem raises_of_applyFix {rule : R} {line : List Char} {columns : Columns} {number : Int} {failure : Failure}
    (repairs : (Criterion.repair? rule).isSome = true)
    (h : (applyFix line rule columns false number).run w = .error failure w') : Criterion.Raises rule failure := by
  unfold applyFix at h
  split at h
  · rename_i none
    rw [none] at repairs
    cases repairs
  · rename_i repair found
    split at h
    · cases h
    · rcases Job.run_bind_eq_error.1 h with h | ⟨candidate, w₁, -, h⟩
      · obtain ⟨_, fails, rfl, -⟩ := Job.run_ofExcept_eq_error.1 h
        exact .repair found fails
      · split at h
        · cases h
        · cases h

/-- A turn that asks nobody fails only if its ruler cannot be drawn, or if the rule fails on a line that is fixed. -/
theorem undrawn_of_turn {rule : R} {columns : Columns} {failure : Failure}
    (quiet : options.fix = true → options.interactive = false)
    (h : (turn options number asRead rule columns current).run w = .error failure w') :
    (options.verbose = true ∧ columns ≠ [] ∧ ∃ error, columns.markers = .error error ∧ failure = .ruler error) ∨
      options.fix = true ∧ (Criterion.repair? rule).isSome = true ∧ Criterion.Raises rule failure := by
  unfold turn at h
  split at h
  · cases h
  · rename_i found
    rw [List.isEmpty_iff] at found
    rcases Job.run_bind_eq_error.1 h with h | ⟨_, w₁, -, h⟩
    · obtain ⟨shown, undrawn⟩ := undrawn_of_report h
      exact .inl ⟨shown, found, undrawn⟩
    · split at h
      · rename_i fixes
        obtain ⟨fix, repairs⟩ := Bool.and_eq_true_iff.1 fixes
        refine .inr ⟨fix, repairs, ?_⟩
        rcases Job.run_bind_eq_error.1 h with h | ⟨again, w₂, -, h⟩
        · obtain ⟨_, fails, rfl, -⟩ := Job.run_ofExcept_eq_error.1 h
          exact .search fails
        · rcases Job.run_bind_eq_error.1 h with h | ⟨_, w₃, -, h⟩
          · rw [quiet fix] at h
            exact raises_of_applyFix repairs h
          · cases h
      · cases h

theorem undrawn_of_checkMatches {found : List (R × Columns)} {failure : Failure}
    (quiet : options.fix = true → options.interactive = false)
    (h : (checkMatches options number asRead found current).run w = .error failure w') :
    (options.verbose = true ∧ ∃ matched ∈ found, matched.2 ≠ [] ∧
        ∃ error, matched.2.markers = .error error ∧ failure = .ruler error) ∨
      options.fix = true ∧ ∃ matched ∈ found, (Criterion.repair? matched.1).isSome = true ∧
        Criterion.Raises matched.1 failure := by
  induction found generalizing current w with
  | nil => cases h
  | cons first rest ih =>
    rw [checkMatches_cons] at h
    rcases Job.run_bind_eq_error.1 h with h | ⟨_, w₁, -, h⟩
    · rcases undrawn_of_turn quiet h with ⟨shown, undrawn⟩ | ⟨fix, raised⟩
      · exact .inl ⟨shown, first, List.mem_cons_self, undrawn⟩
      · exact .inr ⟨fix, first, List.mem_cons_self, raised⟩
    · rcases Job.run_bind_eq_error.1 h with h | ⟨_, w₂, -, h⟩
      · rcases ih h with ⟨shown, matched, mem, undrawn⟩ | ⟨fix, matched, mem, raised⟩
        · exact .inl ⟨shown, matched, List.mem_cons_of_mem _ mem, undrawn⟩
        · exact .inr ⟨fix, matched, List.mem_cons_of_mem _ mem, raised⟩
      · cases h

/-- Where the rules have no columns, the search of one of them fails. -/
theorem unsearched_of_evaluate {failure : Failure} (h : (Rule.evaluate text rules).run w = .error failure w') :
    ∃ rule ∈ rules, Criterion.columns rule text = .error failure := by
  induction rules generalizing w with
  | nil => cases h
  | cons rule rules ih =>
    rw [Rule.evaluate] at h
    rcases Job.run_bind_eq_error.1 h with h | ⟨_, w₁, -, h⟩
    · obtain ⟨_, fails, rfl, -⟩ := Job.run_ofExcept_eq_error.1 h
      exact ⟨rule, List.mem_cons_self, fails⟩
    · rcases Job.run_bind_eq_error.1 h with h | ⟨_, w₂, -, h⟩
      · obtain ⟨rule, mem, fails⟩ := ih h
        exact ⟨rule, List.mem_cons_of_mem _ mem, fails⟩
      · cases h

end Line

namespace Scan

variable {E : Type} [Encoder E] {encoder : E} {rules : List R} {options : Options} {number : Nat} {verbose : Bool}
variable {raws : List (List Char)} {bytes : List UInt8} {counts : List Count} {w w' : World}

/-- The columns of all rules. -/
def tally (rules : List R) (found : List Finding) : List Nat :=
  (List.range rules.length).map fun place => columnsOf place found

omit [Criterion R] in
theorem tally_append (rules : List R) (found more : List Finding) :
    tally rules (found ++ more) = List.zipWith (· + ·) (tally rules found) (tally rules more) := by
  apply List.ext_getElem
  · simp [tally]
  · intro place here there
    simp [tally, columnsOf_append]

omit [Criterion R] in
theorem tally_nil (rules : List R) : tally rules [] = rules.map fun _ => 0 := by
  apply List.ext_getElem
  · simp [tally]
  · intro place here there
    simp [tally, columnsOf]

theorem tally_findings (verbose : Bool) (number : Nat) (text : List Char) (rules : List R) :
    tally rules (Line.findings verbose number text 0 rules) =
      rules.map fun rule => (Criterion.columnsOn rule text).length := by
  apply List.ext_getElem
  · simp [tally]
  · intro place here there
    have inside : place < rules.length := by simpa [tally] using here
    have counted := Line.columnsOf_findings verbose number text 0 (List.getElem?_eq_getElem inside)
    rw [Nat.zero_add] at counted
    simp [tally, counted]

theorem errors_addAll (own others : List Count) :
    (Count.addAll own others).map Count.errors =
      List.zipWith (· + ·) (own.map Count.errors) (others.map Count.errors) := by
  rw [Count.addAll, List.map_zipWith, List.zipWith_map]
  rfl

theorem findings_cons (rules : List R) (verbose : Bool) (number : Nat) (raw : List Char)
    (raws : List (List Char)) :
    findings rules verbose number (raw :: raws) =
      findings rules verbose number [raw] ++ findings rules verbose (number + 1) raws := by
  rw [findings, findings, findings, List.append_nil]

/-- A scan of a line that fixes nothing reports what the rules find, and counts it. -/
theorem run_scan_plain {raw raw' : List Char} (plain : options.fix = false)
    (h : (Line.scan rules options number raw).run w = .ok (raw', counts) w') :
    w' = w.saying ((findings rules options.verbose number [raw]).map fun finding => .violation finding.2) ∧
      counts.map Count.errors = tally rules (findings rules options.verbose number [raw]) := by
  rw [findings, findings, List.append_nil]
  unfold Line.scan at h
  dsimp only at h
  rw [← Line.body] at h
  split at h
  · rename_i checked
    rw [if_pos checked]
    obtain ⟨⟨text, counts'⟩, w₁, check, h⟩ := Job.run_bind_eq_ok.1 h
    cases h
    rw [Line.check] at check
    obtain ⟨found, w₂, evaluated, matched⟩ := Job.run_bind_eq_ok.1 check
    obtain ⟨rfl, rfl⟩ := Line.run_evaluate_eq_ok evaluated
    obtain ⟨rfl, counted⟩ := Line.run_checkMatches_plain plain matched
    rw [Line.flatMap_reports options number _ 0 rules, counted, tally_findings, List.map_map]
    exact ⟨rfl, rfl⟩
  · rename_i unchecked
    rw [if_neg unchecked, tally_nil]
    cases h
    rw [List.map_map, List.map_nil, World.saying_nil]
    exact ⟨rfl, rfl⟩

/-- A scan of lines that fixes nothing scans the first, and then the others. -/
theorem scanLines_cons_of_plain (plain : options.fix = false) (raw : List Char) (raws : List (List Char)) :
    scanLines encoder rules options number (raw :: raws) = (do
      let (_, counts) ← Line.scan rules options number raw
      let (others, otherCounts) ← scanLines encoder rules options (number + 1) raws
      return (others, Count.addAll counts otherCounts)) := by
  rw [scanLines]
  refine bind_congr fun found => ?_
  rw [plain]
  rfl

/-- A scan that fixes nothing writes nothing, reports what the rules find on the lines, and counts it. -/
theorem findings_of_run (plain : options.fix = false)
    (h : (scanLines encoder rules options number raws).run w = .ok (bytes, counts) w') :
    bytes = [] ∧
      w' = w.saying ((findings rules options.verbose number raws).map fun finding => .violation finding.2) ∧
      counts.map Count.errors = tally rules (findings rules options.verbose number raws) := by
  induction raws generalizing number w bytes counts with
  | nil =>
    cases h
    rw [findings, tally_nil, List.map_map, List.map_nil, World.saying_nil]
    exact ⟨rfl, rfl, rfl⟩
  | cons raw raws ih =>
    rw [scanLines_cons_of_plain plain, Job.run_bind_eq_ok] at h
    obtain ⟨⟨raw', own⟩, w₁, scanned, h⟩ := h
    obtain ⟨⟨back, others⟩, w₂, rest, last⟩ := Job.run_bind_eq_ok.1 h
    cases last
    obtain ⟨rfl, counted⟩ := run_scan_plain plain scanned
    obtain ⟨rfl, rfl, counted'⟩ := ih rest
    rw [errors_addAll, counted, counted', ← tally_append, World.saying_saying,
      findings_cons rules options.verbose number raw raws, List.map_append]
    exact ⟨rfl, rfl, rfl⟩

/-- Of findings that are reported the violations are heard. -/
theorem tells_findings (w : World) (found : List Finding) :
    World.Tells Event.violation? w (w.saying (found.map fun finding => .violation finding.2)) (found.map Prod.snd) := by
  have heard := World.tells_saying Event.violation? w (found.map fun finding => .violation finding.2)
  have told : (found.map fun finding => Event.violation finding.2).filterMap Event.violation? =
      found.map Prod.snd := by
    rw [List.filterMap_map, ← List.filterMap_eq_map]
    rfl
  rwa [told] at heard

/-- What a scan has reported are its findings, and it has counted their columns, rule by rule. -/
structure Reported (rules : List R) (verbose : Bool) (raws : List (List Char)) (w w' : World) (counts : List Count) :
    Prop where
  told : World.Tells Event.violation? w w' ((findings rules verbose 1 raws).map Prod.snd)
  counted : counts.map Count.errors = tally rules (findings rules verbose 1 raws)

/-- A scan that fixes nothing reports what the rules find. -/
theorem reported_of_run (plain : options.fix = false)
    (h : (scanLines encoder rules options 1 raws).run w = .ok (bytes, counts) w') :
    bytes = [] ∧ Reported rules options.verbose raws w w' counts := by
  obtain ⟨rfl, rfl, counted⟩ := findings_of_run plain h
  exact ⟨rfl, tells_findings w _, counted⟩

/-- Why a scan that fixes nothing cannot go on: the search of a rule fails, or the ruler of a violation among those
found cannot be drawn. -/
inductive Obstacle (rules : List R) (verbose : Bool) (found : List Finding) : Failure → Prop where
  | unsearched {rule : R} {text : List Char} {failure : Failure} (mem : rule ∈ rules)
      (fails : Criterion.columns rule text = .error failure) : Obstacle rules verbose found failure
  | undrawn {finding : Finding} {error : RulerError} (shown : verbose = true) (mem : finding ∈ found)
      (undrawn : finding.2.columns.markers = .error error) : Obstacle rules verbose found (.ruler error)

theorem Obstacle.mono {found more : List Finding} {failure : Failure} (h : Obstacle rules verbose found failure)
    (subset : found ⊆ more) : Obstacle rules verbose more failure := by
  cases h with
  | unsearched mem fails => exact .unsearched mem fails
  | undrawn shown mem undrawn => exact .undrawn shown (subset mem) undrawn

theorem obstacle_of_scan {raw : List Char} {failure : Failure} (plain : options.fix = false)
    (h : (Line.scan rules options number raw).run w = .error failure w') :
    Obstacle rules options.verbose (findings rules options.verbose number [raw]) failure := by
  rw [findings, findings, List.append_nil]
  unfold Line.scan at h
  dsimp only at h
  rw [← Line.body] at h
  split at h
  · rename_i checked
    rw [if_pos checked]
    rcases Job.run_bind_eq_error.1 h with h | ⟨_, w₁, -, h⟩
    · rw [Line.check] at h
      rcases Job.run_bind_eq_error.1 h with h | ⟨found, w₁, evaluated, h⟩
      · obtain ⟨rule, mem, fails⟩ := Line.unsearched_of_evaluate h
        exact .unsearched mem fails
      · obtain ⟨rfl, -⟩ := Line.run_evaluate_eq_ok evaluated
        rcases Line.undrawn_of_checkMatches (fun fix => absurd fix (by simp [plain])) h with
          ⟨shown, matched, mem, nonempty, error, undrawn, rfl⟩ | ⟨fix, -⟩
        · obtain ⟨rule, known, rfl⟩ := List.mem_map.1 mem
          obtain ⟨finding, heard, same⟩ := Line.exists_mem_findings options.verbose number 0 known nonempty
          exact .undrawn shown heard (by rw [same, undrawn])
        · rw [plain] at fix
          cases fix
    · cases h
  · cases h

/-- A scan that fixes nothing fails only at an obstacle. -/
theorem obstacle_of_run {failure : Failure} (plain : options.fix = false)
    (h : (scanLines encoder rules options number raws).run w = .error failure w') :
    Obstacle rules options.verbose (findings rules options.verbose number raws) failure := by
  induction raws generalizing number w with
  | nil => cases h
  | cons raw raws ih =>
    rw [findings_cons]
    rw [scanLines_cons_of_plain plain] at h
    rcases Job.run_bind_eq_error.1 h with h | ⟨_, w₁, -, h⟩
    · apply (obstacle_of_scan plain h).mono
      exact List.subset_append_left _ _
    · rcases Job.run_bind_eq_error.1 h with h | ⟨_, w₂, -, h⟩
      · apply (ih h).mono
        exact List.subset_append_right _ _
      · cases h

end Scan

end MatlabTidy
