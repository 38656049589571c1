import MatlabTidy.Proofs.Rule.Pieces
import MatlabTidy.Proofs.Run.Lines

/-!
# Fair counts

Whatever the rules are and whatever the operator answers, the counts of a scan are fair
(`Rule.Fair`): no rule has more fixes than offences, a rule without a repair has no fixes, and no rule has
more offences than the text has characters. This holds for the turn of a rule (`Line.fair_of_turn`), and
counts of lines add up to fair counts of the file (`Scan.fair_of_scanLines`). The report of fair counts is
fair in the same sense (`FileReport.Fair`).
-/

namespace MatlabTidy

/-- Counts that a rule may have on a text of the given size. -/
structure Rule.Fair (size : Nat) (rule : Rule) (count : Count) : Prop where
  fixes_le : count.fixes ≤ count.errors
  errors_le : count.errors ≤ size
  unrepaired : rule.isSpacing = false → count.fixes = 0

namespace Rule.Fair

variable {size more : Nat} {rule : Rule} {rules : List Rule} {a b : Count} {counts others : List Count}

theorem zero (size : Nat) (rule : Rule) : Fair size rule .zero :=
  ⟨Nat.le_refl 0, Nat.zero_le size, fun _ => rfl⟩

theorem mono (h : Fair size rule a) (le : size ≤ more) : Fair more rule a :=
  { h with errors_le := h.errors_le.trans le }

theorem add (h : Fair size rule a) (h' : Fair more rule b) : Fair (size + more) rule (a.add b) where
  fixes_le := Nat.add_le_add h.fixes_le h'.fixes_le
  errors_le := Nat.add_le_add h.errors_le h'.errors_le
  unrepaired := by
    intro unrepaired
    rw [Count.add, h.unrepaired unrepaired, h'.unrepaired unrepaired]

theorem zeros (size : Nat) (rules : List Rule) :
    List.Forall₂ (Fair size) rules (rules.map fun _ => .zero) := by
  induction rules with
  | nil => exact .nil
  | cons rule rules ih => exact .cons (zero size rule) ih

theorem addAll (h : List.Forall₂ (Fair size) rules counts) (h' : List.Forall₂ (Fair more) rules others) :
    List.Forall₂ (Fair (size + more)) rules (Count.addAll counts others) := by
  induction h generalizing others with
  | nil =>
    cases h'
    exact .nil
  | cons first _ ih =>
    cases h' with
    | cons first' rest' => exact .cons (first.add first') (ih rest')

end Rule.Fair

/-- A report of counts that the rules may have: for each rule there are no more fixes than offences, and no
fixes if it has no repair. -/
structure FileReport.Fair (rules : List Rule) (report : FileReport) : Prop where
  fixes_le : List.Forall₂ (fun fixes errors => 0 ≤ fixes ∧ fixes ≤ errors) report.fixes report.errors
  unrepaired : List.Forall₂ (fun rule fixes => rule.isSpacing = false → fixes = 0) rules report.fixes

/-- A fair report is fair without its fixes. -/
theorem FileReport.Fair.withoutFixes {rules : List Rule} {report : FileReport} (h : report.Fair rules) :
    report.withoutFixes.Fair rules where
  fixes_le := List.forall₂_map_left_iff.2 (h.fixes_le.imp fun _ _ le => ⟨Int.le_refl 0, Int.le_trans le.1 le.2⟩)
  unrepaired := List.forall₂_map_right_iff.2 (h.unrepaired.imp fun _ _ _ _ => rfl)

/-- A text has no more matches than characters, since a match is not empty. -/
theorem Pattern.hits_le (p : Pattern) (before : Option Char) (text : List Char) :
    Piece.hits (p.piecesAfter before text) ≤ text.length := by
  fun_induction Pattern.piecesAfter p before text with
  | case1 before => exact Nat.le_refl 0
  | case2 before c rest d run found ih =>
    rw [List.length_drop] at ih
    rw [Piece.hits_hit, List.length_cons]
    omega
  | case3 before c rest _ ih =>
    rw [Piece.hits_plain, List.length_cons]
    omega

/-- A rule has no more columns than the line has characters. -/
theorem Rule.length_columns_le {rule : Rule} {line : List Char} {columns : Columns} (ne : line ≠ [])
    (h : rule.columns line = .ok columns) : columns.length ≤ line.length := by
  have positive := List.length_pos_of_ne_nil ne
  cases rule with
  | spacing rule =>
    cases h
    rw [SpacingRule.length_columns]
    exact Pattern.hits_le rule.pattern none line
  | line rule =>
    cases h
    split
    · exact positive
    · exact Nat.zero_le _
  | other kind reason => cases h

namespace Line

variable {options : Options} {number size : Nat} {asRead current next last line raw raw' : List Char}
variable {rules : List Rule} {counts : List Count} {w w' : World}

/-- What a turn counts is fair. -/
theorem fair_of_turn {rule : Rule} {columns : Columns} {count : Count} (few : columns.length ≤ size)
    (h : (turn options number asRead rule columns current).run w = .ok (next, count) w') :
    rule.Fair size count := by
  cases (turn_of_run h).1 with
  | kept => exact ⟨Nat.zero_le _, few, fun _ => rfl⟩
  | fixed => exact ⟨Nat.le_refl _, few, nofun⟩

theorem fair_of_checkMatches {found : List (Rule × Columns)} (few : ∀ x ∈ found, x.2.length ≤ size)
    (h : (checkMatches options number asRead found current).run w = .ok (last, counts) w') :
    List.Forall₂ (Rule.Fair size) (found.map Prod.fst) counts := by
  induction found generalizing current counts w with
  | nil =>
    cases h
    exact .nil
  | cons first found ih =>
    obtain ⟨rule, columns⟩ := first
    rw [checkMatches_cons] at h
    obtain ⟨⟨next, count⟩, w₁, turned, h⟩ := Job.run_bind_eq_ok.1 h
    obtain ⟨⟨line, others⟩, w₂, rest, h⟩ := Job.run_bind_eq_ok.1 h
    cases h
    exact .cons (fair_of_turn (few _ List.mem_cons_self) turned)
      (ih (fun x mem => few x (List.mem_cons_of_mem _ mem)) rest)

/-- Every rule is evaluated, and what it found are its columns. -/
theorem columns_of_evaluate {found : List (Rule × Columns)}
    (h : (Rule.evaluate line rules).run w = .ok found w') :
    found.map Prod.fst = rules ∧ ∀ x ∈ found, x.1.columns line = .ok x.2 := by
  induction rules generalizing found w with
  | nil =>
    cases h
    exact ⟨rfl, nofun⟩
  | cons rule rules ih =>
    rw [Rule.evaluate] at h
    obtain ⟨columns, w₁, searched, behind⟩ := Job.run_bind_eq_ok.1 h
    obtain ⟨columns', rfl⟩ := Rule.run_search_eq_ok.1 searched
    obtain ⟨others, w₂, rest, last⟩ := Job.run_bind_eq_ok.1 behind
    cases last
    obtain ⟨same, columnsOf⟩ := ih rest
    exact ⟨congrArg (rule :: ·) same, List.forall_mem_cons.2 ⟨columns', columnsOf⟩⟩

theorem fair_of_check (ne : line ≠ [])
    (h : (check rules options number line).run w = .ok (last, counts) w') :
    List.Forall₂ (Rule.Fair line.length) rules counts := by
  obtain ⟨found, w₁, evaluated, h⟩ := Job.run_bind_eq_ok.1 h
  obtain ⟨same, columnsOf⟩ := columns_of_evaluate evaluated
  rw [← same]
  exact fair_of_checkMatches (fun x mem => Rule.length_columns_le ne (columnsOf x mem)) h

theorem length_splitMark_le (number : Nat) (text : List Char) :
    (splitMark number text).2.length ≤ text.length := by
  unfold splitMark
  split
  · split
    · exact Nat.le_succ _
    · exact Nat.le_refl _
  · exact Nat.le_refl _

/-- What is counted on a line is fair for the number of its characters. -/
theorem fair_of_scan (h : (scan rules options number raw).run w = .ok (raw', counts) w') :
    List.Forall₂ (Rule.Fair raw.length) rules counts := by
  have shorter : (splitMark number (Text.Line.ofRaw raw).text).2.length ≤ raw.length := by
    have whole := congrArg List.length (Text.Line.raw_ofRaw raw)
    rw [Text.Line.raw, List.length_append] at whole
    have := length_splitMark_le number (Text.Line.ofRaw raw).text
    omega
  unfold scan at h
  dsimp only at h
  split at h
  · rename_i checked
    obtain ⟨⟨text, counts'⟩, w₁, run, h⟩ := Job.run_bind_eq_ok.1 h
    cases h
    have ne : (splitMark number (Text.Line.ofRaw raw).text).2 ≠ [] := by
      rintro empty
      rw [empty] at checked
      cases checked
    exact (fair_of_check ne run).imp fun _ _ fair => fair.mono shorter
  · cases h
    exact Rule.Fair.zeros _ rules

end Line

namespace Scan

variable {E : Type} [Encoder E] {encoder : E} {options : Options} {number : Nat} {rules : List Rule}
variable {bytes : List UInt8} {counts : List Count} {w w' : World}

/-- What is counted on the lines of a file is fair for the number of their characters. -/
theorem fair_of_scanLines {raws : List (List Char)}
    (h : (scanLines encoder rules options number raws).run w = .ok (bytes, counts) w') :
    List.Forall₂ (Rule.Fair raws.flatten.length) rules counts := by
  induction raws generalizing number bytes counts w encoder with
  | nil =>
    cases h
    exact Rule.Fair.zeros _ rules
  | cons raw raws ih =>
    obtain ⟨raw', own, w₁, front, encoder', back, others, scanned, -, rest, rfl, rfl⟩ :=
      exists_of_run_scanLines_cons h
    rw [List.flatten_cons, List.length_append]
    exact Rule.Fair.addAll (Line.fair_of_scan scanned) (ih rest)

theorem fair_of_scanFeed {raws : List (List Char)} {broken : Option Failure}
    (h : (scanFeed encoder rules options raws broken).run w = .ok (bytes, counts) w') :
    List.Forall₂ (Rule.Fair raws.flatten.length) rules counts := by
  obtain ⟨result, w₁, scanned, h⟩ := Job.run_bind_eq_ok.1 h
  split at h
  · exact absurd h Job.not_run_throw_eq_ok
  · cases h
    exact fair_of_scanLines scanned

/-- The lines that a file delivers in an encoding. -/
def deliveredIn : Charset ⊕ Codec → List UInt8 → List (List Char)
  | .inl charset, bytes => (charset.read bytes).lines
  | .inr codec, bytes => (codec.read bytes).1

theorem fair_of_scanBytes {encoding : Charset ⊕ Codec} {source : List UInt8}
    (h : (scanBytes encoding rules options source).run w = .ok (bytes, counts) w') :
    List.Forall₂ (Rule.Fair (deliveredIn encoding source).flatten.length) rules counts := by
  cases encoding with
  | inl charset => exact fair_of_scanFeed h
  | inr codec => exact fair_of_scanFeed h

/-- The report of fair counts is fair. -/
theorem fair_report {size : Nat} (name : String) (assessment : Assessment)
    (h : List.Forall₂ (Rule.Fair size) rules counts) : (report name rules counts assessment).Fair rules where
  fixes_le := by
    induction h with
    | nil => exact .nil
    | cons first _ ih => exact .cons ⟨Int.natCast_nonneg _, Int.ofNat_le.2 first.fixes_le⟩ ih
  unrepaired := by
    refine List.forall₂_map_right_iff.2 (h.imp fun rule count fair unrepaired => ?_)
    rw [fair.unrepaired unrepaired]
    rfl

end Scan

end MatlabTidy
