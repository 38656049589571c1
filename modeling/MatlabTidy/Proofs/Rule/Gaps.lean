import MatlabTidy.Proofs.Rule.Classes
import MatlabTidy.Proofs.Rule.Pieces
import MatlabTidy.Proofs.Text.Layout

/-!
# Rules as objections to gaps

On the cells of a line each spacing rule is the same operation: it objects to some of the gaps, and
where it objects the gap becomes a single space. `Spacing.offends` says to which gaps. Three of the
rules object to a missing gap between two characters (`touches`) and one to a wide gap (`gapes`).

`Spacing.fix_eq` and `Spacing.length_columns` tie this view to the patterns: the repaired line has
the cells of the old one with the offending gaps respaced, and there is one column to each of them.
-/

namespace MatlabTidy

open Text (isBlank Cell cells join indent)

/-- An objection to the gap of a cell, in view of the cells behind it. -/
abbrev Offence := Cell → List Cell → Bool

/-- The cells, with a single space in every gap that the offence is about. -/
def respace (offends : Offence) : List Cell → List Cell
  | [] => []
  | x :: rest => (if offends x rest then x.spaced else x) :: respace offends rest

@[simp] theorem respace_nil (offends : Offence) : respace offends [] = [] := rfl

theorem respace_cons (offends : Offence) (x : Cell) (rest : List Cell) :
    respace offends (x :: rest) = (if offends x rest then x.spaced else x) :: respace offends rest :=
  rfl

/-- The number of gaps that the offence is about. -/
def offences (offends : Offence) : List Cell → Nat
  | [] => 0
  | x :: rest => (if offends x rest then 1 else 0) + offences offends rest

/-- Two characters stand next to each other that should be apart. -/
def touches (left right : Char → Bool) : Offence
  | x, y :: _ => x.gap.isEmpty && left x.char && right y.char
  | _, [] => false

/-- A gap of two or more blanks stands between two tokens, and what follows is no comment. -/
def gapes : Offence
  | x, y :: rest =>
    decide (2 ≤ x.gap.length) && opensGap x.char && closesGap y.char &&
      (y.gap ++ join rest).head?.any (· ≠ '%')
  | _, [] => false

/-- The spacing rules of the table. -/
inductive Spacing where
  | operatorStart
  | operatorEnd
  | commaEnd
  | wideGap
  deriving DecidableEq

namespace Spacing

/-- The rule itself. -/
def rule : Spacing → SpacingRule
  | .operatorStart => MatlabTidy.operatorStart
  | .operatorEnd => MatlabTidy.operatorEnd
  | .commaEnd => MatlabTidy.commaEnd
  | .wideGap => MatlabTidy.wideGap

/-- No rule finds empty runs. -/
theorem least_pos (s : Spacing) : 0 < s.rule.pattern.least := by
  cases s <;> decide

/-- The gaps that the rule objects to. -/
def offends : Spacing → Offence
  | .operatorStart => touches endsOperand isSignedOperator
  | .operatorEnd => touches isOperator beginsOperand
  | .commaEnd => touches (· = ',') beginsOperand
  | .wideGap => gapes

end Spacing

/-! ## Spaces between neighbours -/

namespace Text

/-- The space between a character and the text behind it, if `parts` wants them apart. -/
def wedge (parts : Char → Char → Bool) (before : Option Char) (text : List Char) : List Char :=
  if before.any fun c => text.head?.any (parts c) then [' '] else []

/-- The text with a space between any two neighbours that `parts` wants apart. -/
def spaceOut (parts : Char → Char → Bool) : List Char → List Char
  | [] => []
  | c :: rest => c :: (wedge parts (some c) rest ++ spaceOut parts rest)

variable {parts : Char → Char → Bool}

@[simp] theorem wedge_none (text : List Char) : wedge parts none text = [] := rfl

@[simp] theorem wedge_nil (before : Option Char) : wedge parts before [] = [] := by
  cases before <;> rfl

@[simp] theorem wedge_some_cons (c d : Char) (rest : List Char) :
    wedge parts (some c) (d :: rest) = if parts c d then [' '] else [] := rfl

theorem wedge_of_forall {c : Char} (h : ∀ d, parts c d = false) (text : List Char) :
    wedge parts (some c) text = [] := by
  cases text <;> simp [h]

/-- Nothing is put behind characters that go with every neighbour. -/
theorem spaceOut_append {front : List Char} (h : ∀ c ∈ front, ∀ d, parts c d = false)
    (text : List Char) : spaceOut parts (front ++ text) = front ++ spaceOut parts text := by
  induction front with
  | nil => rfl
  | cons c front ih =>
    have hc := h c List.mem_cons_self
    have rest := ih fun d hd => h d (List.mem_cons_of_mem _ hd)
    rw [List.cons_append, spaceOut, wedge_of_forall hc, rest]
    rfl

end Text

open Text (wedge spaceOut)

section Cells

variable {left right : Char → Bool}

@[simp] theorem touches_nil (x : Cell) : touches left right x [] = false := rfl

@[simp] theorem touches_cons (x y : Cell) (rest : List Cell) :
    touches left right x (y :: rest) = (x.gap.isEmpty && left x.char && right y.char) := rfl

/-- On cells, the spaces between neighbours fill the empty gaps. -/
theorem spaceOut_join (hl : ∀ c, isBlank c = true → left c = false)
    (hr : ∀ c, isBlank c = true → right c = false) (xs : List Cell) :
    spaceOut (fun c d => left c && right d) (join xs) = join (respace (touches left right) xs) := by
  induction xs with
  | nil => rfl
  | cons x xs ih =>
    match hgap : x.gap with
    | [] =>
      cases xs with
      | nil => simp [respace, spaceOut, hgap]
      | cons y xs =>
        have head : join (y :: xs) = y.char :: (y.gap ++ join xs) := rfl
        rw [Text.join_cons, hgap, List.nil_append, spaceOut, ih, respace_cons _ x, touches_cons, hgap,
          head, Text.wedge_some_cons]
        by_cases h : (left x.char && right y.char) = true
        · simp [h]
        · simp [h, hgap]
    | g :: gap =>
      have blank : ∀ c ∈ x.gap, ∀ d, (left c && right d) = false := by
        intro c hc d
        simp [hl c (x.blank c hc)]
      have first : wedge (fun c d => left c && right d) (some x.char) (x.gap ++ join xs) = [] := by
        have hg := hr g (x.blank g (by simp [hgap]))
        simp [hgap, hg]
      have kept : touches left right x xs = false := by
        cases xs <;> simp [hgap]
      rw [Text.join_cons, spaceOut, first, Text.spaceOut_append blank, ih, respace_cons, kept]
      rfl

/-- The spaces between neighbours fill the empty gaps of a line. -/
theorem spaceOut_eq (hl : ∀ c, isBlank c = true → left c = false)
    (hr : ∀ c, isBlank c = true → right c = false) (line : List Char) :
    spaceOut (fun c d => left c && right d) line =
      indent line ++ join (respace (touches left right) (cells line)) := by
  have blank : ∀ c ∈ indent line, ∀ d, (left c && right d) = false := by
    intro c hc d
    simp [hl c (Text.mem_indent hc)]
  conv => lhs; rw [← Text.indent_append_join line]
  rw [Text.spaceOut_append blank, spaceOut_join hl hr]

/-- A space is one character more. -/
theorem length_join_respace_touches (xs : List Cell) :
    (join (respace (touches left right) xs)).length =
      (join xs).length + offences (touches left right) xs := by
  induction xs with
  | nil => rfl
  | cons x xs ih =>
    by_cases h : touches left right x xs = true
    · have empty : x.gap = [] := by
        cases xs with
        | nil => simp at h
        | cons y xs => simp at h; exact h.1.1
      simp [respace, offences, h, ih, empty]
      omega
    · simp [respace, offences, h, ih]
      omega

end Cells

/-! ## The repairs -/

namespace Pattern

/-- Repairing a missing space before operators is spacing out operands and operators. -/
theorem replace_operatorStart (before : Option Char) (text : List Char) :
    Piece.replace (Repair.apply .spaceBefore) (operatorStart.pattern.piecesAfter before text) =
      wedge (fun c d => endsOperand c && isSignedOperator d) before text ++
        spaceOut (fun c d => endsOperand c && isSignedOperator d) text := by
  induction before, text using pieces_induction (p := operatorStart.pattern) Nat.one_pos with
  | nil before => simp [spaceOut]
  | plain before c rest none ih =>
    have quiet : wedge (fun c d => endsOperand c && isSignedOperator d) before (c :: rest) = [] := by
      cases before with
      | none => rfl
      | some b =>
        rw [Text.wedge_some_cons, if_neg]
        intro h
        rw [Bool.and_eq_true] at h
        have refused := matchAt_eq_none.1 none h.1 (by simp [run, operatorStart, h.2])
        exact Bool.noConfusion refused
    rw [piecesAfter_plain none, Piece.replace_plain, ih, quiet, List.nil_append, spaceOut]
  | hit before run rest found ne ih =>
    obtain ⟨allowed, hrun, -, -⟩ := matchAt_eq_some.1 found
    have signed : ∀ c ∈ run, isSignedOperator c = true := by
      intro c hc
      rw [← hrun] at hc
      exact body_of_mem_run hc
    have apart : ∀ c ∈ run, ∀ d, (endsOperand c && isSignedOperator d) = false := by
      intro c hc d
      rw [endsOperand_of_isSignedOperator (signed c hc), Bool.false_and]
    have behind : wedge (fun c d => endsOperand c && isSignedOperator d) run.getLast? rest = [] := by
      rw [List.getLast?_eq_some_getLast ne]
      exact Text.wedge_of_forall (apart _ (List.getLast_mem ne)) rest
    have front : wedge (fun c d => endsOperand c && isSignedOperator d) before (run ++ rest) = [' '] := by
      obtain ⟨c, run, rfl⟩ := List.exists_cons_of_ne_nil ne
      cases before with
      | none => exact Bool.noConfusion allowed
      | some b =>
        have hb : endsOperand b = true := allowed
        rw [List.cons_append, Text.wedge_some_cons, hb, signed c List.mem_cons_self]
        rfl
    rw [piecesAfter_hit found ne, Piece.replace_hit, ih, behind, front, Text.spaceOut_append apart]
    rfl

section SpaceAfter

variable {body begins : Char → Bool} {most : Option Nat}

/-- A character of the run ends it when the next one is of another class. -/
theorem run_pair (hm : most ≠ some 0) {c d : Char} (hc : body c = true) (hd : body d = false)
    (rest : List Char) : (Pattern.mk none body 1 most [begins]).run (c :: d :: rest) = [c] := by
  match most with
  | none => simp [run, hc, hd]
  | some 0 => exact absurd rfl hm
  | some 1 => simp [run, hc]
  | some (n + 2) => simp [run, hc, hd]

/-- A run is spaced out behind its last character only. -/
theorem spaceOut_run (disjoint : ∀ c, body c = true → begins c = false) {d : Char}
    (hd : begins d = true) (rest : List Char) {run : List Char} (ne : run ≠ [])
    (hrun : ∀ c ∈ run, body c = true) :
    spaceOut (fun c d => body c && begins d) (run ++ d :: rest) =
      run ++ ' ' :: spaceOut (fun c d => body c && begins d) (d :: rest) := by
  induction run with
  | nil => exact absurd rfl ne
  | cons c run ih =>
    have hc := hrun c List.mem_cons_self
    cases run with
    | nil => simp [spaceOut, hc, hd]
    | cons e run =>
      have he := disjoint e (hrun e (by simp))
      have tail := ih (List.cons_ne_nil _ _) fun x hx => hrun x (List.mem_cons_of_mem _ hx)
      rw [List.cons_append, spaceOut, tail, List.cons_append, Text.wedge_some_cons, he, Bool.and_false]
      rfl

/-- Repairing a missing space behind runs is spacing out the runs and what begins behind them. -/
theorem replace_spaceAfter (hm : most ≠ some 0) (disjoint : ∀ c, body c = true → begins c = false)
    (before : Option Char) (text : List Char) :
    Piece.replace (Repair.apply .spaceAfter)
        ((Pattern.mk none body 1 most [begins]).piecesAfter before text) =
      spaceOut (fun c d => body c && begins d) text := by
  induction before, text using pieces_induction (p := ⟨none, body, 1, most, [begins]⟩) Nat.one_pos with
  | nil before => simp [spaceOut]
  | plain before c rest none ih =>
    have quiet : wedge (fun c d => body c && begins d) (some c) rest = [] := by
      cases rest with
      | nil => rfl
      | cons d rest =>
        rw [Text.wedge_some_cons, if_neg]
        intro h
        rw [Bool.and_eq_true] at h
        have hd : body d = false := by
          by_contra hd
          simp [disjoint d (by simpa using hd)] at h
        have refused := matchAt_eq_none.1 none rfl (by rw [run_pair hm h.1 hd]; exact Nat.le_refl 1)
        rw [run_pair hm h.1 hd] at refused
        simp [startsWith, h.2] at refused
    rw [piecesAfter_plain none, Piece.replace_plain, ih, spaceOut, quiet, List.nil_append]
  | hit before run rest found ne ih =>
    obtain ⟨-, hrun, -, ahead⟩ := matchAt_eq_some.1 found
    rw [List.drop_left] at ahead
    have inside : ∀ c ∈ run, body c = true := by
      intro c hc
      rw [← hrun] at hc
      exact body_of_mem_run hc
    rw [piecesAfter_hit found ne, Piece.replace_hit, ih]
    cases rest with
    | nil => exact Bool.noConfusion ahead
    | cons d rest =>
      have hd : begins d = true := by simpa [startsWith] using ahead
      rw [spaceOut_run disjoint hd rest ne inside, Repair.apply, List.append_assoc, List.singleton_append]

end SpaceAfter

/-! A wide gap is a whole gap of a cell, so the pieces follow the cells. -/

theorem gapes_eq (x : Cell) (xs : List Cell) :
    gapes x xs = (decide (2 ≤ x.gap.length) && opensGap x.char &&
      startsWith wideGap.pattern.ahead (join xs)) := by
  match xs with
  | [] => simp [gapes, startsWith, wideGap]
  | y :: rest =>
    match h : y.gap ++ join rest with
    | [] => simp [gapes, startsWith, wideGap, h]
    | d :: tail => simp [gapes, startsWith, wideGap, h, Bool.and_assoc]

theorem run_wideGap (x : Cell) (xs : List Cell) : wideGap.pattern.run (x.gap ++ join xs) = x.gap :=
  Text.indent_append_join_cells x.blank xs

/-- Nothing starts at a character that is not blank. -/
theorem piecesAfter_wideGap_solid {c : Char} (solid : isBlank c = false) (before : Option Char)
    (rest : List Char) :
    wideGap.pattern.piecesAfter before (c :: rest) =
      .plain c :: wideGap.pattern.piecesAfter (some c) rest := by
  apply piecesAfter_plain
  rw [matchAt_eq_none]
  intro _ long
  simp [run, wideGap, solid] at long

/-- What stands before cells does not matter to their pieces. -/
theorem piecesAfter_wideGap_join (before : Option Char) (xs : List Cell) :
    wideGap.pattern.piecesAfter before (join xs) = wideGap.pattern.piecesAfter none (join xs) := by
  cases xs with
  | nil => simp
  | cons x xs =>
    rw [Text.join_cons, piecesAfter_wideGap_solid x.solid, piecesAfter_wideGap_solid x.solid]

/-- Blanks that nothing opens are passed over. -/
theorem piecesAfter_wideGap_shut {before : Option Char} {gap : List Char}
    (shut : wideGap.pattern.allowsBefore before = false) (blank : ∀ c ∈ gap, isBlank c = true)
    (xs : List Cell) :
    wideGap.pattern.piecesAfter before (gap ++ join xs) =
      gap.map .plain ++ wideGap.pattern.piecesAfter none (join xs) := by
  induction gap generalizing before with
  | nil => exact piecesAfter_wideGap_join before xs
  | cons g gap ih =>
    have none : wideGap.pattern.matchAt before (g :: (gap ++ join xs)) = none := by
      rw [matchAt_eq_none]
      intro allowed
      simp [shut] at allowed
    have inside : wideGap.pattern.allowsBefore (some g) = false :=
      opensGap_of_isBlank (blank g List.mem_cons_self)
    have rest := ih inside fun c hc => blank c (List.mem_cons_of_mem _ hc)
    rw [List.cons_append, piecesAfter_plain none, rest]
    rfl

/-- A gap is one match if the rule objects to it, and is passed over otherwise. -/
theorem piecesAfter_wideGap_gap (x : Cell) (xs : List Cell) :
    wideGap.pattern.piecesAfter (some x.char) (x.gap ++ join xs) =
      (if gapes x xs then [.hit x.gap] else x.gap.map .plain) ++
        wideGap.pattern.piecesAfter none (join xs) := by
  by_cases wide : gapes x xs = true
  · have parts := wide
    rw [gapes_eq, Bool.and_eq_true, Bool.and_eq_true, decide_eq_true_eq] at parts
    obtain ⟨⟨long, opened⟩, ahead⟩ := parts
    have ne : x.gap ≠ [] := by
      intro h
      simp [h] at long
    have found : wideGap.pattern.matchAt (some x.char) (x.gap ++ join xs) = some x.gap := by
      rw [matchAt_eq_some, List.drop_left]
      exact ⟨opened, run_wideGap x xs, long, ahead⟩
    rw [piecesAfter_hit found ne, piecesAfter_wideGap_join, if_pos wide]
    rfl
  · rw [if_neg wide]
    match hgap : x.gap with
    | [] => exact piecesAfter_wideGap_join _ xs
    | g :: gap =>
      have blank : ∀ c ∈ g :: gap, isBlank c = true := hgap ▸ x.blank
      have none : wideGap.pattern.matchAt (some x.char) (g :: (gap ++ join xs)) = none := by
        rw [← List.cons_append, ← hgap, matchAt_eq_none, run_wideGap, List.drop_left]
        intro opened long
        by_contra ahead
        refine wide ?_
        rw [gapes_eq]
        simp only [Bool.and_eq_true, decide_eq_true_eq]
        exact ⟨⟨long, opened⟩, by simpa using ahead⟩
      have inside : wideGap.pattern.allowsBefore (some g) = false :=
        opensGap_of_isBlank (blank g List.mem_cons_self)
      rw [List.cons_append, piecesAfter_plain none,
        piecesAfter_wideGap_shut inside fun c hc => blank c (List.mem_cons_of_mem _ hc)]
      rfl

/-- Repairing wide gaps respaces the cells. -/
theorem replace_wideGap_join (xs : List Cell) :
    Piece.replace (Repair.apply .singleSpace) (wideGap.pattern.piecesAfter none (join xs)) =
      join (respace gapes xs) := by
  induction xs with
  | nil => simp
  | cons x xs ih =>
    rw [Text.join_cons, piecesAfter_wideGap_solid x.solid, piecesAfter_wideGap_gap, respace_cons]
    by_cases wide : gapes x xs = true
    · simp [wide, ih, Repair.apply]
    · simp [wide, ih]

theorem hits_wideGap_join (xs : List Cell) :
    Piece.hits (wideGap.pattern.piecesAfter none (join xs)) = offences gapes xs := by
  induction xs with
  | nil => simp [offences]
  | cons x xs ih =>
    rw [Text.join_cons, piecesAfter_wideGap_solid x.solid, piecesAfter_wideGap_gap, offences]
    by_cases wide : gapes x xs = true
    · simp [wide, ih, Nat.add_comm]
    · simp [wide, ih]

/-- The indentation is passed over. -/
theorem pieces_wideGap (line : List Char) :
    wideGap.pattern.pieces line =
      (indent line).map .plain ++ wideGap.pattern.piecesAfter none (join (cells line)) := by
  have cut : wideGap.pattern.piecesAfter none (indent line ++ join (cells line)) =
      (indent line).map .plain ++ wideGap.pattern.piecesAfter none (join (cells line)) :=
    piecesAfter_wideGap_shut rfl (fun _ => Text.mem_indent) (cells line)
  rwa [Text.indent_append_join] at cut

end Pattern

namespace Spacing

/-- A repaired line has the cells of the line, with the offending gaps respaced. -/
theorem fix_eq (s : Spacing) (line : List Char) :
    s.rule.fix line = indent line ++ join (respace s.offends (cells line)) := by
  cases s with
  | operatorStart =>
    rw [offends, ← spaceOut_eq (fun _ => endsOperand_of_isBlank) (fun _ => isSignedOperator_of_isBlank)]
    exact Pattern.replace_operatorStart none line
  | operatorEnd =>
    rw [offends, ← spaceOut_eq (fun _ => isOperator_of_isBlank) (fun _ => beginsOperand_of_isBlank)]
    refine Pattern.replace_spaceAfter (by decide) (fun c h => ?_) none line
    exact beginsOperand_of_isSignedOperator (isSignedOperator_of_isOperator h)
  | commaEnd =>
    rw [offends, ← spaceOut_eq (fun _ => eq_comma_of_isBlank) (fun _ => beginsOperand_of_isBlank)]
    exact Pattern.replace_spaceAfter (by decide) (fun _ => beginsOperand_of_eq_comma) none line
  | wideGap =>
    have cut : wideGap.rule.fix line =
        Piece.replace (Repair.apply .singleSpace) (MatlabTidy.wideGap.pattern.pieces line) := rfl
    rw [cut, Pattern.pieces_wideGap, Piece.replace_map_plain, Pattern.replace_wideGap_join, offends]

/-- There is one column to each gap that the rule objects to. -/
theorem length_columns (s : Spacing) (line : List Char) :
    (s.rule.columns line).length = offences s.offends (cells line) := by
  -- The three rules that add a space are counted by the length of the repaired line.
  have added {left right : Char → Bool} (hs : s.offends = touches left right)
      (longer : ∀ run, (s.rule.repair.apply run).length = run.length + 1)
      (least : 0 < s.rule.pattern.least) :
      (s.rule.columns line).length = offences s.offends (cells line) := by
    have long : (s.rule.fix line).length = line.length + Piece.hits (s.rule.pattern.pieces line) :=
      Pattern.length_replace least longer none line
    have whole := congrArg List.length (Text.indent_append_join line)
    rw [fix_eq, hs, List.length_append, length_join_respace_touches] at long
    rw [List.length_append] at whole
    rw [SpacingRule.length_columns, hs]
    omega
  cases s with
  | operatorStart => exact added rfl (fun run => rfl) Nat.one_pos
  | operatorEnd => exact added rfl (fun run => List.length_append) Nat.one_pos
  | commaEnd =>
    have hs : commaEnd.offends = touches (· = ',') beginsOperand := rfl
    exact added hs (fun run => List.length_append) Nat.one_pos
  | wideGap =>
    have cut : wideGap.rule.pattern.pieces line = MatlabTidy.wideGap.pattern.pieces line := rfl
    rw [SpacingRule.length_columns, cut, Pattern.pieces_wideGap, Piece.hits_map_plain,
      Pattern.hits_wideGap_join, offends]

end Spacing

namespace Rule

/-- The table is the rule on long lines and the spacing rules. -/
theorem mem_table {rule : Rule} :
    rule ∈ table ↔ rule = .line (tooLong lineLimit) ∨ ∃ s : Spacing, rule = .spacing s.rule := by
  constructor
  · intro h
    simp only [table, List.mem_cons, List.not_mem_nil, or_false] at h
    rcases h with rfl | rfl | rfl | rfl | rfl
    · exact .inl rfl
    · exact .inr ⟨.operatorStart, rfl⟩
    · exact .inr ⟨.operatorEnd, rfl⟩
    · exact .inr ⟨.commaEnd, rfl⟩
    · exact .inr ⟨.wideGap, rfl⟩
  · rintro (rfl | ⟨s, rfl⟩)
    · simp [table]
    · cases s <;> simp [table, Spacing.rule]

theorem spacing_mem_table (s : Spacing) : .spacing s.rule ∈ table := mem_table.2 (.inr ⟨s, rfl⟩)

/-- The spacing rules of the table have names. -/
theorem exists_of_spacing_mem {rule : SpacingRule} (mem : .spacing rule ∈ table) : ∃ s : Spacing, rule = s.rule := by
  rcases mem_table.1 mem with h | ⟨s, h⟩
  · cases h
  · exact ⟨s, spacing.inj h⟩

end Rule

end MatlabTidy
