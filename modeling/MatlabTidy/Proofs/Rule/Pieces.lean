import MatlabTidy.Rule.Basic
import Mathlib.Data.List.TakeWhile

/-!
# Pieces of a line

`Pattern.pieces_induction` is the induction that follows the cut of a line into pieces: at each
point either a match is taken whole or one character is passed over. From it come the bounds on the
columns (`mem_columns_piecesAfter`) and, in the modules that follow, what each repair does to a line.
-/

namespace MatlabTidy

namespace Piece

/-- Whether the piece is a match. -/
def isHit : Piece → Bool
  | .plain _ => false
  | .hit _ => true

/-- The number of matches among the pieces. -/
def hits (pieces : List Piece) : Nat := pieces.countP isHit

@[simp] theorem hits_nil : hits [] = 0 := rfl

@[simp] theorem hits_plain (c : Char) (rest : List Piece) : hits (.plain c :: rest) = hits rest :=
  List.countP_cons_of_neg Bool.false_ne_true

@[simp] theorem hits_hit (run : List Char) (rest : List Piece) :
    hits (.hit run :: rest) = hits rest + 1 :=
  List.countP_cons_of_pos rfl

/-- Every match has its column. -/
@[simp] theorem length_columns (start : Nat) (pieces : List Piece) :
    (columns start pieces).length = hits pieces := by
  fun_induction columns start pieces <;> simp_all

@[simp] theorem replace_nil (repair : List Char → List Char) : replace repair [] = [] := rfl

@[simp] theorem replace_plain (repair : List Char → List Char) (c : Char) (rest : List Piece) :
    replace repair (.plain c :: rest) = c :: replace repair rest := rfl

@[simp] theorem replace_hit (repair : List Char → List Char) (run : List Char) (rest : List Piece) :
    replace repair (.hit run :: rest) = repair run ++ replace repair rest := rfl

@[simp] theorem replace_map_plain (repair : List Char → List Char) (chars : List Char)
    (rest : List Piece) : replace repair (chars.map .plain ++ rest) = chars ++ replace repair rest := by
  induction chars with
  | nil => rfl
  | cons c chars ih => simp [ih]

@[simp] theorem hits_map_plain (chars : List Char) (rest : List Piece) :
    hits (chars.map .plain ++ rest) = hits rest := by
  induction chars with
  | nil => rfl
  | cons c chars ih => simp [ih]

end Piece

namespace Pattern

variable {p : Pattern} {before : Option Char} {text run rest : List Char} {c : Char}

theorem run_isPrefix (p : Pattern) (text : List Char) : p.run text <+: text := by
  unfold run
  split
  · exact List.takeWhile_prefix _
  · exact List.IsPrefix.trans ( List.takeWhile_prefix _) ( List.take_prefix _ _)

theorem run_append_drop (p : Pattern) (text : List Char) :
    p.run text ++ text.drop (p.run text).length = text :=
  List.prefix_iff_eq_append.1 (p.run_isPrefix text)

theorem body_of_mem_run (h : c ∈ p.run text) : p.body c = true := by
  unfold run at h
  split at h <;> exact List.mem_takeWhile_imp h

theorem length_run_le {most : Nat} (bounded : p.most = some most) (text : List Char) :
    (p.run text).length ≤ most := by
  simp only [run, bounded]
  exact Nat.le_trans (List.takeWhile_prefix _).length_le (List.length_take_le _ _)

theorem matchAt_eq_some :
    p.matchAt before text = some run ↔
      p.allowsBefore before = true ∧ p.run text = run ∧ p.least ≤ run.length ∧
        startsWith p.ahead (text.drop run.length) = true := by
  unfold matchAt
  constructor
  · intro h
    split at h
    · rename_i allowed
      simp only [Option.ite_none_right_eq_some, Option.some.injEq] at h
      obtain ⟨⟨least, ahead⟩, rfl⟩ := h
      exact ⟨allowed, rfl, least, ahead⟩
    · simp at h
  · rintro ⟨allowed, rfl, least, ahead⟩
    simp [allowed, least, ahead]

theorem matchAt_eq_none :
    p.matchAt before text = none ↔
      (p.allowsBefore before = true → p.least ≤ (p.run text).length →
        startsWith p.ahead (text.drop (p.run text).length) = false) := by
  unfold matchAt
  by_cases allowed : p.allowsBefore before = true
  · simp [allowed]
  · simp [allowed]

/-- A match at a text is a part of it. -/
theorem eq_append_of_matchAt (h : p.matchAt before text = some run) :
    text = run ++ text.drop run.length := by
  obtain ⟨-, rfl, -, -⟩ := matchAt_eq_some.1 h
  exact (p.run_append_drop text).symm

@[simp] theorem piecesAfter_nil : p.piecesAfter before [] = [] := by
  rw [piecesAfter]

/-- Where nothing matches, one character is passed over. -/
theorem piecesAfter_plain (h : p.matchAt before (c :: rest) = none) :
    p.piecesAfter before (c :: rest) = .plain c :: p.piecesAfter (some c) rest := by
  rw [piecesAfter, h]

/-- A match is taken whole. -/
theorem piecesAfter_hit (h : p.matchAt before (run ++ rest) = some run) (ne : run ≠ []) :
    p.piecesAfter before (run ++ rest) = .hit run :: p.piecesAfter run.getLast? rest := by
  obtain ⟨c, run, rfl⟩ := List.exists_cons_of_ne_nil ne
  rw [List.cons_append] at h ⊢
  rw [piecesAfter, h]
  simp

/-- The cut of a text into pieces, for patterns that match no empty run. -/
theorem pieces_induction (least : 0 < p.least) {motive : Option Char → List Char → Prop}
    (nil : ∀ before, motive before [])
    (plain : ∀ before c rest, p.matchAt before (c :: rest) = none → motive (some c) rest →
      motive before (c :: rest))
    (hit : ∀ before run rest, p.matchAt before (run ++ rest) = some run → run ≠ [] →
      motive run.getLast? rest → motive before (run ++ rest)) :
    ∀ before text, motive before text := by
  intro before text
  fun_induction p.piecesAfter before text with
  | case1 before => exact nil before
  | case2 before c rest d run h ih =>
    have cut := eq_append_of_matchAt h
    rw [List.length_cons, List.drop_succ_cons] at cut
    rw [cut] at h ⊢
    exact hit before (d :: run) _ h (List.cons_ne_nil _ _) ih
  | case3 before c rest h ih =>
    refine plain before c rest ?_ ih
    match found : p.matchAt before (c :: rest) with
    | none => rfl
    | some [] =>
      have short := (matchAt_eq_some.1 found).2.2.1
      exact absurd (Nat.lt_of_lt_of_le least short) (Nat.lt_irrefl 0)
    | some (d :: run) => exact absurd found (h d run)

/-- A repair that adds one character makes the text longer by the number of matches. -/
theorem length_replace (least : 0 < p.least) {repair : List Char → List Char}
    (longer : ∀ run, (repair run).length = run.length + 1) (before : Option Char) (text : List Char) :
    (Piece.replace repair (p.piecesAfter before text)).length =
      text.length + Piece.hits (p.piecesAfter before text) := by
  induction before, text using pieces_induction least with
  | nil before => simp
  | plain before c rest none ih =>
    rw [piecesAfter_plain none, Piece.replace_plain, Piece.hits_plain, List.length_cons,
      List.length_cons, ih]
    omega
  | hit before run rest found ne ih =>
    rw [piecesAfter_hit found ne, Piece.replace_hit, Piece.hits_hit, List.length_append,
      List.length_append, ih, longer]
    omega

/-- The columns of a text are columns of its characters. -/
theorem mem_columns_piecesAfter (least : 0 < p.least) (before : Option Char) (text : List Char) :
    ∀ start, ∀ k ∈ Piece.columns start (p.piecesAfter before text), start ≤ k ∧ k < start + text.length := by
  induction before, text using pieces_induction least with
  | nil before => simp [Piece.columns]
  | plain before c rest none ih =>
    intro start k hk
    rw [piecesAfter_plain none, Piece.columns] at hk
    have bounds := ih (start + 1) k hk
    simp only [List.length_cons]
    omega
  | hit before run rest found ne ih =>
    intro start k hk
    have pos := List.length_pos_iff.2 ne
    rw [piecesAfter_hit found ne, Piece.columns] at hk
    rw [List.length_append]
    rcases List.mem_cons.1 hk with rfl | hk
    · omega
    · have bounds := ih (start + run.length) k hk
      omega

end Pattern

/-- The number of columns of a rule is the number of its matches. -/
theorem SpacingRule.length_columns (rule : SpacingRule) (line : List Char) :
    (rule.columns line).length = Piece.hits (rule.pattern.pieces line) := by
  simp [SpacingRule.columns, Pattern.columns]

end MatlabTidy
