import MatlabTidy.Proofs.Rule.Gaps

/-!
# Where the rules find their offences

The columns of a rule come from a scan that takes each match whole and goes on behind it.
`Pattern.mem_columns_iff` tells where the scan stops: a pattern whose matches can be found from
either end (`Pattern.Clear`) has a column at each point where a match starts and the character before
it is not inside of one. For patterns that take runs whole these are the stretches of characters of the
class (`Pattern.mem_columns_iff_stretch`).

`Spacing.OffendsAt` says in terms of characters alone where a line offends against each rule, and
`Spacing.columns_exact` that the rules report these places, in ascending order.
-/

namespace MatlabTidy

open Text (isBlank isWord)

/-- All characters of `run` are of a class, and no neighbour of `run` is. -/
structure IsStretch (body : Char → Prop) (front run back : List Char) : Prop where
  nonempty : run ≠ []
  inside : ∀ c ∈ run, body c
  before : ∀ c, front.getLast? = some c → ¬ body c
  behind : ∀ c, back.head? = some c → ¬ body c

theorem IsStretch.of_iff {body other : Char → Prop} (h : ∀ c, body c ↔ other c) {front run back : List Char} :
    IsStretch body front run back ↔ IsStretch other front run back := by
  have same : body = other := funext fun c => propext (h c)
  rw [same]

namespace Piece

/-- Matches that are not empty have ascending columns. -/
theorem pairwise_columns {pieces : List Piece} (ne : .hit [] ∉ pieces) (start : Nat) :
    (∀ k ∈ columns start pieces, start ≤ k) ∧ (columns start pieces).Pairwise (· < ·) := by
  fun_induction columns start pieces with
  | case1 start => simp
  | case2 start c rest ih =>
    obtain ⟨bound, sorted⟩ := ih fun h => ne (List.mem_cons_of_mem _ h)
    refine ⟨fun k hk => ?_, sorted⟩
    have low := bound k hk
    omega
  | case3 start run rest ih =>
    obtain ⟨bound, sorted⟩ := ih fun h => ne (List.mem_cons_of_mem _ h)
    have long : 0 < run.length := by
      apply List.length_pos_iff.2
      rintro rfl
      exact ne List.mem_cons_self
    refine ⟨fun k hk => ?_, List.pairwise_cons.2 ⟨fun k hk => ?_, sorted⟩⟩
    · rcases List.mem_cons.1 hk with rfl | hk
      · exact Nat.le_refl k
      · have low := bound k hk
        omega
    · have low := bound k hk
      omega

end Piece

namespace Pattern

variable {p : Pattern} {inner : Char → Bool} {before : Option Char} {line text run front back rest : List Char} {k : Nat}

theorem matchAt_nil (least : 0 < p.least) (before : Option Char) : p.matchAt before [] = none := by
  rw [matchAt_eq_none]
  intro _ short
  have empty : p.run [] = [] := List.prefix_nil.1 (p.run_isPrefix [])
  rw [empty, List.length_nil] at short
  omega

theorem hit_nil_not_mem_piecesAfter (least : 0 < p.least) (before : Option Char) (text : List Char) :
    .hit [] ∉ p.piecesAfter before text := by
  induction before, text using pieces_induction least with
  | nil before => simp
  | plain before c rest none ih => simpa [piecesAfter_plain none] using ih
  | hit before run rest found ne ih => simpa [piecesAfter_hit found ne, ne.symm] using ih

/-- Every character inside of a match satisfies `inner`, and no match starts behind such a character
when the scan comes to it. -/
structure Clear (p : Pattern) (inner : Char → Bool) : Prop where
  passed : ∀ before c rest, p.matchAt before (c :: rest) = none → inner c = true →
    p.matchAt (some c) rest = none
  inside : ∀ before run rest, p.matchAt before (run ++ rest) = some run → ∀ c ∈ run.dropLast, inner c = true
  ended : ∀ before run rest, p.matchAt before (run ++ rest) = some run → run.getLast?.any inner = true →
    p.matchAt run.getLast? rest = none

/-- A match starts at the text, and the character before it is not inside of one. -/
def StartsAt (p : Pattern) (inner : Char → Bool) (before : Option Char) (text : List Char) : Prop :=
  (p.matchAt before text).isSome = true ∧ before.any inner = false

/-- The character before a text that stands behind one more character. -/
theorem before_cons (c : Char) (front : List Char) (before : Option Char) :
    (c :: front).getLast?.or before = front.getLast?.or (some c) := by
  rw [List.getLast?_cons]
  cases front.getLast? <;> rfl

theorem before_append (ne : run ≠ []) (front : List Char) (before : Option Char) :
    (run ++ front).getLast?.or before = front.getLast?.or run.getLast? := by
  rw [List.getLast?_append, Option.or_assoc, List.getLast?_eq_some_getLast ne, Option.some_or]

/-- The scan stops where a match starts that is not a part of another one. The induction carries that
behind a character inside of a match the scan finds nothing. -/
theorem mem_columns_piecesAfter_iff (least : 0 < p.least) (clear : p.Clear inner) (before : Option Char)
    (text : List Char) : (before.any inner = true → p.matchAt before text = none) → ∀ start,
      (k ∈ Piece.columns start (p.piecesAfter before text) ↔
        ∃ front back, text = front ++ back ∧ k = start + front.length ∧
          p.StartsAt inner (front.getLast?.or before) back) := by
  induction before, text using pieces_induction least with
  | nil before =>
    intro _ start
    simp [Piece.columns, StartsAt, matchAt_nil least]
  | plain before c rest none ih =>
    intro _ start
    rw [piecesAfter_plain none, Piece.columns, ih fun h => clear.passed before c rest none (by simpa using h)]
    constructor
    · rintro ⟨front, back, rfl, rfl, starts⟩
      rw [← before_cons c front before] at starts
      exact ⟨c :: front, back, rfl, by simp only [List.length_cons]; omega, starts⟩
    · rintro ⟨front, back, cut, rfl, starts⟩
      cases front with
      | nil =>
        rw [List.nil_append] at cut
        subst cut
        simp [StartsAt, none] at starts
      | cons d front =>
        obtain ⟨rfl, rfl⟩ := List.cons.inj cut
        rw [before_cons] at starts
        exact ⟨front, back, rfl, by simp only [List.length_cons]; omega, starts⟩
  | hit before run rest found ne ih =>
    intro quiet start
    rw [piecesAfter_hit found ne, Piece.columns, List.mem_cons, ih (clear.ended before run rest found)]
    constructor
    · rintro (rfl | ⟨front, back, rfl, rfl, starts⟩)
      · refine ⟨[], run ++ rest, rfl, rfl, by simp [found], ?_⟩
        by_contra inside
        have none := quiet (by simpa using inside)
        simp [none] at found
      · rw [← before_append ne front before] at starts
        exact ⟨run ++ front, back, by simp, by simp only [List.length_append]; omega, starts⟩
    · rintro ⟨front, back, cut, rfl, starts⟩
      rcases List.append_eq_append_iff.1 cut with ⟨more, rfl, rfl⟩ | ⟨more, rfl, rfl⟩
      · rw [before_append ne] at starts
        exact .inr ⟨more, back, rfl, by simp only [List.length_append]; omega, starts⟩
      · cases hf : front.getLast? with
        | none =>
          rw [List.getLast?_eq_none_iff] at hf
          exact .inl (by simp [hf])
        | some c =>
          by_cases whole : more = []
          · subst whole
            rw [List.append_nil] at ne ⊢
            refine .inr ⟨[], rest, rfl, rfl, ?_⟩
            simpa [hf] using starts
          · have mem : c ∈ (front ++ more).dropLast := by
              rw [List.dropLast_append_of_ne_nil whole]
              exact List.mem_append_left _ (List.mem_of_getLast? hf)
            have inside := clear.inside before _ rest found c mem
            simp [StartsAt, hf, inside] at starts

/-- The columns of a line, as the points where a match starts that is not a part of another one. -/
theorem mem_columns_iff (least : 0 < p.least) (clear : p.Clear inner) :
    k ∈ p.columns line ↔ ∃ front back, line = front ++ back ∧ k = front.length + 1 ∧
      p.StartsAt inner front.getLast? back := by
  rw [columns, pieces, mem_columns_piecesAfter_iff least clear none line (fun h => by simp at h)]
  simp only [Option.or_none, Nat.add_comm]

/-! ## Runs taken whole -/

section Whole

/-- A text starts with a run of characters of a class, which may be empty. -/
theorem exists_run (body : Char → Bool) (text : List Char) : ∃ run back, text = run ++ back ∧
    (∀ c ∈ run, body c = true) ∧ ∀ c, back.head? = some c → ¬ body c = true := by
  refine ⟨text.takeWhile body, text.dropWhile body, List.takeWhile_append_dropWhile.symm,
    fun c => List.mem_takeWhile_imp, fun c hc => ?_⟩
  have stop := List.head?_dropWhile_not body text
  simpa [hc] using stop

theorem run_append (whole : p.most = none) (inside : ∀ c ∈ run, p.body c = true)
    (behind : ∀ c, back.head? = some c → ¬ p.body c = true) : p.run (run ++ back) = run := by
  have stop : back.takeWhile p.body = [] := by
    cases back with
    | nil => rfl
    | cons c back => exact List.takeWhile_cons_of_neg (behind c rfl)
  simp only [Pattern.run, whole]
  rw [List.takeWhile_append_of_pos inside, stop, List.append_nil]

/-- What a whole run needs to be a match. -/
theorem isSome_matchAt_append (whole : p.most = none) (inside : ∀ c ∈ run, p.body c = true)
    (behind : ∀ c, back.head? = some c → ¬ p.body c = true) :
    (p.matchAt before (run ++ back)).isSome = true ↔
      p.allowsBefore before = true ∧ p.least ≤ run.length ∧ startsWith p.ahead back = true := by
  rw [Option.isSome_iff_exists]
  constructor
  · rintro ⟨found, h⟩
    obtain ⟨allowed, rfl, long, ahead⟩ := matchAt_eq_some.1 h
    rw [run_append whole inside behind] at long ahead
    rw [List.drop_left] at ahead
    exact ⟨allowed, long, ahead⟩
  · rintro ⟨allowed, long, ahead⟩
    refine ⟨run, matchAt_eq_some.2 ⟨allowed, run_append whole inside behind, long, ?_⟩⟩
    rwa [List.drop_left]

/-- A pattern that takes its runs whole, and whose runs stand behind characters of another class, finds
the same matches from either end. -/
theorem clear_of_whole (whole : p.most = none) (least : 0 < p.least)
    (apart : ∀ c, p.body c = true → p.behind.isSome = true → p.allowsBefore (some c) = false) :
    p.Clear p.body where
  passed before c rest none hc := by
    obtain ⟨run, back, rfl, inside, behind⟩ := exists_run p.body rest
    have inside' : ∀ d ∈ c :: run, p.body d = true := List.forall_mem_cons.2 ⟨hc, inside⟩
    rw [← Option.not_isSome_iff_eq_none] at none ⊢
    rw [← List.cons_append, isSome_matchAt_append whole inside' behind] at none
    rw [isSome_matchAt_append whole inside behind]
    rintro ⟨allowed, long, ahead⟩
    refine none ⟨?_, by simp only [List.length_cons]; omega, ahead⟩
    cases hb : p.behind with
    | none => simp [allowsBefore, hb]
    | some test =>
      rw [apart c hc (by simp [hb])] at allowed
      exact Bool.noConfusion allowed
  inside before run rest found c hc := by
    obtain ⟨-, hrun, -, -⟩ := matchAt_eq_some.1 found
    rw [← hrun] at hc
    exact body_of_mem_run (List.dropLast_subset _ hc)
  ended before run rest found _ := by
    -- What follows a run is of another class, since the run was taken whole.
    obtain ⟨-, hrun, -, -⟩ := matchAt_eq_some.1 found
    obtain ⟨more, back, rfl, inside, behind⟩ := exists_run p.body rest
    have inside' : ∀ c ∈ run ++ more, p.body c = true := by
      refine List.forall_mem_append.2 ⟨fun c hc => ?_, inside⟩
      rw [← hrun] at hc
      exact body_of_mem_run hc
    rw [← List.append_assoc, run_append whole inside' behind, List.append_right_eq_self] at hrun
    rw [← Option.not_isSome_iff_eq_none, isSome_matchAt_append whole inside behind, hrun]
    rintro ⟨-, long, -⟩
    exact Nat.lt_irrefl 0 (Nat.lt_of_lt_of_le least long)

/-- The columns of a pattern that takes its runs whole are the stretches of its class, with the
neighbours that it asks for. -/
theorem mem_columns_iff_stretch (whole : p.most = none) (least : 0 < p.least)
    (apart : ∀ c, p.body c = true → p.behind.isSome = true → p.allowsBefore (some c) = false) :
    k ∈ p.columns line ↔ ∃ front run back, line = front ++ (run ++ back) ∧ k = front.length + 1 ∧
      IsStretch (p.body · = true) front run back ∧ p.allowsBefore front.getLast? = true ∧
        p.least ≤ run.length ∧ startsWith p.ahead back = true := by
  rw [mem_columns_iff least (clear_of_whole whole least apart)]
  constructor
  · rintro ⟨front, text, rfl, rfl, found, outside⟩
    obtain ⟨run, back, rfl, inside, behind⟩ := exists_run p.body text
    obtain ⟨allowed, long, ahead⟩ := (isSome_matchAt_append whole inside behind).1 found
    have ne : run ≠ [] := List.length_pos_iff.1 (Nat.lt_of_lt_of_le least long)
    refine ⟨front, run, back, rfl, rfl, ⟨ne, inside, ?_, behind⟩, allowed, long, ahead⟩
    intro c hc
    simpa [hc] using outside
  · rintro ⟨front, run, back, rfl, rfl, stretch, allowed, long, ahead⟩
    refine ⟨front, run ++ back, rfl, rfl, ?_, ?_⟩
    · exact (isSome_matchAt_append whole stretch.inside stretch.behind).2 ⟨allowed, long, ahead⟩
    · cases hf : front.getLast? with
      | none => rfl
      | some c => simpa using stretch.before c hf

end Whole

/-- A comma is a run of its own. -/
theorem clear_commaEnd : commaEnd.pattern.Clear fun _ => false where
  passed before c rest none h := Bool.noConfusion h
  inside before run rest found c hc := by
    obtain ⟨-, hrun, -, -⟩ := matchAt_eq_some.1 found
    have short : run.length ≤ 1 := hrun ▸ length_run_le rfl (run ++ rest)
    have none : run.dropLast = [] := List.eq_nil_of_length_eq_zero (by rw [List.length_dropLast]; omega)
    simp [none] at hc
  ended before run rest found h := by cases hl : run.getLast? <;> simp [hl] at h

theorem isSome_matchAt_commaEnd : (commaEnd.pattern.matchAt before text).isSome = true ↔
    ∃ d back, text = ',' :: d :: back ∧ beginsOperand d = true := by
  match text with
  | [] => simp [matchAt, allowsBefore, run, commaEnd]
  | [c] =>
    by_cases hc : c = ','
    · simp [matchAt, allowsBefore, run, commaEnd, startsWith, hc]
    · simp [matchAt, allowsBefore, run, commaEnd, hc]
  | c :: d :: rest =>
    by_cases hc : c = ','
    · simp [matchAt, allowsBefore, run, commaEnd, startsWith, hc]
    · simp [matchAt, allowsBefore, run, commaEnd, hc]

/-! ## Runs that are given up -/

/-- The pattern permits to take `run` before `rest`, be it the whole of a run or a part of it. -/
structure Permits (p : Pattern) (before : Option Char) (run rest : List Char) : Prop where
  allowed : p.allowsBefore before = true
  inside : ∀ c ∈ run, p.body c = true
  least : p.least ≤ run.length
  most : ∀ most, p.most = some most → run.length ≤ most
  ahead : startsWith p.ahead rest = true

theorem Permits.isPrefix (permits : p.Permits before run rest) : run <+: p.run (run ++ rest) := by
  cases hm : p.most with
  | none =>
    simp only [Pattern.run, hm]
    rw [List.takeWhile_append_of_pos permits.inside]
    exact List.prefix_append _ _
  | some most =>
    simp only [Pattern.run, hm]
    rw [List.take_append, List.take_of_length_le (permits.most most hm), List.takeWhile_append_of_pos permits.inside]
    exact List.prefix_append _ _

theorem permits_run (allowed : p.allowsBefore before = true) (least : p.least ≤ (p.run text).length)
    (ahead : startsWith p.ahead (text.drop (p.run text).length) = true) :
    p.Permits before (p.run text) (text.drop (p.run text).length) where
  allowed := allowed
  inside _ := body_of_mem_run
  least := least
  most _ bounded := length_run_le bounded text
  ahead := ahead

/-- A match is the longest run that the pattern permits. Where the run cannot be taken whole no part of it
is taken, since the rest of the run would have to pass for what is to follow. -/
theorem matchAt_eq_some_iff_longest
    (shut : ∀ c rest, p.body c = true → startsWith p.ahead (c :: rest) = true → p.ahead = []) :
    p.matchAt before text = some run ↔ ∃ rest, text = run ++ rest ∧ p.Permits before run rest ∧
      ∀ other rest, text = other ++ rest → p.Permits before other rest → other.length ≤ run.length := by
  rw [matchAt_eq_some]
  constructor
  · rintro ⟨allowed, rfl, least, ahead⟩
    refine ⟨text.drop (p.run text).length, (p.run_append_drop text).symm, permits_run allowed least ahead, ?_⟩
    rintro other rest rfl permits
    exact permits.isPrefix.length_le
  · rintro ⟨rest, rfl, permits, longest⟩
    have whole := p.run_append_drop (run ++ rest)
    obtain ⟨more, hmore⟩ := permits.isPrefix
    have short : (p.run (run ++ rest)).length ≤ run.length := by
      cases more with
      | nil => simp [← hmore]
      | cons c more =>
        have mem : c ∈ p.run (run ++ rest) := by simp [← hmore]
        have body : p.body c = true := body_of_mem_run mem
        have cut : rest = c :: (more ++ (run ++ rest).drop (p.run (run ++ rest)).length) := by
          conv at whole => lhs; lhs; rw [← hmore]
          simpa using whole.symm
        have free : p.ahead = [] := shut c _ body (cut ▸ permits.ahead)
        have least := Nat.le_trans permits.least permits.isPrefix.length_le
        exact longest _ _ whole.symm (permits_run permits.allowed least (by rw [free]; rfl))
    have same : p.run (run ++ rest) = run := (permits.isPrefix.eq_of_length_le short).symm
    refine ⟨permits.allowed, same, permits.least, ?_⟩
    rw [List.drop_left]
    exact permits.ahead

end Pattern

/-! ## The offences of each rule -/

namespace Spacing

/-- Where a line offends against a rule, as a column counted from one. -/
inductive OffendsAt : Spacing → List Char → Nat → Prop
  /-- An operator stands right behind a word or a closing bracket. -/
  | operatorStart (front back : List Char) (b c : Char) (operand : isWord b = true ∨ b = ']')
      (operator : c ∈ ['~', '&', '|', '<', '>', '=']) :
      OffendsAt .operatorStart (front ++ b :: c :: back) (front.length + 2)
  /-- A stretch of operators stands right before a word or a bracket. -/
  | operatorEnd (front run back : List Char) (d : Char)
      (stretch : IsStretch (· ∈ ['&', '|', '<', '>', '=']) front run (d :: back))
      (operand : isWord d = true ∨ d = '[' ∨ d = ']') :
      OffendsAt .operatorEnd (front ++ run ++ d :: back) (front.length + 1)
  /-- A comma stands right before a word or a bracket. -/
  | commaEnd (front back : List Char) (d : Char) (operand : isWord d = true ∨ d = '[' ∨ d = ']') :
      OffendsAt .commaEnd (front ++ ',' :: d :: back) (front.length + 1)
  /-- A stretch of two or more blanks stands between a word or an equals sign and a word or a dot that
  some character other than a percent sign follows. -/
  | wideGap (front run back : List Char) (b d e : Char)
      (stretch : IsStretch (isBlank · = true) (front ++ [b]) run (d :: e :: back)) (wide : 2 ≤ run.length)
      (opened : isWord b = true ∨ b = '=') (closed : isWord d = true ∨ d = '.') (uncommented : e ≠ '%') :
      OffendsAt .wideGap (front ++ b :: run ++ d :: e :: back) (front.length + 2)

section Columns

variable {line front : List Char} {test : Char → Bool} {c : Char} {k : Nat}

theorem any_getLast? : front.getLast?.any test = true ↔ ∃ rest b, front = rest ++ [b] ∧ test b = true := by
  rw [Option.any_eq_true]
  constructor
  · rintro ⟨b, last, hb⟩
    obtain ⟨rest, rfl⟩ := List.getLast?_eq_some_iff.1 last
    exact ⟨rest, b, rfl, hb⟩
  · rintro ⟨rest, b, rfl, hb⟩
    exact ⟨b, List.getLast?_concat, hb⟩

theorem mem_operators : isOperator c = true ↔ c ∈ ['&', '|', '<', '>', '='] := by
  simp [isOperator, or_assoc]

theorem mem_signedOperators : isSignedOperator c = true ↔ c ∈ ['~', '&', '|', '<', '>', '='] := by
  simp [isSignedOperator, isOperator, or_assoc]

theorem beginsOperand_iff : beginsOperand c = true ↔ isWord c = true ∨ c = '[' ∨ c = ']' := by
  simp [beginsOperand, or_assoc]

theorem mem_columns_operatorStart :
    k ∈ MatlabTidy.operatorStart.pattern.columns line ↔ operatorStart.OffendsAt line k := by
  have apart : ∀ c, isSignedOperator c = true → endsOperand c = false := fun _ => endsOperand_of_isSignedOperator
  rw [Pattern.mem_columns_iff_stretch (p := MatlabTidy.operatorStart.pattern) rfl Nat.one_pos
    fun c hc _ => apart c hc]
  constructor
  · rintro ⟨front, run, back, rfl, rfl, stretch, allowed, -, -⟩
    obtain ⟨front, b, rfl, hb⟩ := any_getLast?.1 allowed
    obtain ⟨c, run, rfl⟩ := List.exists_cons_of_ne_nil stretch.nonempty
    have signed : isSignedOperator c = true := stretch.inside c List.mem_cons_self
    have offends := OffendsAt.operatorStart front (run ++ back) b c (by simpa [endsOperand] using hb)
      (mem_signedOperators.1 signed)
    simpa using offends
  · intro offends
    cases offends with
    | operatorStart front back b c operand operator =>
      have hb : endsOperand b = true := by simpa [endsOperand] using operand
      have signed := mem_signedOperators.2 operator
      obtain ⟨run, back, rfl, inside, behind⟩ := Pattern.exists_run isSignedOperator back
      refine ⟨front ++ [b], c :: run, back, by simp, by simp, ⟨List.cons_ne_nil _ _, ?_, ?_, behind⟩, ?_, ?_, rfl⟩
      · exact List.forall_mem_cons.2 ⟨signed, inside⟩
      · intro d hd hs
        obtain rfl : b = d := by simpa using hd
        rw [apart b hs] at hb
        exact Bool.noConfusion hb
      · exact any_getLast?.2 ⟨front, b, rfl, hb⟩
      · exact Nat.succ_le_succ (Nat.zero_le _)

theorem mem_columns_operatorEnd :
    k ∈ MatlabTidy.operatorEnd.pattern.columns line ↔ operatorEnd.OffendsAt line k := by
  rw [Pattern.mem_columns_iff_stretch rfl Nat.one_pos fun c _ asked => Bool.noConfusion asked]
  constructor
  · rintro ⟨front, run, back, rfl, rfl, stretch, -, -, ahead⟩
    cases back with
    | nil => exact Bool.noConfusion ahead
    | cons d back =>
      have hd : beginsOperand d = true := by simpa [Pattern.startsWith, MatlabTidy.operatorEnd] using ahead
      rw [← List.append_assoc]
      exact .operatorEnd front run back d ((IsStretch.of_iff fun _ => mem_operators).1 stretch)
        (beginsOperand_iff.1 hd)
  · intro offends
    cases offends with
    | operatorEnd front run back d stretch operand =>
      refine ⟨front, run, d :: back, by simp, rfl, (IsStretch.of_iff fun _ => mem_operators).2 stretch, rfl,
        List.length_pos_iff.2 stretch.nonempty, ?_⟩
      simp [Pattern.startsWith, MatlabTidy.operatorEnd, beginsOperand_iff.2 operand]

theorem mem_columns_commaEnd :
    k ∈ MatlabTidy.commaEnd.pattern.columns line ↔ commaEnd.OffendsAt line k := by
  rw [Pattern.mem_columns_iff Nat.one_pos Pattern.clear_commaEnd]
  constructor
  · rintro ⟨front, text, rfl, rfl, found, -⟩
    obtain ⟨d, back, rfl, hd⟩ := Pattern.isSome_matchAt_commaEnd.1 found
    exact .commaEnd front back d (beginsOperand_iff.1 hd)
  · intro offends
    cases offends with
    | commaEnd front back d operand =>
      refine ⟨front, ',' :: d :: back, rfl, rfl, ?_, by cases front.getLast? <;> rfl⟩
      exact Pattern.isSome_matchAt_commaEnd.2 ⟨d, back, rfl, beginsOperand_iff.2 operand⟩

theorem mem_columns_wideGap :
    k ∈ MatlabTidy.wideGap.pattern.columns line ↔ wideGap.OffendsAt line k := by
  have apart : ∀ c, isBlank c = true → opensGap c = false := fun _ => opensGap_of_isBlank
  rw [Pattern.mem_columns_iff_stretch (p := MatlabTidy.wideGap.pattern) rfl Nat.two_pos
    fun c hc _ => apart c hc]
  constructor
  · rintro ⟨front, run, back, rfl, rfl, stretch, allowed, wide, ahead⟩
    obtain ⟨front, b, rfl, hb⟩ := any_getLast?.1 allowed
    match back with
    | [] => exact Bool.noConfusion ahead
    | [d] => simp [Pattern.startsWith, MatlabTidy.wideGap] at ahead
    | d :: e :: back =>
      simp only [Pattern.startsWith, MatlabTidy.wideGap, Bool.and_true, Bool.and_eq_true, decide_eq_true_eq] at ahead
      have offends := OffendsAt.wideGap front run back b d e stretch wide (by simpa [opensGap] using hb)
        (by simpa [closesGap] using ahead.1) ahead.2
      simpa using offends
  · intro offends
    cases offends with
    | wideGap front run back b d e stretch wide opened closed uncommented =>
      refine ⟨front ++ [b], run, d :: e :: back, by simp, by simp, stretch, ?_, wide, ?_⟩
      · exact any_getLast?.2 ⟨front, b, rfl, by simpa [opensGap] using opened⟩
      · simpa [Pattern.startsWith, MatlabTidy.wideGap, closesGap] using ⟨closed, uncommented⟩

end Columns

/-- The matches of the rules are the longest runs that their patterns permit. -/
theorem matchAt_eq_some_iff (s : Spacing) {before : Option Char} {text run : List Char} :
    s.rule.pattern.matchAt before text = some run ↔
      ∃ rest, text = run ++ rest ∧ s.rule.pattern.Permits before run rest ∧
        ∀ other rest, text = other ++ rest → s.rule.pattern.Permits before other rest → other.length ≤ run.length := by
  apply Pattern.matchAt_eq_some_iff_longest
  intro c rest body ahead
  cases s with
  | operatorStart => rfl
  | operatorEnd =>
    have apart := beginsOperand_of_isSignedOperator (isSignedOperator_of_isOperator body)
    simp [rule, MatlabTidy.operatorEnd, Pattern.startsWith, apart] at ahead
  | commaEnd => simp [rule, MatlabTidy.commaEnd, Pattern.startsWith, beginsOperand_of_eq_comma body] at ahead
  | wideGap => simp [rule, MatlabTidy.wideGap, Pattern.startsWith, closesGap_of_isBlank body] at ahead

/-- A spacing rule of the table reports, in ascending order, the columns where the line offends against
it. -/
theorem columns_exact (s : Spacing) (line : List Char) :
    .spacing s.rule ∈ Rule.table ∧ Rule.columns line (.spacing s.rule) = .ok (s.rule.columns line) ∧
      (s.rule.columns line).Pairwise (· < ·) ∧
      ∀ column, column ∈ s.rule.columns line ↔ ∃ k : Nat, column = k ∧ s.OffendsAt line k := by
  have exact : ∀ k, k ∈ s.rule.pattern.columns line ↔ s.OffendsAt line k := by
    intro k
    cases s with
    | operatorStart => exact mem_columns_operatorStart
    | operatorEnd => exact mem_columns_operatorEnd
    | commaEnd => exact mem_columns_commaEnd
    | wideGap => exact mem_columns_wideGap
  refine ⟨Rule.spacing_mem_table s, rfl, ?_, fun column => ?_⟩
  · have ascending := (Piece.pairwise_columns (Pattern.hit_nil_not_mem_piecesAfter s.least_pos none line) 1).2
    exact List.pairwise_map.2 (ascending.imp Int.ofNat_lt.2)
  · constructor
    · intro mem
      obtain ⟨k, hk, rfl⟩ := List.mem_map.1 mem
      exact ⟨k, rfl, (exact k).1 hk⟩
    · rintro ⟨k, rfl, offends⟩
      exact List.mem_map.2 ⟨k, (exact k).2 offends, rfl⟩

end Spacing
end MatlabTidy
