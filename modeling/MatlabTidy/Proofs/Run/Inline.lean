import MatlabTidy.Proofs.Rule.Fences
import MatlabTidy.Proofs.Run.Tidy

/-!
# Comments and strings inside of a line

The rules see characters, not the syntax of a line. A line that is nothing but a comment is passed over, but
a comment behind code and the text between two quotes are looked at like everything else. What keeps a fix
from tearing them apart is that the sign of a comment and the quote are fences: a fixing scan gives the parts
of a line around a fence fixed one by one (`Line.fixesTo_of_fence`), so a comment stays a comment, a string
stays a string, and in both only blanks come and go (`Line.inline_after_fix`).
-/

namespace MatlabTidy

open Text (isBlank solids)

/-- No spacing rule finds anything in the text. -/
def IsTidy (text : List Char) : Prop := ∀ rule, Rule.spacing rule ∈ Rule.table → rule.columns text = []

/-- The tidy texts are those that the repairs leave as they are. -/
theorem isTidy_iff (text : List Char) : IsTidy text ↔ respaced (fun _ => true) text = text := by
  rw [respaced_eq_self_iff]
  constructor
  · intro tidy s
    exact tidy s.rule (Rule.spacing_mem_table s)
  · intro none rule mem
    rcases Rule.mem_table.1 mem with h | ⟨s, h⟩
    · cases h
    · cases h
      exact none s

/-- A line is a comment if its first character that is not blank says so. -/
theorem isCommentLine_eq (line : List Char) : isCommentLine line = decide ((solids line).head? = some '%') := by
  have first : (Text.trimLeft line).head? = (solids line).head? := by
    rw [Text.trimLeft_eq, Text.solids_eq]
    cases Text.cells line <;> rfl
  rw [isCommentLine, first]

namespace Line

open Rule (table)

/-- The scan of a raw line gives the other raw line. -/
def FixesTo (options : Options) (number : Nat) (w : World) (raw raw' : List Char) : Prop :=
  ∃ counts w', (scan table options number raw).run w = .ok (raw', counts) w'

section Parts

variable {d : Char} {p : List Char} (back : List Char)

theorem isChecked_cons (solid : isBlank d = false) (other : d ≠ '%') : isChecked (d :: back) = true := by
  simp [isChecked, isCommentLine_eq, solids, solid, other]

/-- Behind a text without a sign of a comment, only the sign itself can make the line a comment. -/
theorem isChecked_append {rest : List Char} (none : '%' ∉ p) (first : solids p = [] → isChecked rest = true) :
    isChecked (p ++ rest) = true := by
  simp only [isChecked, isCommentLine_eq, Bool.and_eq_true, Bool.not_eq_true', List.isEmpty_eq_false_iff,
    decide_eq_false_iff_not] at first ⊢
  rw [Text.solids_append]
  cases front : solids p with
  | nil => exact ⟨List.append_ne_nil_of_right_ne_nil p (first front).1, (first front).2⟩
  | cons c others =>
    have mem : c ∈ p := (List.mem_filter.1 (front ▸ List.mem_cons_self : c ∈ solids p)).1
    refine ⟨List.append_ne_nil_of_left_ne_nil (List.ne_nil_of_mem mem) rest, fun sign => ?_⟩
    obtain rfl : c = '%' := Option.some.inj sign
    exact none mem

theorem isChecked_append_percent (blank : solids p = []) : isChecked (p ++ '%' :: back) = false := by
  have comment : isCommentLine (p ++ '%' :: back) = true := by
    rw [isCommentLine_eq, Text.solids_append, blank]
    rfl
  simp [isChecked, comment]

/-- What stands behind a character that is no byte order mark belongs to the text. -/
theorem mark_append (ne : d ≠ byteOrderMark) (number : Nat) (p : List Char) (ending : Text.Ending) :
    mark number ⟨p ++ d :: back, ending⟩ = mark number ⟨p, .none⟩ ∧
      body number ⟨p ++ d :: back, ending⟩ = body number ⟨p, .none⟩ ++ d :: back := by
  unfold mark body splitMark
  cases p with
  | nil => simp [ne]
  | cons c p => by_cases marked : number = 1 ∧ c = byteOrderMark <;> simp [marked]

theorem not_mem_body {c : Char} (none : c ∉ p) (number : Nat) : c ∉ body number ⟨p, .none⟩ := by
  have parts : mark number ⟨p, .none⟩ ++ body number ⟨p, .none⟩ = p := mark_append_body number ⟨p, .none⟩
  exact fun mem => none (parts ▸ List.mem_append_right _ mem)

end Parts

section Fix

variable {options : Options} (fix : options.fix = true) (silent : options.verbose = false)
variable (number : Nat) (ending : Text.Ending) (w : World)
include fix silent

/-- A fixing scan with nobody to ask makes all repairs. -/
theorem fixesTo_tidied {text : List Char} (unbroken : Text.Unbroken text) :
    FixesTo options number w (text ++ ending.chars) (tidied (fun _ => true) number ⟨text, ending⟩).raw := by
  have whole : Text.Line.ofRaw (Text.Line.raw ⟨text, ending⟩) = ⟨text, ending⟩ := Text.Line.ofRaw_raw unbroken
  obtain ⟨events, run⟩ := run_scan w whole (smooth_of_silent silent number ⟨text, ending⟩)
  rw [fix] at run
  exact ⟨_, _, run⟩

/-- Around a fence a line is fixed part by part. -/
theorem fixesTo_of_fence {d : Char} (fence : Fence d) (ne : d ≠ byteOrderMark) (p : List Char) :
    ∃ p', solids p' = solids p ∧ ∀ back, Text.Unbroken (p ++ d :: back) →
      isChecked (body number ⟨p, .none⟩ ++ d :: back) = true →
      FixesTo options number w (p ++ d :: back ++ ending.chars)
        (p' ++ d :: respaced (fun _ => true) back ++ ending.chars) := by
  obtain ⟨front, kept, split⟩ := exists_respaced_append (fun _ => true) (body number ⟨p, .none⟩) fence
  refine ⟨mark number ⟨p, .none⟩ ++ front, ?_, fun back unbroken checked => ?_⟩
  · rw [Text.solids_append, kept, ← Text.solids_append, mark_append_body]
  · have scanned := fixesTo_tidied fix silent number ending w unbroken
    obtain ⟨marked, rest⟩ := mark_append back ne number p ending
    rwa [raw_tidied (rest ▸ checked), marked, rest, split, ← List.append_assoc] at scanned

/-- Fixing keeps comments and strings apart from the code around them, and changes nothing in them but
blanks; each part is fixed without regard to the parts behind it. A comment in which the rules find nothing
stays as it is, and so does a line that is nothing but a comment. A string stays as it is exactly if the rules
find nothing in it and the quote behind it. -/
theorem inline_after_fix :
    (∀ p, '%' ∉ p → ∃ p', '%' ∉ p' ∧ solids p' = solids p ∧
      ∀ c, Text.Unbroken (p ++ '%' :: c) → ∃ c',
        FixesTo options number w (p ++ '%' :: c ++ ending.chars) (p' ++ '%' :: c' ++ ending.chars) ∧
        solids c' = solids c ∧ (IsTidy c → c' = c) ∧
        (solids (body number ⟨p, .none⟩) = [] → p' = p ∧ c' = c)) ∧
    (∀ p, '%' ∉ p → '\'' ∉ p → ∃ p', '\'' ∉ p' ∧ solids p' = solids p ∧
      ∀ s, '\'' ∉ s → ∃ s', '\'' ∉ s' ∧ solids s' = solids s ∧ (s' = s ↔ IsTidy (s ++ ['\''])) ∧
      ∀ r, Text.Unbroken (p ++ '\'' :: (s ++ '\'' :: r)) → ∃ r',
        FixesTo options number w (p ++ '\'' :: (s ++ '\'' :: r) ++ ending.chars)
          (p' ++ '\'' :: (s' ++ '\'' :: r') ++ ending.chars) ∧
        solids r' = solids r) := by
  constructor
  · intro p none
    by_cases blank : solids (body number ⟨p, .none⟩) = []
    · refine ⟨p, none, rfl, fun c unbroken => ⟨c, ?_, rfl, fun _ => rfl, fun _ => ⟨rfl, rfl⟩⟩⟩
      have scanned := fixesTo_tidied fix silent number ending w unbroken
      have passed : ¬ isChecked (body number ⟨p ++ '%' :: c, ending⟩) = true := by
        rw [(mark_append c (by decide) number p ending).2, isChecked_append_percent c blank]
        exact Bool.false_ne_true
      rwa [tidied, repaired, if_neg passed, mark_append_body] at scanned
    · obtain ⟨p', kept, fixes⟩ := fixesTo_of_fence fix silent number ending w .percent (by decide) p
      refine ⟨p', Fence.percent.not_mem kept none, kept, fun c unbroken => ?_⟩
      have checked : isChecked (body number ⟨p, .none⟩ ++ '%' :: c) = true :=
        isChecked_append (not_mem_body none number) fun empty => absurd empty blank
      exact ⟨_, fixes c unbroken checked, solids_respaced _ c, (isTidy_iff c).1, fun empty => absurd empty blank⟩
  · intro p no_comment no_quote
    obtain ⟨p', kept, fixes⟩ := fixesTo_of_fence fix silent number ending w .quote (by decide) p
    refine ⟨p', Fence.quote.not_mem kept no_quote, kept, fun s inside => ?_⟩
    obtain ⟨s', kept_inside, split⟩ := exists_respaced_append (fun _ => true) s .quote
    refine ⟨s', Fence.quote.not_mem kept_inside inside, kept_inside, ?_, fun r unbroken => ?_⟩
    · rw [isTidy_iff, split [], respaced_nil, List.append_left_inj]
    · have checked : isChecked (body number ⟨p, .none⟩ ++ '\'' :: (s ++ '\'' :: r)) = true :=
        isChecked_append (not_mem_body no_comment number) fun _ => isChecked_cons _ Fence.quote.solid (by decide)
      have scanned := fixes _ unbroken checked
      rw [split] at scanned
      exact ⟨_, scanned, solids_respaced _ r⟩

end Fix

section Samples

/-- No file, and nobody to ask. -/
def emptyWorld : World := ⟨⟨[], [], []⟩, none, false, #[]⟩

/-- The scan that fixes `x=1%a b` leaves the comment as it is, and the one that fixes `y=('a b')` the string. -/
theorem inline_after_fix_tidy :
    (∃ p', FixesTo ⟨false, false, true⟩ 1 emptyWorld ['x', '=', '1', '%', 'a', ' ', 'b']
      (p' ++ '%' :: ['a', ' ', 'b'] ++ []) ∧ '%' ∉ p') ∧
    ∃ p' r', FixesTo ⟨false, false, true⟩ 1 emptyWorld ['y', '=', '(', '\'', 'a', ' ', 'b', '\'', ')']
      (p' ++ '\'' :: (['a', ' ', 'b'] ++ '\'' :: r') ++ []) ∧ '\'' ∉ p' := by
  have fixes := inline_after_fix (show Options.fix ⟨false, false, true⟩ = true from rfl) rfl 1 .none emptyWorld
  constructor
  · obtain ⟨p', none, -, comments⟩ := fixes.1 ['x', '=', '1'] (by decide)
    obtain ⟨c', fixed, -, kept, -⟩ := comments ['a', ' ', 'b'] (by decide)
    obtain rfl := kept ((isTidy_iff _).2 (by decide +kernel))
    exact ⟨p', fixed, none⟩
  · obtain ⟨p', none, -, strings⟩ := fixes.2 ['y', '=', '('] (by decide) (by decide)
    obtain ⟨s', -, -, kept, followed⟩ := strings ['a', ' ', 'b'] (by decide)
    obtain rfl := kept.2 ((isTidy_iff _).2 (by decide +kernel))
    obtain ⟨r', fixed, -⟩ := followed [')'] (by decide)
    exact ⟨p', r', fixed, none⟩

/-- A comma is spaced out in the comment of `x = 1 %a,b` and in the string of `y = 'a,b'`. -/
theorem inline_changed :
    (FixesTo ⟨false, false, true⟩ 1 emptyWorld ['x', ' ', '=', ' ', '1', ' ', '%', 'a', ',', 'b']
        ['x', ' ', '=', ' ', '1', ' ', '%', 'a', ',', ' ', 'b'] ∧
      ¬ ['%', 'a', ',', 'b'] <:+ ['x', ' ', '=', ' ', '1', ' ', '%', 'a', ',', ' ', 'b']) ∧
    FixesTo ⟨false, false, true⟩ 1 emptyWorld ['y', ' ', '=', ' ', '\'', 'a', ',', 'b', '\'']
        ['y', ' ', '=', ' ', '\'', 'a', ',', ' ', 'b', '\''] ∧
      ¬ ['\'', 'a', ',', 'b', '\''] <:+: ['y', ' ', '=', ' ', '\'', 'a', ',', ' ', 'b', '\''] := by
  have fixed : ∀ {text text' : List Char}, Text.Unbroken text →
      (tidied (fun _ => true) 1 ⟨text, .none⟩).raw = text' →
      FixesTo ⟨false, false, true⟩ 1 emptyWorld text text' := by
    rintro text _ unbroken rfl
    have scanned := fixesTo_tidied (show Options.fix ⟨false, false, true⟩ = true from rfl) rfl 1 .none emptyWorld unbroken
    rwa [Text.Ending.chars, List.append_nil] at scanned
  exact ⟨⟨fixed (by decide) (by decide +kernel), by decide⟩, fixed (by decide) (by decide +kernel), by decide⟩

end Samples

end Line

end MatlabTidy
