import MatlabTidy.Text.Blank
import MatlabTidy.Text.Lines
import MatlabTidy.Text.Scan
import Mathlib.Data.List.TakeWhile

/-!
# What a reader has read

Each step of a reader cuts the text in two, and what it gives are the parts: the text behind a fixed
beginning (`skip?_eq_some`), a longest run of a class and what follows it (`span?_eq_some`), the text behind
the first occurrence of a separator (`after?_append`). The lines of program output are stretches of it
(`infix_of_mem_brokenLines`).
-/

namespace MatlabTidy.Text

variable {text rest run front line : List Char} {test : Char → Bool}

/-- A fixed beginning is skipped if the text has it. -/
theorem skip?_eq_some {beginning : String} :
    skip? beginning text = some rest ↔ text = beginning.toList ++ rest := by
  unfold skip?
  constructor
  · intro h
    split at h
    · rename_i starts
      obtain ⟨behind, rfl⟩ := List.isPrefixOf_iff_prefix.1 starts
      rw [List.drop_left] at h
      rw [Option.some.inj h]
    · cases h
  · rintro rfl
    have starts : beginning.toList.isPrefixOf (beginning.toList ++ rest) = true :=
      List.isPrefixOf_iff_prefix.2 (List.prefix_append _ _)
    rw [if_pos starts, List.drop_left]

/-- A run is read as far as it goes. -/
theorem span?_eq_some :
    span? test text = some (run, rest) ↔
      text = run ++ rest ∧ run ≠ [] ∧ (∀ c ∈ run, test c = true) ∧ rest.head?.any test = false := by
  have cut : span? test text = some (run, rest) ↔
      text.takeWhile test = run ∧ run ≠ [] ∧ text.dropWhile test = rest := by
    unfold span?
    cases text.takeWhile test with
    | nil => simp +contextual [eq_comm]
    | cons c cs =>
      simp only [Option.some.injEq, Prod.mk.injEq]
      constructor
      · rintro ⟨rfl, rfl⟩
        exact ⟨rfl, List.cons_ne_nil _ _, rfl⟩
      · rintro ⟨rfl, -, rfl⟩
        exact ⟨rfl, rfl⟩
  rw [cut]
  constructor
  · rintro ⟨rfl, ne, rfl⟩
    refine ⟨List.takeWhile_append_dropWhile.symm, ne, fun c => List.mem_takeWhile_imp, ?_⟩
    cases behind : text.dropWhile test with
    | nil => rfl
    | cons c cs =>
      have stop := List.head?_dropWhile_not test text
      rw [behind] at stop
      simpa using stop
  · rintro ⟨rfl, ne, all, stop⟩
    have first : rest.takeWhile test = [] ∧ rest.dropWhile test = rest := by
      cases rest with
      | nil => exact ⟨rfl, rfl⟩
      | cons c cs =>
        have other : test c = false := stop
        simp [other]
    refine ⟨?_, ne, ?_⟩
    · rw [List.takeWhile_append_of_pos all, first.1, List.append_nil]
    · rw [List.dropWhile_append_of_pos all, first.2]

/-- A separator is found behind a text without its first character. -/
theorem after?_append {separator : String} {c : Char} {more : List Char} (sep : separator.toList = c :: more)
    (absent : c ∉ front) (rest : List Char) : after? separator (front ++ separator.toList ++ rest) = some rest := by
  induction front with
  | nil =>
    have found : skip? separator (separator.toList ++ rest) = some rest := skip?_eq_some.2 rfl
    rw [sep, List.cons_append] at found
    rw [List.nil_append, sep, List.cons_append, after?, found]
  | cons d front ih =>
    have other : skip? separator (d :: (front ++ separator.toList ++ rest)) = none := by
      rw [Option.eq_none_iff_forall_ne_some]
      intro found h
      have cut := skip?_eq_some.1 h
      rw [sep, List.cons_append, List.cons.injEq] at cut
      exact absent (cut.1 ▸ List.mem_cons_self)
    rw [List.cons_append, List.cons_append, after?, other]
    exact ih fun mem => absent (List.mem_cons_of_mem _ mem)

/-- A stretch without a character stands on one side of it. -/
theorem infix_of_infix_append_cons {c : Char} {behind : List Char} (absent : c ∉ run)
    (h : run <:+: front ++ c :: behind) : run <:+: front ∨ run <:+: behind := by
  obtain ⟨before, after, whole⟩ := h
  rcases List.append_eq_append_iff.1 whole with ⟨middle, rfl, -⟩ | ⟨middle, cut, tail⟩
  · exact .inl ⟨before, middle, rfl⟩
  · cases middle with
    | nil =>
      rw [List.append_nil] at cut
      exact .inl ⟨before, [], by rw [List.append_nil, cut]⟩
    | cons d middle =>
      obtain ⟨rfl, rfl⟩ := List.cons.inj tail
      rcases List.append_eq_append_iff.1 cut with ⟨start, rfl, inside⟩ | ⟨start, rfl, inside⟩
      · exact absurd (inside ▸ List.mem_append_right _ List.mem_cons_self) absent
      · cases start with
        | nil =>
          rw [List.nil_append] at inside
          exact absurd (inside ▸ List.mem_cons_self) absent
        | cons d start =>
          obtain ⟨-, rfl⟩ := List.cons.inj inside
          exact .inr ⟨start, after, rfl⟩

/-- The lines of program output are stretches of it, and the first one stands at its start. -/
theorem infix_of_mem_brokenLines (text : List Char) :
    (∀ first ∈ (brokenLines text).head?, first <+: text) ∧ ∀ line ∈ brokenLines text, line <:+: text := by
  have broken : ∀ {rest : List Char} (front : List Char), (∀ line ∈ brokenLines rest, line <:+: rest) →
      (∀ first ∈ ([] :: brokenLines rest).head?, first <+: front ++ rest) ∧
        ∀ line ∈ [] :: brokenLines rest, line <:+: front ++ rest := by
    intro rest front ih
    refine ⟨fun first mem => ?_, fun line mem => ?_⟩
    · cases mem
      exact List.nil_prefix
    · rcases List.mem_cons.1 mem with rfl | mem
      · exact List.nil_infix
      · exact (ih line mem).trans (List.suffix_append _ _).isInfix
  fun_induction brokenLines text with
  | case1 => exact ⟨nofun, nofun⟩
  | case2 rest ih => exact broken ['\r', '\n'] ih.2
  | case3 c rest _ stop ih => exact broken [c] ih.2
  | case4 c rest _ onward ih =>
    cases lines : brokenLines rest with
    | nil =>
      have single : [c] <+: c :: rest := ⟨rest, rfl⟩
      refine ⟨fun first mem => ?_, fun line mem => ?_⟩
      · cases mem
        exact single
      · rw [prependChar, List.mem_singleton] at mem
        exact mem ▸ single.isInfix
    | cons first lines' =>
      rw [lines] at ih
      have longer : c :: first <+: c :: rest := List.cons_prefix_cons.2 ⟨rfl, ih.1 first rfl⟩
      refine ⟨fun line mem => ?_, fun line mem => ?_⟩
      · cases mem
        exact longer
      · rcases List.mem_cons.1 mem with rfl | mem
        · exact longer.isInfix
        · exact (ih.2 line (List.mem_cons_of_mem _ mem)).trans (List.suffix_cons c rest).isInfix

/-- Program output without a line break is one line. -/
theorem brokenLines_unbroken (unbroken : ∀ c ∈ text, isBreak c = false) (ne : text ≠ []) :
    brokenLines text = [text] := by
  fun_induction brokenLines text with
  | case1 => exact absurd rfl ne
  | case2 rest ih => exact absurd (unbroken '\r' List.mem_cons_self) (by decide)
  | case3 c rest _ stop ih =>
    rw [unbroken c List.mem_cons_self] at stop
    cases stop
  | case4 c rest _ onward ih =>
    cases rest with
    | nil => rfl
    | cons d rest =>
      have others := ih (fun e mem => unbroken e (List.mem_cons_of_mem _ mem)) (List.cons_ne_nil _ _)
      rw [others, prependChar]

/-- A text that no blank begins or ends is trimmed. -/
theorem trim_eq_self {first last : Char} (begins : isBlank first = false) (ends : isBlank last = false)
    (middle : List Char) : trim (first :: (middle ++ [last])) = first :: (middle ++ [last]) := by
  simp [trim, trimRight, trimLeft, begins, ends]

end MatlabTidy.Text
