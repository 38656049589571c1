import MatlabTidy.Text.Lines
import Mathlib.Tactic.Common

/-!
# Texts cut into lines

`WellCut` says which lists of lines a text is cut into: no text of a line holds a break, every line
but the last is terminated, the last is not empty, and no carriage return stands before a line feed
that was meant as a line of its own. Cutting a text gives such lines (`exists_wellCut`), and such lines
written one after the other are cut into the same lines again (`rawLines_flatten`). A change to the
texts of lines keeps the cut as long as no break is brought in and no text is emptied or filled
(`WellCut.of_forall₂`).
-/

namespace MatlabTidy.Text

/-- No line ends within the text. -/
def Unbroken (text : List Char) : Prop := ∀ c ∈ text, c ≠ '\n' ∧ c ≠ '\r'

instance (text : List Char) : Decidable (Unbroken text) := List.decidableBAll _ _

theorem Unbroken.tail {c : Char} {text : List Char} (h : Unbroken (c :: text)) : Unbroken text :=
  fun d hd => h d (List.mem_cons_of_mem _ hd)

theorem Unbroken.nil : Unbroken [] := nofun

/-- Lines as a text is cut into. -/
inductive WellCut : List Line → Prop where
  | nil : WellCut []
  /-- The last line may have no terminator, and then it is not empty. -/
  | last {text : List Char} (unbroken : Unbroken text) (ne : text ≠ []) : WellCut [⟨text, .none⟩]
  /-- A carriage return and a line feed behind it are one terminator. -/
  | cons {line : Line} {rest : List Line} (unbroken : Unbroken line.text)
      (ended : line.ending ≠ .none)
      (apart : line.ending = .carriageReturn → rest.head? ≠ some ⟨[], .lineFeed⟩)
      (others : WellCut rest) : WellCut (line :: rest)

/-- Splitting a line off its terminator gives the line. -/
theorem Line.ofRaw_raw {line : Line} (unbroken : Unbroken line.text) : ofRaw line.raw = line := by
  obtain ⟨text, ending⟩ := line
  have last : ∀ c rest, text.reverse = c :: rest → c ≠ '\n' ∧ c ≠ '\r' := by
    intro c rest h
    exact unbroken c (List.mem_reverse.1 (by rw [h]; exact List.mem_cons_self))
  cases ending with
  | none =>
    simp only [raw, Ending.chars, List.append_nil, ofRaw]
    split
    · exact absurd rfl (last _ _ ‹_›).1
    · exact absurd rfl (last _ _ ‹_›).1
    · exact absurd rfl (last _ _ ‹_›).2
    · rfl
  | lineFeed =>
    simp only [raw, Ending.chars, ofRaw, List.reverse_append, List.reverse_cons, List.reverse_nil,
      List.nil_append, List.cons_append]
    split
    · rename_i h
      exact absurd rfl (last _ _ (List.cons.inj h).2).2
    · rename_i h
      rw [← (List.cons.inj h).2, List.reverse_reverse]
    · rename_i h
      exact absurd (List.cons.inj h).1 (by decide)
    · rename_i h _
      exact absurd rfl (h _)
  | carriageReturn => simp [raw, Ending.chars, ofRaw]
  | both => simp [raw, Ending.chars, ofRaw]

section Cutting

variable {c : Char} {text rest : List Char}

theorem rawLines_cons (feed : c ≠ '\n') (ret : c ≠ '\r') (rest : List Char) :
    rawLines (c :: rest) = prependChar c (rawLines rest) := by
  rw [rawLines]
  · simp [feed, ret]
  · exact fun _ h => absurd h ret

theorem rawLines_feed (rest : List Char) : rawLines ('\n' :: rest) = ['\n'] :: rawLines rest := by
  rw [rawLines]
  · simp
  · exact fun _ h => absurd h (by decide)

theorem rawLines_return (h : rest.head? ≠ some '\n') :
    rawLines ('\r' :: rest) = ['\r'] :: rawLines rest := by
  rw [rawLines]
  · simp
  · rintro rest' - rfl
    exact h rfl

/-- A text without breaks belongs to the line that follows it. -/
theorem rawLines_append (unbroken : Unbroken text) {line : List Char} {lines : List (List Char)}
    (h : rawLines rest = line :: lines) : rawLines (text ++ rest) = (text ++ line) :: lines := by
  induction text with
  | nil => exact h
  | cons c text ih =>
    obtain ⟨feed, ret⟩ := unbroken c List.mem_cons_self
    rw [List.cons_append, rawLines_cons feed ret, ih unbroken.tail]
    rfl

theorem rawLines_unbroken (unbroken : Unbroken text) (ne : text ≠ []) : rawLines text = [text] := by
  induction text with
  | nil => exact absurd rfl ne
  | cons c text ih =>
    obtain ⟨feed, ret⟩ := unbroken c List.mem_cons_self
    rw [rawLines_cons feed ret]
    cases text with
    | nil => rfl
    | cons d text =>
      rw [ih unbroken.tail (List.cons_ne_nil _ _)]
      rfl

end Cutting

/-- Only the line of a lone line feed starts with one. -/
theorem WellCut.head?_flatten {lines : List Line} (cut : WellCut lines)
    (h : lines.head? ≠ some ⟨[], .lineFeed⟩) : (lines.map Line.raw).flatten.head? ≠ some '\n' := by
  cases cut with
  | nil => simp
  | @last text unbroken ne =>
    obtain ⟨c, text, rfl⟩ := List.exists_cons_of_ne_nil ne
    simpa [Line.raw] using (unbroken c List.mem_cons_self).1
  | @cons line rest unbroken ended apart others =>
    obtain ⟨_ | ⟨c, text⟩, ending⟩ := line
    · cases ending with
      | none => exact absurd rfl ended
      | lineFeed => exact absurd rfl h
      | carriageReturn => simp [Line.raw, Ending.chars]
      | both => simp [Line.raw, Ending.chars]
    · simpa [Line.raw] using (unbroken c List.mem_cons_self).1

/-- Lines that are written one after the other are cut where they were written. -/
theorem rawLines_flatten {lines : List Line} (cut : WellCut lines) :
    rawLines (lines.map Line.raw).flatten = lines.map Line.raw := by
  induction cut with
  | nil => rfl
  | @last text unbroken ne =>
    have raw : (([⟨text, .none⟩] : List Line).map Line.raw) = [text] := by
      simp [Line.raw, Ending.chars]
    rw [raw, List.flatten_singleton, rawLines_unbroken unbroken ne]
  | @cons line rest unbroken ended apart others ih =>
    obtain ⟨text, ending⟩ := line
    have ending_cut : rawLines (ending.chars ++ (rest.map Line.raw).flatten) =
        ending.chars :: rest.map Line.raw := by
      cases ending with
      | none => exact absurd rfl ended
      | lineFeed => rw [Ending.chars, List.singleton_append, rawLines_feed, ih]
      | carriageReturn =>
        rw [Ending.chars, List.singleton_append, rawLines_return (others.head?_flatten (apart rfl)), ih]
      | both => exact congrArg _ ih
    rw [List.map_cons, List.flatten_cons, Line.raw, List.append_assoc, rawLines_append unbroken ending_cut]

/-- Every text is cut into such lines. -/
theorem exists_wellCut (text : List Char) :
    ∃ lines : List Line, WellCut lines ∧ rawLines text = lines.map Line.raw := by
  fun_induction rawLines text with
  | case1 => exact ⟨[], .nil, rfl⟩
  | case2 rest ih =>
    obtain ⟨lines, cut, eq⟩ := ih
    exact ⟨⟨[], .both⟩ :: lines, .cons .nil (by decide) (by simp) cut, by rw [eq]; rfl⟩
  | case3 c rest pair ends ih =>
    obtain ⟨lines, cut, eq⟩ := ih
    rw [Bool.or_eq_true, decide_eq_true_eq, decide_eq_true_eq] at ends
    rcases ends with rfl | rfl
    · exact ⟨⟨[], .lineFeed⟩ :: lines, .cons .nil (by decide) (by simp) cut, by rw [eq]; rfl⟩
    · refine ⟨⟨[], .carriageReturn⟩ :: lines, .cons .nil (by decide) (fun _ first => ?_) cut,
        by rw [eq]; rfl⟩
      -- A first line of a lone line feed would have been joined to the carriage return.
      obtain ⟨others, rfl⟩ := List.head?_eq_some_iff.1 first
      have joined := flatten_rawLines rest
      rw [eq] at joined
      exact pair _ rfl joined.symm
  | case4 c rest pair ends ih =>
    obtain ⟨lines, cut, eq⟩ := ih
    simp only [Bool.or_eq_true, decide_eq_true_eq, not_or] at ends
    have longer : ∀ {text : List Char}, Unbroken text → Unbroken (c :: text) := by
      intro text unbroken d hd
      rcases List.mem_cons.1 hd with rfl | hd
      · exact ends
      · exact unbroken d hd
    rw [eq]
    cases cut with
    | nil => exact ⟨[⟨[c], .none⟩], .last (longer .nil) (List.cons_ne_nil _ _), rfl⟩
    | @last text unbroken ne =>
      exact ⟨[⟨c :: text, .none⟩], .last (longer unbroken) (List.cons_ne_nil _ _), rfl⟩
    | @cons line lines unbroken ended apart others =>
      exact ⟨⟨c :: line.text, line.ending⟩ :: lines, .cons (longer unbroken) ended apart others, rfl⟩

theorem WellCut.unbroken {lines : List Line} (cut : WellCut lines) : ∀ line ∈ lines, Unbroken line.text := by
  induction cut with
  | nil => exact nofun
  | last unbroken ne => exact List.forall_mem_singleton.2 unbroken
  | cons unbroken ended apart others ih => exact List.forall_mem_cons.2 ⟨unbroken, ih⟩

/-- Splitting a line of a cut off its terminator gives the line. -/
theorem WellCut.ofRaw_raw {lines : List Line} (cut : WellCut lines) : ∀ line ∈ lines, Line.ofRaw line.raw = line :=
  fun line mem => Line.ofRaw_raw (cut.unbroken line mem)

/-- A change to the texts of lines keeps the cut if it keeps the terminators, brings no break in and
neither empties nor fills a text. -/
theorem WellCut.of_forall₂ {lines lines' : List Line} (cut : WellCut lines)
    (h : List.Forall₂ (fun line line' : Line => line'.ending = line.ending ∧ Unbroken line'.text ∧
      (line'.text = [] ↔ line.text = [])) lines lines') : WellCut lines' := by
  induction cut generalizing lines' with
  | nil =>
    cases h
    exact .nil
  | last unbroken ne =>
    cases h with
    | @cons _ line' _ _ here none =>
      cases none
      obtain ⟨text', ending'⟩ := line'
      obtain ⟨rfl, unbroken', same⟩ := here
      exact .last unbroken' (fun empty => ne (same.1 empty))
  | @cons line rest unbroken ended apart others ih =>
    cases h with
    | @cons _ line' _ rest' here there =>
      obtain ⟨ending, unbroken', -⟩ := here
      refine .cons unbroken' (by rwa [ending]) (fun ret => ?_) (ih there)
      have apart := apart (ending ▸ ret)
      cases there with
      | nil => simp
      | @cons next next' _ _ here there =>
        intro first
        obtain ⟨ending, -, same⟩ := here
        simp only [List.head?_cons, Option.some.injEq] at first
        subst first
        refine apart ?_
        obtain ⟨text, ending'⟩ := next
        cases ending
        cases same.1 rfl
        rfl

theorem isTerminated_cons {c : Char} (feed : c ≠ '\n') (ret : c ≠ '\r') (raw : List Char) :
    isTerminated (c :: raw) = isTerminated raw := by
  cases raw with
  | nil => simp [isTerminated, feed, ret]
  | cons d raw => simp [isTerminated]

/-- What a longer text ends in is what its rest ends in. -/
theorem apart_tail {c : Char} {rest more : List Char}
    (apart : (c :: rest).getLast? = some '\r' → more.head? ≠ some '\n') :
    rest.getLast? = some '\r' → more.head? ≠ some '\n' := by
  intro last
  refine apart ?_
  rw [List.getLast?_cons, last]
  rfl

/-- The lines of a text that are terminated stay as they are whatever follows, unless a line feed would join a
carriage return at the end. -/
theorem takeWhile_rawLines_isPrefix {text more : List Char}
    (apart : text.getLast? = some '\r' → more.head? ≠ some '\n') :
    (rawLines text).takeWhile isTerminated <+: rawLines (text ++ more) := by
  fun_induction rawLines text with
  | case1 => exact List.nil_prefix
  | case2 rest ih =>
    rw [List.cons_append, List.cons_append, rawLines, List.takeWhile_cons_of_pos rfl]
    exact List.cons_prefix_cons.2 ⟨rfl, ih (apart_tail (apart_tail apart))⟩
  | case3 c rest pair ends ih =>
    have front := ih (apart_tail apart)
    rw [Bool.or_eq_true, decide_eq_true_eq, decide_eq_true_eq] at ends
    rcases ends with rfl | rfl
    · rw [List.cons_append, rawLines_feed, List.takeWhile_cons_of_pos rfl]
      exact List.cons_prefix_cons.2 ⟨rfl, front⟩
    · have next : (rest ++ more).head? ≠ some '\n' := by
        cases rest with
        | nil => exact apart rfl
        | cons d rest =>
          rintro ⟨⟩
          exact pair rest rfl rfl
      rw [List.cons_append, rawLines_return next, List.takeWhile_cons_of_pos rfl]
      exact List.cons_prefix_cons.2 ⟨rfl, front⟩
  | case4 c rest pair ends ih =>
    have front := ih (apart_tail apart)
    simp only [Bool.or_eq_true, decide_eq_true_eq, not_or] at ends
    obtain ⟨feed, ret⟩ := ends
    rw [List.cons_append, rawLines_cons feed ret]
    cases lines : rawLines rest with
    | nil =>
      have running : ¬ isTerminated [c] = true := by
        rw [isTerminated_cons feed ret]
        exact Bool.false_ne_true
      rw [prependChar, List.takeWhile_cons_of_neg running]
      exact List.nil_prefix
    | cons line others =>
      rw [prependChar]
      by_cases done : isTerminated line = true
      · rw [lines, List.takeWhile_cons_of_pos done] at front
        obtain ⟨behind, whole⟩ := front
        rw [List.takeWhile_cons_of_pos ((isTerminated_cons feed ret line).trans done), ← whole]
        exact ⟨behind, rfl⟩
      · rw [List.takeWhile_cons_of_neg (by rwa [isTerminated_cons feed ret])]
        exact List.nil_prefix

end MatlabTidy.Text
