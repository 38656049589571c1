import MatlabTidy.Text.Blank
import Mathlib.Data.List.TakeWhile

/-!
# The layout of a line

A line is its indentation followed by cells: characters that are not blank, each with the gap of
blanks behind it. `cells` reads the cells off a line and `join` writes them again; the indentation
and the cells determine the line (`indent_append_join`), and every list of cells is the cells of the
line that it writes (`cells_indent_append_join`).

`Respaced` relates two lines that differ in the widths of their inner gaps only, with no gap closed,
and `rewritten` counts the gaps in which two lines differ.
-/

namespace MatlabTidy.Text

/-- A character that is not blank, and the gap behind it. -/
structure Cell where
  char : Char
  gap : List Char
  solid : isBlank char = false
  blank : ∀ c ∈ gap, isBlank c = true

namespace Cell

/-- The cell with a gap of one space. -/
def spaced (x : Cell) : Cell := ⟨x.char, [' '], x.solid, List.forall_mem_singleton.2 (by decide)⟩

@[simp] theorem char_spaced (x : Cell) : x.spaced.char = x.char := rfl

@[simp] theorem gap_spaced (x : Cell) : x.spaced.gap = [' '] := rfl

/-- The cell without its gap. -/
def bare (x : Cell) : Cell := ⟨x.char, [], x.solid, nofun⟩

@[simp] theorem char_bare (x : Cell) : x.bare.char = x.char := rfl

@[simp] theorem gap_bare (x : Cell) : x.bare.gap = [] := rfl

/-- The text of a cell. -/
def chars (x : Cell) : List Char := x.char :: x.gap

end Cell

/-- The blanks at the start of a line. -/
def indent (text : List Char) : List Char := text.takeWhile isBlank

/-- The cells of a line. -/
def cells : List Char → List Cell
  | [] => []
  | c :: rest =>
    if h : isBlank c = true then cells rest
    else ⟨c, indent rest, by simpa using h, fun _ => List.mem_takeWhile_imp⟩ :: cells rest

/-- The text of a list of cells. -/
def join (xs : List Cell) : List Char := xs.flatMap Cell.chars

@[simp] theorem join_nil : join [] = [] := rfl

@[simp] theorem join_cons (x : Cell) (xs : List Cell) : join (x :: xs) = x.char :: (x.gap ++ join xs) := rfl

theorem mem_indent {text : List Char} {c : Char} (h : c ∈ indent text) : isBlank c = true :=
  List.mem_takeWhile_imp h

theorem indent_cons_blank {c : Char} (h : isBlank c = true) (rest : List Char) :
    indent (c :: rest) = c :: indent rest := by
  simp [indent, h]

theorem indent_cons_solid {c : Char} (h : isBlank c = false) (rest : List Char) :
    indent (c :: rest) = [] := by
  simp [indent, h]

theorem cells_cons_blank {c : Char} (h : isBlank c = true) (rest : List Char) :
    cells (c :: rest) = cells rest := by
  simp [cells, h]

/-- The indentation and the cells of a line make up the line. -/
@[simp] theorem indent_append_join (text : List Char) : indent text ++ join (cells text) = text := by
  induction text with
  | nil => rfl
  | cons c rest ih =>
    by_cases h : isBlank c = true
    · rw [indent_cons_blank h, cells_cons_blank h, List.cons_append, ih]
    · rw [indent_cons_solid (by simpa using h)]
      simp [cells, h, ih]

section Solid

variable {d : Char} (solid : isBlank d = false) (front back : List Char)
include solid

theorem cells_cons_solid : cells (d :: back) = ⟨d, indent back, solid, fun _ => mem_indent⟩ :: cells back := by
  simp [cells, solid]

theorem indent_append_solid : indent (front ++ d :: back) = indent front := by
  induction front with
  | nil => exact indent_cons_solid solid back
  | cons c front ih =>
    rw [List.cons_append]
    by_cases h : isBlank c = true
    · rw [indent_cons_blank h, indent_cons_blank h, ih]
    · rw [indent_cons_solid (by simpa using h), indent_cons_solid (by simpa using h)]

/-- A character that is not blank begins a cell. -/
theorem cells_append_solid : cells (front ++ d :: back) = cells front ++ cells (d :: back) := by
  induction front with
  | nil => rfl
  | cons c front ih =>
    rw [List.cons_append]
    by_cases h : isBlank c = true
    · rw [cells_cons_blank h, cells_cons_blank h, ih]
    · rw [cells_cons_solid (by simpa using h), cells_cons_solid (by simpa using h), ih]
      simp only [indent_append_solid solid, List.cons_append]

end Solid

section Written

variable {front : List Char} (blank : ∀ c ∈ front, isBlank c = true) (xs : List Cell)
include blank

/-- Blanks in front of cells are the indentation of the text. -/
theorem indent_append_join_cells : indent (front ++ join xs) = front := by
  induction front with
  | nil =>
    cases xs with
    | nil => rfl
    | cons x xs => exact indent_cons_solid x.solid _
  | cons c front ih =>
    have hc := blank c List.mem_cons_self
    have rest := ih fun d hd => blank d (List.mem_cons_of_mem _ hd)
    rw [List.cons_append, indent_cons_blank hc, rest]

/-- Blanks in front of cells are no part of the cells. -/
theorem cells_blank_append (text : List Char) : cells (front ++ text) = cells text := by
  induction front with
  | nil => rfl
  | cons c front ih =>
    have hc := blank c List.mem_cons_self
    have rest := ih fun d hd => blank d (List.mem_cons_of_mem _ hd)
    rw [List.cons_append, cells_cons_blank hc, rest]

end Written

/-- The cells of a text that cells write are these cells. -/
@[simp] theorem cells_join (xs : List Cell) : cells (join xs) = xs := by
  induction xs with
  | nil => rfl
  | cons x xs ih =>
    have gap := indent_append_join_cells x.blank xs
    have rest : cells (x.gap ++ join xs) = xs := by rw [cells_blank_append x.blank, ih]
    rw [join_cons, cells, dif_neg (by simp [x.solid]), rest]
    simp only [gap]

/-- Every list of cells is the cells of the line that it writes, whatever the indentation. -/
theorem cells_indent_append_join (text : List Char) (xs : List Cell) :
    cells (indent text ++ join xs) = xs := by
  rw [cells_blank_append fun _ => mem_indent, cells_join]

theorem indent_indent_append_join (text : List Char) (xs : List Cell) :
    indent (indent text ++ join xs) = indent text :=
  indent_append_join_cells (fun _ => mem_indent) xs

/-- The characters of a line that are not blank. -/
def solids (text : List Char) : List Char := text.filter fun c => !isBlank c

theorem solids_append (front back : List Char) : solids (front ++ back) = solids front ++ solids back :=
  List.filter_append _ _

theorem mem_solids {c : Char} {text : List Char} (solid : isBlank c = false) : c ∈ solids text ↔ c ∈ text := by
  rw [solids, List.mem_filter, solid]
  exact and_iff_left rfl

/-- The gaps of a line, one behind each character that is not blank. -/
def gaps (text : List Char) : List (List Char) := (cells text).map Cell.gap

/-- The blanks at the end of a line. -/
def trailing (text : List Char) : List Char := (text.reverse.takeWhile isBlank).reverse

/-- The number of gaps in which two lines differ. -/
def rewritten (before after : List Char) : Nat :=
  ((gaps before).zip (gaps after)).countP fun gap => decide (gap.1 ≠ gap.2)

/-- A line that differs from another in the widths of inner gaps only, and closes none of them. -/
structure Respaced (before after : List Char) : Prop where
  solids : solids after = solids before
  indent : indent after = indent before
  trailing : trailing after = trailing before
  /-- Two characters with blanks between them still have blanks between them. -/
  separated : ∀ (i : Nat) (gap : List Char), (gaps before)[i]? = some gap → gap ≠ [] →
    ∃ gap', (gaps after)[i]? = some gap' ∧ gap' ≠ []

theorem Respaced.refl (text : List Char) : Respaced text text :=
  ⟨rfl, rfl, rfl, fun _ gap here ne => ⟨gap, here, ne⟩⟩

theorem solids_eq (text : List Char) : solids text = (cells text).map Cell.char := by
  induction text with
  | nil => rfl
  | cons c rest ih =>
    by_cases h : isBlank c = true
    · rw [cells_cons_blank h, ← ih]
      simp [solids, h]
    · simp only [cells, h, Bool.false_eq_true, dite_false, List.map_cons, ← ih]
      simp [solids, h]

/-- Without its indentation a line is the text of its cells. -/
theorem trimLeft_eq (text : List Char) : trimLeft text = join (cells text) := by
  have whole : indent text ++ trimLeft text = text := List.takeWhile_append_dropWhile
  exact List.append_cancel_left (whole.trans (indent_append_join text).symm)

/-- The blanks at the end of a line are its last gap, or its indentation if there is nothing else. -/
theorem trailing_eq (text : List Char) :
    trailing text = ((cells text).getLast?.map Cell.gap).getD (indent text) := by
  have whole := indent_append_join text
  generalize cells text = xs at whole
  have blank : ∀ c ∈ indent text, isBlank c = true := fun _ => mem_indent
  generalize indent text = front at whole blank
  subst whole
  rcases List.eq_nil_or_concat xs with rfl | ⟨ys, x, rfl⟩
  · have all : ∀ c ∈ front.reverse, isBlank c = true := fun c hc => blank c (List.mem_reverse.1 hc)
    simp [trailing, List.takeWhile_eq_self_iff.2 all]
  · have last : (front ++ join (ys ++ [x])).reverse =
        x.gap.reverse ++ x.char :: (front ++ join ys).reverse := by
      simp [join, Cell.chars]
    have all : ∀ c ∈ x.gap.reverse, isBlank c = true := fun c hc => x.blank c (List.mem_reverse.1 hc)
    rw [trailing, List.concat_eq_append, last, List.takeWhile_append_of_pos all]
    simp [x.solid]

end MatlabTidy.Text
