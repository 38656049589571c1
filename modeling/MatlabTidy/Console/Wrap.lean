import MatlabTidy.Console.Text
import MatlabTidy.Text.Blank

/-!
# Wrapped cells

A cell of a table has a fixed width. A text that is too wide for it is cut between words; the blanks
behind a word belong to it, so the lines of a wrapped text joined again are the text
(`flatten_wrap`). Afterwards a line loses the blanks that reach over the edge and, if it still does
not fit, ends in an ellipsis.
-/

namespace MatlabTidy.Console

/-- Whether two neighbouring characters belong to the same word; a word ends in blanks. -/
def staysInWord (before after : Char) : Bool := !Text.isBlank before || Text.isBlank after

/-- Cuts a line behind the blanks that end a word. -/
def cutWords : List Char → List (List Char)
  | [] => []
  | [c] => [[c]]
  | c :: d :: rest =>
    if staysInWord c d then Text.prependChar c (cutWords (d :: rest)) else [c] :: cutWords (d :: rest)

/-- Joins the blanks at the start of a text to the first word. -/
def joinIndent : List (List Char) → List (List Char)
  | first :: second :: rest =>
    if first.all Text.isBlank then (first ++ second) :: rest else first :: second :: rest
  | words => words

/-- The words of a line, each with the blanks behind it. -/
def words (line : List Char) : List (List Char) := joinIndent (cutWords line)

/-- Puts words on lines of the given width. `current` is the line so far and `used` its cells. A
word starts a new line when it does not fit behind a line that holds something. -/
def wrapWords (width : Nat) (current : List Char) (used : Nat) :
    List (List Char) → List (List Char)
  | [] => [current]
  | word :: rest =>
    let size := Text.cellLength (Text.trimRight word)
    let whole := Text.cellLength word
    if used + size ≤ width then
      wrapWords width (current ++ word) (used + whole) rest
    else if current.isEmpty then
      wrapWords width word (if width < size then whole else used) rest
    else if width < size || used ≠ 0 then
      current :: wrapWords width word whole rest
    else
      wrapWords width (current ++ word) used rest

/-- The lines that a line is wrapped to. -/
def wrap (width : Nat) (line : List Char) : List (List Char) := wrapWords width [] 0 (words line)

/-- The line without the blanks at its end that stand behind the first `width` characters. -/
def trimOverhang (width : Nat) (line : List Char) : List Char :=
  let blanks := (line.reverse.takeWhile Text.isBlank).length
  line.take (line.length - min blanks (line.length - width))

/-- The graphemes that take the first `width` cells; half of a wide one is a space. -/
def takeCells (width : Nat) : List Text.Grapheme → List Char
  | [] => []
  | grapheme :: rest =>
    if width = 0 then []
    else if grapheme.cells ≤ width then grapheme.chars ++ takeCells (width - grapheme.cells) rest
    else [' ']

/-- The sign that a line goes on. -/
def ellipsis : Char := '…'

/-- The line cut to the given width. -/
def crop (width : Nat) (line : List Char) : List Char :=
  if Text.cellLength line ≤ width then line
  else takeCells (width - 1) (Text.graphemes line) ++ [ellipsis]

/-- The lines of a text in a cell of the given width. -/
def cellLines (width : Nat) (text : String) : List (List Char) :=
  (Text.cutAt '\n' (clean text.toList)).flatMap fun line =>
    (wrap width (expandTabs line)).map fun line => crop width (trimOverhang width line)

/-- The width that a text asks for. -/
def widthOf (text : String) : Nat :=
  ((Text.brokenLines (clean text.toList)).map Text.cellLength).foldl max 0

theorem flatten_cutWords (line : List Char) : (cutWords line).flatten = line := by
  fun_induction cutWords line <;> simp_all

theorem flatten_joinIndent (parts : List (List Char)) : (joinIndent parts).flatten = parts.flatten := by
  unfold joinIndent
  split
  · split <;> simp
  · rfl

/-- The words of a line joined again are the line. -/
@[simp] theorem flatten_words (line : List Char) : (words line).flatten = line := by
  simp [words, flatten_joinIndent, flatten_cutWords]

theorem flatten_wrapWords (width : Nat) (current : List Char) (used : Nat)
    (parts : List (List Char)) :
    (wrapWords width current used parts).flatten = current ++ parts.flatten := by
  induction parts generalizing current used with
  | nil => simp [wrapWords]
  | cons word rest ih =>
    simp only [wrapWords]
    split
    · simp [ih]
    · split
      · rename_i h
        simp [ih, List.isEmpty_iff.1 h]
      · split <;> simp [ih]

/-- Wrapping loses nothing. -/
@[simp] theorem flatten_wrap (width : Nat) (line : List Char) :
    (wrap width line).flatten = line := by
  simp [wrap, flatten_wrapWords]

end MatlabTidy.Console
