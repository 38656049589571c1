/-!
# Columns of a line

A rule answers with the columns where a line offends, counted from one. `Columns.describe` writes
them for a report and `Columns.markers` draws a ruler with a caret under each of them. The columns
of a match are always in range. A column below one counts back from the end of the ruler, and a
ruler cannot be drawn when a column falls outside of it or when it would be too long.
-/

namespace MatlabTidy

/-- Columns of a line, counted from one. -/
abbrev Columns := List Int

/-- Why a ruler cannot be drawn, or a line not be filled into a template. -/
inductive RulerError where
  /-- A column falls outside of the ruler. -/
  | outOfRange
  /-- A column is no machine word. -/
  | columnTooLarge
  /-- The length of the ruler is no machine word. -/
  | lengthTooLarge
  /-- The cells of the ruler have more bytes than a machine word counts. -/
  | noMemory
  /-- A template names a group that its pattern does not have. -/
  | unknownGroup (name : String)
  deriving DecidableEq, Repr

/-- Whether a number is a machine word of 64 bits, one of them for the sign. -/
def isMachineWord (n : Int) : Bool := -0x8000000000000000 ≤ n && n < 0x8000000000000000

namespace Columns

/-- The columns between brackets, separated by spaces. -/
def describe (columns : Columns) : String :=
  "[" ++ " ".intercalate (columns.map toString) ++ "]"

/-- The cell of a ruler that a column stands for, if the ruler has it. -/
def cell? (width : Nat) (column : Int) : Option Nat :=
  let index := if column < 1 then column - 1 + width else column - 1
  if 0 ≤ index ∧ index < width then some index.toNat else none

/-- The greatest column, or zero when there is none. -/
def greatest (columns : Columns) : Int := columns.max?.getD 0

/-- Puts a caret into the cell of each column. -/
def drawCarets : Columns → Array Char → Except RulerError (Array Char)
  | [], ruler => .ok ruler
  | column :: rest, ruler =>
    if !isMachineWord (column - 1) then .error .columnTooLarge
    else
      match cell? ruler.size column with
      | some index => drawCarets rest (ruler.setIfInBounds index '^')
      | none => .error .outOfRange

/-- The length from which on a ruler is refused whatever memory there is: its cells hold references of
eight bytes each, and their bytes are counted by a machine word. -/
def mostCells : Int := 0x1000000000000000

/-- The ruler up to the last column, with a caret at each column and dashes elsewhere. -/
def markers (columns : Columns) : Except RulerError (List Char) :=
  if !isMachineWord columns.greatest then .error .lengthTooLarge
  else if mostCells ≤ columns.greatest then .error .noMemory
  else (drawCarets columns (Array.replicate columns.greatest.toNat '-')).map Array.toList

end Columns

end MatlabTidy
