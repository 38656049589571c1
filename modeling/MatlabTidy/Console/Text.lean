import MatlabTidy.Text.Lines
import MatlabTidy.Text.Width

/-!
# Console text

What a line of output looks like on the console: a few control characters are dropped and tabs
are expanded to stops of eight cells. A line feed inside the text starts a new line.
-/

namespace MatlabTidy.Console

/-- The distance of two tab stops, in cells. -/
def tabSize : Nat := 8

/-- Controls that are dropped: bell, backspace, vertical tab, form feed and carriage return. -/
def isDropped (c : Char) : Bool :=
  let n := c.toNat
  n = 7 || n = 8 || n = 11 || n = 12 || n = 13

/-- The text without the controls that are dropped. -/
def clean (text : List Char) : List Char := text.filter fun c => !isDropped c

/-- The first tab stop at or behind a cell. -/
def nextStop (cell : Nat) : Nat := (cell + tabSize - 1) / tabSize * tabSize

/-- The parts of a line with spaces up to a tab stop between them, at least one; the first part
starts at the given cell. -/
def joinAtStops (cell : Nat) : List (List Char) → List Char
  | [] => []
  | [part] => part
  | part :: rest =>
    let after := cell + Text.cellLength (part ++ [' '])
    let stop := nextStop after
    part ++ ' ' :: List.replicate (stop - after) ' ' ++ joinAtStops stop rest

/-- A line with its tabs expanded. -/
def expandTabs (line : List Char) : List Char := joinAtStops 0 (Text.cutAt '\t' line)

/-- A text as the console prints it, with the line feed that ends it. -/
def line (text : String) : String :=
  let lines := (Text.cutAt '\n' (clean text.toList)).map expandTabs
  String.ofList (List.intercalate ['\n'] lines ++ ['\n'])

end MatlabTidy.Console
