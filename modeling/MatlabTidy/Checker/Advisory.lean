import MatlabTidy.Text.Blank
import MatlabTidy.Text.Digit
import MatlabTidy.Text.Lines
import MatlabTidy.Text.Scan
import MatlabTidy.Text.Word

/-!
# Advisories of the code checker

The code checker writes an advisory on a line of its own, such as
`L 12 (C 5-9): NOPRT: Terminate the statement.`: a line number, a column or a range of columns, an
optional label and a message. Lines of any other form are no advisories. The label is dropped.
-/

namespace MatlabTidy

/-- An advisory: its line, its columns and its message, as they were written. -/
structure Advisory where
  line : List Char
  columns : List Char
  message : List Char
  deriving DecidableEq, Repr

namespace Advisory

/-- Characters of a column or a range of columns. -/
def isColumnChar (c : Char) : Bool := Text.isDigit c || c = '-'

/-- The text without a label, that is a word, a colon and at least one blank. -/
def withoutLabel (text : List Char) : List Char :=
  match Text.span? Text.isWord text with
  | some (_, ':' :: rest) =>
    match Text.span? Text.isBlank rest with
    | some (_, message) => message
    | none => text
  | _ => text

/-- Reads an advisory from a line without blanks at its ends. -/
def parse? (text : List Char) : Option Advisory := do
  let rest ← Text.skip? "L" text
  let (_, rest) ← Text.span? Text.isBlank rest
  let (line, rest) ← Text.span? Text.isDigit rest
  let (_, rest) ← Text.span? Text.isBlank rest
  let rest ← Text.skip? "(C" rest
  let (_, rest) ← Text.span? Text.isBlank rest
  let (columns, rest) ← Text.span? isColumnChar rest
  let rest ← Text.skip? "):" rest
  return ⟨line, columns, withoutLabel (Text.trimLeft rest)⟩

/-- The advisory as it is reported. -/
def text (a : Advisory) : List Char :=
  "L ".toList ++ a.line ++ " (C ".toList ++ a.columns ++ "): ".toList ++ a.message

/-- The advisories in the output of the code checker. -/
def ofOutput (output : List Char) : List Advisory :=
  (Text.brokenLines output).filterMap fun line => parse? (Text.trim line)

end Advisory

end MatlabTidy
