import MatlabTidy.Rule.Basic

/-!
# Violations and prompts

A `Violation` is what one rule found on one line. A `FixPrompt` is what the operator sees before
deciding about a fix: the line, the ruler with its carets and the line as it would become.
-/

namespace MatlabTidy

/-- What one rule found on one line. -/
structure Violation where
  lineNumber : Int
  line : List Char
  columns : Columns
  reason : String
  /-- Whether the line and its ruler are shown too. -/
  verbose : Bool
  deriving DecidableEq, Repr

namespace Violation

/-- The line that names the place and the reason. -/
def headline (v : Violation) : String :=
  s!"L {v.lineNumber} (C {v.columns.describe}): {v.reason}"

/-- The lines of the report; a ruler that cannot be drawn is left out. Long lines are cut. -/
def lines (v : Violation) : List String :=
  if v.verbose then
    v.headline :: String.ofList (v.line.take lineLimit) ::
      v.columns.markers.toOption.toList.map fun ruler => String.ofList (ruler.take lineLimit)
  else
    [v.headline]

end Violation

/-- A fix that waits for the operator's answer. -/
structure FixPrompt where
  lineNumber : Int
  current : List Char
  markers : List Char
  candidate : List Char
  reason : String
  deriving DecidableEq, Repr

namespace FixPrompt

/-- The text of the prompt. -/
def text (p : FixPrompt) : String :=
  s!"L {p.lineNumber}: {p.reason}\n"
    ++ "  " ++ String.ofList p.current ++ "\n"
    ++ "  " ++ String.ofList p.markers ++ "\n"
    ++ "  " ++ String.ofList p.candidate

/-- The question that follows the text. -/
def question : String := "Apply fix? [y/N] "

/-- The answers that accept a fix. -/
def accepts (key : String) : Bool := key = "y" || key = "Y"

end FixPrompt

end MatlabTidy
