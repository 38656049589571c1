import MatlabTidy.Rule.Columns
import MatlabTidy.Rule.Pattern
import MatlabTidy.Text.Blank
import MatlabTidy.Text.Word

/-!
# Style rules

A rule is either a spacing rule, which finds runs of characters and knows how to repair them, or
a test of the whole line, which can only be reported. `Rule.table` lists the rules in the order of
their reports. `Rule.other` stands for a rule of a kind that this library does not know; matching
it fails.
-/

namespace MatlabTidy

/-- The greatest length of a line, in characters. -/
def lineLimit : Nat := 80

/-- How a run that offends is repaired. -/
inductive Repair where
  | spaceBefore
  | spaceAfter
  | singleSpace
  deriving DecidableEq, Repr

/-- What replaces an offending run. -/
def Repair.apply : Repair → List Char → List Char
  | .spaceBefore, run => ' ' :: run
  | .spaceAfter, run => run ++ [' ']
  | .singleSpace, _ => [' ']

/-- A rule about runs of characters, with its repair. -/
structure SpacingRule where
  pattern : Pattern
  repair : Repair
  reason : String

namespace SpacingRule

/-- The columns at which the line offends. -/
def columns (rule : SpacingRule) (line : List Char) : Columns :=
  (rule.pattern.columns line).map Int.ofNat

/-- The line with every offending run repaired. -/
def fix (rule : SpacingRule) (line : List Char) : List Char :=
  Piece.replace rule.repair.apply (rule.pattern.pieces line)

end SpacingRule

/-- A rule about the whole line, which reports one fixed column. -/
structure LineRule where
  offends : List Char → Bool
  column : Int
  reason : String

/-- A style rule. -/
inductive Rule where
  | spacing (rule : SpacingRule)
  | line (rule : LineRule)
  | other (kind reason : String)

/-- Characters that end an operand on the left of an operator. -/
def endsOperand (c : Char) : Bool := Text.isWord c || c = ']'

/-- Characters that begin an operand. -/
def beginsOperand (c : Char) : Bool := Text.isWord c || c = '[' || c = ']'

/-- Characters of comparisons, assignments and logical operators, negation aside. -/
def isOperator (c : Char) : Bool := c = '&' || c = '|' || c = '<' || c = '>' || c = '='

/-- Characters of operators, negation included. -/
def isSignedOperator (c : Char) : Bool := c = '~' || isOperator c

/-- Characters after which a wide gap is an offence. -/
def opensGap (c : Char) : Bool := Text.isWord c || c = '='

/-- Characters before which a wide gap is an offence. -/
def closesGap (c : Char) : Bool := Text.isWord c || c = '.'

/-- An operator follows an operand without a space. -/
def operatorStart : SpacingRule where
  pattern := ⟨some endsOperand, isSignedOperator, 1, none, []⟩
  repair := .spaceBefore
  reason := "Comparisons should begin with whitespace."

/-- An operand follows an operator without a space. -/
def operatorEnd : SpacingRule where
  pattern := ⟨none, isOperator, 1, none, [beginsOperand]⟩
  repair := .spaceAfter
  reason := "Comparisons should end with whitespace."

/-- An operand follows a comma without a space. -/
def commaEnd : SpacingRule where
  pattern := ⟨none, (· = ','), 1, some 1, [beginsOperand]⟩
  repair := .spaceAfter
  reason := "Commas should be followed by whitespace."

/-- Two or more blanks stand between two tokens, and what follows is no comment. -/
def wideGap : SpacingRule where
  pattern := ⟨some opensGap, Text.isBlank, 2, none, [closesGap, (· ≠ '%')]⟩
  repair := .singleSpace
  reason := "Avoid 2+ spaces (excluding indents & inline comments)."

/-- The length of a line without the line feeds and carriage returns at its end. -/
def lineLength (line : List Char) : Nat :=
  (line.reverse.dropWhile fun c => c = '\r' || c = '\n').length

/-- The line is longer than the limit; the offence is reported at the given column. -/
def tooLong (column : Int) : LineRule where
  offends line := decide (lineLimit < lineLength line)
  column := column
  reason := s!"Lines should not exceed {lineLimit} characters."

namespace Rule

/-- Why the rule objects. -/
def reason : Rule → String
  | .spacing rule => rule.reason
  | .line rule => rule.reason
  | .other _ reason => reason

/-- The rules, in the order of their reports. -/
def table : List Rule :=
  [.line (tooLong lineLimit), .spacing operatorStart, .spacing operatorEnd, .spacing commaEnd,
   .spacing wideGap]

/-- The columns at which the line offends, or the kind of a rule that is not known. -/
def columns (line : List Char) : Rule → Except String Columns
  | .spacing rule => .ok (rule.columns line)
  | .line rule => .ok (if rule.offends line then [rule.column] else [])
  | .other kind _ => .error kind

end Rule

/-- Whether the first character of the line that is not blank starts a comment. -/
def isCommentLine (line : List Char) : Bool := (Text.trimLeft line).head? = some '%'

end MatlabTidy
