import MatlabTidy.Checker.Advisory

/-!
# Complexity scores

A score is computed from the messages of the advisories: the sum of the complexities that they
state or, in the older way, of all numbers in them. A number of more than `Text.mostDigits` digits
cannot be converted, and then there is no score; the failure is the number of its digits.
-/

namespace MatlabTidy.Score

/-- The message of an advisory text: what follows the first colon and space. -/
def messageOf (advisory : List Char) : List Char := (Text.after? ": " advisory).getD advisory

/-- The digits behind the first ` is ` that a number follows, on the same line. -/
def statedNumber? (text : List Char) : Option (List Char) :=
  match (Text.skip? " is " text).bind (Text.span? Text.isDigit) with
  | some (digits, _) => some digits
  | none =>
    match text with
    | [] => none
    | c :: rest => if c = '\n' then none else statedNumber? rest

/-- The digits of a complexity that is stated at the start of a text. -/
def complexityAt? (text : List Char) : Option (List Char) := do
  let rest ← Text.skip? "McCabe " text
  let rest := (Text.skip? "cyclomatic " rest).getD rest
  let rest ← Text.skip? "complexity of " rest
  statedNumber? rest

/-- The digits of the first complexity that a message states. -/
def complexity? : List Char → Option (List Char)
  | [] => none
  | c :: rest =>
    match complexityAt? (c :: rest) with
    | some digits => some digits
    | none => complexity? rest

/-- The numbers in a message, as texts of digits. -/
def numbers (message : List Char) : List (List Char) :=
  match message with
  | [] => []
  | c :: rest =>
    if Text.isDigit c then
      (c :: rest.takeWhile Text.isDigit) :: numbers (rest.dropWhile Text.isDigit)
    else
      numbers rest
termination_by message.length
decreasing_by
  · have := (List.dropWhile_sublist (l := rest) Text.isDigit).length_le
    simp only [List.length_cons]
    omega
  · simp

/-- The value of a text of digits; too long a text fails with its length. -/
def value (digits : List Char) : Except Nat Nat :=
  if Text.mostDigits < digits.length then .error digits.length else .ok (Text.digitsValue digits)

/-- The sum of the values of texts of digits. -/
def sumValues : List (List Char) → Except Nat Nat
  | [] => .ok 0
  | digits :: rest => do
    let first ← value digits
    let others ← sumValues rest
    return first + others

/-- The digits of the numbers that a message adds to the score. -/
def counted (digitSum : Bool) (message : List Char) : List (List Char) :=
  if digitSum then numbers message else (complexity? message).toList

/-- The score of a list of advisory texts. -/
def ofAdvisories (digitSum : Bool) (advisories : List (List Char)) : Except Nat Nat :=
  sumValues (advisories.flatMap fun advisory => counted digitSum (messageOf advisory))

end MatlabTidy.Score
