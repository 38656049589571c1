import MatlabTidy.Checker.Score

/-!
# The code checker

The code checker is another program. A `Checker` says how it is called and how its advisories are
scored; `ProcessOutcome` is what a call came to. Both output streams are read, standard output
first.
-/

namespace MatlabTidy

/-- How the code checker is used. -/
structure Checker where
  /-- The command and its options, to which the file is added. -/
  command : List String
  /-- Scores are sums of all numbers rather than of the stated complexities. -/
  digitSum : Bool
  /-- The seconds that a call may take. -/
  timeout : Int
  /-- Warnings are notices to the operator rather than log records. -/
  announces : Bool
  deriving DecidableEq, Repr

/-- What a call of the code checker came to. -/
inductive ProcessOutcome where
  | finished (output errors : String)
  | missing
  | timedOut
  | refused (cause : String)
  deriving DecidableEq, Repr

/-- What the code checker has to say about a file. -/
structure Assessment where
  score : Int
  advisories : List String
  deriving DecidableEq, Repr

/-- What is known of a file that was not assessed. -/
def Assessment.none : Assessment := ⟨0, []⟩

namespace Checker

/-- The command when none is configured. -/
def defaultCommand : List String := ["mlint", "-cyc", "-id"]

/-- The seconds that a call may take by default. -/
def defaultTimeout : Int := 120

/-- The checker that is called with a command; the empty command stands for the default. -/
def ofCommand (command : List String) : Checker :=
  ⟨if command.isEmpty then defaultCommand else command, false, defaultTimeout, true⟩

/-- The words of the call for a file. -/
def call (checker : Checker) (file : String) : List String := checker.command ++ [file]

/-- Both streams of a finished call, the empty ones left out. -/
def joinStreams (output errors : String) : String :=
  "\n".intercalate ([output, errors].filter fun stream => !stream.isEmpty)

/-- The assessment that the output of the code checker amounts to; a number that is too long
fails with the count of its digits. -/
def assess (checker : Checker) (output : String) : Except Nat Assessment := do
  let advisories := (Advisory.ofOutput output.toList).map Advisory.text
  let score ← Score.ofAdvisories checker.digitSum advisories
  return ⟨score, advisories.map String.ofList⟩

end Checker

end MatlabTidy
