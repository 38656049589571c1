import MatlabTidy.Rule.Basic
import MatlabTidy.Run.Failure

/-!
# What a scan asks of a rule

A scan asks a rule for the columns at which a line offends, for the reason to report and, if the rule
has a repair, for the repaired line. Both the search and the repair may fail. `Criterion` is the class of
everything that can be asked so: the rules of the table, and the free rules, whose pattern, template or
test may be any.
-/

namespace MatlabTidy

/-- What a scan asks of a rule. -/
class Criterion (R : Type) where
  /-- Why the rule objects. -/
  reason : R → String
  /-- The columns at which a line offends. -/
  columns : R → List Char → Except Failure Columns
  /-- The repair of a line, if the rule has one. -/
  repair? : R → Option (List Char → Except Failure (List Char))

instance : Criterion Rule where
  reason rule := rule.reason
  columns rule line := (rule.columns line).mapError .unknownRuleKind
  repair?
    | .spacing rule => some fun line => .ok (rule.fix line)
    | _ => none

/-- A rule with a pattern and a template, or with a test of the whole line, whatever they are. -/
inductive FreeRule where
  /-- Every match of the pattern is an offence at its first character, counted from zero; the template
  replaces all matches. -/
  | pattern (starts : List Char → List Nat) (replace : List Char → Except Failure (List Char))
    (reason : String)
  /-- The test tells whether the line offends, which is reported at one fixed column. -/
  | test (offends : List Char → Except Failure Bool) (column : Int) (reason : String)
  /-- A rule of a kind that cannot be matched. -/
  | other (kind reason : String)

instance : Criterion FreeRule where
  reason
    | .pattern _ _ reason | .test _ _ reason | .other _ reason => reason
  columns
    | .pattern starts _ _, line => .ok ((starts line).map fun start : Nat => (start : Int) + 1)
    | .test offends column _, line => do return if ← offends line then [column] else []
    | .other kind _, _ => .error (.unknownRuleKind kind)
  repair?
    | .pattern _ replace _ => some replace
    | _ => none

end MatlabTidy
