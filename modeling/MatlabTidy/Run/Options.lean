/-!
# Options of a run

Three switches, all off by default. A run that both fixes and is verbose is interactive: it asks the
operator about every fix.
-/

namespace MatlabTidy

/-- What a run is asked to do. -/
structure Options where
  /-- Descend into subfolders. -/
  recursive : Bool
  /-- Show the offending lines. -/
  verbose : Bool
  /-- Repair the offending lines. -/
  fix : Bool
  deriving DecidableEq, Repr

namespace Options

/-- A plain check of one file or folder. -/
def default : Options := ⟨false, false, false⟩

/-- Whether the operator decides about every fix. -/
def interactive (o : Options) : Bool := o.verbose && o.fix

/-- The options as the log shows them. -/
def text (o : Options) : String :=
  let word (b : Bool) : String := if b then "True" else "False"
  s!"StyleCheckOptions(recursive={word o.recursive}, verbose={word o.verbose}, fix={word o.fix})"

end Options

end MatlabTidy
