import MatlabTidy.Charset.Basic
import MatlabTidy.Config.Value
import MatlabTidy.Report.Basic
import MatlabTidy.Rule.Columns
import MatlabTidy.Text.Quoted
import MatlabTidy.Volume.Basic

/-!
# Failures

Everything that can stop a run. `Failure.message` words each of them, and `Failure.isFileTrouble`
tells the failures that concern one file only, after which a walk goes on with the next file.
-/

namespace MatlabTidy

/-- Why a run stops. -/
inductive Failure where
  /-- A rule of a kind that cannot be matched. -/
  | unknownRuleKind (kind : String)
  /-- A ruler that cannot be drawn, or a template that cannot be filled in. -/
  | ruler (error : RulerError)
  /-- A fix by a rule that has no repair. -/
  | noRepair (reason : String)
  /-- A fix that needs an answer when nobody can be asked. -/
  | nobodyToAsk
  /-- The answers have run out. -/
  | noMoreKeys
  /-- A file that is no source. -/
  | unsupportedExtension (path extension : String)
  /-- A repaired file that could not be moved into place. -/
  | replaceFailed (path : String) (report : FileReport) (cause : String)
  | access (error : AccessError)
  | charset (error : CharsetError)
  | decode (error : DecodeError)
  | encode (error : EncodeError)
  /-- A number of more digits than are converted. -/
  | numberTooLong (digits : Nat)
  /-- A number of more digits than are written. -/
  | numberUnwritable
  /-- A mean beyond the range of numbers. -/
  | meanTooLarge
  /-- Links that lead back to themselves. -/
  | linkLoop (path : String)
  /-- Links or values that stand too deep inside of each other. -/
  | tooDeep
  /-- Values that stand too deep inside of each other to be written. -/
  | literalTooDeep
  /-- A value of the named kind where a table of settings is needed. -/
  | notSettings (kind : String)
  /-- A service that was never registered. -/
  | notRegistered (key : String)
  deriving DecidableEq, Repr

/-- Why a ruler cannot be drawn or a template not be filled in, in words. -/
def RulerError.message : RulerError → String
  | .outOfRange => "list assignment index out of range"
  | .columnTooLarge | .lengthTooLarge => "cannot fit 'int' into an index-sized integer"
  | .noMemory => ""
  | .unknownGroup name => "unknown group name " ++ Text.quoted name

namespace Failure

/-- The failure in words. -/
def message : Failure → String
  | .unknownRuleKind kind => "Unknown rule kind: " ++ Text.quoted kind
  | .ruler error => error.message
  | .noRepair reason => "Rule has no replacement: " ++ reason
  | .nobodyToAsk => "Interactive fixing requires a confirm capability"
  | .noMoreKeys => "no more keys"
  | .unsupportedExtension path extension =>
    s!"Unsupported file extension '{extension}': {path}"
  | .replaceFailed path _ cause => s!"Could not replace {path}: {cause}"
  | .access error => error.message
  | .charset error => error.message
  | .decode error => error.message
  | .encode error => error.message
  | .numberTooLong digits =>
    s!"Exceeds the limit (4300 digits) for integer string conversion: value has {digits} digits; "
      ++ "use sys.set_int_max_str_digits() to increase the limit"
  | .numberUnwritable =>
    "Exceeds the limit (4300 digits) for integer string conversion; "
      ++ "use sys.set_int_max_str_digits() to increase the limit"
  | .meanTooLarge => "integer division result too large for a float"
  | .linkLoop path => "Symlink loop from " ++ Text.quoted path
  | .tooDeep => "maximum recursion depth exceeded"
  | .literalTooDeep => "maximum recursion depth exceeded while getting the repr of an object"
  | .notSettings kind => s!"'{kind}' object has no attribute 'get'"
  | .notRegistered key => s!"Dependency '{key}' not registered."

/-- The failure to write a value. -/
def ofLiteral : LiteralFault → Failure
  | .numberTooLong => .numberUnwritable
  | .tooDeep => .literalTooDeep

/-- Whether the failure is that one file cannot be reached or read. -/
def isFileTrouble : Failure → Bool
  | .access error => error.cause ≠ .embeddedNull
  | .decode _ => true
  | _ => false

/-- Whether the failure is an error of the style check itself. -/
def isStyleError : Failure → Bool
  | .unsupportedExtension _ _ | .replaceFailed _ _ _ | .noRepair _ => true
  | _ => false

end Failure

end MatlabTidy
