import MatlabTidy.Checker.Basic
import MatlabTidy.Config.Value
import MatlabTidy.Run.Log
import MatlabTidy.Run.Options
import MatlabTidy.Stack

/-!
# Settings

The table of settings that the program reads. Six keys are known; an entry of one of them whose
value is of the wrong kind is a fault: it is dropped with a warning, and then the default holds. All
other entries are kept as they are. `Settings.ofTable` gives the settings and the faults.
-/

namespace MatlabTidy

/-- Settings whose known entries are of the right kind. -/
structure Settings where
  entries : Table

namespace Settings

/-- The keys of the settings that are yes or no, in the order of their warnings. -/
def flagKeys : List String := ["recursive", "verbose", "fix", "checker_enabled"]

/-- The key of the code checker's command. -/
def commandKey : String := "checker_command"

/-- The key of the encoding of sources. -/
def encodingKey : String := "encoding"

/-- The encoding of sources by default. -/
def defaultEncoding : String := "utf-8"

/-- Whether a value can be a yes or no. -/
def isFlag : Value → Bool
  | .bool _ => true
  | _ => false

/-- Whether a value can be a command: no value, or a list of texts that is not empty. -/
def isCommand : Value → Bool
  | .null => true
  | .list items => !items.isEmpty && items.all fun item => item.text?.isSome
  | _ => false

/-- Whether a value can be the name of an encoding, or no value. -/
def isEncoding : Value → Bool
  | .null | .text _ => true
  | _ => false

/-- Whether the value suits the key; any value suits a key that is not known. -/
def suits (key : String) (value : Value) : Bool :=
  if flagKeys.contains key then isFlag value
  else if key = commandKey then isCommand value
  else if key = encodingKey then isEncoding value
  else true

/-- The known keys, in the order of their warnings. -/
def knownKeys : List String := flagKeys ++ [commandKey, encodingKey]

/-- An entry whose value does not suit its key. -/
structure Fault where
  key : String
  value : Value

/-- The warning about a fault, unless it would show a value that cannot be written in so many levels. -/
def Fault.warningWithin (levels : Nat) (fault : Fault) : Except LiteralFault LogRecord :=
  let record (text : String) : LogRecord :=
    ⟨.warning, .root, s!"Configuration Warning: '{fault.key}' must be {text}"⟩
  if flagKeys.contains fault.key then
    (fault.value.literalWithin levels).map fun literal => record s!"a boolean, got {literal}. Using default."
  else if fault.key = commandKey then
    let words := ", ".intercalate (Checker.defaultCommand.map Text.quoted)
    .ok (record s!"a non-empty list of strings. Using default [{words}].")
  else
    .ok (record "a string. Using default.")

/-- The warning about a fault on the standard stack. -/
def Fault.warning (fault : Fault) : Except LiteralFault LogRecord :=
  fault.warningWithin Stack.standard.literal

/-- Drops the entries of the given keys that do not suit; each is a fault. -/
def validate : List String → Table → Table × List Fault
  | [], t => (t, [])
  | key :: keys, t =>
    match t.lookup key with
    | some value =>
      if suits key value then validate keys t
      else
        let (t, faults) := validate keys (t.erase key)
        (t, ⟨key, value⟩ :: faults)
    | none => validate keys t

/-- The settings of a table, and its faults. -/
def ofTable (t : Table) : Settings × List Fault :=
  let (t, faults) := validate knownKeys t
  (⟨t⟩, faults)

/-- A setting that is yes or no. -/
def flag (s : Settings) (key : String) (default : Bool) : Bool :=
  match s.entries.lookup key with
  | some (.bool b) => b
  | _ => default

/-- Whether subfolders are checked too. -/
def recursive (s : Settings) : Bool := s.flag "recursive" false

/-- Whether the offending lines are shown. -/
def verbose (s : Settings) : Bool := s.flag "verbose" false

/-- Whether the offending lines are repaired. -/
def fix (s : Settings) : Bool := s.flag "fix" false

/-- Whether the code checker is asked. -/
def checkerEnabled (s : Settings) : Bool := s.flag "checker_enabled" true

/-- The command of the code checker. -/
def checkerCommand (s : Settings) : List String :=
  match s.entries.lookup commandKey with
  | some (.list items) => items.filterMap Value.text?
  | _ => Checker.defaultCommand

/-- The encoding of sources. -/
def encoding (s : Settings) : String :=
  match s.entries.lookup encodingKey with
  | some (.text name) => name
  | _ => defaultEncoding

/-- The code checker, if it is enabled. -/
def checker (s : Settings) : Option Checker :=
  if s.checkerEnabled then some (Checker.ofCommand s.checkerCommand) else none

/-- Options that were given explicitly. -/
structure Overrides where
  recursive : Option Bool
  verbose : Option Bool
  fix : Option Bool
  deriving DecidableEq, Repr

/-- The options of a run: what was given explicitly wins over the settings. -/
def options (s : Settings) (o : Overrides) : Options where
  recursive := o.recursive.getD s.recursive
  verbose := o.verbose.getD s.verbose
  fix := o.fix.getD s.fix

/-- The log record of the options that were found. -/
def optionsRecord (o : Options) : LogRecord := ⟨.debug, .settings, "Resolved options: " ++ o.text⟩

end Settings

end MatlabTidy
