import MatlabTidy.Config.Settings

/-!
# Command-line arguments

The program has three commands. Options may stand anywhere behind the command; a double hyphen ends
them. Short options can be joined, and of two options that contradict each other the last one wins.
The arguments are read from the left and the first fault counts, but a call for help comes before
any fault in the number of arguments.
-/

namespace MatlabTidy.Command

/-- What the arguments ask for. -/
inductive Request where
  | check (target : String) (overrides : Settings.Overrides) (debug : Bool)
  | rules
  | unchecked
  | help
  /-- The arguments cannot be understood. -/
  | usage
  /-- The option takes no value, but was given one. -/
  | refusedValue (option : String)
  deriving DecidableEq, Repr

/-- An option that is on or off. -/
inductive Switch where
  | recursive (on : Bool)
  | verbose (on : Bool)
  | fix (on : Bool)
  | debug
  | help
  deriving DecidableEq, Repr

/-- The long options of a check. -/
def checkOptions : List (String × Switch) :=
  [("--recursive", .recursive true), ("--no-recursive", .recursive false),
   ("--verbose", .verbose true), ("--quiet", .verbose false),
   ("--fix", .fix true), ("--no-fix", .fix false), ("--debug", .debug), ("--help", .help)]

/-- The short options of a check. -/
def checkLetters : List (Char × Switch) :=
  [('r', .recursive true), ('R', .recursive false), ('v', .verbose true), ('q', .verbose false)]

/-- The options of every command. -/
def commonOptions : List (String × Switch) := [("--help", .help)]

/-- What was read of the arguments. -/
structure Parsed where
  overrides : Settings.Overrides
  debug : Bool
  help : Bool
  /-- The arguments that are no options. -/
  operands : List String

namespace Parsed

/-- Nothing was read. -/
def start : Parsed := ⟨⟨none, none, none⟩, false, false, []⟩

/-- Turns a switch. -/
def turn (p : Parsed) : Switch → Parsed
  | .recursive on => { p with overrides := { p.overrides with recursive := some on } }
  | .verbose on => { p with overrides := { p.overrides with verbose := some on } }
  | .fix on => { p with overrides := { p.overrides with fix := some on } }
  | .debug => { p with debug := true }
  | .help => { p with help := true }

/-- Turns the switches of joined short options. -/
def turnLetters (letters : List (Char × Switch)) (p : Parsed) : List Char → Except Request Parsed
  | [] => .ok p
  | c :: rest =>
    match letters.lookup c with
    | some switch => turnLetters letters (p.turn switch) rest
    | none => .error .usage

end Parsed

/-- The part of an option before the equals sign, and whether there is a sign. -/
def optionName (arg : String) : String × Bool :=
  (String.ofList (arg.toList.takeWhile (· ≠ '=')), arg.toList.contains '=')

/-- Whether an argument is an option. -/
def isOption (arg : String) : Bool := arg.toList.head? = some '-' && arg ≠ "-"

/-- Reads one option. -/
def readOption (options : List (String × Switch)) (letters : List (Char × Switch)) (p : Parsed)
    (arg : String) : Except Request Parsed :=
  let (name, hasValue) := optionName arg
  match options.lookup name with
  | some switch => if hasValue then .error (.refusedValue name) else .ok (p.turn switch)
  | none =>
    if "--".toList.isPrefixOf arg.toList then .error .usage
    else Parsed.turnLetters letters p (arg.toList.drop 1)

/-- Reads the arguments of a command. -/
def readArguments (options : List (String × Switch)) (letters : List (Char × Switch)) (p : Parsed) :
    List String → Except Request Parsed
  | [] => .ok p
  | arg :: rest =>
    if arg = "--" then .ok { p with operands := p.operands ++ rest }
    else if isOption arg then do
      let p ← readOption options letters p arg
      readArguments options letters p rest
    else readArguments options letters { p with operands := p.operands ++ [arg] } rest

/-- The request that the arguments of a command amount to. -/
def finish (request : Parsed → Request) : Except Request Parsed → Request
  | .error fault => fault
  | .ok p => if p.help then .help else request p

/-- Reads the options in front of the command, up to the first argument that is none; gives whether
help is called for, and the arguments behind the options. -/
def readLeading (help : Bool) : List String → Except Request (Bool × List String)
  | [] => .ok (help, [])
  | arg :: rest =>
    if arg = "--" then .ok (help, rest)
    else if isOption arg then do
      let p ← readOption commonOptions [] .start arg
      readLeading (help || p.help) rest
    else .ok (help, arg :: rest)

/-- The request when there is no such command. The name may be an option behind a double hyphen, so
it is read once more as such; its faults and a call for help count. -/
def readUnknown (name : String) (args : List String) : Request :=
  match readLeading false (name :: args) with
  | .error fault => fault
  | .ok (help, _) => if help then .help else .usage

/-- Whether an argument can be a path. -/
def isPath (arg : String) : Bool := !arg.toList.contains (Char.ofNat 0)

/-- The request for a command and its arguments. -/
def readCommand (name : String) (args : List String) : Request :=
  let plain (request : Request) : Request :=
    finish (fun p => if p.operands.isEmpty then request else .usage)
      (readArguments commonOptions [] .start args)
  if name = "check" then
    finish (fun p => match p.operands with
      | [target] => if isPath target then .check target p.overrides p.debug else .usage
      | _ => .usage) (readArguments checkOptions checkLetters .start args)
  else if name = "rules" then plain .rules
  else if name = "unchecked" then plain .unchecked
  else readUnknown name args

/-- The request that a command line amounts to. -/
def request (args : List String) : Request :=
  match readLeading false args with
  | .error fault => fault
  | .ok (true, _) => .help
  | .ok (false, name :: rest) => readCommand name rest
  | .ok (false, []) => .usage

end MatlabTidy.Command
