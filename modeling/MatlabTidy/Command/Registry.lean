import MatlabTidy.Command.Program

/-!
# Registry of services

The parts that a program is put together from are kept in a registry, by key. `Registry.ofSettings`
registers the standard ones; a service can be replaced or added under any key.
-/

namespace MatlabTidy

/-- A part of the program, or a value that was put in its place. -/
inductive Service where
  | settings (s : Settings)
  | notices (who : Identity)
  | volumeAccess
  | reporter
  | operator
  | checker (c : Checker)
  | noChecker
  | custom (value : Value)

/-- Services by key; a service that is registered later takes the place of an earlier one. -/
structure Registry where
  services : List (String × Service)

namespace Registry

/-- The key of the settings. -/
def settingsKey : String := "ConfigurationLoader"

/-- The key of the notices to the operator. -/
def noticesKey : String := "TelemetryPort"

/-- The key of the access to files. -/
def volumeAccessKey : String := "FileSystemGateway"

/-- The key of the reports. -/
def reporterKey : String := "TerminalStyleReporter"

/-- The key of the operator who confirms fixes. -/
def operatorKey : String := "KeystrokeConfirm"

/-- The key of the code checker. -/
def checkerKey : String := "ComplexityChecker"

/-- The standard services for given settings. -/
def ofSettings (s : Settings) : Registry :=
  ⟨[(settingsKey, .settings s), (noticesKey, .notices .program), (volumeAccessKey, .volumeAccess),
    (reporterKey, .reporter), (operatorKey, .operator),
    (checkerKey, match s.checker with
      | some checker => .checker checker
      | none => .noChecker)]⟩

/-- Registers a service. -/
def register (r : Registry) (key : String) (service : Service) : Registry :=
  ⟨(key, service) :: r.services⟩

/-- The service of a key. -/
def get (r : Registry) (key : String) : Except Failure Service :=
  match r.services.lookup key with
  | some service => .ok service
  | none => .error (.notRegistered key)

/-- The registry for a table of settings; without a table the settings are looked for. -/
def build (log : Log) (table : Option Table) : Job Registry := do
  let table ← match table with
    | some table => pure table
    | none => Discovery.load none
  let settings ← Command.loadSettingsWith .standard log table
  return ofSettings settings

end Registry

/-- Registries that were built, of which one is in use and one may be shared by the whole program. What
they log is collected. -/
structure Pool where
  registries : List Registry
  current : Option Nat
  shared : Option Nat

namespace Pool

/-- No registry was built yet. -/
def empty : Pool := ⟨[], none, none⟩

/-- Builds a registry and puts it in use. -/
def build (p : Pool) (table : Option Table) : Job Pool := do
  let registry ← Registry.build .collected table
  return { p with registries := p.registries ++ [registry], current := some p.registries.length }

/-- Puts the shared registry in use; it is built when there is none. -/
def useShared (p : Pool) : Job Pool := do
  match p.shared with
  | some index => return { p with current := some index }
  | none =>
    let p ← p.build none
    return { p with shared := p.current }

/-- Forgets which registry is shared. -/
def reset (p : Pool) : Pool := { p with shared := none }

/-- The registry in use. -/
def inUse (p : Pool) : Registry :=
  (p.current.bind fun index => p.registries[index]?).getD ⟨[]⟩

/-- Registers a service in the registry in use. -/
def register (p : Pool) (key : String) (service : Service) : Pool :=
  match p.current with
  | some index => { p with registries := p.registries.modify index (·.register key service) }
  | none => p

end Pool

end MatlabTidy
