import MatlabTidy.Run.Event
import MatlabTidy.Run.Failure
import MatlabTidy.Volume.Access

/-!
# Jobs

A job changes a `World`, leaves events in its trace and ends with a value or with a `Failure`. What
a job did before it failed is not undone: the world of a failed job is the one it had reached.
-/

namespace MatlabTidy

/-- What a job works on. -/
structure World where
  volume : Volume
  /-- The operator's keys that are still to come; `none` when there is no operator. -/
  keys : Option (List String)
  /-- The operator has been told that the code checker is missing. -/
  missingReported : Bool
  /-- What happened so far. -/
  events : Array Event

/-- A computation on the world that may fail. -/
abbrev Job := EStateM Failure World

namespace Job

/-- Adds an event to the trace. -/
def emit (event : Event) : Job Unit := modify fun w => { w with events := w.events.push event }

/-- Writes a notice to the operator. -/
def notify (level : Level) (message : String) : Job Unit := emit (.notice level message)

/-- Writes a log record. -/
def log (level : Level) (source : Source) (message : String) : Job Unit :=
  emit (.logged ⟨level, source, message⟩)

/-- The value of a step, or its failure. -/
def ofExcept {ε α : Type} (failure : ε → Failure) : Except ε α → Job α
  | .ok a => pure a
  | .error e => throw (failure e)

/-- Asks the volume. -/
def ask {α : Type} (question : Volume → Except AccessError α) : Job α := do
  let w ← get
  ofExcept .access (question w.volume)

/-- Changes the volume. -/
def modifyVolume (change : Volume → Volume) : Job Unit :=
  modify fun w => { w with volume := change w.volume }

/-- Asks the operator about a fix, and waits for a key. -/
def confirm (prompt : FixPrompt) : Job Bool := do
  emit (.prompt prompt)
  let w ← get
  match w.keys with
  | none | some [] => throw .noMoreKeys
  | some (key :: rest) =>
    set { w with keys := some rest }
    emit (.answer key)
    return FixPrompt.accepts key

end Job

end MatlabTidy
