import MatlabTidy.Console.Escape
import MatlabTidy.Run.Event

/-!
# Output streams of a run

Reports, prompts and plain output go to standard output, notices and the log to standard error.
Prompts lose their escape sequences, because they do not go to a terminal. The log shows warnings and
errors alone, and of these only the message, unless the settings were faulty: then every record names
its level and its source. On request the log shows everything.
-/

namespace MatlabTidy.Command

/-- How much of the log is shown. -/
inductive LogView where
  /-- The messages of grave records. -/
  | messages
  /-- Grave records, with level and source. -/
  | grave
  /-- All records, with level and source. -/
  | all
  deriving DecidableEq, Repr

/-- The view after a record: a warning of the log itself opens it. -/
def LogView.after (view : LogView) (record : LogRecord) : LogView :=
  if view = .messages ∧ record.source = .root ∧ record.level.isGrave then .grave else view

/-- A record as it is shown. -/
def LogView.text (view : LogView) (record : LogRecord) : String :=
  let level := record.level.label
  let source := record.source.label
  match view with
  | .messages => if record.level.isGrave then record.message ++ "\n" else ""
  | .grave => if record.level.isGrave then s!"{level}:{source}:{record.message}\n" else ""
  | .all => s!"{level} {source}: {record.message}\n"

/-- The width of the console. -/
def consoleWidth : Nat := 200

/-- A message in a frame over the width of the console. -/
def framed (title message : String) : String :=
  let stroke (n : Nat) := String.ofList (List.replicate n '─')
  "╭─ " ++ title ++ " " ++ stroke (consoleWidth - title.length - 5) ++ "╮\n"
    ++ "│ " ++ message ++ String.ofList (List.replicate (consoleWidth - message.length - 4) ' ')
    ++ " │\n"
    ++ "╰" ++ stroke (consoleWidth - 2) ++ "╯\n"

/-- The texts of the help page and of the hint on usage. -/
structure Manual where
  help : String
  usage : String

/-- The text of an event on standard output. -/
def outputText (manual : Manual) : Event → String
  | .printed text => text ++ "\n"
  | .help => manual.help
  | event => event.report ++ String.ofList (Console.withoutEscapes event.dialogue.toList)

/-- The text of an event on standard error. -/
def errorText (manual : Manual) (who : Identity) : Event → String
  | .usage => manual.usage
  | .refusedValue option => framed "Error" s!"Option '{option}' does not take a value."
  | .aborted => "\nAborted.\n"
  | event => event.noticeText who

/-- Standard output. -/
def standardOutput (manual : Manual) (events : List Event) : String :=
  String.join (events.map (outputText manual))

/-- The records of an event as they are shown, and the view after them. -/
def showRecords (view : LogView) (records : List LogRecord) : LogView × String :=
  records.foldl (fun (view, text) record =>
    let view := view.after record
    (view, text ++ view.text record)) (view, "")

/-- Standard error; the records of an event stand before its notice. -/
def standardError (manual : Manual) (who : Identity) (events : List Event) : String :=
  (events.foldl (fun (view, text) event =>
    match event with
    | .logOpened => (if view = .messages then .all else view, text)
    | .recordLost => (view.after ⟨.warning, .root, ""⟩, text ++ "--- Logging error ---\n")
    | _ =>
      let (view, shown) := showRecords view event.records
      (view, text ++ shown ++ errorText manual who event)) (LogView.messages, "")).2

end MatlabTidy.Command
