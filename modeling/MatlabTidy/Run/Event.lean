import MatlabTidy.Report.Printer
import MatlabTidy.Report.Violation
import MatlabTidy.Run.Log

/-!
# Events of a run

A run leaves a trace of events: violations, tallies, prompts and answers, notices to the operator
and log records. The trace is the run's only output; what stands on a channel is read off it.

* `Event.report` is the text of the report, on standard output;
* `Event.dialogue` is the text of prompts and answers, on standard output;
* `Event.noticeText` is the text of notices, on standard error;
* `Event.records` are the log records; every notice but the greeting is logged too.
-/

namespace MatlabTidy

/-- The name under which the program speaks, and its greeting. -/
structure Identity where
  name : String
  tagline : String
  deriving DecidableEq, Repr

/-- The program's own identity. -/
def Identity.program : Identity := ⟨"MSTYLE", "Style check online"⟩

/-- The banner of an interactive run. -/
def banner : List String :=
  ["",
   "   __  ___  _____ __        __",
   "  /  |/  / / ___// /___  __/ /__",
   " / /|_/ /  \\__ \\/ __/ / / / / _ \\   Style Check",
   "/ /  / /  ___/ / /_/ /_/ / /  __/   for MATLAB sources",
   "/_/  /_/  /____/\\__/\\__, /_/\\___/",
   "                   /____/",
   ""]

/-- Something that a run does for others to see. -/
inductive Event where
  /-- A rule found something on a line. -/
  | violation (v : Violation)
  /-- A file is finished. -/
  | fileDone (report : FileReport) (fix verbose : Bool)
  /-- The run is finished. -/
  | summary (report : Aggregate) (fix : Bool)
  /-- The operator is asked about a fix. -/
  | prompt (p : FixPrompt)
  /-- The operator answers with a key. -/
  | answer (key : String)
  /-- A notice to the operator. -/
  | notice (level : Level) (message : String)
  /-- The greeting of a run, with the banner if there is a terminal for it. -/
  | greeting (withBanner : Bool)
  /-- A record for the log alone. -/
  | logged (record : LogRecord)
  /-- A record of which the log could not write the message. -/
  | recordLost
  /-- The log shows all records from here on. -/
  | logOpened
  /-- A line of plain output. -/
  | printed (text : String)
  /-- The help page. -/
  | help
  /-- The command line cannot be understood. -/
  | usage
  /-- An option that takes no value was given one. -/
  | refusedValue (option : String)
  /-- The operator's input ended. -/
  | aborted

namespace Event

/-- The text of the report. -/
def report : Event → String
  | .violation v => String.join (v.lines.map Console.line)
  | .fileDone report fix verbose => String.join ((report.lines fix verbose).map Console.line)
  | .summary report fix =>
    String.join ((report.table fix).map (· ++ "\n"))
      ++ String.join ((report.totalLines fix).map Console.line)
  | _ => ""

/-- The text of prompts and answers. -/
def dialogue : Event → String
  | .prompt p => p.text ++ "\n" ++ FixPrompt.question
  | .answer key => key ++ "\n"
  | _ => ""

/-- The text of notices. -/
def noticeText (who : Identity) : Event → String
  | .notice level message =>
    let mark := match level with
      | .warning => " WARNING:"
      | .error => " ERROR:"
      | _ => ""
    Console.line s!"[{who.name}]{mark} {message}"
  | .greeting true => "\n".intercalate banner ++ "\n"
  | .greeting false => Console.line s!"[{who.name}] {who.tagline}"
  | _ => ""

/-- The log records. -/
def records : Event → List LogRecord
  | .notice level message => [⟨level, .program, message⟩]
  | .logged record => [record]
  | _ => []

end Event

end MatlabTidy
