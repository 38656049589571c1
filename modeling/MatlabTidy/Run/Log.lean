/-!
# Log records

A log record has a level, the source that wrote it and a message. The sources are named after the
parts of the program; `Source.root` is the log itself. What becomes of a record whose message cannot be
written depends on where the log goes (`Log`).
-/

namespace MatlabTidy

/-- How grave a record is. -/
inductive Level where
  | debug
  | info
  | warning
  | error
  deriving DecidableEq, Repr

/-- The name of a level. -/
def Level.label : Level → String
  | .debug => "DEBUG"
  | .info => "INFO"
  | .warning => "WARNING"
  | .error => "ERROR"

/-- Whether records of the level concern the user of the program. -/
def Level.isGrave : Level → Bool
  | .warning | .error => true
  | _ => false

/-- The part of the program that wrote a record. -/
inductive Source where
  | root
  | program
  | scanning
  | walking
  | checking
  | settings
  | settingsFile
  | files
  deriving DecidableEq, Repr

/-- The name of a source. -/
def Source.label : Source → String
  | .root => "root"
  | .program => "matlab_style_linter"
  | .scanning => "matlab_style_linter.use_cases.scan_file"
  | .walking => "matlab_style_linter.use_cases.walk_directory"
  | .checking => "matlab_style_linter.infrastructure.adapters.checkcode_adapter"
  | .settings => "matlab_style_linter.domain.config"
  | .settingsFile => "matlab_style_linter.infrastructure.config_file_loader"
  | .files => "matlab_style_linter.infrastructure.gateways.filesystem_gateway"

/-- A record of the log. -/
structure LogRecord where
  level : Level
  source : Source
  message : String
  deriving DecidableEq, Repr

/-- Where a log goes. -/
inductive Log where
  /-- To a stream, which gets over a message that holds a number of too many digits: the record is lost. -/
  | stream
  /-- To a collection, which passes on whatever keeps a message from being written. -/
  | collected
  deriving DecidableEq, Repr

end MatlabTidy
