import TypedFormat.Text.Blank

/-!
# Severities

How serious a message is, from what ends the process to what only its developers read.
-/

namespace TypedFormat

inductive Severity where
  | fatal
  | error
  | warn
  | info
  | debug
  | trace
deriving DecidableEq, Inhabited

namespace Severity

/-- All severities, the gravest first. -/
def all : List Severity :=
  [.fatal, .error, .warn, .info, .debug, .trace]

/-- How verbose a log must be to show messages of a severity. -/
def verbosity : Severity → Nat
  | .fatal => 0
  | .error => 1
  | .warn  => 2
  | .info  => 3
  | .debug => 4
  | .trace => 5

/-- The word for a severity in records. -/
def name : Severity → String
  | .fatal => "fatal"
  | .error => "error"
  | .warn  => "warn"
  | .info  => "info"
  | .debug => "debug"
  | .trace => "trace"

/-- The word for a severity at the head of a line. -/
def label : Severity → String
  | .fatal => "FATAL"
  | .error => "ERROR"
  | .warn  => "WARN"
  | .info  => "INFO"
  | .debug => "DEBUG"
  | .trace => "TRACE"

/-- The severity with a given name. -/
def ofName? (name : String) : Option Severity :=
  all.find? (·.name == name)

/-- The severity that a setting names. -/
def ofSetting? (setting : String) : Option Severity :=
  match settingKey setting with
  | "fatal" | "critical" => some .fatal
  | "error" | "err"      => some .error
  | "warn"  | "warning"  => some .warn
  | "info"               => some .info
  | "debug"              => some .debug
  | "trace" | "all"      => some .trace
  | _                    => none

end Severity

end TypedFormat
