import TypedFormat.Command.Invocation
import TypedFormat.Command.Verification

/-!
# Executing commands

Runs what a command line asks for. A run that ends in trouble says so, and its exit code is not zero.
-/

namespace TypedFormat.Invocation

/-- The settings of the environment that the program regards. -/
structure Settings where
  log : Option String := none
  mismatch : Option String := none
deriving DecidableEq

/-- The name of the variable that sets how verbose the console is. -/
def logVariable : String := "LTD_LOG"

/-- The name of the variable that sets the console's policy. -/
def mismatchVariable : String := "LTD_FMT_MISMATCH"

/-- Reads values for a template; the first that does not fit its tag is the trouble. -/
def readValues : List String → Except Trouble (List CaseValue)
  | []              => .ok []
  | written :: rest =>
    match CaseValue.ofNotation written with
    | .error reason => .error (.badValue written reason)
    | .ok value     => return value :: (← readValues rest)

/-- The line that a template and its values give. -/
def renderLine (template : String) (values : List String) (lenient : Bool) :
    Except Trouble String := do
  let values ← readValues values
  let policy : Policy := if lenient then .lenient else .strict
  let arguments := values.map CaseValue.argument
  if formatReturns template arguments policy then
    match formatLine template arguments policy with
    | .ok line       => .ok line
    | .error failure => .error (.format failure)
  else .error .stopped

variable {m : Type → Type} [Monad m] [Host m] [Json.Package] [Digest]

/-- The session of an invocation. -/
def session (settings : Settings) : Invocation → Session m String
  | .verify suites report log =>
    Verification.run (.ofSettings settings.log settings.mismatch) suites report log
  | .render template values lenient =>
    match renderLine template values lenient with
    | .ok line       => pure line
    | .error trouble => throw trouble

/-- Runs a command line. -/
def execute [CommandLine] (settings : Settings) (words : List String) : m Transcript :=
  match CommandLine.parse words with
  | .ok invocation    => (invocation.session settings).transcript
  | .error transcript => pure transcript

end TypedFormat.Invocation
