import TypedFormat.Outlet
import TypedFormat.RunLog.Entry

/-!
# Journals

A journal writes the entries of one run, a line each, and numbers those that come without a
trace id. A number is used up also if the write then fails.
-/

namespace TypedFormat.RunLog

/-- An outlet for the lines of a run, and how many trace ids were given out. -/
structure Journal (σ : Type) where
  outlet : σ
  runId : String
  count : Nat := 0

namespace Journal

variable {σ : Type}

/-- The trace id with a given number, which has at least three digits. -/
def traceId (runId : String) (number : Nat) : String :=
  runId ++ "::" ++ String.ofList (paddedDigits 3 number)

/-- Gives out the next trace id. -/
def nextTraceId : EStateM String (Journal σ) String :=
  modifyGet fun journal =>
    let number := journal.count + 1
    (traceId journal.runId number, { journal with count := number })

/-- Runs something on the outlet alone. -/
def onOutlet (action : EStateM String σ α) : EStateM String (Journal σ) α := fun journal =>
  match action journal.outlet with
  | .ok a outlet         => .ok a { journal with outlet }
  | .error reason outlet => .error reason { journal with outlet }

variable [Json.Package]

/-- Writes the line of an entry. -/
def writeLine [Outlet σ] (entry : Entry) : EStateM String (Journal σ) Unit :=
  onOutlet (Outlet.deliver (entry.line.toList ++ ['\n']))

/-- Writes an entry. An empty trace id is replaced by the next one. -/
def write [Outlet σ] (entry : Entry) : EStateM String (Journal σ) Unit := do
  let traceId ← if entry.traceId.isEmpty then nextTraceId else pure entry.traceId
  writeLine { entry with traceId }

/-- Writes an entry of a severity and an event, and returns it. -/
def emit [Outlet σ] (timestamp : String) (severity : Severity) (event : String) :
    EStateM String (Journal σ) Entry := do
  let entry : Entry := { timestamp, traceId := ← nextTraceId, severity, event }
  writeLine entry
  pure entry

end Journal

end TypedFormat.RunLog
