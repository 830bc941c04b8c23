import TypedFormat.Command.Invocation
import TypedFormat.Command.Trouble
import TypedFormat.Console
import TypedFormat.Files.Host

/-!
# Sessions

A session runs one command on a host. It writes messages to the console, and ends early when
there is trouble. A transcript says how it ended.
-/

namespace TypedFormat

/-- A computation on a host that may end in trouble; the text is what was written to the
console. -/
abbrev Session (m : Type → Type) := ExceptT Trouble (StateT String m)

namespace Session

variable {m : Type → Type} [Monad m]

/-- Runs something on the host. -/
def onHost (action : m α) : Session m α :=
  ExceptT.lift (StateT.lift action)

/-- Writes a message to the console. -/
def say (console : Console) (severity : Severity) (template : String)
    (arguments : List Argument) : Session m Unit := do
  let written ← getThe String
  match (console.log severity template arguments : Delivery String Bool) written with
  | .ok _ written          => set written
  | .error failure written => set written; throw (.format failure)

/-- Fails with what is made of a fault. -/
def demand (trouble : FileFault → Trouble) : Except FileFault α → Session m α
  | .ok a        => pure a
  | .error fault => throw (trouble fault)

/-- Runs a session that gives a text for standard output, and ends with what came of it. -/
def transcript (session : Session m String) : m Transcript := do
  let (result, written) ← (ExceptT.run session).run ""
  match result with
  | .ok stdout     => pure ⟨0, stdout, written⟩
  | .error trouble => pure ⟨trouble.exitCode, "", written ++ trouble.notice⟩

end Session

end TypedFormat
