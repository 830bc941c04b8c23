import Std.Time.DateTime.Timestamp
import TypedFormat.Command.Execution
import TypedFormat.Command.Words
import TypedFormat.Digest.Sha256
import TypedFormat.Json.Reading

/-!
# The program

Runs a command line on the machine at hand: its files, its clock and its environment, with the
standard packages.
-/

namespace TypedFormat.Program

/-- The fault behind an error of the system. -/
def faultOfError : IO.Error → FileFault
  | .noFileOrDirectory _ code details => .refused code.toNat "NotFound" details
  | .noSuchThing _ code details       => .refused code.toNat "NotFound" details
  | .permissionDenied _ code details  => .refused code.toNat "PermissionDenied" details
  | .inappropriateType _ code details =>
    .refused code.toNat (if code = 21 then "IsADirectory" else "NotADirectory") details
  | .invalidArgument _ code details   =>
    .refused code.toNat (if code = 36 then "InvalidFilename" else "InvalidInput") details
  | error                             => .other error.toString

/-- The result of something that may fail. -/
def attempt (action : IO α) : IO (Except FileFault α) := do
  match ← action.toBaseIO with
  | .ok a        => pure (.ok a)
  | .error error => pure (.error (faultOfError error))

instance : Host IO where
  namesAt path := attempt do
    let entries ← ((← IO.currentDir) / path).readDir
    pure (entries.toList.map (·.fileName))
  bytesAt path := attempt do
    pure (← IO.FS.readBinFile path).toList
  writeFile path bytes := attempt do
    IO.FS.writeBinFile path ⟨bytes.toArray⟩
  now := do
    let millis := (← Std.Time.Timestamp.now).toMillisecondsSinceUnixEpoch.val.toNat
    pure ⟨millis / 1000, millis % 1000⟩

end TypedFormat.Program

open TypedFormat Standard in
/-- Runs a command line and returns its exit code. -/
def main (words : List String) : IO UInt32 := do
  let settings : Invocation.Settings := {
    log := ← IO.getEnv Invocation.logVariable
    mismatch := ← IO.getEnv Invocation.mismatchVariable }
  let transcript ← Invocation.execute settings words
  IO.print transcript.stdout
  IO.eprint transcript.stderr
  return UInt32.ofNat transcript.exitCode
