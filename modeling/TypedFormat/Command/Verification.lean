import TypedFormat.Command.Session
import TypedFormat.Conformance.Report
import TypedFormat.Digest
import TypedFormat.RunLog.Journal

/-!
# Verification

Verifies the suites in a directory under both policies. The verdicts go into a report, as
markdown and as JSON beside it, and into a run log. What the console shows depends on settings;
the report and the run log do not.
-/

namespace TypedFormat.Verification

open RunLog

/-! ### Suites -/

/-- A suite that was read from a file, with the file's name and digest. -/
structure Loaded where
  name : String
  digest : String
  suite : Suite

/-- The names among these that suites may have, in order. -/
def suiteNames (names : List String) : List String :=
  (names.filter fun name => Path.extension? name == some "json").mergeSort (· ≤ ·)

/-- The text of a file. -/
def textOfBytes (bytes : List UInt8) : Except FileFault String :=
  match Utf8.text? bytes with
  | some text => .ok (String.ofList text)
  | none      => .error .notText

/-- The suite in what was read from a path. -/
def suiteOfBytes [Json.Package] (path : String) (read : Except FileFault (List UInt8)) :
    Except Trouble Suite :=
  match read >>= textOfBytes with
  | .error fault => .error (.inaccessible path fault)
  | .ok text     =>
    match Suite.ofText? text with
    | some suite => .ok suite
    | none       => .error (.notSuite "not a suite")

/-- The digest of what was read from a path. -/
def digestOfBytes [Digest] (path : String) (read : Except FileFault (List UInt8)) :
    Except Trouble String :=
  match read with
  | .error fault => .error (.inaccessible path fault)
  | .ok bytes    => .ok (Digest.hex (Digest.sha256 bytes))

variable {m : Type → Type} [Monad m] [Host m]

/-- Reads the suites of the given names, and says which files were skipped. -/
def load [Json.Package] [Digest] (console : Console) (directory : String) :
    List String → Session m (List Loaded)
  | []            => pure []
  | name :: names => do
    let path := Path.join directory name
    let read ← Session.onHost (Host.bytesAt path)
    match suiteOfBytes path read, digestOfBytes path read with
    | .ok suite, .ok digest => return ⟨name, digest, suite⟩ :: (← load console directory names)
    | .error trouble, _ | _, .error trouble =>
      Session.say console .warn "Skipping %s: %s" [name, trouble.message]
      load console directory names

/-! ### Verdicts -/

/-- The trials that every suite goes through, one for each policy. -/
def trials : List Trial :=
  [⟨"fixture-verify", "strict"⟩, ⟨"fixture-verify", "lenient"⟩]

/-- The verdicts on suites: all suites in order, first strictly and then leniently. -/
def verdicts (suites : List Suite) : List Verdict :=
  trials.flatMap fun trial => suites.flatMap trial.run

/-- Whether all cases return in the trials that they go through. -/
def returns (suites : List Suite) : Bool :=
  trials.all fun trial => suites.all trial.returns

/-- Runs each trial on each suite, and says how many cases it took. A case that does not return
stops the program. -/
def runTrials (console : Console) (suites : List Suite) : Session m Unit :=
  trials.forM fun trial => suites.forM fun suite =>
    if trial.returns suite then
      Session.say console .debug "%s [%s]: %d cases"
        [suite.family, trial.mode, (trial.run suite).length]
    else throw .stopped

/-- Says which cases did not pass. -/
def sayFailures (console : Console) (tally : Tally) : Session m Unit :=
  tally.failures.forM fun verdict =>
    Session.say console .error "FAIL %s (%s)\n%s"
      [verdict.caseName, verdict.mode, verdict.difference.getD ""]

/-! ### The run log -/

/-- A journal in the making, whose outlet is a text. -/
abbrev Draft := Journal String

/-- Runs a journal's action on a draft. -/
def advance (action : EStateM String Draft α) (draft : Draft) : Draft :=
  match action draft with
  | .ok _ draft | .error _ draft => draft

/-- The entry for a verdict, still without a trace id. -/
def verdictEntry (timestamp : String) (verdict : Verdict) : Entry where
  timestamp
  traceId := ""
  severity := if verdict.passed then .info else .error
  event := "case_result"
  caseName := verdict.caseName
  mode := verdict.mode
  outcome := some (.ofPassed verdict.passed)
  details := some (.object [
    ("actual", .string verdict.actual),
    ("expected", .string verdict.expected),
    ("section", .string verdict.area)])

/-- The time as a text. -/
def timestamp : Session m String :=
  return (← Session.onHost Host.now).text

/-- Adds the entries for verdicts. -/
def logVerdicts [Json.Package] : List Verdict → Draft → Session m Draft
  | [],              draft => pure draft
  | verdict :: rest, draft => do
    let entry := verdictEntry (← timestamp) verdict
    logVerdicts rest (advance (Journal.write entry) draft)

/-- Adds an entry that only names an event. -/
def logEvent [Json.Package] (event : String) (draft : Draft) : Session m Draft :=
  return advance (Journal.emit (← timestamp) .info event) draft

/-! ### The whole run -/

/-- The report on a tally. -/
def report (timestamp : String) (loaded : List Loaded) (tally : Tally) : Report where
  title := "ltd-fmt Conformance Report"
  mode := "strict+lenient"
  timestamp
  digests := loaded.map fun file => (file.name, file.digest)
  tally

/-- Writes a text to a file. -/
def writeText (trouble : FileFault → Trouble) (path text : String) : Session m Unit := do
  Session.demand trouble (← Session.onHost (Host.writeFile path (Utf8.encode text.toList)))

/-- Writes a report as markdown to a path, and as JSON to the path with that extension. -/
def writeReport [Json.Package] (console : Console) (path : String) (r : Report) :
    Session m Unit := do
  Session.say console .info "Writing report to %s" [path]
  writeText .unwritten path r.markdown
  writeText .unwritten (Path.withExtension path "json") r.json

/-- Verifies the suites in a directory. -/
def run [Json.Package] [Digest] (console : Console) (directory : String)
    (reportPath logPath : Option String) : Session m String := do
  logPath.forM fun path => writeText (.inaccessible path) path ""
  Session.say console .info "Verifying against fixtures in %s" [directory]
  let names ← Session.demand (.inaccessible directory)
    (← Session.onHost (Host.namesAt directory))
  let loaded ← load console directory (suiteNames names)
  if loaded.isEmpty then throw (.noSuites directory)
  let suites := loaded.map Loaded.suite
  runTrials console suites
  let tally := Tally.ofVerdicts (verdicts suites)
  let draft ← logEvent "verify_start" { outlet := "", runId := "fixture-verify" }
  let draft ← logVerdicts tally.verdicts draft
  sayFailures console tally
  let r := report (← timestamp) loaded tally
  Session.say console .info "Verification complete: total=%d, passed=%d, failed=%d"
    [tally.total, tally.passed, tally.failed]
  let draft ← logEvent "verify_end" draft
  logPath.forM fun path => writeText .unwritten path draft.outlet
  reportPath.forM fun path => writeReport console path r
  if tally.allPassed then pure "" else throw .notConformant

end TypedFormat.Verification
