import TypedFormat.Conformance.Verdict

/-!
# Reports

A report gives a tally with the files it was made from. It is written twice: as markdown for
readers, with a table of all verdicts and a part for each failure, and as JSON.
-/

namespace TypedFormat

structure Report where
  title : String
  mode : String
  timestamp : String
  /-- The name and the digest of every file that was read. -/
  digests : List (String × String)
  tally : Tally
deriving DecidableEq

namespace Report

/-! ### Markdown -/

/-- A labelled item of a list. -/
def item (label value : String) : String :=
  "- " ++ label ++ ": " ++ value ++ "\n"

/-- What was tried and how it came out. -/
def summary (r : Report) : String :=
  "# " ++ r.title ++ "\n\n" ++ item "Mode" r.mode ++ item "Timestamp" r.timestamp
    ++ item "Total" r.tally.total.repr ++ item "Passed" r.tally.passed.repr
    ++ item "Failed" r.tally.failed.repr ++ "\n"

/-- The row of a file. -/
def digestRow (entry : String × String) : String :=
  "| " ++ entry.1 ++ " | \x60" ++ entry.2 ++ "\x60 |\n"

/-- The table of files, if there are any. -/
def digestTable (r : Report) : String :=
  if r.digests.isEmpty then ""
  else
    "| Fixture | SHA-256 |\n|---------|---------|\n"
      ++ String.join (r.digests.map digestRow) ++ "\n"

/-- The row of a verdict. -/
def verdictRow (v : Verdict) : String :=
  "| " ++ v.caseName ++ " | " ++ v.area ++ " | " ++ v.mode ++ " | "
    ++ (if v.passed then "PASS" else "FAIL") ++ " |\n"

/-- The table of verdicts. -/
def verdictTable (r : Report) : String :=
  "| Case | Section | Mode | Status |\n|------|---------|------|--------|\n"
    ++ String.join (r.tally.verdicts.map verdictRow)

/-- What stands before and after a difference. -/
def fence : String :=
  "\x60\x60\x60"

/-- The part for a failure, with its difference between fences. -/
def failurePart (v : Verdict) : String :=
  "\n### " ++ v.caseName ++ " (" ++ v.mode ++ ")\n\n" ++ fence ++ "\n"
    ++ v.difference.getD "" ++ fence ++ "\n"

/-- The parts for all failures, if there are any. -/
def failureParts (r : Report) : String :=
  let failures := r.tally.failures
  if failures.isEmpty then ""
  else "\n## Failures\n" ++ String.join (failures.map failurePart)

/-- The report for readers. -/
def markdown (r : Report) : String :=
  r.summary ++ r.digestTable ++ r.verdictTable ++ r.failureParts

/-! ### JSON -/

/-- A file's name and digest as a pair. -/
def digestJson (entry : String × String) : Json.Value :=
  .array [.string entry.1, .string entry.2]

def toJson (r : Report) : Json.Value :=
  .object [
    ("title", .string r.title),
    ("mode", .string r.mode),
    ("timestamp", .string r.timestamp),
    ("fixture_digests", .ofList digestJson r.digests),
    ("summary", r.tally.toJson)]

section

open Json.Package

variable [Json.Package]

/-- A report has every field but the digests, which are none if they are left out. -/
def ofTree? (tree : Json.Tree) : Option Report := do
  match ← fields? ["title", "mode", "timestamp", "fixture_digests", "summary"] tree with
  | [some title, some mode, some timestamp, digests, some tally] =>
    some {
      title := ← string? title
      mode := ← string? mode
      timestamp := ← string? timestamp
      digests := ← digests.elim (some []) (list? (pair? string? string?))
      tally := ← Tally.ofTree? tally }
  | _ => none

/-- The report as JSON. -/
def json (r : Report) : String :=
  pretty r.toJson

/-- Reads a report from JSON. -/
def ofText? (text : String) : Option Report :=
  (tree? text).bind ofTree?

end

end Report

end TypedFormat
