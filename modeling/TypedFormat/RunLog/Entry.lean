import TypedFormat.Json.Package
import TypedFormat.Severity

/-!
# Entries of a run log

A run log is a text of one JSON object a line. An entry always has a timestamp, a trace id, a
severity and an event, and may name a case, a mode and an outcome and give details of any kind.
`Entry.check` reads a line and lists what is wrong with it.
-/

namespace TypedFormat.RunLog

open TypedFormat.Json Package

/-- What became of a case. -/
inductive Outcome where
  | pass
  | fail
  | skip
deriving DecidableEq

namespace Outcome

def name : Outcome → String
  | .pass => "pass"
  | .fail => "fail"
  | .skip => "skip"

/-- The outcome with a given name. -/
def ofName? (name : String) : Option Outcome :=
  [pass, fail, skip].find? (·.name == name)

def ofPassed (passed : Bool) : Outcome :=
  if passed then .pass else .fail

end Outcome

structure Entry where
  timestamp : String
  traceId : String
  severity : Severity
  event : String
  caseName : Option String := none
  mode : Option String := none
  outcome : Option Outcome := none
  details : Option Value := none

namespace Entry

/-! ### Writing -/

/-- A field that is left out if it has no value. -/
def optionalField (key : String) (toValue : α → Value) : Option α → List (String × Value)
  | none   => []
  | some a => [(key, toValue a)]

def toJson (e : Entry) : Value :=
  .object <| [
    ("timestamp", .string e.timestamp),
    ("trace_id", .string e.traceId),
    ("level", .string e.severity.name),
    ("event", .string e.event)]
    ++ optionalField "case" .string e.caseName
    ++ optionalField "mode" .string e.mode
    ++ optionalField "outcome" (fun o => .string o.name) e.outcome
    ++ optionalField "details" id e.details

/-- The line of an entry, without its newline. -/
def line [Package] (e : Entry) : String :=
  compact e.toJson

/-! ### Reading -/

section

variable [Package] (tree : Tree)

/-- A severity or an outcome, by its name. -/
def named? (ofName? : String → Option α) : Option α :=
  (constant? tree).bind ofName?

/-- An entry has the first four fields; the others are none if they are left out or null. -/
def ofTree? : Option Entry := do
  match ← fields? ["timestamp", "trace_id", "level", "event", "case", "mode", "outcome", "details"]
    tree with
  | [some timestamp, some traceId, some severity, some event, caseName, mode, outcome, details] =>
    some {
      timestamp := ← string? timestamp
      traceId := ← string? traceId
      severity := ← named? severity Severity.ofName?
      event := ← string? event
      caseName := ← optionalField? string? caseName
      mode := ← optionalField? string? mode
      outcome := ← optionalField? (named? · Outcome.ofName?) outcome
      details := ← optionalField? value? details }
  | _ => none

end

/-! ### Checking -/

/-- What is wrong with a line. -/
inductive Complaint where
  /-- It is not JSON. -/
  | notJson
  /-- It is not an object. -/
  | notObject
  /-- A field is missing. -/
  | missing (field : String)
  /-- A field is a string that is none of those it may be. -/
  | invalid (field value : String)
  /-- A field is of the wrong kind. -/
  | unfit
deriving DecidableEq

namespace Complaint

/-- The field that a complaint is about. -/
def field : Complaint → String
  | .notJson         => "<json>"
  | .notObject       => "<root>"
  | .missing field   => field
  | .invalid field _ => field
  | .unfit           => "<schema>"

def reason : Complaint → String
  | .notJson             => "invalid JSON"
  | .notObject           => "expected JSON object"
  | .missing _           => "required field missing"
  | .invalid field value => "invalid " ++ field ++ ": '" ++ value ++ "'"
  | .unfit               => "a field is not of its kind"

/-- A complaint about a line with a given number. -/
def message (line : Nat) (c : Complaint) : String :=
  "line " ++ line.repr ++ ": field '" ++ c.field ++ "': " ++ c.reason

end Complaint

/-- The fields that an entry must have. -/
def requiredFields : List String :=
  ["timestamp", "trace_id", "level", "event"]

/-- The fields whose strings are limited, with what they may be. -/
def limitedFields : List (String × List String) := [
  ("level", ["trace", "debug", "info", "warn", "error", "fatal"]),
  ("mode", ["strict", "lenient"]),
  ("outcome", ["pass", "fail", "skip"])]

/-- The member of an object with a given key. -/
def member? (key : String) (members : List (String × Value)) : Option Value :=
  members.lookup key

/-- The complaint about a limited field, if its value is a string that it may not be. -/
def complaint? (members : List (String × Value)) (field : String × List String) :
    Option Complaint :=
  match member? field.1 members with
  | some (.string s) => if s ∈ field.2 then none else some (.invalid field.1 s)
  | _                => none

/-- The complaints about the members of an object: the missing fields come before those with
strings that they may not be. -/
def complaints (members : List (String × Value)) : List Complaint :=
  (requiredFields.filter fun field => (member? field members).isNone).map .missing
    ++ limitedFields.filterMap (complaint? members)

/-- Reads a line as an entry, or lists what is wrong with it. The line is read as a value of any
kind, and the entry from that value. -/
def check [Package] (line : String) : Except (List Complaint) Entry :=
  match (tree? line).bind value? with
  | none                   => .error [.notJson]
  | some (.object members) =>
    match complaints members with
    | []     => ((ofTree? (Value.object members).tree).map .ok).getD (.error [.unfit])
    | listed => .error listed
  | some _                 => .error [.notObject]

end Entry

end TypedFormat.RunLog
