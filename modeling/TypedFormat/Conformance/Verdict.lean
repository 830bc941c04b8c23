import TypedFormat.Conformance.Difference
import TypedFormat.Conformance.Suite
import TypedFormat.Format

/-!
# Verdicts

A case is judged under a policy by rendering it and comparing what that comes to with what was
expected. A trial judges the cases of a suite that apply to its mode, and a tally counts
verdicts.
-/

namespace TypedFormat

/-- What became of a case under one policy. A case that did not pass has the difference. -/
structure Verdict where
  caseName : String
  area : String
  mode : String
  passed : Bool
  expected : String
  actual : String
  difference : Option String
deriving DecidableEq

/-- The difference between two texts. -/
def differenceText (expected actual : String) : String :=
  String.ofList (Difference.between expected.toList actual.toList)

/-! ### Judging -/

/-- What rendering a case comes to, in the canonical form of expectations. -/
def Case.outcome (policy : Policy) (c : Case) : Expectation :=
  match format c.template c.arguments policy with
  | .ok text       => .output text
  | .error failure => .failure failure.kind

/-- Whether rendering a case returns. -/
def Case.returns (policy : Policy) (c : Case) : Bool :=
  formatReturns c.template c.arguments policy

/-- Judges a case under a policy. -/
def Case.judge (policy : Policy) (c : Case) : Verdict :=
  let expected := c.expectation.canonical
  let actual := (c.outcome policy).canonical
  let passed : Bool := actual = expected
  { caseName := c.name
    area := c.area
    mode := policy.name
    passed
    expected
    actual
    difference := if passed then none else some (differenceText expected actual) }

/-- A run over suites in one mode, for a campaign of some name. -/
structure Trial where
  campaign : String
  mode : String
deriving DecidableEq

namespace Trial

/-- The policy under which cases are rendered. -/
def policy (t : Trial) : Policy :=
  .ofSetting t.mode

/-- Whether a case applies to the trial's mode, without regard to the case of ASCII letters. -/
def takes (t : Trial) (c : Case) : Bool :=
  let mode := lowerAscii c.mode.toList
  mode == lowerAscii t.mode.toList || mode == "both".toList

/-- Whether all cases that apply return. -/
def returns (t : Trial) (s : Suite) : Bool :=
  (s.cases.filter t.takes).all (Case.returns t.policy)

/-- The verdicts on the cases that apply, in their order. -/
def run (t : Trial) (s : Suite) : List Verdict :=
  (s.cases.filter t.takes).map (Case.judge t.policy)

end Trial

/-! ### Verdicts as JSON -/

open Json.Package

namespace Verdict

def toJson (v : Verdict) : Json.Value :=
  .object [
    ("case_name", .string v.caseName),
    ("section", .string v.area),
    ("mode", .string v.mode),
    ("passed", .boolean v.passed),
    ("expected", .string v.expected),
    ("actual", .string v.actual),
    ("diff", .ofOption .string v.difference)]

/-- A verdict has every field but the difference, which is none if it is left out or null. -/
def ofTree? [Json.Package] (tree : Json.Tree) : Option Verdict := do
  match ← fields? ["case_name", "section", "mode", "passed", "expected", "actual", "diff"] tree with
  | [some caseName, some area, some mode, some passed, some expected, some actual,
      difference] =>
    some {
      caseName := ← string? caseName
      area := ← string? area
      mode := ← string? mode
      passed := ← boolean? passed
      expected := ← string? expected
      actual := ← string? actual
      difference := ← Json.optionalField? string? difference }
  | _ => none

end Verdict

/-! ### Tallies -/

/-- Verdicts with their counts. -/
structure Tally where
  total : Nat
  passed : Nat
  failed : Nat
  verdicts : List Verdict
deriving DecidableEq

namespace Tally

/-- Counts verdicts. -/
def ofVerdicts (verdicts : List Verdict) : Tally :=
  let passed := verdicts.countP Verdict.passed
  ⟨verdicts.length, passed, verdicts.length - passed, verdicts⟩

def allPassed (t : Tally) : Bool :=
  t.failed == 0

/-- The verdicts on cases that did not pass. -/
def failures (t : Tally) : List Verdict :=
  t.verdicts.filter (!·.passed)

def toJson (t : Tally) : Json.Value :=
  .object [
    ("total", .integer t.total),
    ("passed", .integer t.passed),
    ("failed", .integer t.failed),
    ("results", .ofList Verdict.toJson t.verdicts)]

section

variable [Json.Package]

/-- A count that fits 64 bits. -/
def count? (tree : Json.Tree) : Option Nat :=
  Int.toNat <$> integer? 0 (UInt64.size - 1 : Nat) tree

/-- The counts of a tally are taken as they are given. -/
def ofTree? (tree : Json.Tree) : Option Tally := do
  match ← fields? ["total", "passed", "failed", "results"] tree with
  | [some total, some passed, some failed, some verdicts] =>
    some {
      total := ← count? total
      passed := ← count? passed
      failed := ← count? failed
      verdicts := ← list? Verdict.ofTree? verdicts }
  | _ => none

end

end Tally

end TypedFormat
