import TypedFormat.Conformance.CaseValue

/-!
# Suites of cases

A case gives a template, the values for its arguments, and what rendering them should come to. A
suite is what one file holds: cases for one family of behaviour, as JSON.
-/

namespace TypedFormat

open Json.Package

/-- What a case should come to: a text, or a failure with this word for its sort. -/
inductive Expectation where
  | output (text : String)
  | failure (kind : String)
deriving DecidableEq

/-- A case, which applies to the policy that `mode` names, or to both. -/
structure Case where
  name : String
  area : String
  template : String
  values : List CaseValue
  expectation : Expectation
  mode : String
deriving DecidableEq

structure Suite where
  version : String
  family : String
  capturedAt : String
  cases : List Case
deriving DecidableEq

/-! ### Expectations -/

namespace Expectation

/-- An expectation as one text, in which a failure is marked by a word before its sort. -/
def canonical : Expectation → String
  | .output text  => text
  | .failure kind => "error:" ++ kind

def toJson : Expectation → Json.Value
  | .output text  => .object [("output", .string text)]
  | .failure kind => .object [("error", .string kind)]

def ofTree? [Json.Package] (tree : Json.Tree) : Option Expectation := do
  let (tag, content) ← variant? tree
  match tag with
  | "output" => .output <$> string? content
  | "error"  => .failure <$> string? content
  | _        => none

end Expectation

/-! ### Cases -/

namespace Case

/-- The arguments for the template. -/
def arguments (c : Case) : List Argument :=
  c.values.map CaseValue.argument

def toJson (c : Case) : Json.Value :=
  .object [
    ("name", .string c.name),
    ("section", .string c.area),
    ("template", .string c.template),
    ("args", .ofList CaseValue.toJson c.values),
    ("expected", c.expectation.toJson),
    ("mode", .string c.mode)]

/-- A case has every field but the values, which are none if they are left out. -/
def ofTree? [Json.Package] (tree : Json.Tree) : Option Case := do
  match ← fields? ["name", "section", "template", "args", "expected", "mode"] tree with
  | [some name, some area, some template, values, some expectation, some mode] =>
    let values ← values.elim (some []) (list? CaseValue.ofTree?)
    some {
      name := ← string? name
      area := ← string? area
      template := ← string? template
      values
      expectation := ← Expectation.ofTree? expectation
      mode := ← string? mode }
  | _ => none

end Case

/-! ### Suites -/

namespace Suite

def toJson (s : Suite) : Json.Value :=
  .object [
    ("version", .string s.version),
    ("family", .string s.family),
    ("captured_at", .string s.capturedAt),
    ("cases", .ofList Case.toJson s.cases)]

variable [Json.Package]

def ofTree? (tree : Json.Tree) : Option Suite := do
  match ← fields? ["version", "family", "captured_at", "cases"] tree with
  | [some version, some family, some capturedAt, some cases] =>
    some {
      version := ← string? version
      family := ← string? family
      capturedAt := ← string? capturedAt
      cases := ← list? Case.ofTree? cases }
  | _ => none

/-- The text of a suite's file. -/
def text (s : Suite) : String :=
  pretty s.toJson

/-- Reads the text of a suite's file. -/
def ofText? (text : String) : Option Suite :=
  (tree? text).bind ofTree?

end Suite

end TypedFormat
