/-!
# Invocations

What a command line asks for: to verify a directory of suites, or to render one template. A package
reads command lines, and answers those that ask for neither.
-/

namespace TypedFormat

inductive Invocation where
  /-- Verify the suites in a directory, with a report and a run log if paths are given. -/
  | verify (suites : String) (report log : Option String)
  /-- Render a template with values. -/
  | render (template : String) (values : List String) (lenient : Bool)
deriving DecidableEq

/-- What a command leaves besides files: its exit code and what it wrote. -/
structure Transcript where
  exitCode : Nat
  stdout : String
  stderr : String
deriving DecidableEq

/-- A package for command lines. -/
class CommandLine where
  /-- What the words of a command line ask for, or what is said and done about them otherwise. -/
  parse : List String → Except Transcript Invocation

end TypedFormat
