import TypedFormat.Command.Invocation

/-!
# Words of a command line

A package for command lines. Each option of verify is given once at most, with its value in the next
word or after an equals sign.
-/

namespace TypedFormat

namespace Invocation

/-- Whether a word can be a value where an option could stand. -/
def isPlain (word : String) : Bool :=
  word == "-" || word.toList.head? != some '-'

/-! ### Verify -/

/-- The options of verify, of which each can be given once. -/
structure VerifyOptions where
  suites : Option String := none
  report : Option String := none
  log : Option String := none

/-- Fills an option that is still empty with a value that is not. -/
def fill (value : String) : Option String → Option (Option String)
  | none   => if value.isEmpty then none else some (some value)
  | some _ => none

/-- Sets the option of a given name. -/
def VerifyOptions.set (options : VerifyOptions) (name value : String) : Option VerifyOptions :=
  match name with
  | "--fixture" => (fill value options.suites).map fun suites => { options with suites }
  | "--report"  => (fill value options.report).map fun report => { options with report }
  | "--log"     => (fill value options.log).map fun log => { options with log }
  | _           => none

/-- Reads options, each with its value in the next word or after an equals sign. -/
def verifyOptions (options : VerifyOptions) : List String → Option VerifyOptions
  | []                     => some options
  | ["--"]                 => some options
  | word :: rest           =>
    let text := word.toList
    if '=' ∈ text then
      let name := String.ofList (text.takeWhile (· ≠ '='))
      let value := String.ofList ((text.dropWhile (· ≠ '=')).drop 1)
      (options.set name value).bind (verifyOptions · rest)
    else
      match rest with
      | value :: rest =>
        if isPlain value then (options.set word value).bind (verifyOptions · rest) else none
      | []            => none

/-! ### Render -/

/-- Sorts the words of render into the flag and the positional words, which all words after
`--` are. -/
def renderWords (positional : List String) (lenient : Bool) :
    List String → Option (List String × Bool)
  | []           => some (positional, lenient)
  | word :: rest =>
    if word = "--" then some (positional ++ rest, lenient)
    else if word = "--lenient" then
      if lenient then none else renderWords positional true rest
    else if isPlain word then renderWords (positional ++ [word]) lenient rest
    else none

/-! ### Command lines -/

/-- What a command line asks for, if it is understood. -/
def ofWords : List String → Option Invocation
  | "verify" :: rest => do
    let options ← verifyOptions {} rest
    some (.verify (← options.suites) options.report options.log)
  | "render" :: rest => do
    match ← renderWords [] false rest with
    | (template :: values, lenient) => some (.render template values lenient)
    | ([], _)                       => none
  | _                => none

/-- What is written to the error output where a command line is not understood. -/
def usage : String :=
  "usage: verify --fixture DIR [--report PATH] [--log PATH]\n"
    ++ "       render [--lenient] TEMPLATE [VALUE]...\n"

end Invocation

namespace Standard

scoped instance : CommandLine where
  parse words :=
    match Invocation.ofWords words with
    | some invocation => .ok invocation
    | none            => .error ⟨2, "", Invocation.usage⟩

end Standard

end TypedFormat
