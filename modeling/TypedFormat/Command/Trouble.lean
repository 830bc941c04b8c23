import TypedFormat.Failure
import TypedFormat.Files.Fault

/-!
# Troubles

Why the program could not do what it was asked to. A trouble has a message, and a form that
shows its parts, in which the program names the trouble that ended it.
-/

namespace TypedFormat

inductive Trouble where
  /-- A file or a directory could not be used. -/
  | inaccessible (path : String) (fault : FileFault)
  /-- A file does not hold a suite. -/
  | notSuite (reason : String)
  /-- A value on the command line does not fit its tag. -/
  | badValue (written reason : String)
  /-- No file of a directory holds a suite. -/
  | noSuites (path : String)
  /-- A template could not be rendered. -/
  | format (failure : Failure)
  /-- A document could not be written. -/
  | unwritten (fault : FileFault)
  /-- Some case did not pass. -/
  | notConformant
  /-- A number has more places than can be written, which stops the program where it stands. -/
  | stopped
deriving DecidableEq

/-! ### Forms that show parts -/

/-- A text in quotes. -/
def inspectText (s : String) : String :=
  String.ofList (Quoted.text s.toList)

def FileFault.inspect : FileFault → String
  | .refused code kind message =>
    "Os \x7b code: " ++ code.repr ++ ", kind: " ++ kind ++ ", message: " ++ inspectText message
      ++ " \x7d"
  | .notText                   =>
    "Error \x7b kind: InvalidData, message: " ++ inspectText FileFault.notText.message
      ++ " \x7d"
  | .notPath                   =>
    "Error \x7b kind: InvalidInput, message: " ++ inspectText FileFault.notPath.message
      ++ " \x7d"
  | .other reason              => "Custom \x7b kind: Other, error: " ++ inspectText reason ++ " \x7d"

def Conversion.inspect : Conversion → String
  | .string    => "String"
  | .signed    => "SignedInt"
  | .float     => "Float"
  | .hexLower  => "HexLower"
  | .hexUpper  => "HexUpper"
  | .octal     => "Octal"
  | .character => "Char"
  | .percent   => "PercentLiteral"

def Role.inspect : Role → String
  | .width            => "Width"
  | .precision        => "Precision"
  | .value conversion => "Value(" ++ conversion.inspect ++ ")"

def Argument.Kind.inspect : Argument.Kind → String
  | .integer   => "Integer"
  | .float     => "Float"
  | .text      => "Text"
  | .character => "Char"
  | .boolean   => "Boolean"
  | .raw       => "Raw"

/-- A character in quotes, or that there is none. -/
def inspectFound : Option Char → String
  | some c => "Some(" ++ String.ofList (Quoted.char c) ++ ")"
  | none   => "None"

def Failure.inspect : Failure → String
  | .malformed offset found =>
    "MalformedDirective \x7b offset: " ++ offset.repr ++ ", found: " ++ inspectFound found
      ++ " \x7d"
  | .underflow offset index =>
    "ArgumentUnderflow \x7b offset: " ++ offset.repr ++ ", index: " ++ index.repr ++ " \x7d"
  | .mismatch offset index expected found =>
    "ArgumentTypeMismatch \x7b offset: " ++ offset.repr ++ ", index: " ++ index.repr
      ++ ", expected: " ++ expected.inspect ++ ", found: " ++ found.inspect ++ " \x7d"
  | .tooLarge offset role requested =>
    "FieldTooLarge \x7b offset: " ++ offset.repr ++ ", slot: " ++ role.inspect ++ ", requested: "
      ++ requested.repr ++ " \x7d"
  | .undelivered reason => "Sink(" ++ (FileFault.other reason).inspect ++ ")"

namespace Trouble

/-- A sentence for the reader of a message. -/
def message : Trouble → String
  | .inaccessible path fault  => "failed to access " ++ path ++ ": " ++ fault.message
  | .notSuite reason          => "invalid fixture JSON: " ++ reason
  | .badValue written reason  => "invalid argument " ++ inspectText written ++ ": " ++ reason
  | .noSuites path            => "no fixture JSON files found in " ++ path
  | .format failure           => failure.message
  | .unwritten fault          => fault.message
  | .notConformant            => "Conformance verification failed"
  | .stopped                  => "Formatting argument out of range"

/-- The trouble with its parts. -/
def inspect : Trouble → String
  | .inaccessible path fault =>
    "Io \x7b path: " ++ inspectText path ++ ", source: " ++ fault.inspect ++ " \x7d"
  | .notSuite reason         => "Json(Error(" ++ inspectText reason ++ "))"
  | .badValue written reason =>
    "Argument \x7b input: " ++ inspectText written ++ ", reason: " ++ inspectText reason ++ " \x7d"
  | .noSuites path           => "NoFixtures(" ++ inspectText path ++ ")"
  | .format failure          => failure.inspect
  | .unwritten fault         => fault.inspect
  | .notConformant           => inspectText notConformant.message
  | .stopped                 => stopped.message

/-- The exit code of a program that ends in trouble. -/
def exitCode : Trouble → Nat
  | .stopped => 101
  | _        => 1

/-- What a program that ends in trouble writes last. -/
def notice : Trouble → String
  | .stopped => "panicked: " ++ stopped.message ++ "\n"
  | trouble  => "Error: " ++ trouble.inspect ++ "\n"

end Trouble

end TypedFormat
