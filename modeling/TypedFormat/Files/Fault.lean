/-!
# File faults

Why a file or a directory could not be used.
-/

namespace TypedFormat

inductive FileFault where
  /-- The system refused, with a number, a word and a sentence. -/
  | refused (code : Nat) (kind message : String)
  /-- The bytes of a file are not UTF-8. -/
  | notText
  /-- A path has a NUL in it, with which the system cannot be asked. -/
  | notPath
  | other (reason : String)
deriving DecidableEq

namespace FileFault

def notFound : FileFault :=
  .refused 2 "NotFound" "No such file or directory"

def notDirectory : FileFault :=
  .refused 20 "NotADirectory" "Not a directory"

def isDirectory : FileFault :=
  .refused 21 "IsADirectory" "Is a directory"

/-- A name or a whole path is longer than the system takes. -/
def nameTooLong : FileFault :=
  .refused 36 "InvalidFilename" "File name too long"

/-- A sentence for the reader of a message. -/
def message : FileFault → String
  | .refused code _ message => message ++ " (os error " ++ code.repr ++ ")"
  | .notText                => "stream did not contain valid UTF-8"
  | .notPath                => "file name contained an unexpected NUL byte"
  | .other reason           => reason

end FileFault

end TypedFormat
