import TypedFormat.Outlet
import TypedFormat.Severity

/-!
# Consoles

A console writes messages as lines, each headed by its severity. Messages more verbose than the
threshold are not even rendered.
-/

namespace TypedFormat

structure Console where
  threshold : Severity := .info
  policy : Policy := .strict
deriving DecidableEq

namespace Console

/-- The console that two settings describe. Without a word for a severity the threshold is
info. -/
def ofSettings (threshold mismatch : Option String) : Console where
  threshold := (threshold.bind Severity.ofSetting?).getD .info
  policy := .ofSetting? mismatch

/-- Whether messages of a severity are written. -/
def admits (console : Console) (severity : Severity) : Bool :=
  severity.verbosity ≤ console.threshold.verbosity

/-- A rendered message as a line. -/
def line (severity : Severity) (message : List Char) : List Char :=
  '[' :: (severity.label.toList ++ [']', ' '] ++ message ++ ['\n'])

/-- Writes a message, and says whether it was one to be written. -/
def log [Outlet σ] (console : Console) (severity : Severity) (template : String)
    (arguments : List Argument) : Delivery σ Bool :=
  if console.admits severity then do
    deliverResult ((formatChars console.policy template.toList arguments).map (line severity))
    pure true
  else pure false

end Console

end TypedFormat
