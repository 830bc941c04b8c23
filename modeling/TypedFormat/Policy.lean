import TypedFormat.Text.Blank

/-!
# Mismatch policies

What happens to an argument that does not fit the place it was drawn for. The strict policy
fails the call. The lenient one shows the argument's own text instead, and takes a width or a
precision that is not an integer as absent.
-/

namespace TypedFormat

inductive Policy where
  | strict
  | lenient
deriving DecidableEq, Inhabited

namespace Policy

def name : Policy → String
  | .strict  => "strict"
  | .lenient => "lenient"

/-- The policy that a setting names; whatever is not a word for lenient is strict. -/
def ofSetting (setting : String) : Policy :=
  if settingKey setting ∈ ["lenient", "loose", "fallback", "stringify"] then .lenient
  else .strict

/-- The policy of a setting that may be missing. -/
def ofSetting? (setting : Option String) : Policy :=
  setting.elim .strict ofSetting

end Policy

end TypedFormat
