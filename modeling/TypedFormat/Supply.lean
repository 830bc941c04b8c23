import TypedFormat.Failure
import TypedFormat.Layout
import TypedFormat.Policy

/-!
# Drawing arguments

Arguments are drawn from left to right, each once. A directive draws its `*` width, then its
`.*` precision, then its value; what it has drawn stays drawn also when it then fails.
-/

namespace TypedFormat

/-- The arguments that are left, and the number of those that were drawn before them. -/
structure Supply where
  position : Nat
  remaining : List Argument

/-- An argument and its index. -/
structure Drawn where
  index : Nat
  argument : Argument
deriving DecidableEq

/-- A directive's layout, and the value it shows: none for the conversion `%`. -/
structure Settled where
  layout : Layout
  value : Option Drawn
deriving DecidableEq

/-- A computation that draws arguments. A failure keeps the supply as it then is. -/
abbrev Drawing := EStateM Failure Supply

namespace Supply

def ofList (arguments : List Argument) : Supply :=
  ⟨0, arguments⟩

/-- Draws the next argument for the directive at `offset`. -/
def next (offset : Nat) : Drawing Drawn := fun supply =>
  match supply.remaining with
  | []               => .error (.underflow offset supply.position) supply
  | argument :: rest => .ok ⟨supply.position, argument⟩ ⟨supply.position + 1, rest⟩

end Supply

/-! ### Settling

The steps of settling a directive are stated for any computation that can fail and that has a way to
draw the `next` argument. -/

section

variable {m : Type → Type} [Monad m] [MonadExceptOf Failure m]

/-- Accepts a size up to the limit. -/
def Size.accept (offset : Nat) (role : Role) (n : Nat) : m Nat :=
  if n ≤ fieldLimit then pure n else throw (.tooLarge offset role n)

/-- The size that is written in the directive itself. -/
def Size.written (offset : Nat) (role : Role) : Size → m (Option Nat)
  | .literal n              => some <$> accept offset role n
  | .absent | .fromArgument => pure none

/-- The integer that a `*` draws. An argument of another kind is a mismatch, or leniently drawn
and then passed over. -/
def Size.drawnBy (next : m Drawn) (policy : Policy) (offset : Nat) (role : Role) :
    Size → m (Option Int)
  | .fromArgument => do
    let drawn ← next
    match drawn.argument, policy with
    | .integer v, _        => pure (some v)
    | _,          .lenient => pure none
    | argument,   .strict  => throw (.mismatch offset drawn.index role argument.kind)
  | .absent | .literal _ => pure none

/-- Puts a drawn width into a layout. A negative one adjusts to the left. -/
def Layout.withWidth (offset : Nat) (layout : Layout) : Option Int → m Layout
  | none   => pure layout
  | some v => do
    let width ← Size.accept offset .width v.natAbs
    let adjustLeft := layout.flags.adjustLeft || decide (v < 0)
    pure { layout with width, flags := { layout.flags with adjustLeft } }

/-- Puts a drawn precision into a layout. A negative one counts as absent. -/
def Layout.withPrecision (offset : Nat) (layout : Layout) : Option Int → m Layout
  | none   => pure layout
  | some v =>
    if v < 0 then pure layout
    else do
      let precision ← Size.accept offset .precision v.natAbs
      pure { layout with precision := some precision }

/-- Settles a directive: checks the sizes written in it, then draws its width, its precision and
its value. -/
def Directive.settleBy (next : m Drawn) (policy : Policy) (offset : Nat) (d : Directive) :
    m Settled := do
  let width ← d.width.written offset .width
  let precision ← d.precision.written offset .precision
  let layout : Layout := ⟨d.flags, width.getD 0, precision, d.conversion⟩
  let layout ← layout.withWidth offset (← d.width.drawnBy next policy offset .width)
  let layout ← layout.withPrecision offset (← d.precision.drawnBy next policy offset .precision)
  if d.conversion.takesValue then
    let value ← next
    pure ⟨layout, some value⟩
  else
    pure ⟨layout, none⟩

end

/-- The integer that a `*` draws from the supply. -/
def Size.drawn (policy : Policy) (offset : Nat) (role : Role) (size : Size) :
    Drawing (Option Int) :=
  size.drawnBy (Supply.next offset) policy offset role

/-- Settles a directive with what it draws from the supply. -/
def Directive.settle (policy : Policy) (offset : Nat) (d : Directive) : Drawing Settled :=
  d.settleBy (Supply.next offset) policy offset

end TypedFormat
