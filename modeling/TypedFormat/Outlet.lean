import TypedFormat.Format

/-!
# Outlets

Places where texts are delivered. A call renders its whole text first, so that an outlet never
sees part of a rendering that failed. An outlet itself may refuse a text: a `Store` holds a
limited number of bytes, and keeps as many of a text it refuses as it had room for.
-/

namespace TypedFormat

/-- A place for texts. A delivery that fails gives the reason. -/
class Outlet (σ : Type) where
  deliver : List Char → EStateM String σ Unit

/-- A text takes everything, at its end. -/
instance : Outlet String where
  deliver text := fun written => .ok () (written ++ String.ofList text)

/-! ### Stores -/

/-- Bytes up to a capacity. When it is full, a store fails with `reason`, or it stalls: it takes
writes in and does not go on with them. -/
structure Store where
  bytes : List UInt8 := []
  capacity : Option Nat := none
  reason : String := "closed"
  stalls : Bool := false
  flushes : Nat := 0

namespace Store

/-- The number of bytes that still fit, where there is a limit. -/
def room (store : Store) : Option Nat :=
  store.capacity.map (· - store.bytes.length)

def isFull (store : Store) : Bool :=
  store.room == some 0

/-- Why a write to a full store fails. -/
def refusal (store : Store) : String :=
  if store.stalls then "failed to write whole buffer" else store.reason

/-- Puts bytes at the end, as many as fit. -/
def write (bytes : List UInt8) : EStateM String Store Unit := fun store =>
  match store.room with
  | none      => .ok () { store with bytes := store.bytes ++ bytes }
  | some room =>
    if bytes.length ≤ room then .ok () { store with bytes := store.bytes ++ bytes }
    else .error store.refusal { store with bytes := store.bytes ++ bytes.take room }

/-- Passes on what was written, which a full store cannot do. -/
def flush : EStateM String Store Unit := fun store =>
  let store := { store with flushes := store.flushes + 1 }
  if store.isFull then .error store.reason store else .ok () store

/-- The text that was stored, with a replacement character wherever it is not UTF-8. -/
def text (store : Store) : String :=
  String.ofList (Utf8.lossy store.bytes)

end Store

instance : Outlet Store where
  deliver text := Store.write (Utf8.encode text)

/-! ### Formatting into outlets -/

/-- A computation on an outlet that can fail as a format call. -/
abbrev Delivery (σ : Type) := EStateM Failure σ

/-- Delivers a text as it is. -/
def deliverText [Outlet σ] (text : List Char) : Delivery σ Unit :=
  EStateM.adaptExcept Failure.undelivered (Outlet.deliver text)

/-- Delivers what a call gives, or fails as it does. -/
def deliverResult [Outlet σ] : Except Failure (List Char) → Delivery σ Unit
  | .ok text       => deliverText text
  | .error failure => throw failure

/-- Formats into an outlet. -/
def formatTo [Outlet σ] (template : String) (arguments : List Argument)
    (policy : Policy := .strict) : Delivery σ Unit :=
  deliverResult (formatChars policy template.toList arguments)

/-- Formats into an outlet and ends the line. -/
def formatLineTo [Outlet σ] (template : String) (arguments : List Argument)
    (policy : Policy := .strict) : Delivery σ Unit :=
  deliverResult ((formatChars policy template.toList arguments).map (· ++ ['\n']))

/-! ### Requests -/

/-- Something to deliver: a text as it is, or what a format call gives, by itself or as a line. -/
inductive Request where
  | plain (text : String)
  | formatted (template : String) (arguments : List Argument) (policy : Policy)
  | line (template : String) (arguments : List Argument) (policy : Policy)

/-- Delivers what is asked for. -/
def Request.deliver [Outlet σ] : Request → Delivery σ Unit
  | .plain text                          => deliverText text.toList
  | .formatted template arguments policy => formatTo template arguments policy
  | .line template arguments policy      => formatLineTo template arguments policy

namespace Store

/-- Formats into a store and flushes it. -/
def print (template : String) (arguments : List Argument) : Delivery Store Unit := do
  formatTo template arguments
  EStateM.adaptExcept Failure.undelivered flush

/-- Formats a line into a store and flushes it. -/
def printLine (template : String) (arguments : List Argument) : Delivery Store Unit := do
  formatLineTo template arguments
  EStateM.adaptExcept Failure.undelivered flush

end Store

end TypedFormat
