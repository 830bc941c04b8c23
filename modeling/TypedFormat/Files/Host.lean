import TypedFormat.Calendar
import TypedFormat.Files.FileTree

/-!
# Hosts

What a program needs of the machine it runs on: files, directories and the time. A `Machine` is
a host by itself, with a tree of files and a clock that stands still.
-/

namespace TypedFormat

class Host (m : Type → Type) where
  /-- The names in a directory. -/
  namesAt : String → m (Except FileFault (List String))
  /-- The bytes of a file. -/
  bytesAt : String → m (Except FileFault (List UInt8))
  /-- Makes a file, or replaces what it held. -/
  writeFile : String → List UInt8 → m (Except FileFault Unit)
  now : m Moment

structure Machine where
  files : FileTree := {}
  clock : Moment := default

instance : Host (StateM Machine) where
  namesAt path := return (← get).files.namesAt path
  bytesAt path := return (← get).files.bytesAt path
  writeFile path bytes := do
    match (← get).files.writeFile path bytes with
    | .ok files    => modify fun machine => { machine with files }; pure (.ok ())
    | .error fault => pure (.error fault)
  now := return (← get).clock

end TypedFormat
