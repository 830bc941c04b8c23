/-!
# Digests

A report gives the digest of every file it was made from, in hexadecimal. The digests are made by a
package.
-/

namespace TypedFormat

/-- A package for digests. -/
class Digest where
  /-- The SHA-256 digest of a message. -/
  sha256 : List UInt8 → List UInt8

/-- Bytes in hexadecimal, two digits each. -/
def Digest.hex (bytes : List UInt8) : String :=
  String.ofList <| bytes.flatMap fun b =>
    [Nat.digitChar (b.toNat / 16), Nat.digitChar (b.toNat % 16)]

end TypedFormat
