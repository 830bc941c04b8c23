/-!
# UTF-8

The bytes of a text, and the text of bytes. `Utf8.encode` writes characters as bytes and
`Utf8.size` counts them; offsets into a template are such counts. Decoding is a fold over the
bytes that never fails: where no character can be read it notes a gap, one for each longest run
of bytes that could have begun a character.
-/

namespace TypedFormat.Utf8

/-! ### Writing -/

/-- The bytes that write a text. -/
def encode (text : List Char) : List UInt8 :=
  text.flatMap String.utf8EncodeChar

/-- The number of bytes that write a text. -/
def size (text : List Char) : Nat :=
  text.foldr (fun c n => c.utf8Size + n) 0

@[simp] theorem size_nil : size [] = 0 := rfl

@[simp] theorem size_cons (c : Char) (text : List Char) :
    size (c :: text) = c.utf8Size + size text := rfl

@[simp] theorem size_append (s t : List Char) : size (s ++ t) = size s + size t := by
  induction s with
  | nil => simp
  | cons c s ih => simp only [List.cons_append, size_cons, ih]; omega

theorem size_ofList (text : List Char) : size text = (String.ofList text).utf8ByteSize := by
  induction text with
  | nil => rfl
  | cons c text ih =>
    have hsplit : String.ofList (c :: text) = String.singleton c ++ String.ofList text := by
      rw [String.singleton_eq_ofList, ← String.ofList_append]
      rfl
    rw [hsplit, String.utf8ByteSize_append, String.utf8ByteSize_singleton, size_cons, ih]

/-- The size of a text is that of the string with its characters. -/
theorem size_toList (s : String) : size s.toList = s.utf8ByteSize := by
  rw [size_ofList, String.ofList_toList]

@[simp] theorem encode_nil : encode [] = [] := rfl

@[simp] theorem encode_append (s t : List Char) : encode (s ++ t) = encode s ++ encode t := by
  simp [encode]

theorem length_encode (text : List Char) : (encode text).length = size text := by
  induction text with
  | nil => rfl
  | cons c text ih =>
    have : encode (c :: text) = String.utf8EncodeChar c ++ encode text := by simp [encode]
    simp [this, ih]

/-! ### Reading -/

/-- A character begun and not finished: the value so far, the number of bytes still owed, and
the least and the greatest value that the next byte may have. -/
structure Pending where
  value : Nat
  owed : Nat
  low : Nat
  high : Nat

/-- What a first byte announces: a whole character, the beginning of a longer one, or neither. -/
inductive Lead where
  | whole (c : Char)
  | begun (pending : Pending)
  | stray

/-- The second byte is narrowed where a full range would admit overlong forms, surrogates or
values past the last code point. -/
def lead (b : Nat) : Lead :=
  if b < 0x80 then .whole (Char.ofNat b)
  else if b < 0xC2 then .stray
  else if b < 0xE0 then .begun ⟨b % 32, 1, 0x80, 0xBF⟩
  else if b = 0xE0 then .begun ⟨0, 2, 0xA0, 0xBF⟩
  else if b = 0xED then .begun ⟨13, 2, 0x80, 0x9F⟩
  else if b < 0xF0 then .begun ⟨b % 16, 2, 0x80, 0xBF⟩
  else if b = 0xF0 then .begun ⟨0, 3, 0x90, 0xBF⟩
  else if b < 0xF4 then .begun ⟨b % 8, 3, 0x80, 0xBF⟩
  else if b = 0xF4 then .begun ⟨4, 3, 0x80, 0x8F⟩
  else .stray

/-- The state of decoding: what has been read, latest first with `none` for a gap, and the
character in progress. -/
structure Decoder where
  read : List (Option Char)
  pending : Option Pending

/-- Takes a byte where a character begins. -/
def Decoder.begin (read : List (Option Char)) (b : Nat) : Decoder :=
  match lead b with
  | .whole c  => ⟨some c :: read, none⟩
  | .begun p  => ⟨read, some p⟩
  | .stray    => ⟨none :: read, none⟩

/-- Takes one byte. A byte that cannot go on with the character in progress leaves a gap and
is then taken as the beginning of the next one. -/
def Decoder.step (d : Decoder) (byte : UInt8) : Decoder :=
  let b := byte.toNat
  match d.pending with
  | none   => Decoder.begin d.read b
  | some p =>
    if p.low ≤ b ∧ b ≤ p.high then
      let value := p.value * 64 + b % 64
      if p.owed ≤ 1 then ⟨some (Char.ofNat value) :: d.read, none⟩
      else ⟨d.read, some ⟨value, p.owed - 1, 0x80, 0xBF⟩⟩
    else Decoder.begin (none :: d.read) b

/-- Ends decoding: a character that was not finished is a gap. -/
def Decoder.finish (d : Decoder) : List (Option Char) :=
  match d.pending with
  | none   => d.read.reverse
  | some _ => (none :: d.read).reverse

/-- The characters that bytes write, with `none` for every gap. -/
def decode (bytes : List UInt8) : List (Option Char) :=
  (bytes.foldl Decoder.step ⟨[], none⟩).finish

/-- The text of bytes, in which every gap stands as a replacement character. -/
def lossy (bytes : List UInt8) : List Char :=
  (decode bytes).map (·.getD '\uFFFD')

/-- The text of bytes that have no gap. -/
def text? (bytes : List UInt8) : Option (List Char) :=
  let read := decode bytes
  if read.all Option.isSome then some (read.filterMap id) else none

end TypedFormat.Utf8
