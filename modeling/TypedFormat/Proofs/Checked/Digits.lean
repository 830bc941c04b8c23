import TypedFormat.Layout
import TypedFormat.Proofs.Checked.Slicing
import TypedFormat.Proofs.Number.Increment

/-!
# Digits are written into a buffer

The digits of an integer are written from the end of a buffer of 128 bytes, the last one first. A number
below the power of the base with as many digits as there are places before the position fits, so the
buffer is never full while there are digits left (`fillDigits_eq`), and the digits in it are those of
the number (`renderDigits_eq`). Adding one unit in the last place of a numeral meets digits and points
only (`increaseLast_eq`).
-/

namespace TypedFormat.Checked

/-! ### The buffer -/

/-- The number of bytes in the buffer. -/
def bufferSize : Nat := 128

/-- A digit as a byte; the letters follow the figures. -/
def digitByte (uppercase : Bool) (digit : Nat) : Except Fault UInt8 :=
  if digit < 10 then pure (UInt8.ofNat ('0'.toNat + digit))
  else do
    let above ← subtract digit 10
    pure (UInt8.ofNat ((if uppercase then 'A' else 'a').toNat + above))

/-- Puts a byte into a buffer. -/
def writeByte (buffer : List UInt8) (place : Nat) (byte : UInt8) : Except Fault (List UInt8) :=
  if place < buffer.length then pure (buffer.set place byte) else throw .index

/-- Writes the digits of a number before a place, from the last one on, and gives the place of the first
one. At the beginning of the buffer no digits may be left. -/
def fillDigits (radix : Nat) (uppercase : Bool) :
    Nat → Nat → List UInt8 → Except Fault (Nat × List UInt8)
  | 0,         value, buffer => if value = 0 then pure (0, buffer) else throw .digitsCut
  | place + 1, value, buffer =>
    if value = 0 then pure (place + 1, buffer)
    else do
      let buffer ← writeByte buffer place (← digitByte uppercase (value % radix))
      fillDigits radix uppercase place (value / radix) buffer

/-- Writes the digits of a number at the end of an empty buffer, and gives their number. -/
def renderDigits (radix : Nat) (uppercase : Bool) (value : Nat) : Except Fault (Nat × List UInt8) := do
  let buffer := List.replicate bufferSize 0
  if value = 0 then
    let buffer ← writeByte buffer (bufferSize - 1) (UInt8.ofNat '0'.toNat)
    pure (1, buffer)
  else
    let (place, buffer) ← fillDigits radix uppercase bufferSize value buffer
    let count ← subtract bufferSize place
    pure (count, buffer)

/-- Bytes as the characters of their numbers. -/
def letters (bytes : List UInt8) : List Char :=
  bytes.map fun byte => Char.ofNat byte.toNat

/-- The digits of a number, taken from the end of the buffer. -/
def digits (radix : Nat) (uppercase : Bool) (value : Nat) : Except Fault (List Char) := do
  let (count, buffer) ← renderDigits radix uppercase value
  let start ← subtract bufferSize count
  pure (letters (buffer.drop start))

/-- A character, as a capital or as it is. -/
def capital (uppercase : Bool) (c : Char) : Char :=
  if uppercase then c.toUpper else c

lemma digitByte_eq (uppercase : Bool) {digit : Nat} (h : digit < 16) :
    ∃ byte, digitByte uppercase digit = .ok byte ∧
      Char.ofNat byte.toNat = capital uppercase (Nat.digitChar digit) := by
  cases uppercase <;> interval_cases digit <;> exact ⟨_, rfl, rfl⟩

lemma writeByte_eq {buffer : List UInt8} {place : Nat} (h : place < buffer.length) (byte : UInt8) :
    writeByte buffer place byte = .ok (buffer.set place byte) :=
  if_pos h

lemma drop_set {buffer : List UInt8} {place : Nat} (h : place < buffer.length) (byte : UInt8) :
    (buffer.set place byte).drop place = byte :: buffer.drop (place + 1) := by
  rw [List.drop_eq_getElem_cons (by simpa using h), List.getElem_set_self,
    List.drop_set_of_lt (Nat.lt_succ_self place)]

/-- The digits of a number other than zero, and none for zero. -/
def digitsOf (radix value : Nat) : List Char :=
  if value = 0 then [] else Nat.toDigits radix value

lemma digitsOf_succ {radix value : Nat} (hradix : 1 < radix) (hvalue : value ≠ 0) :
    digitsOf radix value = digitsOf radix (value / radix) ++ [Nat.digitChar (value % radix)] := by
  unfold digitsOf
  rw [if_neg hvalue]
  by_cases hlt : value < radix
  · rw [Nat.toDigits_of_lt_base hlt, Nat.div_eq_of_lt hlt, Nat.mod_eq_of_lt hlt]
    rfl
  · have hdiv : value / radix ≠ 0 := (Nat.div_pos (Nat.not_lt.mp hlt) (by omega)).ne'
    rw [if_neg hdiv, Nat.toDigits_of_base_le hradix (Nat.not_lt.mp hlt)]

/-- A number that is below the power of its base fits before the place, and what stands from the place
on is left as it is. -/
lemma fillDigits_eq {radix : Nat} (uppercase : Bool) (hradix : 1 < radix) (hsixteen : radix ≤ 16)
    {place value : Nat} {buffer : List UInt8} (hvalue : value < radix ^ place)
    (hplace : place ≤ buffer.length) :
    ∃ first after, fillDigits radix uppercase place value buffer = .ok (first, after) ∧
      first + (digitsOf radix value).length = place ∧
      letters (after.drop first)
        = (digitsOf radix value).map (capital uppercase) ++ letters (buffer.drop place) := by
  induction place generalizing value buffer with
  | zero =>
    obtain rfl : value = 0 := by simpa using hvalue
    exact ⟨0, buffer, rfl, rfl, rfl⟩
  | succ place ih =>
    by_cases hzero : value = 0
    · subst hzero
      exact ⟨place + 1, buffer, rfl, rfl, rfl⟩
    · -- Without its last digit the number fits before the place to the left.
      have hrest : value / radix < radix ^ place := by
        rw [Nat.div_lt_iff_lt_mul (by omega)]
        exact hvalue
      obtain ⟨byte, hbyte, hletter⟩ := digitByte_eq uppercase
        (Nat.lt_of_lt_of_le (Nat.mod_lt value (Nat.zero_lt_of_lt hradix)) hsixteen)
      obtain ⟨first, after, hfill, hlength, hdrop⟩ :=
        @ih (value / radix) (buffer.set place byte) hrest (by simpa using Nat.le_of_succ_le hplace)
      refine ⟨first, after, ?_, ?_, ?_⟩
      · rw [fillDigits, if_neg hzero, hbyte]
        show (writeByte buffer place byte >>= _) = _
        rw [writeByte_eq hplace]
        exact hfill
      · rw [digitsOf_succ hradix hzero, List.length_append, List.length_singleton]
        omega
      · rw [hdrop, digitsOf_succ hradix hzero, drop_set hplace, List.map_append, List.append_assoc]
        simp [letters, hletter]

/-- The digits of a number of 128 bits fit the buffer, in every base from two to sixteen. -/
lemma renderDigits_eq {radix : Nat} (uppercase : Bool) (hradix : 1 < radix) (hsixteen : radix ≤ 16)
    {value : Nat} (hvalue : value < 2 ^ 128) :
    ∃ buffer, renderDigits radix uppercase value = .ok ((Nat.toDigits radix value).length, buffer) ∧
      (Nat.toDigits radix value).length ≤ bufferSize ∧
      letters (buffer.drop (bufferSize - (Nat.toDigits radix value).length))
        = (Nat.toDigits radix value).map (capital uppercase) := by
  unfold renderDigits
  by_cases hzero : value = 0
  · have hplace : bufferSize - 1 < (List.replicate bufferSize (0 : UInt8)).length := by
      rw [List.length_replicate]
      decide
    rw [hzero, if_pos rfl, writeByte_eq hplace, Nat.toDigits_zero]
    refine ⟨_, rfl, by decide, ?_⟩
    rw [List.length_singleton, drop_set hplace]
    cases uppercase <;> rfl
  · have hfits : value < radix ^ bufferSize :=
      Nat.lt_of_lt_of_le hvalue (Nat.pow_le_pow_left hradix 128)
    obtain ⟨first, after, hfill, hlength, hdrop⟩ := @fillDigits_eq radix uppercase hradix hsixteen
      bufferSize value (List.replicate bufferSize 0) hfits (by simp)
    have hdigits : digitsOf radix value = Nat.toDigits radix value := if_neg hzero
    have hnone : (List.replicate bufferSize (0 : UInt8)).drop bufferSize = [] := by simp
    rw [hdigits] at hlength hdrop
    have hletters : letters [] = [] := rfl
    rw [hnone, hletters, List.append_nil] at hdrop
    have hcount : bufferSize - first = (Nat.toDigits radix value).length := by omega
    have hfirst : bufferSize - (Nat.toDigits radix value).length = first := by omega
    refine ⟨after, ?_, by omega, ?_⟩
    · rw [if_neg hzero, hfill]
      show (subtract bufferSize first >>= _) = _
      rw [subtract_of_le (by omega), hcount]
      rfl
    · rw [hfirst]
      exact hdrop

/-- What is taken from the buffer are the digits of the number, and no step goes wrong. -/
theorem digits_eq {radix : Nat} (uppercase : Bool) (hradix : 1 < radix) (hsixteen : radix ≤ 16)
    {value : Nat} (hvalue : value < 2 ^ 128) :
    digits radix uppercase value = .ok ((Nat.toDigits radix value).map (capital uppercase)) := by
  obtain ⟨buffer, hrender, hcount, hletters⟩ := renderDigits_eq uppercase hradix hsixteen hvalue
  rw [digits, hrender]
  show (subtract bufferSize _ >>= _) = _
  rw [subtract_of_le hcount, ← hletters]
  rfl

/-! ### One unit in the last place -/

/-- The digit that follows another one. -/
def increaseDigit (c : Char) : Except Fault Char :=
  if c.isDigit ∧ c ≠ '9' then pure (Char.ofNat (c.toNat + 1)) else throw .notDigit

/-- Adds one to a numeral written backwards. -/
def increase : List Char → Except Fault (List Char)
  | []          => pure ['1']
  | '.' :: rest => return '.' :: (← increase rest)
  | '9' :: rest => return '0' :: (← increase rest)
  | c :: rest   => return (← increaseDigit c) :: rest

/-- Adds one unit in the last place of a numeral. -/
def increaseLast (numeral : List Char) : Except Fault (List Char) :=
  List.reverse <$> increase numeral.reverse

/-- A digit other than nine is followed by another digit. -/
lemma increase_digit {c : Char} (hdigit : c.isDigit) (hnine : c ≠ '9') (rest : List Char) :
    increase (c :: rest) = .ok (incrementBackward (c :: rest)) := by
  have hlow : 48 ≤ c.toNat := (Char.isDigit_iff_toNat.mp hdigit).1
  have hhigh : c.toNat ≤ 57 := (Char.isDigit_iff_toNat.mp hdigit).2
  have hc : c = Char.ofNat c.toNat := (Char.ofNat_toNat c).symm
  generalize c.toNat = n at hlow hhigh hc
  subst hc
  interval_cases n <;> first | rfl | exact absurd rfl hnine

lemma increase_eq {backward : List Char} (h : ∀ c ∈ backward, c.isDigit = true ∨ c = '.') :
    increase backward = .ok (incrementBackward backward) := by
  induction backward with
  | nil => rfl
  | cons c rest ih =>
    rw [List.forall_mem_cons] at h
    by_cases hpoint : c = '.'
    · subst hpoint
      rw [increase, ih h.2]
      rfl
    · by_cases hnine : c = '9'
      · subst hnine
        rw [increase, ih h.2]
        rfl
      · exact increase_digit (h.1.resolve_right hpoint) hnine rest

/-- Of digits and points, no step goes wrong. -/
lemma increaseLast_eq {numeral : List Char} (h : ∀ c ∈ numeral, c.isDigit = true ∨ c = '.') :
    increaseLast numeral = .ok (incrementLast numeral) := by
  rw [increaseLast, increase_eq (by simpa using h)]
  rfl

end TypedFormat.Checked
