import Mathlib
import TypedFormat.Text.Utf8

/-!
# Steps that can go wrong

A format call that works on the bytes of a template and on buffers is made of steps that are partial:
slices, indices and differences. Here such a step gives a `Fault` where it goes wrong, so that nothing
which does go wrong can pass unseen. A slice is in order where the text is split between characters
(`sliceFrom_append`, `slice_append`), and the byte at such a position tells the character behind it if
that is one of ASCII (`letterAt_append`).
-/

namespace TypedFormat.Checked

/-- How a step goes wrong. -/
inductive Fault where
  /-- A slice goes past the end of its text, or begins or ends inside a character. -/
  | slice
  /-- A place is not in its buffer. -/
  | index
  /-- A difference is less than zero. -/
  | below
  /-- The buffer is full and there are digits left. -/
  | digitsCut
  /-- The sizes of a directive are not settled when they should be. -/
  | unsettled
  /-- A character should be a digit that another one follows. -/
  | notDigit
  /-- A numeral has more places than can be written. -/
  | places
deriving DecidableEq

/-! ### Differences -/

/-- A difference of numbers that have no sign. -/
def subtract (m n : Nat) : Except Fault Nat :=
  if n ≤ m then pure (m - n) else throw .below

lemma subtract_of_le {m n : Nat} (h : n ≤ m) : subtract m n = .ok (m - n) :=
  if_pos h

/-! ### Slices -/

/-- A text split at a byte position, which has to be between characters or at an end. -/
def splitAt? : List Char → Nat → Option (List Char × List Char)
  | text,      0     => some ([], text)
  | [],        _ + 1 => none
  | c :: text, n + 1 =>
    if c.utf8Size ≤ n + 1 then
      (splitAt? text (n + 1 - c.utf8Size)).map fun (front, back) => (c :: front, back)
    else none

/-- What follows a byte position. -/
def sliceFrom (text : List Char) (start : Nat) : Except Fault (List Char) :=
  match splitAt? text start with
  | some (_, back) => pure back
  | none           => throw .slice

/-- What stands between two byte positions. -/
def slice (text : List Char) (start stop : Nat) : Except Fault (List Char) :=
  match splitAt? text stop with
  | some (front, _) => sliceFrom front start
  | none            => throw .slice

/-- A text is split at a position just where characters of this size end. -/
lemma splitAt?_eq_some_iff {text front back : List Char} {n : Nat} :
    splitAt? text n = some (front, back) ↔ text = front ++ back ∧ Utf8.size front = n := by
  induction text generalizing n front with
  | nil =>
    cases n with
    | zero =>
      simp only [splitAt?, Option.some.injEq, Prod.mk.injEq, List.nil_eq_append_iff]
      constructor
      · rintro ⟨rfl, rfl⟩
        exact ⟨⟨rfl, rfl⟩, rfl⟩
      · rintro ⟨⟨rfl, rfl⟩, -⟩
        exact ⟨rfl, rfl⟩
    | succ n =>
      simp only [splitAt?, reduceCtorEq, List.nil_eq_append_iff, false_iff]
      rintro ⟨⟨rfl, -⟩, hsize⟩
      exact absurd hsize (Nat.zero_ne_add_one n)
  | cons c text ih =>
    have hpos := c.utf8Size_pos
    cases n with
    | zero =>
      simp only [splitAt?, Option.some.injEq, Prod.mk.injEq]
      constructor
      · rintro ⟨rfl, rfl⟩
        exact ⟨rfl, rfl⟩
      · rintro ⟨htext, hsize⟩
        cases front with
        | nil => exact ⟨rfl, htext⟩
        | cons d front =>
          have hpos' := d.utf8Size_pos
          rw [Utf8.size_cons] at hsize
          omega
    | succ n =>
      rw [splitAt?]
      constructor
      · intro h
        split_ifs at h with hle
        obtain ⟨⟨front', back'⟩, hsplit, hcons⟩ := Option.map_eq_some_iff.mp h
        obtain ⟨rfl, rfl⟩ := Prod.mk.inj hcons
        obtain ⟨rfl, hsize⟩ := ih.mp hsplit
        refine ⟨rfl, ?_⟩
        rw [Utf8.size_cons, hsize]
        omega
      · rintro ⟨htext, hsize⟩
        cases front with
        | nil => exact absurd hsize (Nat.zero_ne_add_one n)
        | cons d front =>
          rw [List.cons_append] at htext
          obtain ⟨rfl, rfl⟩ := List.cons.inj htext
          rw [Utf8.size_cons] at hsize
          have hsplit : splitAt? (front ++ back) (n + 1 - c.utf8Size) = some (front, back) :=
            ih.mpr ⟨rfl, by omega⟩
          rw [if_pos (by omega), hsplit]
          rfl

lemma sliceFrom_append (front back : List Char) :
    sliceFrom (front ++ back) (Utf8.size front) = .ok back := by
  have hsplit : splitAt? (front ++ back) (Utf8.size front) = some (front, back) :=
    splitAt?_eq_some_iff.mpr ⟨rfl, rfl⟩
  rw [sliceFrom, hsplit]
  rfl

lemma slice_append (front middle back : List Char) :
    slice (front ++ (middle ++ back)) (Utf8.size front) (Utf8.size front + Utf8.size middle)
      = .ok middle := by
  have hsplit : splitAt? (front ++ (middle ++ back)) (Utf8.size front + Utf8.size middle)
      = some (front ++ middle, back) :=
    splitAt?_eq_some_iff.mpr ⟨(List.append_assoc _ _ _).symm, Utf8.size_append _ _⟩
  rw [slice, hsplit]
  exact sliceFrom_append front middle

/-! ### Bytes -/

/-- The byte at a position, as the character of its number. -/
def letterAt (bytes : List UInt8) (position : Nat) : Option Char :=
  bytes[position]?.map fun b => Char.ofNat b.toNat

/-- The first byte of a character, as the character of its number. -/
def firstLetter (c : Char) : Char :=
  Char.ofNat ((String.utf8EncodeChar c).headD 0).toNat

/-- Behind some text, the byte is the first one of the next character. -/
lemma letterAt_append (front rest : List Char) :
    letterAt (Utf8.encode (front ++ rest)) (Utf8.size front) = rest.head?.map firstLetter := by
  have hbehind : (Utf8.encode (front ++ rest))[Utf8.size front]? = (Utf8.encode rest).head? := by
    rw [Utf8.encode_append, ← Utf8.length_encode, List.getElem?_append_right le_rfl, Nat.sub_self,
      List.head?_eq_getElem?]
  rw [letterAt, hbehind]
  cases rest with
  | nil => rfl
  | cons c rest =>
    have hne : String.utf8EncodeChar c ≠ [] := by
      rw [← List.length_pos_iff, String.length_utf8EncodeChar]
      exact c.utf8Size_pos
    obtain ⟨b, more, hbytes⟩ := List.exists_cons_of_ne_nil hne
    simp [Utf8.encode, firstLetter, hbytes]

/-- Only the bytes of ASCII characters are those of ASCII characters. -/
lemma of_mem_utf8EncodeChar {c : Char} {b : UInt8} (hb : b ∈ String.utf8EncodeChar c)
    (hascii : b.toNat < 128) : Char.ofNat b.toNat = c ∧ String.utf8EncodeChar c = [b] := by
  have hvalid : c.val.toNat < 0x110000 := by
    have h := c.valid
    unfold UInt32.isValidChar Nat.isValidChar at h
    omega
  have hc : Char.ofNat c.val.toNat = c := Char.ofNat_toNat c
  revert hb
  unfold String.utf8EncodeChar
  generalize c.val.toNat = v at hvalid hc
  dsimp only
  have hbyte : ∀ n, n < 256 → 128 ≤ n → b ≠ UInt8.ofNat n := by
    rintro n hn hge rfl
    rw [UInt8.toNat_ofNat_of_lt' hn] at hascii
    omega
  split_ifs with hone htwo hthree
  · intro hb
    obtain rfl := List.mem_singleton.mp hb
    rw [UInt8.toNat_ofNat_of_lt' (Nat.lt_of_le_of_lt hone (by decide))]
    exact ⟨hc, rfl⟩
  all_goals
    intro hb
    simp only [List.mem_cons, List.not_mem_nil, or_false] at hb
    exfalso
  · rcases hb with hb | hb
    · exact hbyte _ (by omega) (by omega) hb
    · exact hbyte _ (by omega) (by omega) hb
  · rcases hb with hb | hb | hb
    · exact hbyte _ (by omega) (by omega) hb
    · exact hbyte _ (by omega) (by omega) hb
    · exact hbyte _ (by omega) (by omega) hb
  · rcases hb with hb | hb | hb | hb
    · exact hbyte _ (by omega) (by omega) hb
    · exact hbyte _ (by omega) (by omega) hb
    · exact hbyte _ (by omega) (by omega) hb
    · exact hbyte _ (by omega) (by omega) hb

/-- The first byte of a character is that character, or neither is of ASCII. -/
lemma firstLetter_eq_or (c : Char) :
    firstLetter c = c ∨ 128 ≤ c.toNat ∧ 128 ≤ (firstLetter c).toNat := by
  have hne : String.utf8EncodeChar c ≠ [] := by
    rw [← List.length_pos_iff, String.length_utf8EncodeChar]
    exact c.utf8Size_pos
  obtain ⟨b, more, hbytes⟩ := List.exists_cons_of_ne_nil hne
  have hletter : firstLetter c = Char.ofNat b.toNat := by simp [firstLetter, hbytes]
  rw [hletter]
  by_cases hascii : b.toNat < 128
  · exact .inl (of_mem_utf8EncodeChar (by simp [hbytes]) hascii).1
  · refine .inr ⟨?_, ?_⟩
    · by_contra hlt
      have hone : c.val.toNat ≤ 127 := Nat.le_of_lt_succ (Nat.not_le.mp hlt)
      rw [String.utf8EncodeChar, if_pos hone] at hbytes
      obtain ⟨rfl, -⟩ := List.cons.inj hbytes
      rw [UInt8.toNat_ofNat_of_lt' (Nat.lt_of_le_of_lt hone (by decide))] at hascii
      omega
    · have hvalid : b.toNat.isValidChar := .inl (Nat.lt_trans b.toNat_lt (by decide))
      rw [Char.toNat_ofNat, if_pos hvalid]
      exact Nat.not_lt.mp hascii

lemma firstLetter_eq_iff {c x : Char} (hx : x.toNat < 128) : firstLetter c = x ↔ c = x := by
  rcases firstLetter_eq_or c with heq | ⟨hc, hfirst⟩
  · rw [heq]
  · constructor
    · rintro rfl
      omega
    · rintro rfl
      omega

/-- What holds of characters of ASCII alone is told by the first byte. -/
lemma firstLetter_of_ascii {α : Type} {f : Char → α} {other : α} (hf : ∀ c, 128 ≤ c.toNat → f c = other)
    (c : Char) : f (firstLetter c) = f c := by
  rcases firstLetter_eq_or c with heq | ⟨hc, hfirst⟩
  · rw [heq]
  · rw [hf _ hc, hf _ hfirst]

end TypedFormat.Checked
