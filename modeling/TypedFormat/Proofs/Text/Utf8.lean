import Mathlib
import TypedFormat.Text.Utf8

/-!
# A text is read back from its bytes

The bytes of a character take the decoder from one character to the next, without a gap
(`foldl_step_encodeChar`). So the bytes of a text decode to that text (`decode_encode`).
-/

namespace TypedFormat.Utf8

variable {read : List (Option Char)} {value owed low high b : Nat}

/-! ### Steps -/

lemma step_first (byte : UInt8) : Decoder.step ⟨read, none⟩ byte = Decoder.begin read byte.toNat := rfl

/-- A byte that goes on with a character that needs more. -/
lemma step_more (hb : b < 256) (hlow : low ≤ b) (hhigh : b ≤ high) (howed : 1 < owed) :
    Decoder.step ⟨read, some ⟨value, owed, low, high⟩⟩ (UInt8.ofNat b)
      = ⟨read, some ⟨value * 64 + b % 64, owed - 1, 0x80, 0xBF⟩⟩ := by
  have htoNat : (UInt8.ofNat b).toNat = b := UInt8.toNat_ofNat_of_lt' hb
  simp only [Decoder.step, htoNat, hlow, hhigh, and_self, if_true, if_neg (Nat.not_le_of_lt howed)]

/-- A byte that ends a character. -/
lemma step_last (hb : b < 256) (hlow : low ≤ b) (hhigh : b ≤ high) :
    Decoder.step ⟨read, some ⟨value, 1, low, high⟩⟩ (UInt8.ofNat b)
      = ⟨some (Char.ofNat (value * 64 + b % 64)) :: read, none⟩ := by
  have htoNat : (UInt8.ofNat b).toNat = b := UInt8.toNat_ofNat_of_lt' hb
  simp only [Decoder.step, htoNat, hlow, hhigh, and_self, if_true, le_refl]

/-- A byte that begins a character of several bytes. -/
lemma step_begun (hb : b < 256) {pending : Pending} (hlead : lead b = .begun pending) :
    Decoder.step ⟨read, none⟩ (UInt8.ofNat b) = ⟨read, some pending⟩ := by
  have htoNat : (UInt8.ofNat b).toNat = b := UInt8.toNat_ofNat_of_lt' hb
  rw [step_first, htoNat, Decoder.begin, hlead]

/-! ### First bytes -/

lemma lead_of_two {k : Nat} (hlow : 2 ≤ k) (hhigh : k < 32) :
    lead (k + 0xC0) = .begun ⟨k, 1, 0x80, 0xBF⟩ := by
  have hk : (k + 0xC0) % 32 = k := by omega
  rw [lead, if_neg (by omega), if_neg (by omega), if_pos (by omega), hk]

/-- The first byte of three. The second is in the range that it narrows. -/
lemma exists_lead_of_three {v : Nat} (hlow : 0x800 ≤ v) (hhigh : v < 0x10000)
    (hscalar : v < 0xD800 ∨ 0xDFFF < v) :
    ∃ low high, lead (v / 4096 + 0xE0) = .begun ⟨v / 4096, 2, low, high⟩ ∧
      low ≤ v / 64 % 64 + 0x80 ∧ v / 64 % 64 + 0x80 ≤ high := by
  by_cases hfirst : v / 4096 = 0
  · exact ⟨0xA0, 0xBF, by rw [hfirst]; rfl, by omega, by omega⟩
  by_cases hsurrogate : v / 4096 = 13
  · exact ⟨0x80, 0x9F, by rw [hsurrogate]; rfl, by omega, by omega⟩
  · refine ⟨0x80, 0xBF, ?_, by omega, by omega⟩
    have hk : (v / 4096 + 0xE0) % 16 = v / 4096 := by omega
    rw [lead, if_neg (by omega), if_neg (by omega), if_neg (by omega), if_neg (by omega),
      if_neg (by omega), if_pos (by omega), hk]

/-- The first byte of four. -/
lemma exists_lead_of_four {v : Nat} (hlow : 0x10000 ≤ v) (hhigh : v < 0x110000) :
    ∃ low high, lead (v / 262144 + 0xF0) = .begun ⟨v / 262144, 3, low, high⟩ ∧
      low ≤ v / 4096 % 64 + 0x80 ∧ v / 4096 % 64 + 0x80 ≤ high := by
  by_cases hfirst : v / 262144 = 0
  · exact ⟨0x90, 0xBF, by rw [hfirst]; rfl, by omega, by omega⟩
  by_cases hlast : v / 262144 = 4
  · exact ⟨0x80, 0x8F, by rw [hlast]; rfl, by omega, by omega⟩
  · refine ⟨0x80, 0xBF, ?_, by omega, by omega⟩
    have hk : (v / 262144 + 0xF0) % 8 = v / 262144 := by omega
    rw [lead, if_neg (by omega), if_neg (by omega), if_neg (by omega), if_neg (by omega),
      if_neg (by omega), if_neg (by omega), if_neg (by omega), if_pos (by omega), hk]

/-! ### Texts -/

/-- The bytes of a character are read as that character. -/
lemma foldl_step_encodeChar (read : List (Option Char)) (c : Char) :
    (String.utf8EncodeChar c).foldl Decoder.step ⟨read, none⟩ = ⟨some c :: read, none⟩ := by
  have hvalid : c.val.toNat < 0xD800 ∨ 0xDFFF < c.val.toNat ∧ c.val.toNat < 0x110000 := c.valid
  have hc : Char.ofNat c.val.toNat = c := Char.ofNat_toNat c
  unfold String.utf8EncodeChar
  generalize c.val.toNat = v at hvalid hc
  dsimp only
  by_cases hone : v ≤ 0x7F
  · have hlead : lead v = .whole c := by rw [lead, if_pos (by omega), hc]
    have hv : (UInt8.ofNat v).toNat = v := UInt8.toNat_ofNat_of_lt' (Nat.lt_of_le_of_lt hone (by decide))
    rw [if_pos hone, List.foldl_cons, List.foldl_nil, step_first, hv, Decoder.begin, hlead]
  by_cases htwo : v ≤ 0x7FF
  · have hk : v / 64 % 32 = v / 64 := by omega
    have hvalue : v / 64 * 64 + (v % 64 + 0x80) % 64 = v := by omega
    rw [if_neg hone, if_pos htwo, hk, List.foldl_cons, List.foldl_cons, List.foldl_nil,
      step_begun (by omega) (lead_of_two (by omega) (by omega)),
      step_last (by omega) (by omega) (by omega), hvalue, hc]
  by_cases hthree : v ≤ 0xFFFF
  · obtain ⟨low, high, hlead, hlow, hhigh⟩ :=
      exists_lead_of_three (v := v) (by omega) (by omega) (by omega)
    have hk : v / 4096 % 16 = v / 4096 := by omega
    have hvalue : (v / 4096 * 64 + (v / 64 % 64 + 0x80) % 64) * 64 + (v % 64 + 0x80) % 64 = v := by
      omega
    rw [if_neg hone, if_neg htwo, if_pos hthree, hk, List.foldl_cons, List.foldl_cons,
      List.foldl_cons, List.foldl_nil, step_begun (by omega) hlead,
      step_more (by omega) hlow hhigh (by omega), step_last (by omega) (by omega) (by omega), hvalue,
      hc]
  · obtain ⟨low, high, hlead, hlow, hhigh⟩ := exists_lead_of_four (v := v) (by omega) (by omega)
    have hk : v / 262144 % 8 = v / 262144 := by omega
    have hvalue : ((v / 262144 * 64 + (v / 4096 % 64 + 0x80) % 64) * 64
        + (v / 64 % 64 + 0x80) % 64) * 64 + (v % 64 + 0x80) % 64 = v := by
      omega
    rw [if_neg hone, if_neg htwo, if_neg hthree, hk, List.foldl_cons, List.foldl_cons,
      List.foldl_cons, List.foldl_cons, List.foldl_nil, step_begun (by omega) hlead,
      step_more (by omega) hlow hhigh (by omega), step_more (by omega) (by omega) (by omega) (by omega),
      step_last (by omega) (by omega) (by omega), hvalue, hc]

/-- The bytes of a text have no gap. -/
lemma decode_encode (text : List Char) : decode (encode text) = text.map some := by
  have hdecode : ∀ read, (encode text).foldl Decoder.step ⟨read, none⟩
      = ⟨(text.map some).reverse ++ read, none⟩ := by
    induction text with
    | nil => intro read; rfl
    | cons c text ih =>
      intro read
      rw [encode, List.flatMap_cons, List.foldl_append, foldl_step_encodeChar]
      simpa [encode] using ih (some c :: read)
  simp [decode, hdecode, Decoder.finish]

theorem text?_encode (text : List Char) : text? (encode text) = some text := by
  simp [text?, decode_encode]

theorem lossy_encode (text : List Char) : lossy (encode text) = text := by
  simp [lossy, decode_encode]

end TypedFormat.Utf8
