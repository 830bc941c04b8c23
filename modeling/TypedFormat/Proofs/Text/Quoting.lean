import Mathlib
import TypedFormat.Proofs.Number.Bases
import TypedFormat.Text.Quoted

/-!
# Quoted texts tell their texts apart

A quoted text stands on one line (`Quoted.newline_not_mem_text`). Its characters are read back one
by one (`Quoted.readEscaped_escape`), so no two texts have the same quoted form
(`Quoted.text_injective`).
-/

namespace TypedFormat.Quoted

/-! ### Numbers in base sixteen -/

/-- A layout whose digits are those of base sixteen. -/
private def hexLayout : Layout :=
  { conversion := .hexLower }

lemma valueOf_hex (n : Nat) : Conversion.hexLower.valueOf (hex n) = n :=
  hexLayout.valueOf_digits n

lemma not_mem_hex {c : Char} (hc : c ∉ Conversion.hexLower.alphabet) (n : Nat) : c ∉ hex n :=
  fun hmem => hc (hexLayout.mem_alphabet_of_mem_digits n c hmem)

/-! ### Reading a character back -/

/-- Takes one character from the front of a text in which characters are escaped. -/
def readEscaped : List Char → Option (Char × List Char)
  | '\\' :: '0' :: rest => some ('\x00', rest)
  | '\\' :: 't' :: rest => some ('\t', rest)
  | '\\' :: 'r' :: rest => some ('\r', rest)
  | '\\' :: 'n' :: rest => some ('\n', rest)
  | '\\' :: 'u' :: '\x7b' :: rest =>
    let digits := rest.takeWhile (· ≠ '\x7d')
    some (Char.ofNat (Conversion.hexLower.valueOf digits), rest.drop (digits.length + 1))
  | '\\' :: c :: rest => some (c, rest)
  | c :: rest => some (c, rest)
  | [] => none

lemma readEscaped_hex (c : Char) (rest : List Char) :
    readEscaped ('\\' :: 'u' :: '\x7b' :: (hex c.toNat ++ '\x7d' :: rest)) = some (c, rest) := by
  have hbrace : ∀ x ∈ hex c.toNat, decide (x ≠ '\x7d') = true := by
    intro x hx
    have hne : x ≠ '\x7d' := fun h => not_mem_hex (by decide) c.toNat (h ▸ hx)
    simpa using hne
  have hdigits : (hex c.toNat ++ '\x7d' :: rest).takeWhile (· ≠ '\x7d') = hex c.toNat := by
    rw [List.takeWhile_append_of_pos hbrace]
    simp
  simp only [readEscaped, hdigits, valueOf_hex, Char.ofNat_toNat]
  simp

/-- Within double quotes, an escaped character is read back whatever follows. -/
lemma readEscaped_escape (c : Char) (rest : List Char) :
    readEscaped (escape '"' c ++ rest) = some (c, rest) := by
  unfold escape
  split
  case h_6 =>
    split_ifs with hquote
    · subst hquote
      rfl
    · simpa using readEscaped_hex c rest
    · next hbackslash _ =>
      rw [List.singleton_append]
      unfold readEscaped
      split <;> simp_all
  all_goals rfl

/-! ### Texts -/

lemma flatMap_escape_injective : Function.Injective (List.flatMap (escape '"')) := by
  intro s t h
  induction s generalizing t with
  | nil =>
    cases t with
    | nil => rfl
    | cons d t =>
      have hread := readEscaped_escape d (t.flatMap (escape '"'))
      rw [← List.flatMap_cons, ← h] at hread
      cases hread
  | cons c s ih =>
    have hread := readEscaped_escape c (s.flatMap (escape '"'))
    cases t with
    | nil =>
      rw [← List.flatMap_cons, h] at hread
      cases hread
    | cons d t =>
      rw [← List.flatMap_cons, h, List.flatMap_cons, readEscaped_escape] at hread
      simp only [Option.some.injEq, Prod.mk.injEq] at hread
      rw [hread.1, ih hread.2.symm]

/-- No two texts have the same quoted form. -/
lemma text_injective : Function.Injective text := by
  intro s t h
  simp only [text, List.cons.injEq, true_and] at h
  exact flatMap_escape_injective (List.append_cancel_right h)

lemma newline_not_mem_escape (quote c : Char) (hquote : quote ≠ '\n') : '\n' ∉ escape quote c := by
  unfold escape
  split
  case h_6 hnewline _ =>
    have hhex := not_mem_hex (c := '\n') (by decide) c.toNat
    split_ifs with heq
    · simp [heq, hquote.symm]
    · simp [hhex]
    · simpa using Ne.symm hnewline
  all_goals decide

/-- A quoted text stands on one line. -/
lemma newline_not_mem_text (s : List Char) : '\n' ∉ text s := by
  have hescaped : '\n' ∉ s.flatMap (escape '"') := by
    rw [List.mem_flatMap]
    rintro ⟨c, -, hc⟩
    exact newline_not_mem_escape '"' c (by decide) hc
  simp [text, hescaped]

end TypedFormat.Quoted
