import Mathlib
import TypedFormat.Proofs.Json.Parsing

/-!
# Compact texts stand on one line

Within strings all control characters are escaped, and no other part of a value has one, so a value
that is written compactly has none at all (`Value.noControl_compactText`). This is the last of the laws
of texts (`standard_textLaws`).
-/

namespace TypedFormat.Json

open scoped TypedFormat.Standard

/-- A text without control characters. -/
def NoControl (text : List Char) : Prop :=
  ∀ c ∈ text, ' ' ≤ c

variable {text rest : List Char}

@[simp]
lemma noControl_nil : NoControl [] := by
  intro c hc
  cases hc

@[simp]
lemma noControl_cons {c : Char} : NoControl (c :: text) ↔ ' ' ≤ c ∧ NoControl text :=
  List.forall_mem_cons

@[simp]
lemma noControl_append : NoControl (text ++ rest) ↔ NoControl text ∧ NoControl rest :=
  List.forall_mem_append

/-! ### Strings -/

lemma noControl_escape (c : Char) : NoControl (escape c) := by
  unfold escape
  split
  case h_8 =>
    split_ifs with hspace
    · have hdigit : ∀ n : Fin 16, ' ' ≤ Nat.digitChar n := by decide
      have hhigh := hdigit ⟨c.toNat / 16, Nat.div_lt_of_lt_mul (lt_trans hspace (by decide))⟩
      have hlow := hdigit ⟨c.toNat % 16, Nat.mod_lt _ (by decide)⟩
      simp [hhigh, hlow]
    · simpa using hspace
  all_goals simp

lemma noControl_quote (s : List Char) : NoControl (quote s) := by
  have hs : NoControl (s.flatMap escape) := by
    intro c hc
    obtain ⟨d, -, hd⟩ := List.mem_flatMap.mp hc
    exact noControl_escape d c hd
  simp [quote, hs]

/-! ### Numbers -/

lemma noControl_of_isDigit (h : ∀ c ∈ text, c.isDigit = true) : NoControl text := by
  intro c hc
  have hdigit := h c hc
  simp only [Char.isDigit, Bool.and_eq_true, decide_eq_true_eq] at hdigit
  exact le_trans (show ' ' ≤ '0' by decide) hdigit.1

lemma noControl_toDigits (n : Nat) : NoControl (Nat.toDigits 10 n) :=
  noControl_of_isDigit isDigit_of_mem_toDigits

lemma noControl_integerText (v : Int) : NoControl (integerText v) := by
  unfold integerText
  split_ifs
  · simp [noControl_toDigits]
  · exact noControl_toDigits _

lemma noControl_placed (places units : Nat) : NoControl (placed places units) := by
  have hplaces : NoControl (paddedDigits places (units % tenTo places)) :=
    noControl_of_isDigit isDigit_of_mem_paddedDigits
  unfold placed
  split_ifs
  · exact noControl_toDigits _
  · simp [noControl_toDigits, hplaces]

lemma noControl_scientific (d : Decimal) : NoControl (scientific d) := by
  have hdigits := noControl_toDigits d.significand
  unfold scientific Decimal.digits
  cases h : Nat.toDigits 10 d.significand with
  | nil => split_ifs <;> simp [noControl_toDigits]
  | cons c more =>
    rw [h] at hdigits
    cases more <;> split_ifs <;> simp_all [noControl_toDigits]

lemma noControl_decimalText (d : Decimal) : NoControl (decimalText d) := by
  have hpositional : NoControl d.positional := noControl_placed _ _
  unfold decimalText
  split_ifs
  · simp [hpositional]
  · exact hpositional
  · exact noControl_scientific d

lemma noControl_floatText (x : Binary64) : NoControl (floatText x) := by
  have hdecimal := noControl_decimalText (x.shortest .even)
  unfold floatText
  split_ifs <;> simp [hdecimal]

/-! ### Values -/

lemma noControl_writeItems {items : List Value} {depth : Nat}
    (h : ∀ item ∈ items, NoControl (item.writeAt .compact depth)) :
    NoControl (writeItems .compact depth items) := by
  induction items with
  | nil => exact noControl_nil
  | cons item items ih =>
    have hitem := h item List.mem_cons_self
    have hitems := ih fun other hother => h other (List.mem_cons_of_mem item hother)
    simp [writeItems, Spacing.newline, hitem, hitems]

lemma noControl_writeMembers {members : List (String × Value)} {depth : Nat}
    (h : ∀ member ∈ members, NoControl (member.2.writeAt .compact depth)) :
    NoControl (writeMembers .compact depth members) := by
  induction members with
  | nil => exact noControl_nil
  | cons member members ih =>
    have hvalue := h member List.mem_cons_self
    have hmembers := ih fun other hother => h other (List.mem_cons_of_mem member hother)
    simp [writeMembers, Spacing.newline, Spacing.colon, noControl_quote, hvalue, hmembers]

lemma Value.noControl_writeAt (v : Value) (depth : Nat) : NoControl (v.writeAt .compact depth) := by
  induction v using Value.induction generalizing depth with
  | null => simp [writeAt]
  | boolean b => cases b <;> simp [writeAt]
  | integer v => exact noControl_integerText v
  | float x => exact noControl_floatText x
  | string s => exact noControl_quote s.toList
  | array items ih =>
    cases items with
    | nil => simp [writeAt]
    | cons item items =>
      have hitem := ih item List.mem_cons_self (depth + 1)
      have hitems := noControl_writeItems fun other hother =>
        ih other (List.mem_cons_of_mem item hother) (depth + 1)
      simp [writeAt, Spacing.newline, hitem, hitems]
  | object members ih =>
    cases members with
    | nil => simp [writeAt]
    | cons member members =>
      have hvalue := ih member List.mem_cons_self (depth + 1)
      have hmembers := noControl_writeMembers fun other hother =>
        ih other (List.mem_cons_of_mem member hother) (depth + 1)
      simp [writeAt, Spacing.newline, Spacing.colon, noControl_quote, hvalue, hmembers]

/-- A value on one line has no control characters, so that it is on one line indeed. -/
lemma Value.noControl_compactText (v : Value) : NoControl v.compactText.toList := by
  rw [compactText, String.toList_ofList]
  exact v.noControl_writeAt 0

/-! ### The laws of texts -/

/-- The package that writes and reads in this way obeys the laws of texts. -/
theorem standard_textLaws : TextLaws where
  tree?_compact h := Tree.ofText?_writeAt .compact h
  tree?_pretty h := Tree.ofText?_writeAt .pretty h
  control := Value.noControl_compactText
  head?_pretty members := by
    show (String.ofList ((Value.object members).writeAt .pretty 0)).toList.head? = _
    rw [String.toList_ofList]
    cases members <;> rw [Value.writeAt] <;> rfl
  tree?_empty := by
    show Tree.ofText? "" = none
    simp [Tree.ofText?, tokens?, Building.run, Building.tree?]

end TypedFormat.Json
