import TypedFormat.Proofs.Directive.Continuation
import TypedFormat.Proofs.Format.Rendition

/-!
# Malformed directives

A text is viable if a word of the grammar begins with it. Where no directive can be read, the character
that is blamed is the one behind the longest viable beginning of the text, and none is blamed just if the
whole text is viable, so that it only ends too early (`Directive.next_of_read_error`).
-/

namespace TypedFormat

namespace Directive

variable {text front : List Char} {found : Option Char}

/-- A word of the grammar begins with the text. -/
def IsViable (text : List Char) : Prop :=
  ∃ word, IsWord word ∧ text <+: word

/-- The longest beginning of a text that is viable. -/
structure IsLongestViable (front text : List Char) : Prop where
  begins : front <+: text
  viable : IsViable front
  longest : ∀ other, other <+: text → IsViable other → other <+: front

/-- What cannot be read as a directive whatever follows is not viable. -/
lemma not_isViable_of_read_error (h : ∀ more, read (text ++ more) = .error found) :
    ¬ IsViable text := by
  rintro ⟨word, hword, more, rfl⟩
  obtain ⟨d, hd⟩ := exists_read_append hword []
  rw [List.append_nil, h] at hd
  cases hd

lemma isViable_of_isWord_append {rest : List Char} (h : IsWord (front ++ rest)) : IsViable front :=
  ⟨front ++ rest, h, List.prefix_append front rest⟩

/-- A beginning of a text stops in front of a given character or has it. -/
lemma prefix_or_prefix_concat {other rest : List Char} {c : Char}
    (h : other <+: front ++ c :: rest) : other <+: front ∨ front ++ [c] <+: other := by
  have hconcat : front ++ [c] <+: front ++ c :: rest :=
    ⟨rest, (List.append_cons front c rest).symm⟩
  rcases List.prefix_or_prefix_of_prefix h hconcat with hother | hother
  · rcases List.prefix_concat_iff.mp hother with rfl | hfront
    · exact .inr List.prefix_rfl
    · exact .inl hfront
  · exact .inr hother

/-- The beginning that can be completed to a word is the longest one, if it cannot be completed with the
character behind it. -/
lemma isLongestViable_of_read_error {rest : List Char} {c : Char} (hfront : IsViable front)
    (h : ∀ more, more.head? = some c → read (front ++ more) = .error (some c)) :
    IsLongestViable front (front ++ c :: rest) where
  begins := List.prefix_append front _
  viable := hfront
  longest := by
    intro other hother hviable
    refine (prefix_or_prefix_concat hother).resolve_right fun hconcat => ?_
    obtain ⟨word, hword, hother'⟩ := hviable
    have hread : ∀ more, read (front ++ [c] ++ more) = .error (some c) := by
      intro more
      rw [List.append_assoc]
      exact h _ rfl
    exact not_isViable_of_read_error hread ⟨word, hword, hconcat.trans hother'⟩

/-- A directive that cannot be read is malformed at its place in the template. No character is blamed if
the text could still be completed to a word of the grammar. Else the text can be completed up to some
character and not with it, and that one is blamed. -/
theorem next_of_read_error (offset : Nat) (h : read text = .error found) :
    Scanner.next ⟨offset, '%' :: text⟩ = some (.error (.malformed offset found), ⟨offset, []⟩) ∧
    (found = none ↔ IsViable text) ∧
    ∀ c, found = some c →
      ∃ front rest, text = front ++ c :: rest ∧ IsLongestViable front text := by
  have hpercent : text.head? ≠ some '%' := by
    intro hhead
    obtain ⟨rest, rfl⟩ := List.head?_eq_some_iff.mp hhead
    rw [read_percent] at h
    cases h
  obtain ⟨front, rest, rfl, hhead, hword, hread⟩ := exists_parts_of_read_error h
  have hfront : IsViable front := isViable_of_isWord_append (hword .percent)
  refine ⟨Scanner.next_of_malformed hpercent h, ?_, ?_⟩
  · cases found with
    | none =>
      obtain rfl := List.head?_eq_none_iff.mp hhead
      rw [List.append_nil]
      exact iff_of_true rfl hfront
    | some c =>
      exact iff_of_false (Option.some_ne_none c)
        (not_isViable_of_read_error fun more => read_error_append h more)
  · rintro c rfl
    obtain ⟨rest, rfl⟩ := List.head?_eq_some_iff.mp hhead
    exact ⟨front, rest, rfl, isLongestViable_of_read_error hfront hread⟩

/-- Behind a precision and a length modifier, a character of two bytes. -/
theorem next_of_read_error_of_accent :
    read "-0.5lé".toList = .error (some 'é') ∧
    Scanner.next ⟨3, "%-0.5lé".toList⟩ = some (.error (.malformed 3 (some 'é')), ⟨3, []⟩) ∧
    ¬ IsViable "-0.5lé".toList ∧
    ∃ front rest, "-0.5lé".toList = front ++ 'é' :: rest ∧
      IsLongestViable front "-0.5lé".toList := by
  have h : read "-0.5lé".toList = .error (some 'é') := by decide +kernel
  obtain ⟨hnext, hviable, hlongest⟩ := next_of_read_error 3 h
  exact ⟨h, hnext, fun hv => Option.some_ne_none 'é' (hviable.mpr hv), hlongest 'é' rfl⟩

end Directive

end TypedFormat
