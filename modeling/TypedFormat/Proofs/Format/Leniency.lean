import TypedFormat.Proofs.Format.Rendition

/-!
# Lenient calls

Under the lenient policy an argument that does not fit is no failure. A strict call and a lenient
one go along together up to the first such argument, so they end in the same way unless it is what
the strict call fails with.
-/

namespace TypedFormat

/-- An argument does not fit what it was drawn for. -/
def Failure.IsMismatch (f : Failure) : Prop :=
  ∃ offset index expected found, f = .mismatch offset index expected found

/-- A strict call beside the same call under the lenient policy. -/
def Pairing.leniency : Pairing where
  first := .strict
  second := .lenient
  excused := Failure.IsMismatch
  underflow_excused := .inl rfl
  mismatch_excused := .inr ⟨rfl, fun offset index role kind => ⟨offset, index, role, kind, rfl⟩⟩

/-- Rendering leniently comes to the same as rendering strictly, up to a mismatch. -/
lemma Scanner.rendition_lenient (text : List Char) (offset : Nat) (s : Supply) :
    (∃ f, (rendition .strict ⟨offset, text⟩ s).failure? = some f ∧ f.IsMismatch) ∨
      rendition .lenient ⟨offset, text⟩ s = rendition .strict ⟨offset, text⟩ s := by
  have hsupply : Pairing.leniency.supply s = s := by
    simp [Pairing.supply, Pairing.leniency]
  have hfailure : Pairing.leniency.failure = id := by
    funext f
    exact f.displace_zero
  have h := Pairing.leniency.rendition_matches text offset s
  rw [Pairing.Matches, hsupply, hfailure, Option.map_id_fun] at h
  exact h

/-- Nothing is a mismatch leniently. -/
lemma Scanner.not_isMismatch_of_lenient {text : List Char} {offset : Nat} {s : Supply}
    {f : Failure} (h : (rendition .lenient ⟨offset, text⟩ s).failure? = some f) :
    ¬ f.IsMismatch := by
  rintro ⟨o, index, role, kind, rfl⟩
  rcases leaves_of_failure h with ⟨o', found, hmalformed⟩ | ⟨o', k, -, hleaves⟩
  · cases hmalformed
  · cases hleaves with
    | mismatch hpolicy => cases hpolicy

/-- A lenient call ends in the same way as the strict one, with the same text or the same failure,
unless the strict one fails with a mismatch. The lenient one never does. -/
theorem format_lenient (template : String) (arguments : List Argument) :
    (format template arguments .lenient = format template arguments .strict ∨
      ∃ f, format template arguments .strict = .error f ∧ f.IsMismatch) ∧
    ¬ ∃ f, format template arguments .lenient = .error f ∧ f.IsMismatch := by
  constructor
  · rcases Scanner.rendition_lenient template.toList 0 (.ofList arguments) with
      ⟨f, hf, hmismatch⟩ | hsame
    · right
      exact ⟨f, format_eq_error_iff.mpr ⟨_, by rw [← hf]⟩, hmismatch⟩
    · left
      rw [format_eq_map_result, hsame, format_eq_map_result]
  · rintro ⟨f, hf, hmismatch⟩
    obtain ⟨t, hr⟩ := format_eq_error_iff.mp hf
    exact Scanner.not_isMismatch_of_lenient (congrArg Rendition.failure? hr) hmismatch

end TypedFormat
