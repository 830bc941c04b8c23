import Mathlib
import TypedFormat.Proofs.Format.Rendition

/-!
# Concatenated templates

A template that renders to its end renders in the same way in front of another, which then goes on
with the arguments that are left. The seam is never read across: a complete directive takes nothing
of what follows, and neither does a failure, unless the first template ends in the middle of a
directive.
-/

namespace TypedFormat

namespace Scanner

variable {policy : Policy} {first : List Char}

/-- After a template that renders to its end, rendering goes on past its bytes and its arguments. -/
theorem rendition_append_of_none (second : List Char) {offset : Nat} {s : Supply}
    (h : (rendition policy ⟨offset, first⟩ s).failure? = none) :
    (template ⟨offset, first⟩).arity ≤ s.remaining.length ∧
    rendition policy ⟨offset, first ++ second⟩ s
      = (rendition policy ⟨offset + Utf8.size first, second⟩
          (s.advance (template ⟨offset, first⟩).arity)).prepend
            (rendition policy ⟨offset, first⟩ s).text := by
  induction first using templateInduction generalizing offset s with
  | nil => simp [arity_nil]
  | percent rest ih =>
    rw [rendition_percent] at h ⊢
    obtain ⟨harity, hrest⟩ := ih h
    rw [arity_percent]
    refine ⟨harity, ?_⟩
    rw [List.cons_append, List.cons_append, rendition_percent, hrest, offset_percent]
    simp
  | directive spelling rest d hhead hread ih =>
    have hread' := Directive.read_append hread second
    rw [List.append_assoc] at hread'
    rw [rendition_directive _ _ hhead hread] at h ⊢
    rw [arity_directive hhead hread, List.cons_append, List.append_assoc,
      rendition_directive _ _ hhead hread']
    rcases Segment.renderThen_directive policy offset spelling d s with
      ⟨t, hlen, hthen⟩ | ⟨f, -, -, -, -, hthen⟩
    · rw [hthen] at h
      obtain ⟨harity, hrest⟩ := ih h
      rw [Supply.remaining_advance, List.length_drop] at harity
      refine ⟨by omega, ?_⟩
      rw [hthen, hthen, hrest, ← List.cons_append, Utf8.size_append, Supply.advance_advance]
      simp [Nat.add_assoc]
    · rw [hthen] at h
      cases h
  | malformed text found hhead hread =>
    rw [rendition_malformed _ _ hhead hread] at h
    cases h
  | literal c rest hc ih =>
    rw [rendition_cons _ _ hc] at h ⊢
    obtain ⟨harity, hrest⟩ := ih h
    rw [arity_cons hc]
    refine ⟨harity, ?_⟩
    rw [List.cons_append, rendition_cons _ _ hc, hrest]
    simp [Nat.add_assoc]

/-- A failure comes out in the same way whatever follows, unless the template had ended in the
middle of a directive. -/
theorem rendition_append_of_some (second : List Char) {offset : Nat} {s : Supply} {f : Failure}
    (h : (rendition policy ⟨offset, first⟩ s).failure? = some f)
    (hf : ∀ o, f ≠ .malformed o none) :
    rendition policy ⟨offset, first ++ second⟩ s = rendition policy ⟨offset, first⟩ s := by
  induction first using templateInduction generalizing offset s with
  | nil => simp at h
  | percent rest ih =>
    rw [rendition_percent] at h ⊢
    rw [List.cons_append, List.cons_append, rendition_percent, ih h]
  | directive spelling rest d hhead hread ih =>
    have hread' := Directive.read_append hread second
    rw [List.append_assoc] at hread'
    rw [rendition_directive _ _ hhead hread] at h ⊢
    rw [List.cons_append, List.append_assoc, rendition_directive _ _ hhead hread']
    rcases Segment.renderThen_directive policy offset spelling d s with
      ⟨t, -, hthen⟩ | ⟨f', -, -, -, -, hthen⟩
    · rw [hthen] at h
      rw [hthen, hthen, ih h]
    · rw [hthen, hthen]
  | malformed text found hhead hread =>
    cases found with
    | none =>
      rw [rendition_malformed _ _ hhead hread] at h
      exact absurd (Option.some.inj h).symm (hf offset)
    | some c =>
      have hhead' : (text ++ second).head? ≠ some '%' := by
        cases text with
        | nil => cases hread
        | cons x text => exact hhead
      rw [List.cons_append, rendition_malformed _ _ hhead hread,
        rendition_malformed _ _ hhead' (Directive.read_error_append hread second)]
  | literal c rest hc ih =>
    rw [rendition_cons _ _ hc] at h ⊢
    rw [List.cons_append, rendition_cons _ _ hc, ih h]

end Scanner

/-- The same call further on in a template and in the arguments. -/
def Pairing.displaced (policy : Policy) (bytes count : Nat) : Pairing where
  bytes := bytes
  count := count
  first := policy
  second := policy
  underflow_excused := .inl rfl
  mismatch_excused := .inl rfl

/-- Rendering further on gives the same text, or the same failure displaced. -/
lemma Scanner.rendition_displaced (policy : Policy) (bytes count : Nat) (text : List Char)
    (arguments : List Argument) :
    rendition policy ⟨bytes, text⟩ ⟨count, arguments⟩
      = ⟨(rendition policy ⟨0, text⟩ (.ofList arguments)).text,
          (rendition policy ⟨0, text⟩ (.ofList arguments)).failure?.map
            (Failure.displace bytes count)⟩ := by
  rcases (Pairing.displaced policy bytes count).rendition_matches text 0 (.ofList arguments)
    with ⟨f, -, hexcused⟩ | h
  · exact hexcused.elim
  · simpa [Pairing.supply, Pairing.displaced, Supply.ofList, Pairing.failure] using h

/-- The arities of a template's directives, added up. -/
def arity (template : String) : Nat :=
  (Template.ofText template.toList).arity

/-- If a template renders, then in front of another it renders the same text and leaves the other
the arguments past its own; a failure of the other is the failure it has by itself, further on by
the first one's bytes and arguments. If a template fails, then it fails in the same way in front of
another, unless it ends in the middle of a directive. -/
theorem format_append (policy : Policy) (first second : String) (arguments : List Argument) :
    (∀ text, format first arguments policy = .ok text →
      arity first ≤ arguments.length ∧
      format (first ++ second) arguments policy
        = match format second (arguments.drop (arity first)) policy with
          | .ok more => .ok (text ++ more)
          | .error f => .error (f.displace first.utf8ByteSize (arity first))) ∧
    (∀ f, format first arguments policy = .error f → (∀ offset, f ≠ .malformed offset none) →
      format (first ++ second) arguments policy = .error f) := by
  constructor
  · intro text h
    obtain ⟨t, rfl, hfirst⟩ := format_eq_ok_iff.mp h
    obtain ⟨harity, happend⟩ :=
      Scanner.rendition_append_of_none second.toList (congrArg Rendition.failure? hfirst)
    refine ⟨harity, ?_⟩
    have hadvance : (Supply.ofList arguments).advance (arity first)
        = ⟨arity first, arguments.drop (arity first)⟩ := by
      simp [Supply.advance, Supply.ofList]
    have hwhole : Scanner.rendition policy ⟨0, (first ++ second).toList⟩ (.ofList arguments)
        = (Scanner.rendition policy ⟨first.utf8ByteSize, second.toList⟩
            ⟨arity first, arguments.drop (arity first)⟩).prepend t := by
      rw [String.toList_append, ← hadvance, ← Utf8.size_toList, happend, hfirst, Nat.zero_add]
      rfl
    rw [Scanner.rendition_displaced policy first.utf8ByteSize] at hwhole
    cases hsecond : format second (arguments.drop (arity first)) policy with
    | ok more =>
      obtain ⟨u, rfl, hu⟩ := format_eq_ok_iff.mp hsecond
      refine format_eq_ok_iff.mpr ⟨t ++ u, String.ofList_append, ?_⟩
      rw [hwhole, hu]
      rfl
    | error f =>
      obtain ⟨u, hu⟩ := format_eq_error_iff.mp hsecond
      refine format_eq_error_iff.mpr ⟨t ++ u, ?_⟩
      rw [hwhole, hu]
      rfl
  · intro f h hf
    obtain ⟨t, hfirst⟩ := format_eq_error_iff.mp h
    refine format_eq_error_iff.mpr ⟨t, ?_⟩
    rw [String.toList_append,
      Scanner.rendition_append_of_some _ (congrArg Rendition.failure? hfirst) hf, hfirst]

/-- A seam between an escape and literal text, and one past a failure. -/
theorem format_append_at_seam :
    (arity "%d%%" ≤ 1 ∧ format ("%d%%" ++ "é%q") [.integer 5] .strict
      = .error (.malformed 6 (some 'q'))) ∧
    format ("a%q" ++ "%d") [.integer 5] .strict = .error (.malformed 1 (some 'q')) := by
  have hfirst : format "%d%%" [.integer 5] .strict = .ok "5%" := by cbv
  have hsecond : format "é%q" [] .strict = .error (.malformed 2 (some 'q')) := by cbv
  have hfails : format "a%q" [.integer 5] .strict = .error (.malformed 1 (some 'q')) := by cbv
  have hdrop : [Argument.integer 5].drop (arity "%d%%") = [] := by cbv
  obtain ⟨harity, happend⟩ := (format_append .strict "%d%%" "é%q" [.integer 5]).1 _ hfirst
  rw [hdrop, hsecond] at happend
  refine ⟨⟨harity, happend⟩, ?_⟩
  exact (format_append .strict "a%q" "%d" [.integer 5]).2 _ hfails fun o h => by cases h

end TypedFormat
