import Mathlib
import TypedFormat.Proofs.Format.Concatenation

/-!
# How many arguments a template needs

A call looks at no argument that it does not draw. Arguments behind the last one that it draws
change nothing, and a template that renders needs exactly as many as its arity: with any fewer it
fails at the first one that is not there.
-/

namespace TypedFormat

/-- A call beside the same call with more arguments at the end. -/
def Pairing.extended (policy : Policy) (extra : List Argument) : Pairing where
  extra := extra
  first := policy
  second := policy
  excused := Failure.IsUnderflow
  underflow_excused := .inr fun offset index => ⟨offset, index, rfl⟩
  mismatch_excused := .inl rfl

namespace Scanner

variable {policy : Policy} {text : List Char} {offset : Nat} {f : Failure}

/-- More arguments at the end change nothing, unless there had been too few. -/
lemma rendition_extended (policy : Policy) (text : List Char) (arguments extra : List Argument) :
    (∃ f, (rendition policy ⟨0, text⟩ (.ofList arguments)).failure? = some f ∧ f.IsUnderflow) ∨
      rendition policy ⟨0, text⟩ (.ofList (arguments ++ extra))
        = rendition policy ⟨0, text⟩ (.ofList arguments) := by
  have hsupply : (Pairing.extended policy extra).supply (.ofList arguments)
      = .ofList (arguments ++ extra) := rfl
  have hfailure : (Pairing.extended policy extra).failure = id := by
    funext f
    exact f.displace_zero
  have h := (Pairing.extended policy extra).rendition_matches text 0 (.ofList arguments)
  rw [Pairing.Matches, hsupply, hfailure, Option.map_id_fun] at h
  exact h

/-- Where arguments are too few, they are fewer than the template's arity. -/
lemma remaining_lt_arity {s : Supply}
    (h : (rendition policy ⟨offset, text⟩ s).failure? = some f) (hf : f.IsUnderflow) :
    s.remaining.length < (template ⟨offset, text⟩).arity := by
  induction text using templateInduction generalizing offset s with
  | nil => simp at h
  | percent rest ih =>
    rw [rendition_percent] at h
    rw [arity_percent]
    exact ih h
  | directive spelling rest d hhead hread ih =>
    rw [rendition_directive _ _ hhead hread] at h
    rw [arity_directive hhead hread]
    rcases Segment.renderThen_directive policy offset spelling d s with
      ⟨t, hlen, hthen⟩ | ⟨e, -, -, -, hlt, hthen⟩
    · rw [hthen] at h
      have hrest := ih h
      rw [Supply.remaining_advance, List.length_drop] at hrest
      omega
    · rw [hthen] at h
      obtain rfl := Option.some.inj h
      exact Nat.lt_add_right _ (hlt hf)
  | malformed text found hhead hread =>
    rw [rendition_malformed _ _ hhead hread] at h
    obtain rfl := Option.some.inj h
    obtain ⟨o, index, hmalformed⟩ := hf
    cases hmalformed
  | literal c rest hc ih =>
    rw [rendition_cons _ _ hc] at h
    rw [arity_cons hc]
    exact ih h

/-- Where arguments are too few, all were drawn, and the next one is the one that is missed. -/
lemma index_of_underflow {s : Supply} {o index : Nat}
    (h : (rendition policy ⟨offset, text⟩ s).failure? = some (.underflow o index)) :
    index = s.position + s.remaining.length := by
  rcases leaves_of_failure h with ⟨o', found, hmalformed⟩ | ⟨o', k, hk, hleaves⟩
  · cases hmalformed
  · generalize hs : s.advance k = s' at hleaves
    cases hleaves with
    | underflow hnil =>
      rw [← hs] at hnil ⊢
      have hlen : s.remaining.length ≤ k := List.drop_eq_nil_iff.mp hnil
      show s.position + k = s.position + s.remaining.length
      rw [Nat.le_antisymm hk hlen]

end Scanner

/-! ### Calls -/

section Calls

variable {policy : Policy} {template : String} {arguments : List Argument}

lemma arity_le_of_format_ok {text : String} (h : format template arguments policy = .ok text) :
    arity template ≤ arguments.length := by
  obtain ⟨t, -, hr⟩ := format_eq_ok_iff.mp h
  exact (Scanner.rendition_append_of_none [] (congrArg Rendition.failure? hr)).1

lemma length_lt_arity_of_underflow {f : Failure}
    (h : format template arguments policy = .error f) (hf : f.IsUnderflow) :
    arguments.length < arity template :=
  Scanner.remaining_lt_arity (failure?_eq_some_iff.mpr h) hf

lemma index_of_format_underflow {o index : Nat}
    (h : format template arguments policy = .error (.underflow o index)) :
    index = arguments.length := by
  simpa [Supply.ofList] using Scanner.index_of_underflow (failure?_eq_some_iff.mpr h)

lemma format_append_arguments
    (h : ∀ f, format template arguments policy = .error f → ¬ f.IsUnderflow)
    (extra : List Argument) :
    format template (arguments ++ extra) policy = format template arguments policy := by
  rcases Scanner.rendition_extended policy template.toList arguments extra with
    ⟨f, hf, hunderflow⟩ | hsame
  · exact absurd hunderflow (h f (failure?_eq_some_iff.mp hf))
  · rw [format_eq_map_result, hsame, format_eq_map_result]

/-- With some of the arguments that it renders with, a template either renders the same text or
misses the first argument that is not there. -/
lemma format_take {text : String} (h : format template arguments policy = .ok text) (n : Nat) :
    format template (arguments.take n) policy = .ok text ∨
      ∃ offset, format template (arguments.take n) policy
        = .error (.underflow offset (arguments.take n).length) := by
  by_cases hshort : ∃ f, format template (arguments.take n) policy = .error f ∧ f.IsUnderflow
  · obtain ⟨_, hf, offset, index, rfl⟩ := hshort
    obtain rfl := index_of_format_underflow hf
    exact .inr ⟨offset, hf⟩
  · left
    have hsame := format_append_arguments (fun f hf hunderflow => hshort ⟨f, hf, hunderflow⟩)
      (arguments.drop n)
    rw [← hsame, List.take_append_drop, h]

end Calls

/-- A call that does not lack arguments comes to the same with more of them at the end. A template
that renders does so with its arity of arguments, and with any fewer it misses the first one that
is not there. What is missed is always the argument after the last one that was supplied. -/
theorem format_demand (policy : Policy) (template : String) (arguments : List Argument) :
    ((∀ f, format template arguments policy = .error f → ¬ f.IsUnderflow) →
      ∀ extra, format template (arguments ++ extra) policy = format template arguments policy) ∧
    (∀ text, format template arguments policy = .ok text →
      arity template ≤ arguments.length ∧
      format template (arguments.take (arity template)) policy = .ok text ∧
      ∀ j < arity template, ∃ offset,
        format template (arguments.take j) policy = .error (.underflow offset j)) ∧
    (∀ offset index, format template arguments policy = .error (.underflow offset index) →
      index = arguments.length) := by
  refine ⟨format_append_arguments, ?_, fun offset index => index_of_format_underflow⟩
  intro text h
  have harity := arity_le_of_format_ok h
  refine ⟨harity, ?_, ?_⟩
  · rcases format_take h (arity template) with hok | ⟨offset, hunderflow⟩
    · exact hok
    · have hlt := length_lt_arity_of_underflow hunderflow ⟨_, _, rfl⟩
      rw [List.length_take] at hlt
      omega
  · intro j hj
    rcases format_take h j with hok | ⟨offset, hunderflow⟩
    · have hle := arity_le_of_format_ok hok
      rw [List.length_take] at hle
      omega
    · rw [List.length_take, Nat.min_eq_left (by omega)] at hunderflow
      exact ⟨offset, hunderflow⟩

/-- A width, a precision and two values are drawn, the `%` at the end draws only its width. -/
theorem format_demand_of_five :
    (format "%*.*d%s%*%" [.integer 5, .integer 3, .integer 7, .text "a", .integer 2, .text "b"]
      .strict = .ok "  007a %") ∧
    arity "%*.*d%s%*%" = 5 ∧
    (∃ offset, format "%*.*d%s%*%" [.integer 5, .integer 3, .integer 7, .text "a"] .strict
      = .error (.underflow offset 4)) ∧
    format "%*.*d%s%*%" [.integer 5, .integer 3] .strict = .error (.underflow 0 2) ∧
    2 = [Argument.integer 5, .integer 3].length := by
  have hfive : format "%*.*d%s%*%"
      [.integer 5, .integer 3, .integer 7, .text "a", .integer 2] .strict = .ok "  007a %" := by
    cbv
  have htwo : format "%*.*d%s%*%" [.integer 5, .integer 3] .strict
      = .error (.underflow 0 2) := by cbv
  have harity : arity "%*.*d%s%*%" = 5 := by cbv
  have hsix := (format_demand .strict "%*.*d%s%*%"
    [.integer 5, .integer 3, .integer 7, .text "a", .integer 2]).1
      (fun f hf => by rw [hfive] at hf; cases hf) [.text "b"]
  obtain ⟨-, -, hfewer⟩ := (format_demand .strict "%*.*d%s%*%"
    [.integer 5, .integer 3, .integer 7, .text "a", .integer 2]).2.1 _ hfive
  refine ⟨hsix.trans hfive, harity, hfewer 4 (by rw [harity]; decide), htwo, ?_⟩
  exact (format_demand .strict "%*.*d%s%*%" [.integer 5, .integer 3]).2.2 _ _ htwo

end TypedFormat
