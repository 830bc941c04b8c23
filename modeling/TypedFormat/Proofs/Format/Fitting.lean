import TypedFormat.Proofs.Format.Rendition

/-!
# Templates that cannot fail

A template with no directives but `%s` and `%d` is rendered under every policy if there is an
argument for each of them, which for `%d` is an integer (`formatChars_of_fits`).
-/

namespace TypedFormat

/-- Whether arguments fit a template that has no directives but `%s` and `%d`. -/
def fits : List Char → List Argument → Bool
  | [],                _                     => true
  | '%' :: 's' :: rest, _ :: arguments         => fits rest arguments
  | '%' :: 'd' :: rest, .integer _ :: arguments => fits rest arguments
  | '%' :: _,           _                     => false
  | _ :: rest,          arguments             => fits rest arguments

namespace Conversion

/-- The directive of a conversion alone. -/
def bare (c : Conversion) : Directive :=
  ⟨{}, .absent, .absent, .absent, c⟩

/-- The layout of a conversion alone. -/
def bareLayout (c : Conversion) : Layout :=
  { conversion := c }

/-- An argument that the conversion shows is drawn and shown, under every policy. -/
lemma render_bare {c : Conversion} (hvalue : c.takesValue = true) {argument : Argument}
    {text : List Char} (hshow : c.bareLayout.show? argument = some text) (policy : Policy)
    (offset position : Nat) (spelling : List Char) (remaining : List Argument) :
    Segment.render policy (.directive offset spelling c.bare) ⟨position, argument :: remaining⟩
      = .ok text ⟨position + 1, remaining⟩ := by
  have hsettle : c.bare.settle policy offset ⟨position, argument :: remaining⟩
      = .ok ⟨c.bareLayout, some ⟨position, argument⟩⟩ ⟨position + 1, remaining⟩ := by
    rw [Directive.settle_eq_bind]
    simp only [bare, Size.written, Size.drawn, Size.drawnBy, Layout.withWidth, Layout.withPrecision,
      hvalue, pure_bind, if_true]
    rfl
  have hrender : Settled.render policy offset ⟨c.bareLayout, some ⟨position, argument⟩⟩
      = .ok text := by
    simp only [Settled.render, hshow]
  show EStateM.bind (c.bare.settle policy offset) _ _ = _
  unfold EStateM.bind
  rw [hsettle]
  dsimp only
  rw [hrender]
  rfl

end Conversion

lemma read_string (rest : List Char) :
    Directive.read ('s' :: rest) = .ok (Conversion.string.bare, rest) := by
  rfl

lemma read_signed (rest : List Char) :
    Directive.read ('d' :: rest) = .ok (Conversion.signed.bare, rest) := by
  rfl

lemma failure?_of_fits (policy : Policy) {text : List Char} {arguments : List Argument}
    (h : fits text arguments = true) (offset position : Nat) :
    (Scanner.rendition policy ⟨offset, text⟩ ⟨position, arguments⟩).failure? = none := by
  fun_induction fits text arguments generalizing offset position with
  | case1 => simp
  | case2 rest argument arguments ih =>
    rw [← List.singleton_append (l := rest), Scanner.rendition_directive _ _ (by decide)
      (read_string rest), Segment.renderThen, Conversion.render_bare rfl rfl]
    exact ih h _ _
  | case3 rest v arguments ih =>
    rw [← List.singleton_append (l := rest), Scanner.rendition_directive _ _ (by decide)
      (read_signed rest), Segment.renderThen, Conversion.render_bare rfl rfl]
    exact ih h _ _
  | case4 => cases h
  | case5 c rest arguments _ _ hpercent ih =>
    rw [Scanner.rendition_cons policy _ hpercent]
    exact ih h _ _

/-- A template is rendered with arguments that fit it. -/
theorem formatChars_of_fits (policy : Policy) {template : List Char} {arguments : List Argument}
    (h : fits template arguments = true) : ∃ text, formatChars policy template arguments = .ok text := by
  have hfailure : ((Template.ofText template).render policy arguments).failure? = none :=
    failure?_of_fits policy h 0 0
  refine ⟨((Template.ofText template).render policy arguments).text, ?_⟩
  rw [formatChars, Rendition.result, hfailure]

end TypedFormat
