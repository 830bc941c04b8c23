import Mathlib.Tactic.Common
import TypedFormat.Proofs.Supply.Drawing

/-!
# Sizes written in the place of drawn ones

A directive that draws its width or its precision does what the same directive does with that size
written in it, once the size is drawn (`Segment.outcome_writeWidth`,
`Segment.outcome_writePrecision`). Only the layouts differ: a drawn negative width leaves the zero
flag set, and a written minus clears it. No renderer sees that difference (`Layout.plain`).

The written sizes are checked before any is drawn. So a drawn width past the limit is found out
later than a written precision past it, and a written width is found out first.
-/

namespace TypedFormat

/-! ### Layouts that look the same -/

namespace Layout

/-- The layout without a zero flag that adjusting to the left overrides. -/
def plain (layout : Layout) : Layout :=
  { layout with flags := { layout.flags with
      zeroPad := layout.flags.zeroPad && !layout.flags.adjustLeft } }

@[simp] lemma zeroFill_plain (layout : Layout) : layout.plain.zeroFill = layout.zeroFill := by
  simp [zeroFill, plain, Bool.and_assoc]

@[simp] lemma place_plain (layout : Layout) (content : Content) :
    layout.plain.place content = layout.place content := rfl

@[simp] lemma integer_plain (layout : Layout) (v : Int) :
    layout.plain.integer v = layout.integer v := by
  simp only [integer, zeroFill_plain]
  rfl

@[simp] lemma float_plain (layout : Layout) (x : Binary64) :
    layout.plain.float x = layout.float x := by
  simp only [float, zeroFill_plain]
  rfl

lemma show?_plain (layout : Layout) (a : Argument) : layout.plain.show? a = layout.show? a := by
  have hconversion : layout.plain.conversion = layout.conversion := rfl
  have htext : ∀ s, layout.plain.text s = layout.text s := fun _ => rfl
  unfold show?
  rw [hconversion]
  split <;> simp only [integer_plain, float_plain, place_plain, htext]

end Layout

/-! ### A directive from its layout on -/

/-- The text of a settled directive, as the last step of a computation. -/
def Settled.shown (policy : Policy) (offset : Nat) (settled : Settled) : Drawing (List Char) :=
  match settled.render policy offset with
  | .ok text       => pure text
  | .error failure => throw failure

lemma Segment.render_eq_settle_bind (policy : Policy) (offset : Nat) (spelling : List Char)
    (d : Directive) :
    Segment.render policy (.directive offset spelling d)
      = d.settle policy offset >>= Settled.shown policy offset := rfl

lemma Settled.shown_plain (policy : Policy) (offset : Nat) (layout : Layout)
    (value : Option Drawn) :
    Settled.shown policy offset ⟨layout.plain, value⟩
      = Settled.shown policy offset ⟨layout, value⟩ := by
  unfold Settled.shown Settled.render
  cases value with
  | none => rfl
  | some v =>
    simp only [Layout.show?_plain]
    rfl

namespace Layout

/-- Draws the value that a settled layout is for. -/
def withValue (offset : Nat) (conversion : Conversion) (layout : Layout) : Drawing Settled :=
  if conversion.takesValue then do
    let value ← Supply.next offset
    pure ⟨layout, some value⟩
  else
    pure ⟨layout, none⟩

/-- What is left to do once the sizes are settled: the value is drawn and shown. -/
def finish (policy : Policy) (offset : Nat) (conversion : Conversion) (layout : Layout) :
    Drawing (List Char) :=
  layout.withValue offset conversion >>= Settled.shown policy offset

/-- What is left to do once the width is settled. -/
def resume (policy : Policy) (offset : Nat) (precision : Size) (conversion : Conversion)
    (layout : Layout) : Drawing (List Char) := do
  let layout ← layout.withPrecision offset (← precision.drawn policy offset .precision)
  layout.finish policy offset conversion

variable (policy : Policy) (offset : Nat)

lemma finish_plain (conversion : Conversion) (layout : Layout) :
    layout.plain.finish policy offset conversion = layout.finish policy offset conversion := by
  unfold finish withValue
  split_ifs
  · simp only [bind_assoc, pure_bind, Settled.shown_plain]
  · simp only [pure_bind, Settled.shown_plain]

lemma withPrecision_plain (layout : Layout) (v : Option Int) :
    (layout.plain.withPrecision offset v : Drawing Layout)
      = layout.withPrecision offset v >>= fun layout => pure layout.plain := by
  cases v with
  | none => rfl
  | some v =>
    simp only [withPrecision]
    split_ifs
    · rfl
    · rw [bind_assoc]
      rfl

lemma resume_plain (precision : Size) (conversion : Conversion) (layout : Layout) :
    layout.plain.resume policy offset precision conversion
      = layout.resume policy offset precision conversion := by
  unfold resume
  refine bind_congr fun drawn => ?_
  rw [withPrecision_plain, bind_assoc]
  refine bind_congr fun layout => ?_
  rw [pure_bind, finish_plain]

end Layout

/-- The written sizes are checked first. Then the width, the precision and the value are drawn. -/
lemma Segment.render_directive (policy : Policy) (offset : Nat) (spelling : List Char)
    (d : Directive) :
    Segment.render policy (.directive offset spelling d) = (do
      let width ← d.width.written offset .width
      let precision ← d.precision.written offset .precision
      let layout : Layout := ⟨d.flags, width.getD 0, precision, d.conversion⟩
      let layout ← layout.withWidth offset (← d.width.drawn policy offset .width)
      layout.resume policy offset d.precision d.conversion) := by
  simp only [Segment.render_eq_settle_bind, Directive.settle_eq_bind, Layout.resume, Layout.finish,
    Layout.withValue, bind_assoc]

/-! ### What a computation comes to -/

namespace Drawing

/-- What a computation comes to, whatever it leaves of the supply. -/
def outcome {α : Type} (c : Drawing α) (s : Supply) : Except Failure α :=
  match c s with
  | .ok v _    => .ok v
  | .error f _ => .error f

/-- An integer that is next is drawn as a size. -/
@[simp] lemma outcome_drawn_bind {α : Type} (policy : Policy) (offset : Nat) (role : Role) (v : Int)
    (rest : List Argument) (n : Nat) (g : Option Int → Drawing α) :
    outcome (Size.drawn policy offset role .fromArgument >>= g) ⟨n, .integer v :: rest⟩
      = outcome (g (some v)) ⟨n + 1, rest⟩ := rfl

end Drawing

lemma Size.accept_of_le {offset n : Nat} {role : Role} (h : n ≤ fieldLimit) :
    (accept offset role n : Drawing Nat) = pure n := if_pos h

lemma Size.accept_of_lt {offset n : Nat} {role : Role} (h : fieldLimit < n) :
    (accept offset role n : Drawing Nat) = throw (.tooLarge offset role n) :=
  if_neg (Nat.not_le.mpr h)

lemma Size.written_of_lt {offset n : Nat} {role : Role} (h : fieldLimit < n) :
    ((literal n).written offset role : Drawing (Option Nat)) = throw (.tooLarge offset role n) := by
  rw [written, accept_of_lt h]
  rfl

/-- A written size is what it says, or past the limit. -/
lemma Size.written_cases (offset : Nat) (role : Role) (size : Size) :
    (∃ q, (size.written offset role : Drawing (Option Nat)) = pure q) ∨
    ∃ m, size = .literal m ∧ fieldLimit < m ∧
      (size.written offset role : Drawing (Option Nat)) = throw (.tooLarge offset role m) := by
  cases size with
  | absent | fromArgument => exact .inl ⟨none, rfl⟩
  | literal m =>
    rcases Nat.lt_or_ge fieldLimit m with h | h
    · exact .inr ⟨m, rfl, h, written_of_lt h⟩
    · refine .inl ⟨some m, ?_⟩
      rw [written, accept_of_le h]
      rfl

/-! ### Substitution -/

namespace Directive

/-- The directive with a width in the place of its own: a negative one adjusts to the left, and
zero is not written at all. -/
def writeWidth (d : Directive) (v : Int) : Directive :=
  let adjustLeft := d.flags.adjustLeft || decide (v < 0)
  { d with
    flags := { d.flags with adjustLeft, zeroPad := d.flags.zeroPad && !adjustLeft }
    width := if v = 0 then .absent else .literal v.natAbs }

/-- The directive with a precision in the place of its own. A negative one is not written at
all. -/
def writePrecision (d : Directive) (v : Int) : Directive :=
  { d with precision := if v < 0 then .absent else .literal v.natAbs }

variable {d : Directive}

/-- The written width is accepted as the number it stands for. -/
lemma written_writeWidth (offset : Nat) (v : Int) {α : Type} (g : Nat → Drawing α) :
    ((d.writeWidth v).width.written offset .width >>= fun width => g (width.getD 0))
      = Size.accept offset .width v.natAbs >>= g := by
  unfold writeWidth
  split_ifs with hv
  · subst hv
    rfl
  · simp [Size.written]

lemma drawn_writeWidth (policy : Policy) (offset : Nat) (v : Int) :
    (d.writeWidth v).width.drawn policy offset .width = pure none := by
  unfold writeWidth
  split_ifs <;> rfl

end Directive

namespace Segment

variable {policy : Policy} {offset : Nat} {d : Directive}

/-- A directive with a written width accepts that first. -/
lemma render_writeWidth (spelling : List Char) (v : Int) :
    Segment.render policy (.directive offset spelling (d.writeWidth v)) = (do
      let width ← Size.accept offset .width v.natAbs
      let precision ← d.precision.written offset .precision
      let layout : Layout := ⟨(d.writeWidth v).flags, width, precision, d.conversion⟩
      layout.resume policy offset d.precision d.conversion) := by
  rw [render_directive]
  simp only [Directive.drawn_writeWidth, pure_bind, Layout.withWidth]
  exact Directive.written_writeWidth offset v fun width => do
    let precision ← d.precision.written offset .precision
    let layout : Layout := ⟨(d.writeWidth v).flags, width, precision, d.conversion⟩
    layout.resume policy offset d.precision d.conversion

/-- A directive with a drawn width accepts it after the written precision. -/
lemma outcome_drawnWidth (hd : d.width = .fromArgument) (spelling : List Char) (v : Int)
    (n : Nat) (rest : List Argument) :
    (Segment.render policy (.directive offset spelling d)).outcome ⟨n, .integer v :: rest⟩
      = Drawing.outcome (do
          let precision ← d.precision.written offset .precision
          let width ← Size.accept offset .width v.natAbs
          let layout : Layout := ⟨(d.writeWidth v).flags, width, precision, d.conversion⟩
          layout.resume policy offset d.precision d.conversion) ⟨n + 1, rest⟩ := by
  have hlayout : ∀ width precision,
      Layout.plain ⟨{ d.flags with adjustLeft := d.flags.adjustLeft || decide (v < 0) },
        width, precision, d.conversion⟩
      = ⟨(d.writeWidth v).flags, width, precision, d.conversion⟩ := fun _ _ => rfl
  rw [render_directive, hd]
  simp only [← hlayout, Layout.resume_plain]
  rcases d.precision.written_cases offset .precision with ⟨q, hq⟩ | ⟨m, -, -, hm⟩
  · rw [hq]
    simp only [Size.written, Layout.withWidth, pure_bind, bind_assoc, Drawing.outcome_drawn_bind]
  · rw [hm]
    rfl

/-- Drawing a width comes to the same as having it written, unless both it and a written precision
are past the limit. -/
lemma outcome_writeWidth (hd : d.width = .fromArgument) {v : Int}
    (hlimit : ∀ m, d.precision = .literal m → fieldLimit < m → v.natAbs ≤ fieldLimit)
    (spelling spelling' : List Char) (n : Nat) (rest : List Argument) :
    (Segment.render policy (.directive offset spelling d)).outcome ⟨n, .integer v :: rest⟩
      = (Segment.render policy (.directive offset spelling' (d.writeWidth v))).outcome
          ⟨n + 1, rest⟩ := by
  rw [outcome_drawnWidth hd, render_writeWidth]
  rcases d.precision.written_cases offset .precision with ⟨q, hq⟩ | ⟨m, hd', hm, hthrow⟩
  · simp only [hq, pure_bind]
  · simp only [Size.accept_of_le (hlimit m hd' hm), pure_bind]

/-- Where both are past the limit, the drawn width is not looked at and the written one is. -/
lemma outcome_of_limit_lt (hd : d.width = .fromArgument) {v : Int} {m : Nat}
    (hprecision : d.precision = .literal m) (hm : fieldLimit < m) (hv : fieldLimit < v.natAbs)
    (spelling spelling' : List Char) (n : Nat) (s : Supply) (rest : List Argument) :
    (Segment.render policy (.directive offset spelling d)).outcome ⟨n, .integer v :: rest⟩
        = .error (.tooLarge offset .precision m) ∧
    (Segment.render policy (.directive offset spelling' (d.writeWidth v))).outcome s
        = .error (.tooLarge offset .width v.natAbs) := by
  rw [outcome_drawnWidth hd, render_writeWidth, hprecision]
  simp only [Size.written, Size.accept_of_lt hm, Size.accept_of_lt hv]
  exact ⟨rfl, rfl⟩

/-- Drawing a precision comes to the same as having it written. -/
lemma outcome_writePrecision (hwidth : d.width ≠ .fromArgument)
    (hprecision : d.precision = .fromArgument) (v : Int) (spelling spelling' : List Char)
    (n : Nat) (rest : List Argument) :
    (Segment.render policy (.directive offset spelling d)).outcome ⟨n, .integer v :: rest⟩
      = (Segment.render policy (.directive offset spelling' (d.writePrecision v))).outcome
          ⟨n + 1, rest⟩ := by
  have hdrawn : d.width.drawn policy offset .width = pure none := by
    cases hd : d.width with
    | fromArgument => exact absurd hd hwidth
    | absent | literal => rfl
  rw [render_directive, render_directive, hprecision]
  simp only [hdrawn, Directive.writePrecision, pure_bind, Layout.withWidth, Layout.resume]
  rcases d.width.written_cases offset .width with ⟨q, hq⟩ | ⟨m, -, -, hm⟩
  · rw [hq]
    simp only [pure_bind, Drawing.outcome_drawn_bind, Size.written]
    split_ifs with hv
    · simp [Size.drawn, Size.drawnBy, Layout.withPrecision, hv]
    · simp [Size.drawn, Size.drawnBy, Layout.withPrecision, hv]
  · rw [hm]
    rfl

end Segment

end TypedFormat
