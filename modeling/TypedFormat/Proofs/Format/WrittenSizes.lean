import Mathlib
import TypedFormat.Proofs.Format.DrawnSizes

/-!
# Directives with written sizes

A template that is one directive whose sizes are written in it, neither of them past the limit, shows
its first argument by the layout that its parts say (`format_written`).
-/

namespace TypedFormat

/-! ### Sizes -/

namespace Size

/-- The size is no `*`, and not past the limit. -/
def IsWritten : Size → Prop
  | .absent       => True
  | .literal n    => n ≤ fieldLimit
  | .fromArgument => False

instance : DecidablePred IsWritten
  | .absent       => isTrue trivial
  | .literal n    => inferInstanceAs (Decidable (n ≤ fieldLimit))
  | .fromArgument => isFalse id

/-- The number that is written for a size. -/
def number? : Size → Option Nat
  | .literal n              => some n
  | .absent | .fromArgument => none

namespace IsWritten

variable {size : Size} (h : size.IsWritten) (offset : Nat) (role : Role)

include h

lemma written_eq : (size.written offset role : Drawing (Option Nat)) = pure size.number? := by
  cases size with
  | absent => rfl
  | literal n =>
    rw [Size.written, accept_of_le h]
    rfl
  | fromArgument => exact h.elim

lemma drawn_eq (policy : Policy) : size.drawn policy offset role = pure none := by
  cases size with
  | absent | literal => rfl
  | fromArgument => exact h.elim

end IsWritten

end Size

/-- With its sizes written, a directive draws nothing but its value. -/
lemma Segment.outcome_written {d : Directive} (hwidth : d.width.IsWritten)
    (hprecision : d.precision.IsWritten) (hvalue : d.conversion.takesValue = true) (policy : Policy)
    (offset : Nat) (spelling : List Char) (n : Nat) (a : Argument) (rest : List Argument) :
    (Segment.render policy (.directive offset spelling d)).outcome ⟨n, a :: rest⟩
      = Settled.render policy offset
          ⟨⟨d.flags, d.width.number?.getD 0, d.precision.number?, d.conversion⟩, some ⟨n, a⟩⟩ := by
  rw [Segment.render_directive]
  simp only [hwidth.written_eq, hprecision.written_eq, hwidth.drawn_eq, hprecision.drawn_eq,
    pure_bind, Layout.withWidth, Layout.resume, Layout.withPrecision, Layout.finish,
    Layout.withValue, hvalue, if_true, bind_assoc]
  show Drawing.outcome (Settled.shown policy offset ⟨_, some ⟨n, a⟩⟩) ⟨n + 1, rest⟩ = _
  unfold Settled.shown Drawing.outcome
  cases Settled.render policy offset _ <;> rfl

/-! ### Wordings -/

/-- A zero in front does not change the number, unless it is all that there is. -/
lemma SizeWording.size_dropZero (w : SizeWording) :
    w.dropZero.size = w.size ∨ w.dropZero.size = .absent ∧ w.size = .literal 0 := by
  cases hzero : w.beginsWithZero with
  | false => exact .inl (congrArg size (dropZero_of_not_beginsWithZero hzero))
  | true =>
    obtain ⟨run, rfl, hdigits, hrest⟩ := dropZero_of_beginsWithZero hzero
    have hvalue : run.value = Nat.ofDigitChars 10 (digits run).dropZero.spelling 0 := by
      rw [DigitRun.value, hdigits, Nat.ofDigitChars_cons]
      rfl
    rcases hrest with hrest | ⟨rest, hrest⟩
    · have hnone : run.value = 0 := by
        rw [hvalue, hrest]
        rfl
      exact .inr ⟨by rw [hrest, size], by rw [size, hnone, Nat.zero_min]⟩
    · have hsame : run.value = rest.value := by
        rw [hvalue, hrest]
        rfl
      exact .inl (by rw [hrest, size, size, hsame])

namespace Wording

/-- The layout that the parts of a directive say, where no size is drawn. A zero in front of the width
is the zero flag. -/
def layout (w : Wording) : Layout :=
  ⟨{ w.marks with zero := w.marks.zero || w.width.beginsWithZero }.flags,
    w.width.size.number?.getD 0, w.precision.size.number?, w.conversion⟩

/-- Both sizes are written, if at all, and not past the limit. -/
structure IsWritten (w : Wording) : Prop where
  width : w.width.size.IsWritten
  precision : w.precision.size.IsWritten

instance (w : Wording) : Decidable w.IsWritten :=
  decidable_of_iff (w.width.size.IsWritten ∧ w.precision.size.IsWritten)
    ⟨fun h => ⟨h.1, h.2⟩, fun h => ⟨h.width, h.precision⟩⟩

/-- The number of the width is the same without the zero that is the zero flag. -/
lemma size_width_canonical (w : Wording) : w.canonical.width.size = w.width.size ∨
    w.canonical.width.size = .absent ∧ w.width.size = .literal 0 := by
  simp only [canonical]
  split_ifs
  · exact .inl rfl
  · exact w.width.size_dropZero

lemma arity_width_canonical (w : Wording) : w.canonical.width.size.arity = w.width.size.arity := by
  rcases w.size_width_canonical with hsame | ⟨habsent, hzero⟩
  · rw [hsame]
  · rw [habsent, hzero]
    rfl

lemma IsWritten.width_canonical {w : Wording} (h : w.IsWritten) :
    w.canonical.width.size.IsWritten ∧
      w.canonical.width.size.number?.getD 0 = w.width.size.number?.getD 0 := by
  rcases w.size_width_canonical with hsame | ⟨habsent, hzero⟩
  · exact ⟨hsame ▸ h.width, congrArg (·.number?.getD 0) hsame⟩
  · rw [habsent, hzero]
    exact ⟨trivial, rfl⟩

end Wording

/-- A directive with its sizes written shows the first argument, by its layout. -/
lemma format_written {w : Wording} (hw : w.IsWritten) (hvalue : w.conversion.takesValue = true)
    (policy : Policy) (a : Argument) (rest : List Argument) :
    format w.template (a :: rest) policy
      = Except.map String.ofList (Settled.render policy 0 ⟨w.layout, some ⟨0, a⟩⟩) := by
  obtain ⟨hwidth, hnumber⟩ := hw.width_canonical
  rw [← w.template_canonical, format_template w.zeroFlagFirst_canonical, Supply.ofList,
    Segment.outcome_written hwidth hw.precision hvalue]
  show Except.map String.ofList (Settled.render policy 0
    ⟨⟨_, w.canonical.width.size.number?.getD 0, w.precision.size.number?, w.conversion⟩, _⟩) = _
  rw [hnumber]
  rfl

lemma format_written_of_show? {w : Wording} (hw : w.IsWritten)
    (hvalue : w.conversion.takesValue = true) {a : Argument} {text : List Char}
    (htext : w.layout.show? a = some text) (policy : Policy) (rest : List Argument) :
    format w.template (a :: rest) policy = .ok (String.ofList text) := by
  rw [format_written hw hvalue, Settled.render]
  simp only [htext]
  rfl

end TypedFormat
