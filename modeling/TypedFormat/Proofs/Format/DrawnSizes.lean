import Mathlib
import TypedFormat.Proofs.Format.Concatenation
import TypedFormat.Proofs.Number.Numerals
import TypedFormat.Proofs.Supply.Substitution

/-!
# Sizes drawn and sizes written

A template that is one directive renders as that directive does (`format_template`). So drawing a
width or a precision for it comes to the same as writing that size out in the template and leaving
its argument out, with the indices of the other arguments displaced (`format_drawn_sizes`).
-/

namespace TypedFormat

/-! ### Templates of a single directive -/

/-- What is read as a directive renders as one, also if it is an escape. -/
lemma Scanner.rendition_of_read {policy : Policy} {offset : Nat} {spelling rest : List Char}
    {d : Directive} (hread : Directive.read (spelling ++ rest) = .ok (d, rest)) (s : Supply) :
    rendition policy ⟨offset, '%' :: (spelling ++ rest)⟩ s
      = Segment.renderThen policy (.directive offset spelling d)
          (rendition policy ⟨offset + Utf8.size ('%' :: spelling), rest⟩) s := by
  by_cases hhead : spelling.head? = some '%'
  · obtain ⟨more, rfl⟩ := List.head?_eq_some_iff.mp hhead
    rw [List.cons_append, Directive.read_percent, Except.ok.injEq, Prod.mk.injEq] at hread
    obtain ⟨rfl, hrest⟩ := hread
    obtain rfl : more = [] := by simpa using hrest
    rw [List.cons_append, List.nil_append, rendition_percent]
    rfl
  · exact rendition_directive policy s hhead hread

/-- A call that follows another and excuses nothing comes to the same, or to the same failure
displaced. -/
lemma Pairing.Follows.outcome_eq {P : Pairing} {α : Type} {c d : Drawing α}
    (h : P.Follows id c d) (hexcused : ∀ f, ¬ P.excused f) (s : Supply) :
    d.outcome (P.supply s) = (c.outcome s).mapError P.failure := by
  rcases h s with ⟨f, -, -, hf⟩ | hd
  · exact absurd hf (hexcused f)
  · unfold Drawing.outcome
    rw [hd]
    cases c s <;> rfl

/-- A template that is a single directive. -/
def Wording.template (w : Wording) : String :=
  String.ofList ('%' :: w.spelling)

@[simp] lemma Wording.template_canonical (w : Wording) : w.canonical.template = w.template := by
  rw [template, spelling_canonical, template]

section Template

variable {w : Wording} (hw : w.ZeroFlagFirst) (policy : Policy)

include hw

/-- A directive by itself renders at the beginning of its template. -/
lemma format_template (arguments : List Argument) :
    format w.template arguments policy = Except.map String.ofList
      (Drawing.outcome (Segment.render policy (.directive 0 w.spelling w.directive))
        (.ofList arguments)) := by
  have hread := Directive.read_spelling_append hw []
  have hrendition : Scanner.rendition policy ⟨0, '%' :: (w.spelling ++ [])⟩ (.ofList arguments)
      = _ := Scanner.rendition_of_read hread _
  rw [List.append_nil] at hrendition
  rw [format_eq_map_result, Wording.template, String.toList_ofList, hrendition]
  unfold Segment.renderThen Drawing.outcome
  cases Segment.render policy (.directive 0 w.spelling w.directive) (.ofList arguments) with
  | ok text s => simp [Rendition.prepend, Rendition.result]
  | error f s => rfl

/-- Where arguments were drawn before it, it renders as it does with its own arguments alone, and
only the indices in its failures are further on. -/
lemma map_outcome_eq_mapError (count : Nat) (rest : List Argument) :
    Except.map String.ofList
      (Drawing.outcome (Segment.render policy (.directive 0 w.spelling w.directive)) ⟨count, rest⟩)
      = (format w.template rest policy).mapError (Failure.displace 0 count) := by
  have hfollows := ((Pairing.displaced policy 0 count).render 0 w.spelling w.directive).outcome_eq
    (fun _ => id) (.ofList rest)
  simp only [Pairing.supply, Pairing.displaced, Supply.ofList, List.append_nil, Nat.zero_add]
    at hfollows
  rw [format_template hw, hfollows, Supply.ofList]
  cases Drawing.outcome (Segment.render policy (.directive 0 w.spelling w.directive)) ⟨0, rest⟩ <;>
    rfl

end Template

/-! ### Writing a size out -/

/-- A number written with digits. -/
def SizeWording.decimal (n : Nat) : SizeWording :=
  .digits ⟨Nat.toDigits 10 n, Nat.toDigits_ne_nil,
    fun _ hc => Nat.isDigit_of_mem_toDigits (by decide) (by decide) hc⟩

namespace SizeWording

lemma size_decimal {n : Nat} (hn : n < 2 ^ 64) : (decimal n).size = .literal n := by
  have hvalue : Nat.ofDigitChars 10 (Nat.toDigits 10 n) 0 = n := Nat.ofDigitChars_ten_toDigits
  have hmin : min n (UInt64.size - 1) = n := Nat.min_eq_left (by simp [UInt64.size]; omega)
  simp only [decimal, size, DigitRun.value, hvalue, hmin]

lemma head?_decimal_ne {n : Nat} (hn : n ≠ 0) : (decimal n).spelling.head? ≠ some '0' :=
  head?_toDigits_ne hn

end SizeWording

namespace Wording

/-- The directive with a star for its width. -/
def drawWidth (w : Wording) : Wording :=
  { w with width := .star }

/-- The directive with a star for its precision. -/
def drawPrecision (w : Wording) : Wording :=
  { w with precision := .point .star }

/-- The directive with a width written out: a negative one as a minus flag and its magnitude, and
zero not at all. -/
def writeWidth (w : Wording) (v : Int) : Wording :=
  { w with
    marks := { w.marks with minus := w.marks.minus || decide (v < 0) }
    width := if v = 0 then .absent else .decimal v.natAbs }

/-- The directive with a precision written out: a negative one not at all. -/
def writePrecision (w : Wording) (v : Int) : Wording :=
  { w with precision := if v < 0 then .absent else .point (.decimal v.natAbs) }

lemma zeroFlagFirst_drawWidth (w : Wording) : w.drawWidth.ZeroFlagFirst := by
  intro _
  simp [drawWidth, SizeWording.spelling]

lemma zeroFlagFirst_writeWidth (w : Wording) (v : Int) : (w.writeWidth v).ZeroFlagFirst := by
  intro _
  unfold writeWidth
  split_ifs with hv
  · simp [SizeWording.spelling]
  · exact SizeWording.head?_decimal_ne (Int.natAbs_ne_zero.mpr hv)

lemma directive_writeWidth (w : Wording) {v : Int} (hv : v.natAbs < 2 ^ 64) :
    (w.writeWidth v).directive = w.drawWidth.directive.writeWidth v := by
  have hflags : (w.writeWidth v).marks.flags = (w.drawWidth.directive.writeWidth v).flags := by
    simp [writeWidth, drawWidth, directive, Directive.writeWidth, FlagMarks.flags, Bool.and_assoc]
  have hwidth : (w.writeWidth v).width.size = (w.drawWidth.directive.writeWidth v).width := by
    simp only [writeWidth, Directive.writeWidth]
    split_ifs
    · rfl
    · exact SizeWording.size_decimal hv
  unfold directive
  rw [hflags, hwidth]
  rfl

lemma directive_writePrecision (w : Wording) {v : Int} (hv : v < 2 ^ 64) :
    (w.writePrecision v).directive = w.drawPrecision.directive.writePrecision v := by
  have hprecision : (w.writePrecision v).precision.size
      = (w.drawPrecision.directive.writePrecision v).precision := by
    simp only [writePrecision, Directive.writePrecision]
    split_ifs
    · rfl
    · exact SizeWording.size_decimal (by omega)
  unfold directive
  rw [hprecision]
  rfl

end Wording

/-! ### Drawing a size -/

section Drawn

variable (policy : Policy) (w : Wording) (rest : List Argument)

lemma format_drawWidth {v : Int} (hv : v.natAbs < 2 ^ 64)
    (hlimit : ∀ m, w.precision.size = .literal m → fieldLimit < m → v.natAbs ≤ fieldLimit) :
    format w.drawWidth.template (.integer v :: rest) policy
      = (format (w.writeWidth v).template rest policy).mapError (Failure.displace 0 1) := by
  rw [format_template w.zeroFlagFirst_drawWidth, Supply.ofList,
    Segment.outcome_writeWidth rfl hlimit _ (w.writeWidth v).spelling,
    ← w.directive_writeWidth hv, map_outcome_eq_mapError (w.zeroFlagFirst_writeWidth v)]

/-- Where a written precision is past the limit too, the call fails for that one if the width is
drawn, and for the width if it is written. -/
lemma format_drawWidth_of_lt {v : Int} (hv : v.natAbs < 2 ^ 64) {m : Nat}
    (hprecision : w.precision.size = .literal m) (hm : fieldLimit < m)
    (hlt : fieldLimit < v.natAbs) :
    format w.drawWidth.template (.integer v :: rest) policy = .error (.tooLarge 0 .precision m) ∧
    format (w.writeWidth v).template rest policy = .error (.tooLarge 0 .width v.natAbs) := by
  obtain ⟨hdrawn, hwritten⟩ := @Segment.outcome_of_limit_lt policy 0 w.drawWidth.directive rfl v m
    hprecision hm hlt w.drawWidth.spelling (w.writeWidth v).spelling 0 (.ofList rest) rest
  rw [format_template w.zeroFlagFirst_drawWidth, Supply.ofList, hdrawn,
    format_template (w.zeroFlagFirst_writeWidth v), w.directive_writeWidth hv, hwritten]
  exact ⟨rfl, rfl⟩

lemma format_drawPrecision (hstar : w.width ≠ .star) {v : Int} (hv : v < 2 ^ 64) :
    format w.drawPrecision.template (.integer v :: rest) policy
      = (format (w.writePrecision v).template rest policy).mapError (Failure.displace 0 1) := by
  -- Digits that begin with a zero are read as the zero flag and a shorter width.
  have hdraw : w.drawPrecision.canonical = w.canonical.drawPrecision := rfl
  have hwrite : (w.writePrecision v).canonical = w.canonical.writePrecision v := rfl
  have hwidth : w.canonical.drawPrecision.directive.width ≠ .fromArgument :=
    mt SizeWording.size_eq_fromArgument_iff.mp (w.width_canonical_ne_star hstar)
  rw [← w.drawPrecision.template_canonical, format_template w.drawPrecision.zeroFlagFirst_canonical,
    Supply.ofList, hdraw,
    Segment.outcome_writePrecision hwidth rfl v _ (w.canonical.writePrecision v).spelling,
    ← w.canonical.directive_writePrecision hv, ← hwrite,
    map_outcome_eq_mapError (w.writePrecision v).zeroFlagFirst_canonical, Wording.template_canonical]

/-- The width is drawn before the precision. -/
lemma format_drawWidth_drawPrecision {v p : Int} (hv : v.natAbs < 2 ^ 64) (hp : p < 2 ^ 64) :
    format w.drawWidth.drawPrecision.template (.integer v :: .integer p :: rest) policy
      = (format ((w.writeWidth v).writePrecision p).template rest policy).mapError
          (Failure.displace 0 2) := by
  have hlimit : ∀ m, w.drawPrecision.precision.size ≠ .literal m := fun _ => Size.noConfusion
  have hstar : (w.writeWidth v).width ≠ .star := by
    unfold Wording.writeWidth
    split_ifs <;> simp [SizeWording.decimal]
  calc
    format w.drawPrecision.drawWidth.template (.integer v :: .integer p :: rest) policy
      = (format (w.writeWidth v).drawPrecision.template (.integer p :: rest) policy).mapError
          (Failure.displace 0 1) :=
        format_drawWidth policy w.drawPrecision _ hv fun m hm => absurd hm (hlimit m)
    _ = ((format ((w.writeWidth v).writePrecision p).template rest policy).mapError
          (Failure.displace 0 1)).mapError (Failure.displace 0 1) := by
        rw [format_drawPrecision policy (w.writeWidth v) rest hstar hp]
    _ = (format ((w.writeWidth v).writePrecision p).template rest policy).mapError
          (Failure.displace 0 2) := by
        cases format ((w.writeWidth v).writePrecision p).template rest policy with
        | ok text => rfl
        | error f => cases f <;> rfl

end Drawn

/-- A directive with drawn sizes comes to the same as the directive with these sizes written in it,
apart from the indices of the arguments, which are further on by the number of drawn sizes. A
written precision is checked before a width is drawn, so where the width alone is drawn and both
are past the limit, the precision is what the call fails for, and with both written, the width. -/
theorem format_drawn_sizes (policy : Policy) (w : Wording) (rest : List Argument)
    {width precision : Int} (hwidth : width.natAbs < 2 ^ 64) (hprecision : precision < 2 ^ 64) :
    format w.drawWidth.drawPrecision.template
        (.integer width :: .integer precision :: rest) policy
      = (format ((w.writeWidth width).writePrecision precision).template rest policy).mapError
          (Failure.displace 0 2) ∧
    ((∀ m, w.precision.size = .literal m → fieldLimit < m → width.natAbs ≤ fieldLimit) →
      format w.drawWidth.template (.integer width :: rest) policy
        = (format (w.writeWidth width).template rest policy).mapError (Failure.displace 0 1)) ∧
    (∀ m, w.precision.size = .literal m → fieldLimit < m → fieldLimit < width.natAbs →
      format w.drawWidth.template (.integer width :: rest) policy
          = .error (.tooLarge 0 .precision m) ∧
      format (w.writeWidth width).template rest policy
          = .error (.tooLarge 0 .width width.natAbs)) ∧
    (w.width ≠ .star →
      format w.drawPrecision.template (.integer precision :: rest) policy
        = (format (w.writePrecision precision).template rest policy).mapError
            (Failure.displace 0 1)) := by
  refine ⟨?_, ?_, ?_, ?_⟩
  · exact format_drawWidth_drawPrecision policy w rest hwidth hprecision
  · intro hlimit
    exact format_drawWidth policy w rest hwidth hlimit
  · intro m hm hlt hlt'
    exact format_drawWidth_of_lt policy w rest hwidth hm hlt hlt'
  · intro hstar
    exact format_drawPrecision policy w rest hstar hprecision

/-- A negative width with the zero flag, and sizes past the limit. -/
theorem format_drawn_sizes_of_minus_six :
    (format "%0*.*d" [.integer (-6), .integer 3, .integer 42] .strict = .ok "042   " ∧
      format "%0*d" [.integer (-6)] .strict = .error (.underflow 0 1) ∧
      format "%0.*d" [.integer 3, .character 'x'] .strict
        = .error (.mismatch 0 1 (.value .signed) .character)) ∧
    format "%*.2000000s" [.integer (-3000000)] .lenient = .error (.tooLarge 0 .precision 2000000) ∧
    format "%-3000000.2000000s" [] .lenient = .error (.tooLarge 0 .width 3000000) := by
  let w : Wording := ⟨⟨false, false, false, true⟩, .absent, .absent, .absent, .signed⟩
  let u : Wording :=
    ⟨⟨false, false, false, false⟩, .absent, .point (.decimal 2000000), .absent, .string⟩
  refine ⟨⟨?_, ?_, ?_⟩, ?_⟩
  · have hwritten : format ((w.writeWidth (-6)).writePrecision 3).template [.integer 42] .strict
        = .ok "042   " := by cbv
    have hdrawn := (@format_drawn_sizes .strict w [.integer 42] (-6) 3 (by decide) (by decide)).1
    rw [hwritten] at hdrawn
    exact hdrawn
  · have hwritten : format (w.writeWidth (-6)).template [] .strict = .error (.underflow 0 0) := by
      cbv
    have hdrawn := (@format_drawn_sizes .strict w [] (-6) 0 (by decide) (by decide)).2.1
      fun _ h => Size.noConfusion h
    rw [hwritten] at hdrawn
    exact hdrawn
  · have hwritten : format (w.writePrecision 3).template [.character 'x'] .strict
        = .error (.mismatch 0 0 (.value .signed) .character) := by cbv
    have hdrawn := (@format_drawn_sizes .strict w [.character 'x'] 0 3
      (by decide) (by decide)).2.2.2 SizeWording.noConfusion
    rw [hwritten] at hdrawn
    exact hdrawn
  · exact (@format_drawn_sizes .lenient u [] (-3000000) 0 (by decide) (by decide)).2.2.1
      2000000 (SizeWording.size_decimal (by decide)) (by decide) (by decide)

/-- With a written precision past the limit, a drawn width past the limit does not come to the
same as the width written out. -/
theorem drawn_width_ne_written_width :
    ∃ w : Wording, w.drawWidth.template = "%*.1048577d" ∧
      (w.writeWidth 1048577).template = "%1048577.1048577d" ∧
      format w.drawWidth.template [.integer 1048577] .strict
        = .error (.tooLarge 0 .precision 1048577) ∧
      format (w.writeWidth 1048577).template [] .strict = .error (.tooLarge 0 .width 1048577) ∧
      format w.drawWidth.template [.integer 1048577] .strict
        ≠ (format (w.writeWidth 1048577).template [] .strict).mapError (Failure.displace 0 1) := by
  let w : Wording :=
    ⟨⟨false, false, false, false⟩, .absent, .point (.decimal 1048577), .absent, .signed⟩
  have hdrawn : format w.drawWidth.template [.integer 1048577] .strict
      = .error (.tooLarge 0 .precision 1048577) := by cbv
  have hwritten : format (w.writeWidth 1048577).template [] .strict
      = .error (.tooLarge 0 .width 1048577) := by cbv
  refine ⟨w, by cbv, by cbv, hdrawn, hwritten, ?_⟩
  rw [hdrawn, hwritten]
  exact fun h => by cases h

end TypedFormat
