import Mathlib
import TypedFormat.Proofs.Format.WrittenSizes

/-!
# What does not fit falls back

An argument that does not fit a conversion is leniently shown as `%s` shows it, with the same width and on
the same side, whatever the other flags and the precision are. An argument that is no integer is leniently
passed over where a size is drawn, so the call comes to that of the directive without the `*`, without
that argument.
-/

namespace TypedFormat

/-! ### Fitting -/

/-- An argument fits a conversion: integers fit all of them but `%c`, which they fit if they are the number
of a character. -/
def Argument.Fits (c : Conversion) : Argument → Prop
  | .integer v                    => c = .character → 0 ≤ v ∧ v < 0xD800 ∨ 0xDFFF < v ∧ v < 0x110000
  | .float _                      => c = .float ∨ c = .string
  | .character _                  => c = .character ∨ c = .string
  | .text _ | .boolean _ | .raw _ => c = .string

instance (c : Conversion) : DecidablePred (Argument.Fits c)
  | .integer v => inferInstanceAs
    (Decidable (c = .character → 0 ≤ v ∧ v < 0xD800 ∨ 0xDFFF < v ∧ v < 0x110000))
  | .float _ => inferInstanceAs (Decidable (c = .float ∨ c = .string))
  | .character _ => inferInstanceAs (Decidable (c = .character ∨ c = .string))
  | .text _ | .boolean _ | .raw _ => inferInstanceAs (Decidable (c = .string))

lemma scalar?_eq_none_iff {v : Int} :
    scalar? v = none ↔ ¬ (0 ≤ v ∧ v < 0xD800 ∨ 0xDFFF < v ∧ v < 0x110000) := by
  simp only [scalar?, Nat.isValidChar, ite_eq_right_iff, reduceCtorEq, imp_false]
  omega

/-- What fits is shown by the rule of the conversion, and nothing else is. -/
lemma Layout.show?_eq_none_iff {layout : Layout} (h : layout.conversion.takesValue = true)
    (a : Argument) : layout.show? a = none ↔ ¬ a.Fits layout.conversion := by
  obtain ⟨flags, width, precision, conversion⟩ := layout
  cases conversion with
  | percent => cases h
  | character =>
    cases a with
    | integer v => simp [show?, Argument.Fits, scalar?_eq_none_iff]
    | _ => simp [show?, Argument.Fits]
  | _ => cases a <;> simp [show?, Argument.Fits]

namespace Wording

/-- The conversion `%s` in the place of another, with the same width on the same side and nothing else. -/
def fallback (w : Wording) : Wording :=
  ⟨⟨w.marks.minus, false, false, false⟩, w.width, .absent, .absent, .string⟩

lemma show?_layout_fallback (w : Wording) (a : Argument) :
    w.fallback.layout.show? a = some (w.layout.showNatural a) := rfl

lemma IsWritten.fallback {w : Wording} (h : w.IsWritten) : w.fallback.IsWritten where
  width := h.width
  precision := trivial

end Wording

section Written

variable {w : Wording} (hw : w.IsWritten) (hvalue : w.conversion.takesValue = true) (a : Argument)
  (rest : List Argument)

include hw hvalue

lemma format_of_fits (h : a.Fits w.conversion) :
    ∃ text, ∀ policy, format w.template (a :: rest) policy = .ok text := by
  have hsome : w.layout.show? a ≠ none :=
    fun hnone => (@Layout.show?_eq_none_iff w.layout hvalue a).mp hnone h
  obtain ⟨text, htext⟩ := Option.ne_none_iff_exists'.mp hsome
  exact ⟨String.ofList text, fun policy => format_written_of_show? hw hvalue htext policy rest⟩

lemma format_of_not_fits (h : ¬ a.Fits w.conversion) :
    format w.template (a :: rest) .strict
      = .error (.mismatch 0 0 (.value w.conversion) a.kind) ∧
    ∃ text, format w.template (a :: rest) .lenient = .ok text ∧
      ∀ policy, format w.fallback.template (a :: rest) policy = .ok text := by
  have hnone : w.layout.show? a = none := (Layout.show?_eq_none_iff hvalue a).mpr h
  refine ⟨?_, String.ofList (w.layout.showNatural a), ?_, fun policy =>
    format_written_of_show? hw.fallback rfl (w.show?_layout_fallback a) policy rest⟩
  · rw [format_written hw hvalue, Settled.render]
    simp only [hnone]
    rfl
  · rw [format_written hw hvalue, Settled.render]
    simp only [hnone]
    rfl

end Written

/-! ### Sizes that are passed over -/

/-- What is drawn leniently for a size is drawn whatever comes after it. -/
lemma Size.exists_drawn (offset : Nat) (role : Role) {size : Size} {before : List Argument}
    (h : before.length = size.arity) : ∃ v, ∀ n rest,
      size.drawn .lenient offset role ⟨n, before ++ rest⟩ = .ok v ⟨n + before.length, rest⟩ := by
  cases size with
  | absent | literal =>
    obtain rfl := List.length_eq_zero_iff.mp h
    exact ⟨none, fun _ _ => rfl⟩
  | fromArgument =>
    obtain ⟨b, rfl⟩ := List.length_eq_one_iff.mp h
    cases b with
    | integer v => exact ⟨some v, fun _ _ => rfl⟩
    | _ => exact ⟨none, fun _ _ => rfl⟩

/-- An argument that is no integer is leniently passed over. -/
lemma Drawing.outcome_passed_bind {α : Type} (offset : Nat) (role : Role) {a : Argument}
    (ha : a.kind ≠ .integer) (n : Nat) (rest : List Argument) (g : Option Int → Drawing α) :
    outcome (Size.drawn .lenient offset role .fromArgument >>= g) ⟨n, a :: rest⟩
      = outcome (g none) ⟨n + 1, rest⟩ := by
  cases a with
  | integer v => exact absurd rfl ha
  | _ => rfl

lemma Drawing.outcome_bind_of_ok {α β : Type} {c : Drawing α} {s s' : Supply} {v : α}
    (h : c s = .ok v s') (g : α → Drawing β) : outcome (c >>= g) s = outcome (g v) s' := by
  rw [outcome, bind_of_ok h, outcome]

lemma Layout.withWidth_cases (offset : Nat) (layout : Layout) (v : Option Int) :
    (∃ settled, (layout.withWidth offset v : Drawing Layout) = pure settled) ∨
      ∃ failure, (layout.withWidth offset v : Drawing Layout) = throw failure := by
  cases v with
  | none => exact .inl ⟨layout, rfl⟩
  | some v =>
    rw [withWidth]
    rcases Nat.lt_or_ge fieldLimit v.natAbs with hlt | hle
    · rw [Size.accept_of_lt hlt]
      exact .inr ⟨_, rfl⟩
    · rw [Size.accept_of_le hle]
      exact .inl ⟨_, rfl⟩

namespace Segment

variable {offset : Nat} {d : Directive} {a : Argument}

lemma outcome_passedWidth (hd : d.width = .fromArgument) (ha : a.kind ≠ .integer)
    (spelling spelling' : List Char) (n : Nat) (rest : List Argument) :
    (Segment.render .lenient (.directive offset spelling d)).outcome ⟨n, a :: rest⟩
      = (Segment.render .lenient (.directive offset spelling' { d with width := .absent })).outcome
          ⟨n + 1, rest⟩ := by
  have hwritten : (Size.written offset .width .fromArgument : Drawing (Option Nat)) = pure none := rfl
  have habsent : (Size.written offset .width .absent : Drawing (Option Nat)) = pure none := rfl
  have hdrawn : Size.drawn .lenient offset .width .absent = pure none := rfl
  rw [render_directive, render_directive, hd]
  simp only [hwritten, habsent, hdrawn, pure_bind]
  rcases d.precision.written_cases offset .precision with ⟨q, hq⟩ | ⟨m, -, -, hm⟩
  · simp only [hq, pure_bind]
    exact Drawing.outcome_passed_bind offset .width ha n rest _
  · rw [hm]
    rfl

/-- The arguments before it are those that a width is drawn from. -/
lemma outcome_passedPrecision (hd : d.precision = .fromArgument) (ha : a.kind ≠ .integer)
    (spelling spelling' : List Char) {before : List Argument} (hbefore : before.length = d.width.arity)
    (n : Nat) (rest : List Argument) :
    (Segment.render .lenient (.directive offset spelling d)).outcome ⟨n, before ++ a :: rest⟩
      = (Segment.render .lenient (.directive offset spelling' { d with precision := .absent })).outcome
          ⟨n + 1, before ++ rest⟩ := by
  have hwritten : (Size.written offset .precision .fromArgument : Drawing (Option Nat)) = pure none :=
    rfl
  have habsent : (Size.written offset .precision .absent : Drawing (Option Nat)) = pure none := rfl
  have hdrawn : Size.drawn .lenient offset .precision .absent = pure none := rfl
  rw [render_directive, render_directive, hd]
  simp only [hwritten, habsent, pure_bind]
  rcases d.width.written_cases offset .width with ⟨q, hq⟩ | ⟨m, -, -, hm⟩
  · obtain ⟨v, hv⟩ := Size.exists_drawn offset .width hbefore
    simp only [hq, pure_bind]
    rw [Drawing.outcome_bind_of_ok (hv n _), Drawing.outcome_bind_of_ok (hv (n + 1) _)]
    rcases Layout.withWidth_cases offset ⟨d.flags, q.getD 0, none, d.conversion⟩ v with
      ⟨layout, hlayout⟩ | ⟨failure, hfailure⟩
    · simp only [hlayout, pure_bind, Layout.resume, hdrawn, Layout.withPrecision]
      rw [Drawing.outcome_passed_bind offset .precision ha, Nat.add_right_comm]
      rfl
    · rw [hfailure]
      rfl
  · rw [hm]
    rfl

end Segment

section Passed

variable (w : Wording) {a : Argument} (ha : a.kind ≠ .integer) (rest : List Argument)

include ha

lemma format_passedWidth : format w.drawWidth.template (a :: rest) .lenient
    = (format { w with width := .absent : Wording }.template rest .lenient).mapError
        (Failure.displace 0 1) := by
  have habsent : { w with width := .absent : Wording }.ZeroFlagFirst := by
    intro _
    simp [SizeWording.spelling]
  rw [format_template w.zeroFlagFirst_drawWidth, Supply.ofList, Segment.outcome_passedWidth rfl ha,
    ← map_outcome_eq_mapError habsent]
  rfl

lemma format_passedPrecision {before : List Argument} (hbefore : before.length = w.width.size.arity) :
    format w.drawPrecision.template (before ++ a :: rest) .lenient
      = (format { w with precision := .absent : Wording }.template (before ++ rest) .lenient).mapError
          (Failure.displace 0 1) := by
  have hcanonical : before.length = w.canonical.width.size.arity :=
    hbefore.trans w.arity_width_canonical.symm
  have habsent := { w with precision := .absent : Wording }.zeroFlagFirst_canonical
  rw [← w.drawPrecision.template_canonical, format_template w.drawPrecision.zeroFlagFirst_canonical,
    Supply.ofList, Segment.outcome_passedPrecision rfl ha _
      { w with precision := .absent : Wording }.canonical.spelling hcanonical,
    ← Wording.template_canonical, ← map_outcome_eq_mapError habsent]
  rfl

end Passed

/-- With its sizes written, a directive fails strictly for an argument that does not fit its conversion,
and for no other. Leniently such an argument is shown as `%s` shows it, with the same width on the same
side and without the other flags, the precision and the length. An argument that is no integer is
leniently passed over as a width or as a precision: the call comes to that without this size and without
this argument, apart from the index of an argument that is wanting. -/
theorem format_fallback (w : Wording) (a : Argument) (rest : List Argument) :
    (w.IsWritten → w.conversion ≠ .percent →
      (format w.template (a :: rest) .strict
          = .error (.mismatch 0 0 (.value w.conversion) a.kind) ↔ ¬ a.Fits w.conversion) ∧
      (a.Fits w.conversion → ∃ text, ∀ policy, format w.template (a :: rest) policy = .ok text) ∧
      (¬ a.Fits w.conversion → ∃ text, format w.template (a :: rest) .lenient = .ok text ∧
        ∀ policy, format w.fallback.template (a :: rest) policy = .ok text)) ∧
    (a.kind ≠ .integer →
      format w.drawWidth.template (a :: rest) .lenient
        = (format { w with width := .absent : Wording }.template rest .lenient).mapError
            (Failure.displace 0 1) ∧
      ∀ before : List Argument, before.length = w.width.size.arity →
        format w.drawPrecision.template (before ++ a :: rest) .lenient
          = (format { w with precision := .absent : Wording }.template (before ++ rest)
              .lenient).mapError (Failure.displace 0 1)) := by
  refine ⟨fun hw hpercent => ?_, fun ha => ⟨?_, fun before hbefore => ?_⟩⟩
  · have hvalue : w.conversion.takesValue = true := Conversion.takesValue_iff.mpr hpercent
    refine ⟨⟨fun hstrict hfits => ?_, fun hnot => ?_⟩, ?_, fun hnot => ?_⟩
    · obtain ⟨text, htext⟩ := format_of_fits hw hvalue a rest hfits
      rw [htext] at hstrict
      cases hstrict
    · exact (format_of_not_fits hw hvalue a rest hnot).1
    · exact format_of_fits hw hvalue a rest
    · exact (format_of_not_fits hw hvalue a rest hnot).2
  · exact format_passedWidth w ha rest
  · exact format_passedPrecision w ha rest hbefore

/-- The first surrogate is no character, and a text and a boolean are no sizes. -/
theorem format_fallback_of_surrogate :
    (format "%-+08.1llc" [.integer 0xD800] .strict
        = .error (.mismatch 0 0 (.value .character) .integer) ∧
      format "%-+08.1llc" [.integer 0xD800] .lenient = .ok "55296   " ∧
      format "%-8s" [.integer 0xD800] .strict = .ok "55296   ") ∧
    format "%0*d" [.text "wide"] .lenient = .error (.underflow 0 1) ∧
    format "%*.*d" [.integer 4, .boolean true, .integer 7] .lenient = .ok "   7" := by
  let w : Wording :=
    ⟨⟨true, true, false, true⟩, .decimal 8, .point (.decimal 1), .ll, .character⟩
  let u : Wording := ⟨⟨false, false, false, true⟩, .absent, .absent, .absent, .signed⟩
  let x : Wording := ⟨⟨false, false, false, false⟩, .star, .absent, .absent, .signed⟩
  have hw : w.IsWritten := by decide
  have hnot : ¬ Argument.Fits .character (.integer 0xD800) := by decide
  obtain ⟨hstrict, -, hlenient⟩ := (format_fallback w (.integer 0xD800) []).1 hw (by decide)
  obtain ⟨text, htext, hfallback⟩ := hlenient hnot
  have hshown : format w.template [.integer 0xD800] .lenient = .ok "55296   " := by cbv
  obtain rfl : text = "55296   " := Except.ok.inj (htext.symm.trans hshown)
  refine ⟨⟨hstrict.mpr hnot, htext, hfallback .strict⟩, ?_, ?_⟩
  · have hpassed := ((format_fallback u (.text "wide") []).2 (by decide)).1
    have hbare : format { u with width := .absent : Wording }.template [] .lenient
        = .error (.underflow 0 0) := by cbv
    rw [hbare] at hpassed
    exact hpassed
  · have hpassed := ((format_fallback x (.boolean true) [.integer 7]).2 (by decide)).2
      [.integer 4] rfl
    have hbare : format x.template [.integer 4, .integer 7] .lenient = .ok "   7" := by cbv
    exact hpassed.trans (congrArg _ hbare)

end TypedFormat
