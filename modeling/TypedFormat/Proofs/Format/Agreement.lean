import Mathlib
import TypedFormat.Proofs.Format.WrittenSizes
import TypedFormat.Proofs.Number.Exactness

/-!
# Integers look the same

An integer has the same text with `%d` and with `%s`, and with `%.0f` too if floating point holds it
exactly, whether it is given as an integer or as a float (`format_integers_agree`).
-/

namespace TypedFormat

/-! ### Contents -/

/-- Where no zeros fill it up, the lead of a content is as good as a part of its body. -/
lemma Content.justify_join {content : Content} {width : Nat}
    (h : content.zeroFill = false ∨ width = 0) (adjustLeft : Bool) :
    content.justify adjustLeft width
      = (⟨[], content.lead ++ content.body, false⟩ : Content).justify adjustLeft width := by
  obtain ⟨lead, body, zeroFill⟩ := content
  cases adjustLeft with
  | true => simp [justify, size]
  | false =>
    rcases h with rfl | rfl
    · simp [justify, size]
    · cases zeroFill <;> simp [justify, size]

namespace Layout

variable {layout : Layout}

/-- In base ten and with no precision, an integer is its sign and its digits. -/
lemma integer_signed (hconversion : layout.conversion = .signed) (hprecision : layout.precision = none)
    (v : Int) :
    layout.integer v = ⟨layout.integerSign v, Nat.toDigits 10 v.natAbs, layout.zeroFill⟩ := by
  have hmarker : layout.baseMarker = [] := by
    simp [baseMarker, hconversion]
  have hdigits : layout.digits v.natAbs = Nat.toDigits 10 v.natAbs := by
    simp [digits, hconversion, Conversion.radix]
  have hpos : 0 < (Nat.toDigits 10 v.natAbs).length := Nat.length_toDigits_pos
  have hnone : 1 - (Nat.toDigits 10 v.natAbs).length = 0 := by omega
  simp [integer, hmarker, hdigits, hprecision, hnone]

/-- Without a plus sign and zeros, an integer is laid out as its own text. -/
lemma place_integer_signed (hconversion : layout.conversion = .signed)
    (hprecision : layout.precision = none) (hsign : layout.flags.showSign = false)
    (hzero : layout.flags.zeroPad = false ∨ layout.width = 0) (v : Int) :
    layout.place (layout.integer v) = layout.place ⟨[], integerText v, false⟩ := by
  have htext : layout.integerSign v ++ Nat.toDigits 10 v.natAbs = integerText v := by
    unfold integerSign integerText
    split_ifs <;> simp_all
  rw [place, integer_signed hconversion hprecision, Content.justify_join, htext]
  · rfl
  · exact hzero.imp_left fun h => by simp [zeroFill, h]

/-- An integer that floating point holds is the float nearest to it, rounded to no places. -/
lemma float_ofInt {v : Int} (h : Binary64.IsExact v) (hconversion : layout.conversion = .float)
    (hprecision : layout.precision = some 0) (halternate : layout.flags.alternate = false) :
    layout.float (.ofInt v)
      = { layout with precision := none, conversion := .signed }.integer v := by
  obtain ⟨hfinite, hnegative, hvalue⟩ := Binary64.ofInt_of_isExact h
  have hunits : (Binary64.ofInt v).dyadic.unitsHalfUp 0 = v.natAbs := by
    rw [Dyadic.unitsHalfUp, hvalue, pow_zero, mul_one, Nat.floor_eq_iff (by positivity)]
    constructor <;> norm_num
  have hbody : (Binary64.ofInt v).dyadic.fixedPoint 0 false = Nat.toDigits 10 v.natAbs := by
    rw [Dyadic.fixedPoint_eq, hunits]
    simp [tenTo]
  have hsign : layout.floatSign (.ofInt v)
      = { layout with precision := none, conversion := .signed }.integerSign v := by
    simp [floatSign, integerSign, hnegative, Binary64.isNaN_eq_false hfinite, Conversion.radix]
  rw [integer_signed rfl rfl, float, if_neg (by simp [Binary64.isNaN_eq_false hfinite]),
    if_neg (by simp [Binary64.isInfinite_eq_false hfinite])]
  simp only [hprecision, Option.getD_some, halternate, hbody, hsign]
  simp [zeroFill, hconversion, Conversion.isNumeric]

end Layout

/-! ### Widths that are drawn or written -/

/-- The arguments that a width takes: an integer up to the limit for a `*`, and none if it is written. -/
inductive SizeWording.Takes : SizeWording → List Argument → Prop
  | drawn {v : Int} (h : v.natAbs ≤ fieldLimit) : Takes .star [.integer v]
  | written {width : SizeWording} (h : width.size.IsWritten) : Takes width []

/-- A width that takes its arguments can be written out. -/
lemma Wording.exists_written {w : Wording} {before : List Argument} (h : w.width.Takes before) :
    ∃ minus width, width.size.IsWritten ∧
      (width = w.width ∨ w.width = .star ∧ width.beginsWithZero = false) ∧
      ∀ (precision : PrecisionWording) (conversion : Conversion) (policy : Policy)
        (arguments : List Argument) (text : String),
        format { w with marks := { w.marks with minus }, width, precision, conversion : Wording }.template
            arguments policy = .ok text →
          format { w with precision, conversion : Wording }.template (before ++ arguments) policy
            = .ok text := by
  obtain ⟨marks, width, precision, length, conversion⟩ := w
  cases h with
  | written hwidth => exact ⟨marks.minus, width, hwidth, .inl rfl, fun _ _ _ _ _ htext => htext⟩
  | @drawn v hv =>
    have hlt : v.natAbs < 2 ^ 64 := Nat.lt_of_le_of_lt hv (by decide)
    refine ⟨marks.minus || decide (v < 0), if v = 0 then .absent else .decimal v.natAbs, ?_,
      .inr ⟨rfl, ?_⟩, fun precision conversion policy arguments text htext => ?_⟩
    · split_ifs
      · trivial
      · rwa [SizeWording.size_decimal hlt]
    · split_ifs with hzero
      · rfl
      · exact beq_eq_false_iff_ne.mpr (SizeWording.head?_decimal_ne (Int.natAbs_ne_zero.mpr hzero))
    · let u : Wording := ⟨marks, .star, precision, length, conversion⟩
      have hdrawn := format_drawWidth policy u arguments hlt fun _ _ _ => hv
      exact hdrawn.trans (congrArg _ htext)

/-! ### Texts of integers -/

section Texts

variable (w : Wording) (hwidth : w.width.size.IsWritten) (policy : Policy) (v : Int)
  (rest : List Argument)

include hwidth

lemma exists_text_signed_string (hplus : w.marks.plus = false) (hzero : w.marks.zero = false)
    (hbegins : w.width.beginsWithZero = true → w.width.size = .literal 0) :
    ∃ text,
      format { w with precision := .absent, conversion := .signed : Wording }.template
        (.integer v :: rest) policy = .ok text ∧
      format { w with precision := .absent, conversion := .string : Wording }.template
        (.integer v :: rest) policy = .ok text ∧
      (w.width = .absent → text = String.ofList (Argument.integer v).naturalText) := by
  let signed : Wording := { w with precision := .absent, conversion := .signed }
  let string : Wording := { w with precision := .absent, conversion := .string }
  have hzeros : signed.layout.flags.zeroPad = false ∨ signed.layout.width = 0 := by
    show ((w.marks.zero || w.width.beginsWithZero) && !w.marks.minus) = false
      ∨ w.width.size.number?.getD 0 = 0
    cases hzeroFirst : w.width.beginsWithZero with
    | false => exact .inl (by rw [hzero]; rfl)
    | true => exact .inr (by rw [hbegins hzeroFirst]; rfl)
  have hplace : signed.layout.place (signed.layout.integer v)
      = string.layout.place (string.layout.text (integerText v)) :=
    Layout.place_integer_signed rfl rfl hplus hzeros v
  refine ⟨String.ofList (signed.layout.place (signed.layout.integer v)), ?_, ?_, fun habsent => ?_⟩
  · exact @format_written_of_show? signed ⟨hwidth, trivial⟩ rfl _ _ rfl policy rest
  · rw [hplace]
    exact @format_written_of_show? string ⟨hwidth, trivial⟩ rfl _ _ rfl policy rest
  · have hnone : string.layout.width = 0 := by
      show w.width.size.number?.getD 0 = 0
      rw [habsent]
      rfl
    rw [hplace, Layout.place, Content.justify, hnone]
    simp [Layout.text, Argument.naturalText, string, Wording.layout, PrecisionWording.size, Size.number?]

lemma exists_text_signed_float (hhash : w.marks.hash = false) (hexact : Binary64.IsExact v)
    {precision : PrecisionWording} (hprecision : precision.size = .literal 0) :
    ∃ text,
      format { w with precision := .absent, conversion := .signed : Wording }.template
        (.integer v :: rest) policy = .ok text ∧
      format { w with precision, conversion := .float : Wording }.template
        (.integer v :: rest) policy = .ok text ∧
      format { w with precision, conversion := .float : Wording }.template
        (.float (.ofInt v) :: rest) policy = .ok text := by
  let signed : Wording := { w with precision := .absent, conversion := .signed }
  let float : Wording := { w with precision, conversion := .float }
  have hfloat : float.IsWritten := by
    refine ⟨hwidth, ?_⟩
    show precision.size.IsWritten
    rw [hprecision]
    exact Nat.zero_le _
  have hplaces : float.layout.precision = some 0 := by
    show precision.size.number? = some 0
    rw [hprecision]
    rfl
  have hplace : float.layout.place (float.layout.float (.ofInt v))
      = signed.layout.place (signed.layout.integer v) :=
    congrArg float.layout.place (Layout.float_ofInt hexact rfl hplaces hhash)
  refine ⟨String.ofList (signed.layout.place (signed.layout.integer v)), ?_, ?_, ?_⟩
  · exact @format_written_of_show? signed ⟨hwidth, trivial⟩ rfl _ _ rfl policy rest
  · rw [← hplace]
    exact @format_written_of_show? float hfloat rfl _ _ rfl policy rest
  · rw [← hplace]
    exact @format_written_of_show? float hfloat rfl _ _ rfl policy rest

end Texts

/-- An integer has the same text with `%d` and `%s` at any width on either side, which at no width is its
own text. If floating point holds it exactly, `%.0f` shows the same text as `%d`, with any of the flags
`-`, `+` and `0`, both for the integer and for the float that is nearest to it. Floating point holds all
integers up to `2 ^ 53`, and the least one of 128 bits. -/
theorem format_integers_agree (policy : Policy) (w : Wording) (v : Int) {before : List Argument}
    (hbefore : w.width.Takes before) (rest : List Argument) :
    let shown (precision : PrecisionWording) (conversion : Conversion) (a : Argument) :=
      format { w with precision, conversion : Wording }.template (before ++ a :: rest) policy
    (w.marks.plus = false → w.marks.zero = false →
      (w.width.beginsWithZero = true → w.width.size = .literal 0) →
      ∃ text, shown .absent .signed (.integer v) = .ok text ∧
        shown .absent .string (.integer v) = .ok text ∧
        (w.width = .absent → text = String.ofList (Argument.integer v).naturalText)) ∧
    (w.marks.hash = false → Binary64.IsExact v → ∀ precision : PrecisionWording,
      precision.size = .literal 0 →
      ∃ text, shown .absent .signed (.integer v) = .ok text ∧
        shown precision .float (.integer v) = .ok text ∧
        shown precision .float (.float (.ofInt v)) = .ok text) ∧
    (v.natAbs ≤ 2 ^ 53 ∨ v = -2 ^ 127 → Binary64.IsExact v) := by
  intro shown
  obtain ⟨minus, width, hwidth, horigin, hshown⟩ := Wording.exists_written hbefore
  refine ⟨fun hplus hzero hbegins => ?_, fun hhash hexact precision hprecision => ?_, ?_⟩
  · have hbegins' : width.beginsWithZero = true → width.size = .literal 0 := by
      rcases horigin with rfl | ⟨-, hnot⟩
      · exact hbegins
      · exact fun h => absurd h (by simp [hnot])
    obtain ⟨text, hsigned, hstring, hnatural⟩ := exists_text_signed_string
      { w with marks := { w.marks with minus }, width } hwidth policy v rest hplus hzero hbegins'
    refine ⟨text, hshown _ _ _ _ _ hsigned, hshown _ _ _ _ _ hstring, fun habsent => hnatural ?_⟩
    rcases horigin with rfl | ⟨hstar, -⟩
    · exact habsent
    · rw [hstar] at habsent
      cases habsent
  · obtain ⟨text, hsigned, hinteger, hfloat⟩ := exists_text_signed_float
      { w with marks := { w.marks with minus }, width } hwidth policy v rest hhash hexact hprecision
    exact ⟨text, hshown _ _ _ _ _ hsigned, hshown _ _ _ _ _ hinteger, hshown _ _ _ _ _ hfloat⟩
  · rintro (hle | rfl)
    · exact Binary64.isExact_of_natAbs_le hle
    · exact @Binary64.isExact_of_natAbs_eq _ 1 127 (by decide) (by decide) (by decide)

/-- A drawn width to the left, and the least integer of 128 bits with a sign and zeros. -/
theorem format_integers_agree_of_least :
    (format "%-*d" [.integer 6, .integer (-42)] .strict = .ok "-42   " ∧
      format "%-*s" [.integer 6, .integer (-42)] .strict = .ok "-42   ") ∧
    Binary64.IsExact (-2 ^ 127) ∧
    format "%+045d" [.integer (-2 ^ 127)] .strict
      = .ok "-00000170141183460469231731687303715884105728" ∧
    format "%+045.0f" [.integer (-2 ^ 127)] .strict
      = .ok "-00000170141183460469231731687303715884105728" ∧
    format "%+045.0f" [.float ⟨0xC7E0000000000000⟩] .strict
      = .ok "-00000170141183460469231731687303715884105728" := by
  let left : Wording := ⟨⟨true, false, false, false⟩, .star, .absent, .absent, .signed⟩
  let zeros : Wording := ⟨⟨false, true, false, true⟩, .decimal 45, .absent, .absent, .signed⟩
  obtain ⟨text, hsigned, hstring, -⟩ := (format_integers_agree .strict left (-42)
    (.drawn (v := 6) (by decide)) []).1 rfl rfl (by decide)
  have hleft : format left.template [.integer 6, .integer (-42)] .strict = .ok "-42   " := by cbv
  obtain rfl : text = "-42   " := Except.ok.inj (hsigned.symm.trans hleft)
  obtain ⟨-, hfloat, hleast⟩ := format_integers_agree .strict zeros (-2 ^ 127)
    (.written (by decide)) []
  have hexact : Binary64.IsExact (-2 ^ 127) := hleast (.inr rfl)
  obtain ⟨text, hsigned, hinteger, hnearest⟩ := hfloat rfl hexact (.point (.decimal 0))
    (SizeWording.size_decimal (by decide))
  have htext : format zeros.template [.integer (-2 ^ 127)] .strict
      = .ok "-00000170141183460469231731687303715884105728" := by cbv
  obtain rfl : text = "-00000170141183460469231731687303715884105728" :=
    Except.ok.inj (hsigned.symm.trans htext)
  have hofInt : Binary64.ofInt (-2 ^ 127) = ⟨0xC7E0000000000000⟩ := by decide +kernel
  rw [hofInt] at hnearest
  exact ⟨⟨hleft, hstring⟩, hexact, htext, hinteger, hnearest⟩

end TypedFormat
