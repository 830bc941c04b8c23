import Mathlib
import TypedFormat.Proofs.Checked.Rendering
import TypedFormat.Proofs.Number.Bases

/-!
# Integers are laid out exactly

The text of an integer is its sign, the base marker and digits that write its magnitude, with spaces
around them. There are no more digits than the magnitude, the precision and the zeros that fill up the
width ask for. The integer is read back from its text (`Layout.place_integer`), unless it is zero with no
digits at all.
-/

namespace TypedFormat

namespace Conversion

/-- The conversions that write integers. -/
def writesIntegers : Conversion → Bool
  | .signed | .hexLower | .hexUpper | .octal => true
  | .string | .float | .character | .percent => false

/-- Of the conversions that write integers, one has base ten. -/
lemma radix_eq_ten_iff {c : Conversion} (h : c.writesIntegers = true) : c.radix = 10 ↔ c = .signed := by
  revert h
  cases c <;> decide

end Conversion

/-- A text without the spaces at its two ends. -/
def trimSpaces (text : List Char) : List Char :=
  ((text.dropWhile (· == ' ')).reverse.dropWhile (· == ' ')).reverse

namespace Layout

/-- How many digits an integer has behind a lead. The precision asks for a least number of them, and so
does the width where zeros fill up. Zero with precision zero has none. -/
def digitCount (layout : Layout) (lead : List Char) (v : Int) : Nat :=
  let shortest := Nat.log layout.conversion.radix v.natAbs + 1
  match layout.precision with
  | some p => if v = 0 ∧ p = 0 then 0 else max p shortest
  | none   =>
    if layout.flags.zeroPad && !layout.flags.adjustLeft then max (layout.width - lead.length) shortest
    else shortest

/-! ### Reading -/

/-- A text without the base marker, if digits come behind that. -/
def dropMarker (layout : Layout) (text : List Char) : List Char :=
  if layout.baseMarker <+: text ∧ text ≠ layout.baseMarker then
    text.drop layout.baseMarker.length
  else text

/-- Reads a magnitude from its digits, behind the base marker if there is one. -/
def readMagnitude? (layout : Layout) (text : List Char) : Option Nat :=
  let digits := layout.dropMarker text
  if digits ≠ [] ∧ ∀ x ∈ digits, x ∈ layout.conversion.alphabet then
    some (layout.conversion.valueOf digits)
  else none

/-- Reads an integer from its sign and its magnitude. -/
def readSigned? (layout : Layout) : List Char → Option Int
  | '-' :: text => (layout.readMagnitude? text).map fun n : Nat => -(n : Int)
  | '+' :: text => (layout.readMagnitude? text).map fun n : Nat => (n : Int)
  | text        => (layout.readMagnitude? text).map fun n : Nat => (n : Int)

/-- Reads an integer from its text, with no regard to the spaces around it. -/
def readInteger? (layout : Layout) (text : List Char) : Option Int :=
  layout.readSigned? (trimSpaces text)

end Layout

/-! ### Spaces -/

lemma head?_ne_space {text : List Char} (h : ' ' ∉ text) : text.head? ≠ some ' ' :=
  fun hhead => h (List.mem_of_mem_head? hhead)

lemma dropWhile_space_eq_self {text : List Char} (h : text.head? ≠ some ' ') :
    text.dropWhile (· == ' ') = text := by
  cases text with
  | nil => rfl
  | cons c rest => exact List.dropWhile_cons_of_neg (by simpa using h)

lemma dropWhile_spaces_append (n : Nat) {text : List Char} (h : ' ' ∉ text) :
    (List.replicate n ' ' ++ text).dropWhile (· == ' ') = text := by
  rw [List.dropWhile_append_of_pos (by simp), dropWhile_space_eq_self (head?_ne_space h)]

lemma trimSpaces_spaces_append (n : Nat) {text : List Char} (h : ' ' ∉ text) :
    trimSpaces (List.replicate n ' ' ++ text) = text := by
  have hback : ' ' ∉ text.reverse := mt List.mem_reverse.mp h
  rw [trimSpaces, dropWhile_spaces_append n h, dropWhile_space_eq_self (head?_ne_space hback),
    List.reverse_reverse]

lemma trimSpaces_append_spaces (n : Nat) {text : List Char} (h : ' ' ∉ text) :
    trimSpaces (text ++ List.replicate n ' ') = text := by
  cases text with
  | nil =>
    have hspaces := trimSpaces_spaces_append n h
    rwa [List.append_nil] at hspaces
  | cons c rest =>
    have hback : ' ' ∉ (c :: rest).reverse := mt List.mem_reverse.mp h
    have hhead : (c :: rest).head? ≠ some ' ' := head?_ne_space h
    have hfront : (c :: rest ++ List.replicate n ' ').dropWhile (· == ' ')
        = c :: rest ++ List.replicate n ' ' := dropWhile_space_eq_self hhead
    rw [trimSpaces, hfront, List.reverse_append, List.reverse_replicate,
      dropWhile_spaces_append n hback, List.reverse_reverse]

namespace Layout

variable (layout : Layout)

/-! ### Digits -/

/-- A base marker with digits only is made of zeros. -/
lemma baseMarker_of_mem_alphabet (h : ∀ x ∈ layout.baseMarker, x ∈ layout.conversion.alphabet) :
    ∃ n, layout.baseMarker = List.replicate n '0' := by
  rw [baseMarker_eq] at h ⊢
  split_ifs at h ⊢ with halternate
  · cases hconversion : layout.conversion with
    | octal => exact ⟨1, rfl⟩
    | hexLower | hexUpper =>
      rw [hconversion] at h
      exact absurd (h _ (List.mem_cons_of_mem _ List.mem_cons_self)) (by decide)
    | string | signed | float | character | percent => exact ⟨0, rfl⟩
  · exact ⟨0, rfl⟩

lemma dropMarker_append {digits : List Char} (hne : digits ≠ []) :
    layout.dropMarker (layout.baseMarker ++ digits) = digits := by
  have hmarked : layout.baseMarker <+: layout.baseMarker ++ digits
      ∧ layout.baseMarker ++ digits ≠ layout.baseMarker :=
    ⟨List.prefix_append _ _, by simpa using hne⟩
  rw [dropMarker, if_pos hmarked, List.drop_left]

/-- Digits alone may lose zeros as a base marker, but neither all digits nor their value. -/
lemma dropMarker_digits {digits : List Char} (hne : digits ≠ [])
    (hdigits : ∀ x ∈ digits, x ∈ layout.conversion.alphabet) :
    layout.dropMarker digits ≠ [] ∧
      (∀ x ∈ layout.dropMarker digits, x ∈ layout.conversion.alphabet) ∧
      layout.conversion.valueOf (layout.dropMarker digits) = layout.conversion.valueOf digits := by
  by_cases hmarked : layout.baseMarker <+: digits ∧ digits ≠ layout.baseMarker
  · obtain ⟨⟨rest, rfl⟩, hmore⟩ := hmarked
    have hrest : rest ≠ [] := by simpa using hmore
    obtain ⟨n, hzeros⟩ := layout.baseMarker_of_mem_alphabet fun x hx =>
      hdigits x (List.mem_append_left rest hx)
    rw [layout.dropMarker_append hrest]
    refine ⟨hrest, fun x hx => hdigits x (List.mem_append_right _ hx), ?_⟩
    rw [hzeros, Conversion.valueOf_zeros_append]
  · rw [dropMarker, if_neg hmarked]
    exact ⟨hne, hdigits, rfl⟩

lemma readMagnitude?_nil : layout.readMagnitude? [] = none := by
  have hdrop : layout.dropMarker [] = [] := by
    unfold dropMarker
    split_ifs <;> simp
  rw [readMagnitude?, hdrop]
  rfl

/-- A magnitude is read from its digits behind the marker, and zero from digits alone. -/
lemma readMagnitude?_append {digits : List Char} (hne : digits ≠ [])
    (hdigits : ∀ x ∈ digits, x ∈ layout.conversion.alphabet) (v : Int) :
    layout.readMagnitude? (layout.integerMarker v ++ digits)
      = some (layout.conversion.valueOf digits) := by
  unfold readMagnitude?
  by_cases hzero : v = 0
  · obtain ⟨hsome, hrest, hvalue⟩ := layout.dropMarker_digits hne hdigits
    rw [hzero, integerMarker_zero, List.nil_append, if_pos ⟨hsome, hrest⟩, hvalue]
  · rw [layout.integerMarker_of_ne hzero, layout.dropMarker_append hne, if_pos ⟨hne, hdigits⟩]

end Layout

/-! ### Filling up -/

namespace Content

/-- The body of a content, behind the zeros that fill up the width. -/
def filled (content : Content) (adjustLeft : Bool) (width : Nat) : List Char :=
  List.replicate (if !adjustLeft && content.zeroFill then width - content.size else 0) '0'
    ++ content.body

lemma length_filled (content : Content) (adjustLeft : Bool) (width : Nat) :
    (content.filled adjustLeft width).length
      = if !adjustLeft && content.zeroFill then max (width - content.lead.length) content.body.length
        else content.body.length := by
  unfold filled size
  split_ifs
  · rw [List.length_append, List.length_replicate]
    omega
  · rw [List.length_append, List.length_replicate, Nat.zero_add]

/-- A content stands within spaces, of which there are none where zeros fill up. -/
lemma justify_eq (content : Content) (adjustLeft : Bool) (width : Nat) :
    let core := content.lead ++ content.filled adjustLeft width
    let spaces := List.replicate (width - core.length) ' '
    content.justify adjustLeft width = if adjustLeft then core ++ spaces else spaces ++ core := by
  intro core spaces
  have hfilled := content.length_filled adjustLeft width
  by_cases hfill : (!adjustLeft && content.zeroFill) = true
  · obtain ⟨hright, hzero⟩ : adjustLeft = false ∧ content.zeroFill = true := by simpa using hfill
    have hspaces : spaces = [] := by
      rw [if_pos hfill] at hfilled
      simp only [spaces, core, List.length_append, hfilled, List.replicate_eq_nil_iff]
      omega
    have hjustify : content.justify adjustLeft width = core := by
      simp [justify, core, filled, hright, hzero]
    rw [hjustify, hspaces, hright, List.nil_append]
    rfl
  · have hcore : core = content.lead ++ content.body := by
      simp only [core, filled, if_neg hfill, List.replicate_zero, List.nil_append]
    have hsize : content.size = core.length := by rw [hcore, List.length_append, size]
    cases adjustLeft with
    | true =>
      rw [justify, hsize, ← hcore]
      rfl
    | false =>
      have hzero : content.zeroFill = false := by simpa using hfill
      rw [justify, hsize, hzero, List.append_assoc (List.replicate _ ' '), ← hcore]
      rfl

end Content

namespace Layout

variable (layout : Layout)

/-- The digits of an integer, with the zeros that fill up the width. -/
def filledDigits (v : Int) : List Char :=
  (layout.integer v).filled layout.flags.adjustLeft layout.width

lemma mem_alphabet_of_mem_filledDigits (v : Int) :
    ∀ x ∈ layout.filledDigits v, x ∈ layout.conversion.alphabet := by
  intro x hx
  rcases List.mem_append.mp hx with hzero | hbody
  · rw [List.eq_of_mem_replicate hzero]
    exact layout.conversion.zero_mem_alphabet
  · exact layout.mem_alphabet_of_mem_body v x hbody

lemma valueOf_filledDigits (v : Int) :
    layout.conversion.valueOf (layout.filledDigits v) = v.natAbs := by
  rw [filledDigits, Content.filled, Conversion.valueOf_zeros_append]
  unfold integer
  dsimp only
  split_ifs with hnone
  · rw [hnone.1]
    rfl
  · rw [Conversion.valueOf_zeros_append, valueOf_digits]

lemma length_body_integer (v : Int) :
    (layout.integer v).body.length
      = if v = 0 ∧ layout.precision = some 0 then 0
        else max (layout.precision.getD 1) (Nat.log layout.conversion.radix v.natAbs + 1) := by
  unfold integer
  dsimp only
  split_ifs
  · rfl
  · rw [List.length_append, List.length_replicate, length_digits]
    omega

lemma length_filledDigits (h : layout.conversion.writesIntegers = true) (v : Int) :
    (layout.filledDigits v).length = layout.digitCount (layout.integer v).lead v := by
  have hnumeric : layout.conversion.isNumeric = true := by
    cases hconversion : layout.conversion <;> rw [hconversion] at h <;> trivial
  have hzero : (layout.integer v).zeroFill
      = (layout.flags.zeroPad && !layout.flags.adjustLeft && layout.precision.isNone) := by
    rw [integer, zeroFill, hnumeric, Bool.and_true]
  rw [filledDigits, Content.length_filled, length_body_integer, hzero, digitCount]
  cases layout.precision with
  | some p => simp
  | none =>
    cases layout.flags.zeroPad <;> cases layout.flags.adjustLeft <;> simp

lemma filledDigits_eq_nil_iff (h : layout.conversion.writesIntegers = true) (v : Int) :
    layout.filledDigits v = [] ↔ v = 0 ∧ layout.precision = some 0 := by
  rw [← List.length_eq_zero_iff, layout.length_filledDigits h, digitCount]
  cases layout.precision with
  | some p =>
    dsimp only
    split_ifs with hnone
    · exact iff_of_true rfl ⟨hnone.1, congrArg some hnone.2⟩
    · exact iff_of_false (by omega) fun hzero => hnone ⟨hzero.1, Option.some.inj hzero.2⟩
  | none =>
    refine iff_of_false ?_ fun hzero => nomatch hzero.2
    dsimp only
    split_ifs <;> simp

/-! ### Texts -/

/-- A plus sign, which goes with base ten only, is one of signed integers. -/
lemma integerSign_eq (h : layout.conversion.writesIntegers = true) (v : Int) :
    layout.integerSign v = if v < 0 then ['-']
      else if layout.flags.showSign ∧ layout.conversion = .signed then ['+'] else [] := by
  simp only [integerSign, Bool.and_eq_true, beq_iff_eq, Conversion.radix_eq_ten_iff h]

lemma space_not_mem_integer (v : Int) :
    ' ' ∉ (layout.integer v).lead ++ layout.filledDigits v := by
  have hsign : ' ' ∉ layout.integerSign v := by
    unfold integerSign
    split_ifs <;> decide
  rw [lead_integer, List.append_assoc]
  exact List.not_mem_append hsign
    (layout.not_mem_unsigned v (layout.mem_alphabet_of_mem_filledDigits v) (.inr (.inr rfl)))

lemma trimSpaces_place_integer (v : Int) :
    trimSpaces (layout.place (layout.integer v))
      = (layout.integer v).lead ++ layout.filledDigits v := by
  have hspace := layout.space_not_mem_integer v
  have hplace := (layout.integer v).justify_eq layout.flags.adjustLeft layout.width
  rw [place, hplace]
  split_ifs
  · exact trimSpaces_append_spaces _ hspace
  · exact trimSpaces_spaces_append _ hspace

lemma readSigned?_append (v : Int) {text : List Char} (hminus : '-' ∉ text) (hplus : '+' ∉ text) :
    layout.readSigned? (layout.integerSign v ++ text)
      = (layout.readMagnitude? text).map fun n : Nat => if v < 0 then -(n : Int) else n := by
  unfold integerSign
  split_ifs
  · rfl
  · rfl
  · rw [List.nil_append]
    unfold readSigned?
    split
    · exact absurd List.mem_cons_self hminus
    · exact absurd List.mem_cons_self hplus
    · rfl

/-- An integer is read back from its text, unless that has no digits. -/
lemma readInteger?_place (h : layout.conversion.writesIntegers = true) (v : Int) :
    layout.readInteger? (layout.place (layout.integer v))
      = if v = 0 ∧ layout.precision = some 0 then none else some v := by
  have hdigits := layout.mem_alphabet_of_mem_filledDigits v
  rw [readInteger?, trimSpaces_place_integer, lead_integer, List.append_assoc,
    layout.readSigned?_append v (layout.not_mem_unsigned v hdigits (.inl rfl))
      (layout.not_mem_unsigned v hdigits (.inr (.inl rfl)))]
  by_cases hnone : v = 0 ∧ layout.precision = some 0
  · rw [if_pos hnone, (layout.filledDigits_eq_nil_iff h v).mpr hnone, hnone.1, integerMarker_zero,
      List.nil_append, readMagnitude?_nil, Option.map_none]
  · rw [if_neg hnone]
    have hne : layout.filledDigits v ≠ [] := mt (layout.filledDigits_eq_nil_iff h v).mp hnone
    rw [layout.readMagnitude?_append hne hdigits, valueOf_filledDigits, Option.map_some]
    congr 1
    split_ifs <;> omega

/-- The text of an integer is its sign, its marker and digits of its base, with spaces around them. The
digits write the magnitude, as many of them as are asked for. They are all taken from the buffer if the
integer has 128 bits. The integer is read back from its text, unless it is zero with precision zero. -/
theorem place_integer (layout : Layout) (h : layout.conversion.writesIntegers = true) (v : Int) :
    let text := layout.place (layout.integer v)
    let sign := if v < 0 then ['-']
      else if layout.flags.showSign ∧ layout.conversion = .signed then ['+'] else []
    let marker := if layout.flags.alternate ∧ v ≠ 0 then layout.conversion.marker else []
    (∃ digits : List Char,
      (∀ x ∈ digits, x ∈ layout.conversion.alphabet) ∧
      layout.conversion.valueOf digits = v.natAbs ∧
      digits.length = layout.digitCount (sign ++ marker) v ∧
      let core := sign ++ marker ++ digits
      let spaces := List.replicate (layout.width - core.length) ' '
      text = if layout.flags.adjustLeft then core ++ spaces else spaces ++ core) ∧
    (Checked.Bounded (.integer v) → Checked.integer layout v = .ok (layout.integer v)) ∧
    layout.readInteger? text = if v = 0 ∧ layout.precision = some 0 then none else some v := by
  intro text sign marker
  have hlead : (layout.integer v).lead = sign ++ marker := by
    rw [lead_integer, layout.integerSign_eq h, integerMarker]
  refine ⟨⟨layout.filledDigits v, layout.mem_alphabet_of_mem_filledDigits v,
    layout.valueOf_filledDigits v, ?_, ?_⟩, Checked.integer_eq layout, layout.readInteger?_place h v⟩
  · rw [layout.length_filledDigits h, hlead]
  · rw [← hlead]
    exact (layout.integer v).justify_eq layout.flags.adjustLeft layout.width

/-- The least integer of 128 bits, in capital digits and filled up with zeros, is read back. -/
theorem place_integer_of_least :
    let layout : Layout :=
      { flags := { alternate := true, zeroPad := true }, width := 40, conversion := .hexUpper }
    layout.conversion.writesIntegers = true ∧ Checked.Bounded (.integer (-2 ^ 127)) ∧
      Checked.integer layout (-2 ^ 127) = .ok (layout.integer (-2 ^ 127)) ∧
      layout.place (layout.integer (-2 ^ 127)) = "-0X0000080000000000000000000000000000000".toList ∧
      layout.readInteger? (layout.place (layout.integer (-2 ^ 127))) = some (-2 ^ 127) := by
  intro layout
  have hbounded : Checked.Bounded (.integer (-2 ^ 127)) := by
    unfold Checked.Bounded
    decide
  obtain ⟨-, hchecked, hread⟩ := place_integer layout rfl (-2 ^ 127)
  exact ⟨rfl, hbounded, hchecked hbounded, by decide +kernel, hread⟩

end Layout

end TypedFormat
