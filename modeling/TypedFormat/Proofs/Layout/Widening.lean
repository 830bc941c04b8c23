import Mathlib
import TypedFormat.Proofs.Number.Bases
import TypedFormat.Proofs.Number.HalfAway

/-!
# Texts are widened

Whatever is laid out, its text at a width is its text at no width with padding, which counts as many
characters as are missing (`Layout.write_eq`). The padding is spaces behind the text, spaces in front of
it, or zeros behind its sign and base marker.
-/

namespace TypedFormat

/-- What is laid out, with the rule that it is laid out by. -/
inductive Item where
  | integer (v : Int)
  | float (x : Binary64)
  | text (s : List Char)
  | character (c : Char)
  | percent

/-- Zeros may fill up integers that have no precision, and floats that are finite. -/
def Item.takesZeros (precision : Option Nat) : Item → Bool
  | .integer _                        => precision.isNone
  | .float x                          => x.isFinite
  | .text _ | .character _ | .percent => false

def isSign (c : Char) : Bool :=
  c == '-' || c == '+'

/-- The sign that a text begins with. -/
def leadingSign (text : List Char) : List Char :=
  text.takeWhile isSign

namespace Layout

def content (layout : Layout) : Item → Content
  | .integer v   => layout.integer v
  | .float x     => layout.float x
  | .text s      => layout.text s
  | .character c => character c
  | .percent     => percent

/-- Lays out an item at the end of what is written. -/
def write (layout : Layout) (item : Item) (written : List Char) : List Char :=
  written ++ layout.place (layout.content item)

/-- The text of an item without a width. -/
def core (layout : Layout) (item : Item) : List Char :=
  { layout with width := 0 }.write item []

/-- The base marker of an item. -/
def marker (layout : Layout) : Item → List Char
  | .integer v                                  => layout.integerMarker v
  | .float _ | .text _ | .character _ | .percent => []

variable (layout : Layout)

/-! ### Without a width -/

lemma core_eq (item : Item) :
    layout.core item = (layout.content item).lead ++ (layout.content item).body := by
  have hcontent : { layout with width := 0 }.content item = layout.content item := by
    cases item <;> rfl
  unfold core write place Content.justify
  rw [hcontent]
  simp

/-- The flags that place a text have no part in what it is. -/
lemma core_flags (item : Item) (adjustLeft zeroPad : Bool) :
    { layout with flags := { layout.flags with adjustLeft, zeroPad } }.core item = layout.core item := by
  rw [core_eq, core_eq]
  cases item with
  | float x =>
    simp only [content, float, floatSign]
    split_ifs <;> rfl
  | integer | text | character | percent => rfl

/-! ### Signs -/

lemma leadingSign_append {sign rest : List Char} (hsign : sign = [] ∨ sign = ['-'] ∨ sign = ['+'])
    (hminus : '-' ∉ rest) (hplus : '+' ∉ rest) : leadingSign (sign ++ rest) = sign := by
  have hrest : rest.takeWhile isSign = [] := by
    cases rest with
    | nil => rfl
    | cons c rest =>
      have hc : c ≠ '-' ∧ c ≠ '+' :=
        ⟨fun h => hminus (h ▸ List.mem_cons_self), fun h => hplus (h ▸ List.mem_cons_self)⟩
      simp [isSign, hc]
  rcases hsign with rfl | rfl | rfl <;> simp [leadingSign, isSign, hrest]

lemma integerSign_cases (v : Int) :
    layout.integerSign v = [] ∨ layout.integerSign v = ['-'] ∨ layout.integerSign v = ['+'] := by
  unfold integerSign
  split_ifs <;> simp

lemma floatSign_cases (x : Binary64) :
    layout.floatSign x = [] ∨ layout.floatSign x = ['-'] ∨ layout.floatSign x = ['+'] := by
  unfold floatSign
  split_ifs <;> simp

/-- What stands before the digits of an integer is the sign of its text and the base marker. -/
lemma lead_content_integer (v : Int) :
    (layout.content (.integer v)).lead
      = leadingSign (layout.core (.integer v)) ++ layout.marker (.integer v) := by
  have hbody := layout.mem_alphabet_of_mem_body v
  have hsign : leadingSign (layout.core (.integer v)) = layout.integerSign v := by
    rw [core_eq, content, lead_integer, List.append_assoc]
    exact leadingSign_append (layout.integerSign_cases v)
      (layout.not_mem_unsigned v hbody (.inl rfl)) (layout.not_mem_unsigned v hbody (.inr (.inl rfl)))
  rw [hsign]
  exact layout.lead_integer v

/-- Behind its sign, the text of a float has none. -/
lemma not_mem_body_float (x : Binary64) :
    '-' ∉ (layout.float x).body ∧ '+' ∉ (layout.float x).body := by
  unfold float
  split_ifs
  · show '-' ∉ "nan".toList ∧ '+' ∉ "nan".toList
    decide
  · show '-' ∉ "inf".toList ∧ '+' ∉ "inf".toList
    decide
  · have hchar : ∀ c ∈ x.dyadic.fixedPoint (layout.precision.getD defaultPlaces)
        layout.flags.alternate, c.isDigit = true ∨ c = '.' := by
      intro c hc
      rw [Dyadic.fixedPoint_eq] at hc
      rcases List.mem_append.mp hc with hwhole | hplaces
      · exact .inl (Nat.isDigit_of_mem_toDigits (by decide) (by decide) hwhole)
      · split_ifs at hplaces
        · exact .inr (List.mem_singleton.mp hplaces)
        · cases hplaces
        · exact (List.mem_cons.mp hplaces).symm.imp_left (isDigit_of_mem_lastDigits c)
    exact ⟨fun h => absurd (hchar _ h) (by decide), fun h => absurd (hchar _ h) (by decide)⟩

lemma lead_content_float (x : Binary64) :
    (layout.content (.float x)).lead
      = leadingSign (layout.core (.float x)) ++ layout.marker (.float x) := by
  obtain ⟨hminus, hplus⟩ := layout.not_mem_body_float x
  have hlead : (layout.float x).lead = layout.floatSign x := by
    unfold float
    split_ifs <;> rfl
  rw [core_eq, content, hlead, leadingSign_append (layout.floatSign_cases x) hminus hplus, marker,
    List.append_nil]

/-! ### With a width -/

lemma zeroFill_float (x : Binary64) :
    (layout.float x).zeroFill = (x.isFinite && layout.zeroFill) := by
  unfold float Binary64.isFinite Binary64.isNaN Binary64.isInfinite
  rcases Nat.lt_trichotomy x.magnitudeBits Binary64.infinityBits with hlt | heq | hgt
  · simp [hlt, hlt.ne, Nat.not_lt.mpr hlt.le]
  · simp [heq]
  · simp [hgt, Nat.not_lt.mpr hgt.le]

/-- Zeros may fill up a text just if the flags ask for it, and both the conversion and the item allow
it. -/
lemma zeroFill_content (item : Item) (hadjust : layout.flags.adjustLeft = false) :
    (layout.content item).zeroFill
      = (layout.flags.zeroPad && layout.conversion.isNumeric && item.takesZeros layout.precision) := by
  have hflags : layout.zeroFill = (layout.flags.zeroPad && layout.conversion.isNumeric) := by
    rw [zeroFill, hadjust, Bool.not_false, Bool.and_true]
  cases item with
  | integer v => exact congrArg (· && layout.precision.isNone) hflags
  | float x   => exact (layout.zeroFill_float x).trans (by rw [hflags, Bool.and_comm]; rfl)
  | text | character | percent => exact (Bool.and_false _).symm

/-- The sign and the base marker begin the text of an item. -/
lemma lead_prefix (item : Item) :
    leadingSign (layout.core item) ++ layout.marker item <+: layout.core item := by
  have hcore := layout.core_eq item
  cases item with
  | integer v => exact ⟨_, (layout.lead_content_integer v ▸ hcore).symm⟩
  | float x   => exact ⟨_, (layout.lead_content_float x ▸ hcore).symm⟩
  | text | character | percent =>
    rw [marker, List.append_nil]
    exact List.takeWhile_prefix _

/-- Where zeros fill up a text, its lead is the sign and the base marker. -/
lemma lead_content {item : Item} (h : item.takesZeros layout.precision = true) :
    (layout.content item).lead = leadingSign (layout.core item) ++ layout.marker item := by
  cases item with
  | integer v => exact layout.lead_content_integer v
  | float x   => exact layout.lead_content_float x
  | text | character | percent => cases h

/-- The padding of an item's text, with what is missing of it. -/
lemma place_content_eq (item : Item) :
    let core := layout.core item
    let lead := leadingSign core ++ layout.marker item
    let missing := layout.width - core.length
    layout.place (layout.content item)
      = if layout.flags.adjustLeft then core ++ List.replicate missing ' '
        else if layout.flags.zeroPad ∧ layout.conversion.isNumeric
          ∧ item.takesZeros layout.precision then
          lead ++ List.replicate missing '0' ++ core.drop lead.length
        else List.replicate missing ' ' ++ core := by
  intro core lead missing
  have hcore : core = (layout.content item).lead ++ (layout.content item).body := layout.core_eq item
  have hmissing : layout.width - (layout.content item).size = missing := by
    rw [Content.size, ← List.length_append, ← hcore]
  unfold place Content.justify
  dsimp only
  rw [hmissing, List.append_assoc (List.replicate _ ' '), ← hcore]
  by_cases hadjust : layout.flags.adjustLeft = true
  · rw [if_pos hadjust, if_pos hadjust]
  · have hzero := layout.zeroFill_content item (by simpa using hadjust)
    rw [if_neg hadjust, if_neg hadjust]
    by_cases hfill : layout.flags.zeroPad ∧ layout.conversion.isNumeric
        ∧ item.takesZeros layout.precision
    · have hlead : (layout.content item).lead = lead := layout.lead_content hfill.2.2
      have hbody : core.drop lead.length = (layout.content item).body := by
        rw [hcore, hlead, List.drop_left]
      rw [if_pos hfill, if_pos (by simpa [hzero, and_assoc] using hfill), hlead, hbody]
    · rw [if_neg hfill, if_neg (by simpa [hzero, and_assoc] using hfill)]

/-- The text of an item at any width is that at no width, which does not depend on the flags `-` and
`0`, and as many characters more as are missing, at the end of what is written. These are spaces behind
it if the flag `-` is set. Else they are zeros behind the sign and the base marker if the flag `0` is
set, the conversion is numeric, and the item takes zeros. Else they are spaces in front of it. -/
theorem write_eq (layout : Layout) (item : Item) (written : List Char) :
    let core := layout.core item
    let lead := leadingSign core ++ layout.marker item
    let missing := layout.width - core.length
    (∀ adjustLeft zeroPad,
      { layout with flags := { layout.flags with adjustLeft, zeroPad } }.core item = core) ∧
    lead <+: core ∧
    (layout.write item written).length = written.length + max layout.width core.length ∧
    layout.write item written = written ++
      (if layout.flags.adjustLeft then core ++ List.replicate missing ' '
      else if layout.flags.zeroPad ∧ layout.conversion.isNumeric ∧ item.takesZeros layout.precision then
        lead ++ List.replicate missing '0' ++ core.drop lead.length
      else List.replicate missing ' ' ++ core) := by
  intro core lead missing
  have hsize : (layout.content item).size = core.length := by
    rw [Content.size, ← List.length_append, ← layout.core_eq item]
  refine ⟨layout.core_flags item, layout.lead_prefix item, ?_, ?_⟩
  · rw [write, List.length_append, place, Content.length_justify, hsize]
  · rw [write, layout.place_content_eq item]

/-- Zeros come behind the marker, and with the flag `-` there are none. -/
example :
    let layout : Layout :=
      { flags := { alternate := true, zeroPad := true }, width := 8, conversion := .hexLower }
    layout.write (.integer (-255)) ['|'] = "|-0x000ff".toList ∧
      { layout with flags := { layout.flags with adjustLeft := true } }.write (.integer (-255)) ['|']
        = "|-0xff   ".toList := by
  decide +kernel

end Layout

end TypedFormat
