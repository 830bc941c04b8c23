import TypedFormat.Rendering
import TypedFormat.Proofs.Checked.Digits

/-!
# Values are laid out from buffers and slices

The partial steps of showing a value are the digits of an integer, a slice of a text, the buffer of a
character, and the places of a float, of which there are at most `mostPlaces`. A float halfway between
two numerals is written with one place more; it has fewer than `mostPlaces` then, since its exponent is
bounded (`places_of_isTie`). So the only step that goes wrong is that of too many places, and it does so
for just the values that cannot be shown (`render_eq`).
-/

namespace TypedFormat.Checked

/-! ### Texts -/

/-- The byte positions at which the characters of a text begin. -/
def charIndices (position : Nat) : List Char → List Nat
  | []        => []
  | c :: text => position :: charIndices (position + c.utf8Size) text

/-- A text up to the character after the last one that is kept. -/
def truncate (text : List Char) (most : Nat) : Except Fault (List Char) :=
  match (charIndices 0 text)[most]? with
  | some stop => slice text 0 stop
  | none      => pure text

lemma charIndices_getElem? (position : Nat) (text : List Char) (n : Nat) :
    (charIndices position text)[n]?
      = if n < text.length then some (position + Utf8.size (text.take n)) else none := by
  induction text generalizing position n with
  | nil => simp [charIndices]
  | cons c text ih =>
    cases n with
    | zero => simp [charIndices]
    | succ n =>
      rw [charIndices, List.getElem?_cons_succ, ih, List.take_succ_cons, Utf8.size_cons,
        List.length_cons]
      simp only [Nat.succ_lt_succ_iff, Nat.add_assoc]

lemma truncate_eq (text : List Char) (most : Nat) : truncate text most = .ok (text.take most) := by
  rw [truncate, charIndices_getElem?]
  split_ifs with hlt
  · have hslice := slice_append [] (text.take most) (text.drop most)
    rwa [List.nil_append, List.take_append_drop, Utf8.size_nil] at hslice
  · rw [List.take_of_length_le (Nat.not_lt.mp hlt)]
    rfl

/-- A character, encoded into a buffer. -/
def encodeInto (capacity : Nat) (c : Char) : Except Fault (List Char) :=
  if c.utf8Size ≤ capacity then pure [c] else throw .index

/-! ### Floats -/

/-- What a step gives that asks for too many places if they do not `fit`. -/
def withinPlaces {α : Type} (fit : Bool) (result : α) : Except Fault α :=
  if fit then pure result else throw .places

@[simp]
lemma withinPlaces_true {α : Type} (result : α) : withinPlaces true result = .ok result :=
  rfl

@[simp]
lemma withinPlaces_false {α : Type} (result : α) : withinPlaces false result = .error .places :=
  rfl

lemma withinPlaces_bind {α β : Type} (fit : Bool) (a : α) {next : α → Except Fault β} {b : β}
    (h : next a = .ok b) : withinPlaces fit a >>= next = withinPlaces fit b := by
  cases fit with
  | false => rfl
  | true => exact h

/-- The numeral of a magnitude, rounded with ties to even. -/
def writePlaces (x : Dyadic) (places : Nat) : Except Fault (List Char) :=
  if places ≤ mostPlaces then pure (placed places (x.unitsHalfEven places)) else throw .places

/-- The numeral of a magnitude, rounded half away from zero. -/
def fixedPoint (x : Dyadic) (places : Nat) (alternate : Bool) : Except Fault (List Char) := do
  let numeral ←
    if x.isTie places then increaseLast (Dyadic.dropLastDigit (← writePlaces x (places + 1)))
    else writePlaces x places
  pure (if places = 0 && alternate then numeral ++ ['.'] else numeral)

/-- A magnitude halfway between two numerals has fewer places than the least exponent says. -/
lemma places_of_isTie {x : Binary64} {places : Nat} (h : x.dyadic.isTie places = true) :
    places + 1 ≤ mostPlaces := by
  have hexponent : -1074 ≤ x.dyadic.exponent := by
    unfold Binary64.dyadic Binary64.dyadicOfBits
    generalize x.magnitudeBits / twoTo 52 = exponent
    dsimp only
    split_ifs
    · exact le_rfl
    · dsimp only
      omega
  rw [Dyadic.isTie, Bool.and_eq_true, beq_iff_eq] at h
  unfold mostPlaces
  omega

/-- A numeral has digits and at most a point. -/
lemma isDigit_of_mem_placed {places units : Nat} :
    ∀ c ∈ placed places units, c.isDigit = true ∨ c = '.' := by
  intro c hc
  rw [placed_eq] at hc
  rcases List.mem_append.mp hc with hwhole | hfraction
  · exact .inl (Nat.isDigit_of_mem_toDigits (by decide) (by decide) hwhole)
  · split_ifs at hfraction
    · cases hfraction
    · rcases List.mem_cons.mp hfraction with hpoint | hlast
      · exact .inr hpoint
      · exact .inl (isDigit_of_mem_lastDigits c hlast)

lemma mem_of_mem_dropLastDigit {numeral : List Char} {c : Char}
    (h : c ∈ Dyadic.dropLastDigit numeral) : c ∈ numeral := by
  unfold Dyadic.dropLastDigit at h
  dsimp only at h
  split_ifs at h
  · exact List.mem_of_mem_dropLast (List.mem_of_mem_dropLast h)
  · exact List.mem_of_mem_dropLast h

lemma fixedPoint_eq (x : Binary64) (places : Nat) (alternate : Bool) :
    fixedPoint x.dyadic places alternate
      = withinPlaces (places ≤ mostPlaces) (x.dyadic.fixedPoint places alternate) := by
  unfold fixedPoint Dyadic.fixedPoint
  by_cases htie : x.dyadic.isTie places = true
  · -- One place more is asked for here, which is too many only where there are no ties.
    have hwritten : writePlaces x.dyadic (places + 1)
        = .ok (placed (places + 1) (x.dyadic.unitsHalfEven (places + 1))) :=
      if_pos (places_of_isTie htie)
    have hincreased := @increaseLast_eq
      (Dyadic.dropLastDigit (placed (places + 1) (x.dyadic.unitsHalfEven (places + 1))))
      fun c hc => isDigit_of_mem_placed c (mem_of_mem_dropLastDigit hc)
    have hfit : decide (places ≤ mostPlaces) = true :=
      decide_eq_true (Nat.le_of_succ_le (places_of_isTie htie))
    rw [if_pos htie, if_pos htie, hwritten, hfit]
    show (increaseLast _ >>= _) = _
    rw [hincreased]
    rfl
  · have hwritten : writePlaces x.dyadic places
        = withinPlaces (places ≤ mostPlaces) (placed places (x.dyadic.unitsHalfEven places)) := by
      simp [writePlaces, withinPlaces]
    rw [if_neg htie, if_neg htie, hwritten]
    exact withinPlaces_bind _ _ rfl

/-! ### Contents -/

/-- An integer, with its digits taken from the buffer. -/
def integer (layout : Layout) (v : Int) : Except Fault Content := do
  let digits ← digits layout.conversion.radix (layout.conversion = .hexUpper) v.natAbs
  let body :=
    if v = 0 ∧ layout.precision = some 0 then []
    else List.replicate (layout.precision.getD 1 - digits.length) '0' ++ digits
  pure
    { lead := layout.integerSign v ++ (if v = 0 then [] else layout.baseMarker)
      body
      zeroFill := layout.zeroFill && layout.precision.isNone }

/-- A float. What is not finite has no places. -/
def float (layout : Layout) (x : Binary64) : Except Fault Content :=
  if x.isNaN then pure ⟨layout.floatSign x, "nan".toList, false⟩
  else if x.isInfinite then pure ⟨layout.floatSign x, "inf".toList, false⟩
  else do
    let places := layout.precision.getD Layout.defaultPlaces
    let numeral ← fixedPoint x.dyadic places layout.flags.alternate
    pure ⟨layout.floatSign x, numeral, layout.zeroFill⟩

def text (layout : Layout) (s : List Char) : Except Fault Content := do
  let kept ← layout.precision.elim (pure s) (truncate s)
  pure ⟨[], kept, false⟩

/-- A single character, which has at most four bytes. -/
def character (c : Char) : Except Fault Content := do
  let encoded ← encodeInto 4 c
  pure ⟨[], encoded, false⟩

/-- The content of an argument by the rule of the conversion, if it fits that. -/
def content? (layout : Layout) (argument : Argument) : Except Fault (Option Content) :=
  match layout.conversion, argument with
  | .string,    a            => some <$> text layout a.naturalText
  | .signed,    .integer v   => some <$> integer layout v
  | .hexLower,  .integer v   => some <$> integer layout v
  | .hexUpper,  .integer v   => some <$> integer layout v
  | .octal,     .integer v   => some <$> integer layout v
  | .float,     .float x     => some <$> float layout x
  | .float,     .integer v   => some <$> float layout (.ofInt v)
  | .character, .character c => some <$> character c
  | .character, .integer v   =>
    match scalar? v with
    | some c => some <$> character c
    | none   => pure none
  | .percent,   _            => pure (some Layout.percent)
  | _,          _            => pure none

/-- The text of a settled directive. -/
def render (policy : Policy) (offset : Nat) (settled : Settled) :
    Except Fault (Except Failure (List Char)) :=
  let layout := settled.layout
  match settled.value with
  | none       => pure (.ok (layout.place Layout.percent))
  | some drawn => do
    match ← content? layout drawn.argument, policy with
    | some content, _        => pure (.ok (layout.place content))
    | none,         .lenient =>
      let content ← text { layout with precision := none } drawn.argument.naturalText
      pure (.ok (layout.place content))
    | none,         .strict  =>
      pure (.error (.mismatch offset drawn.index (.value layout.conversion) drawn.argument.kind))

/-- An integer is one of 128 bits. -/
def Bounded : Argument → Prop
  | .integer v => -2 ^ 127 ≤ v ∧ v < 2 ^ 127
  | _          => True

/-- A directive shows a float, or an integer as one. -/
def ShowsFloat (settled : Settled) : Prop :=
  settled.layout.conversion = .float ∧
    ∃ drawn ∈ settled.value, drawn.argument.kind = .float ∨ drawn.argument.kind = .integer

section

variable (layout : Layout)

lemma integer_eq {v : Int} (h : Bounded (.integer v)) : integer layout v = .ok (layout.integer v) := by
  have hvalue : v.natAbs < 2 ^ 128 := by
    obtain ⟨hlow, hhigh⟩ := h
    omega
  have hradix : 1 < layout.conversion.radix ∧ layout.conversion.radix ≤ 16 := by
    cases layout.conversion <;> decide
  have hdigits : (Nat.toDigits layout.conversion.radix v.natAbs).map
      (capital (layout.conversion = .hexUpper)) = layout.digits v.natAbs := by
    unfold capital Layout.digits
    by_cases hupper : layout.conversion = .hexUpper
    · simp [hupper]
    · simp [hupper]
  rw [integer, digits_eq _ hradix.1 hradix.2 hvalue, hdigits]
  rfl

/-- A float is finite, infinite or not a number. -/
lemma isFinite_eq (x : Binary64) : x.isFinite = (!x.isNaN && !x.isInfinite) := by
  rw [Bool.eq_iff_iff]
  simp only [Binary64.isFinite, Binary64.isNaN, Binary64.isInfinite, Bool.and_eq_true,
    Bool.not_eq_true', decide_eq_true_eq, decide_eq_false_iff_not, beq_eq_false_iff_ne]
  omega

lemma float_eq (x : Binary64) : float layout x = withinPlaces (layout.canWrite x) (layout.float x) := by
  unfold float Layout.float Layout.canWrite
  rw [isFinite_eq]
  cases hnan : x.isNaN with
  | true => rfl
  | false =>
    cases hinfinite : x.isInfinite with
    | true => rfl
    | false =>
      dsimp only
      rw [fixedPoint_eq]
      exact withinPlaces_bind _ _ rfl

lemma text_eq (s : List Char) : text layout s = .ok (layout.text s) := by
  unfold text Layout.text
  cases layout.precision with
  | none => rfl
  | some most =>
    rw [Option.elim_some, truncate_eq]
    rfl

lemma character_eq (c : Char) : character c = .ok (Layout.character c) := by
  rw [character, encodeInto, if_pos c.utf8Size_le_four]
  rfl

lemma some_map_eq {checked : Except Fault Content} {fit : Bool} {content : Content}
    (h : checked = withinPlaces fit content) :
    some <$> checked = withinPlaces fit (some content) := by
  rw [h]
  cases fit <;> rfl

/-- The content is that of what is shown, if it can be shown. -/
lemma content?_eq {argument : Argument} (hbounded : Bounded argument) :
    ∃ content, content? layout argument = withinPlaces (layout.canShow argument) content ∧
      layout.show? argument = content.map layout.place := by
  unfold content? Layout.show? Layout.canShow
  cases hconversion : layout.conversion with
  | string => exact ⟨_, some_map_eq (text_eq layout argument.naturalText), rfl⟩
  | signed | hexLower | hexUpper | octal =>
    cases argument with
    | integer v => exact ⟨_, some_map_eq (integer_eq layout hbounded), rfl⟩
    | _ => exact ⟨none, rfl, rfl⟩
  | float =>
    cases argument with
    | float x => exact ⟨_, some_map_eq (float_eq layout x), rfl⟩
    | integer v => exact ⟨_, some_map_eq (float_eq layout (.ofInt v)), rfl⟩
    | _ => exact ⟨none, rfl, rfl⟩
  | character =>
    cases argument with
    | character c => exact ⟨_, some_map_eq (character_eq c), rfl⟩
    | integer v =>
      cases hscalar : scalar? v with
      | none => exact ⟨none, by simp only [hscalar]; rfl, by simp [hscalar]⟩
      | some c =>
        refine ⟨some (Layout.character c), ?_, by simp [hscalar]⟩
        simp only [hscalar]
        exact some_map_eq (character_eq c)
    | _ => exact ⟨none, rfl, rfl⟩
  | percent => exact ⟨some Layout.percent, rfl, rfl⟩

end

/-- A settled directive is rendered as it should be, and a step goes wrong only if its value cannot be
shown. -/
theorem render_eq (policy : Policy) (offset : Nat) {settled : Settled}
    (hbounded : ∀ drawn ∈ settled.value, Bounded drawn.argument) :
    render policy offset settled = withinPlaces settled.canShow (settled.render policy offset) := by
  obtain ⟨layout, value⟩ := settled
  cases value with
  | none => rfl
  | some drawn =>
    obtain ⟨content, hcontent, hshow⟩ := content?_eq layout (hbounded drawn rfl)
    unfold render Settled.render
    dsimp only
    rw [hcontent, hshow]
    apply withinPlaces_bind
    cases content with
    | some content => rfl
    | none =>
      cases policy with
      | strict => rfl
      | lenient =>
        simp only [Bind.bind, Except.bind, text_eq]
        rfl

end TypedFormat.Checked
