import TypedFormat.Proofs.Checked.Slicing
import TypedFormat.Proofs.Directive.Reading

/-!
# Directives are read from bytes

A directive is read byte by byte. Each stage goes on from where the stage before it ended, which is
always between two characters (`Before`): what a stage takes is of ASCII, and where it stops is the
first byte of a character. So no slice is out of order, and what is read is what reading the characters
gives (`parseDirective_eq`).
-/

namespace TypedFormat.Checked

open Directive

/-! ### Stages -/

/-- Takes a given byte, if it stands at the position. -/
def eat (bytes : List UInt8) (c : Char) (position : Nat) : Bool × Nat :=
  if letterAt bytes position = some c then (true, position + 1) else (false, position)

def readFlags (bytes : List UInt8) (position : Nat) : Flags × Nat :=
  let (adjustLeft, position) := eat bytes '-' position
  let (showSign, position) := eat bytes '+' position
  let (alternate, position) := eat bytes '#' position
  let (zeroPad, position) := eat bytes '0' position
  (⟨adjustLeft, showSign, alternate, zeroPad && !adjustLeft⟩, position)

/-- Adds up digits, and stops at the greatest size. -/
def readDigits (bytes : List UInt8) (position n : Nat) : Except Fault (Nat × Nat) :=
  match _h : letterAt bytes position with
  | none       => pure (n, position)
  | some digit =>
    if digit.isDigit then do
      let value ← subtract digit.toNat '0'.toNat
      readDigits bytes (position + 1) (min (min (n * 10) largestSize + value) largestSize)
    else pure (n, position)
termination_by bytes.length - position
decreasing_by
  have hlt : position < bytes.length := by
    by_contra hge
    simp [letterAt, List.getElem?_eq_none (Nat.not_lt.mp hge)] at _h
  omega

/-- Reads a number, if there is a digit. -/
def readNumber (bytes : List UInt8) (position : Nat) : Except Fault (Option Nat × Nat) := do
  let (n, stop) ← readDigits bytes position 0
  pure (if position < stop then some n else none, stop)

def readWidth (bytes : List UInt8) (position : Nat) : Except Fault (Size × Nat) :=
  match eat bytes '*' position with
  | (true, position)  => pure (.fromArgument, position)
  | (false, position) => do
    let (n, position) ← readNumber bytes position
    pure (n.elim .absent .literal, position)

def readPrecision (bytes : List UInt8) (position : Nat) : Except Fault (Size × Nat) :=
  match eat bytes '.' position with
  | (false, position) => pure (.absent, position)
  | (true, position)  =>
    match eat bytes '*' position with
    | (true, position)  => pure (.fromArgument, position)
    | (false, position) => do
      let (n, position) ← readNumber bytes position
      pure (.literal (n.getD 0), position)

/-- The length modifier that begins with a letter at the position, in front of another letter. -/
def lengthOf (position : Nat) (next : Option Char) : Char → LengthModifier × Nat
  | 'h' => if next = some 'h' then (.hh, position + 2) else (.h, position + 1)
  | 'l' => if next = some 'l' then (.ll, position + 2) else (.l, position + 1)
  | 'z' => (.z, position + 1)
  | 't' => (.t, position + 1)
  | 'j' => (.j, position + 1)
  | 'L' => (.bigL, position + 1)
  | _   => (.absent, position)

def readLength (bytes : List UInt8) (position : Nat) : LengthModifier × Nat :=
  match letterAt bytes position with
  | none   => (.absent, position)
  | some c => lengthOf position (letterAt bytes (position + 1)) c

/-- Reads a directive from the text after its `%`, and returns it with the number of its bytes, or the
character that stands where the conversion should. -/
def parseDirective (text : List Char) : Except Fault (Except (Option Char) (Directive × Nat)) := do
  let bytes := Utf8.encode text
  let (flags, position) := readFlags bytes 0
  let (width, position) ← readWidth bytes position
  let (precision, position) ← readPrecision bytes position
  let (length, position) := readLength bytes position
  match letterAt bytes position with
  | none        => pure (.error none)
  | some letter =>
    match Conversion.ofLetter? letter with
    | some conversion => pure (.ok (⟨flags, width, precision, length, conversion⟩, position + 1))
    | none            => return .error (← sliceFrom text position).head?

lemma rest_of_takeChar {c : Char} {text rest : List Char} (h : takeChar c text = (false, rest)) :
    rest = text := by
  unfold takeChar at h
  split at h
  · split_ifs at h
    · cases h
    · exact (Prod.mk.inj h).2.symm
  · exact (Prod.mk.inj h).2.symm

/-! ### Positions between characters -/

/-- The position is in front of the rest of a text. -/
def Before (text : List Char) (position : Nat) (rest : List Char) : Prop :=
  ∃ front, text = front ++ rest ∧ Utf8.size front = position

namespace Before

variable {text rest : List Char} {position : Nat} {c : Char}

lemma start (text : List Char) : Before text 0 text :=
  ⟨[], rfl, rfl⟩

lemma letterAt_eq (h : Before text position rest) :
    letterAt (Utf8.encode text) position = rest.head?.map firstLetter := by
  obtain ⟨front, rfl, rfl⟩ := h
  exact letterAt_append front rest

lemma letterAt_eq_some_iff (h : Before text position rest) (hc : c.toNat < 128) :
    letterAt (Utf8.encode text) position = some c ↔ rest.head? = some c := by
  rw [h.letterAt_eq]
  cases rest <;> simp [firstLetter_eq_iff hc]

lemma sliceFrom_eq (h : Before text position rest) : sliceFrom text position = .ok rest := by
  obtain ⟨front, rfl, rfl⟩ := h
  exact sliceFrom_append front rest

/-- A character of ASCII is one byte. -/
lemma tail (h : Before text position (c :: rest)) (hc : c.toNat < 128) :
    Before text (position + 1) rest := by
  obtain ⟨front, rfl, rfl⟩ := h
  have hsize : c.utf8Size = 1 :=
    Char.utf8Size_eq_one_iff.mpr (UInt32.le_iff_toNat_le.mpr (Nat.le_of_lt_succ hc))
  refine ⟨front ++ [c], by simp, ?_⟩
  rw [Utf8.size_append, Utf8.size_cons, hsize, Utf8.size_nil]

lemma eq_sub (h : Before text position rest) : position = Utf8.size text - Utf8.size rest := by
  obtain ⟨front, rfl, rfl⟩ := h
  rw [Utf8.size_append, Nat.add_sub_cancel]

/-! ### Stages from there -/

lemma eat (h : Before text position rest) (hc : c.toNat < 128) :
    ∃ stop, Checked.eat (Utf8.encode text) c position = ((takeChar c rest).1, stop) ∧
      Before text stop (takeChar c rest).2 := by
  unfold Checked.eat
  simp only [h.letterAt_eq_some_iff hc]
  by_cases hhead : rest.head? = some c
  · obtain ⟨rest', rfl⟩ := List.head?_eq_some_iff.mp hhead
    refine ⟨position + 1, by simp [takeChar], ?_⟩
    simpa [takeChar] using h.tail hc
  · rw [if_neg hhead, takeChar_of_head?_ne hhead]
    exact ⟨position, rfl, h⟩

lemma readFlags (h : Before text position rest) :
    ∃ stop, Checked.readFlags (Utf8.encode text) position = ((takeFlags rest).1, stop) ∧
      Before text stop (takeFlags rest).2 := by
  obtain ⟨stop₁, hminus, h₁⟩ := h.eat (c := '-') (by decide)
  obtain ⟨stop₂, hplus, h₂⟩ := h₁.eat (c := '+') (by decide)
  obtain ⟨stop₃, hhash, h₃⟩ := h₂.eat (c := '#') (by decide)
  obtain ⟨stop₄, hzero, h₄⟩ := h₃.eat (c := '0') (by decide)
  exact ⟨stop₄, by simp only [Checked.readFlags, hminus, hplus, hhash, hzero, takeFlags], h₄⟩

lemma isDigit_firstLetter (c : Char) : (firstLetter c).isDigit = c.isDigit := by
  have hdigit : ∀ c : Char, 128 ≤ c.toNat → c.isDigit = false := by
    intro c hc
    rw [← Bool.not_eq_true, Char.isDigit_iff_toNat]
    rintro ⟨-, hle⟩
    exact absurd (Nat.le_trans hc hle) (by decide)
  exact firstLetter_of_ascii hdigit c

lemma readDigits (h : Before text position rest) (n : Nat) :
    Checked.readDigits (Utf8.encode text) position n
        = .ok ((rest.takeWhile Char.isDigit).foldl addDigit n,
            position + (rest.takeWhile Char.isDigit).length) ∧
      Before text (position + (rest.takeWhile Char.isDigit).length) (rest.dropWhile Char.isDigit) := by
  induction rest generalizing position n with
  | nil =>
    refine ⟨?_, h⟩
    rw [Checked.readDigits, h.letterAt_eq]
    rfl
  | cons c rest ih =>
    rw [Checked.readDigits, h.letterAt_eq]
    simp only [List.head?_cons, Option.map_some, isDigit_firstLetter]
    by_cases hdigit : c.isDigit = true
    · obtain ⟨hlow, hhigh⟩ := Char.isDigit_iff_toNat.mp hdigit
      have hascii : c.toNat < 128 := Nat.lt_of_le_of_lt hhigh (by decide)
      have hletter : firstLetter c = c := (firstLetter_eq_iff hascii).mpr rfl
      obtain ⟨hread, hbefore⟩ := ih (h.tail hascii) (addDigit n c)
      have hlength : position + (c :: rest.takeWhile Char.isDigit).length
          = position + 1 + (rest.takeWhile Char.isDigit).length := by
        rw [List.length_cons]
        omega
      rw [if_pos hdigit, List.takeWhile_cons_of_pos hdigit, List.dropWhile_cons_of_pos hdigit, hletter,
        subtract_of_le hlow, hlength]
      exact ⟨hread, hbefore⟩
    · rw [if_neg hdigit, List.takeWhile_cons_of_neg hdigit, List.dropWhile_cons_of_neg hdigit]
      exact ⟨rfl, h⟩

lemma readNumber (h : Before text position rest) :
    ∃ stop, Checked.readNumber (Utf8.encode text) position = .ok ((takeNumber rest).1, stop) ∧
      Before text stop (takeNumber rest).2 := by
  obtain ⟨hread, hbefore⟩ := h.readDigits 0
  rw [Checked.readNumber, hread]
  cases hdigits : rest.takeWhile Char.isDigit with
  | nil =>
    refine ⟨position, ?_, ?_⟩
    · simp [takeNumber, hdigits, Bind.bind, Except.bind, Pure.pure, Except.pure]
    · simpa [takeNumber, hdigits] using h
  | cons c digits =>
    rw [hdigits] at hbefore
    refine ⟨position + (c :: digits).length, ?_, ?_⟩
    · simp [takeNumber, hdigits, Bind.bind, Except.bind, Pure.pure, Except.pure]
    · simpa [takeNumber, hdigits] using hbefore

lemma readWidth (h : Before text position rest) :
    ∃ stop, Checked.readWidth (Utf8.encode text) position = .ok ((takeWidth rest).1, stop) ∧
      Before text stop (takeWidth rest).2 := by
  obtain ⟨stop, hstar, hbefore⟩ := h.eat (c := '*') (by decide)
  rw [Checked.readWidth, hstar, takeWidth]
  rcases htake : takeChar '*' rest with ⟨_ | _, rest'⟩
  · rw [htake] at hbefore
    obtain rfl := rest_of_takeChar htake
    obtain ⟨stop', hnumber, hbefore'⟩ := hbefore.readNumber
    refine ⟨stop', ?_, ?_⟩
    · dsimp only
      rw [hnumber]
      rcases takeNumber rest' with ⟨_ | n, rest''⟩ <;> rfl
    · revert hbefore'
      rcases takeNumber rest' with ⟨_ | n, rest''⟩ <;> exact id
  · rw [htake] at hbefore
    exact ⟨stop, rfl, hbefore⟩

lemma readPrecision (h : Before text position rest) :
    ∃ stop, Checked.readPrecision (Utf8.encode text) position = .ok ((takePrecision rest).1, stop) ∧
      Before text stop (takePrecision rest).2 := by
  obtain ⟨stop, hpoint, hbefore⟩ := h.eat (c := '.') (by decide)
  rw [Checked.readPrecision, hpoint, takePrecision]
  rcases htake : takeChar '.' rest with ⟨_ | _, rest'⟩
  · rw [htake] at hbefore
    obtain rfl := rest_of_takeChar htake
    exact ⟨stop, rfl, hbefore⟩
  · rw [htake] at hbefore
    obtain ⟨stop', hstar, hbefore'⟩ := hbefore.eat (c := '*') (by decide)
    dsimp only
    rw [hstar, takeWidth]
    rcases htake' : takeChar '*' rest' with ⟨_ | _, rest''⟩
    · rw [htake'] at hbefore'
      obtain rfl := rest_of_takeChar htake'
      obtain ⟨stop'', hnumber, hbefore''⟩ := hbefore'.readNumber
      refine ⟨stop'', ?_, ?_⟩
      · dsimp only
        rw [hnumber]
        rcases takeNumber rest'' with ⟨_ | n, rest'''⟩ <;> rfl
      · revert hbefore''
        rcases takeNumber rest'' with ⟨_ | n, rest'''⟩ <;> exact id
    · rw [htake'] at hbefore'
      exact ⟨stop', rfl, hbefore'⟩

lemma lengthOf_of_ge (position : Nat) (next : Option Char) (c : Char) (hc : 128 ≤ c.toNat) :
    lengthOf position next c = (.absent, position) := by
  unfold lengthOf
  split
  all_goals first
    | rfl
    | exact absurd hc (by decide)

/-- A letter that is written twice. -/
lemma doubled (h : Before text position (c :: c :: rest)) (hc : c.toNat < 128) :
    letterAt (Utf8.encode text) (position + 1) = some c ∧ Before text (position + 2) rest := by
  have htail := h.tail hc
  exact ⟨(htail.letterAt_eq_some_iff hc).mpr rfl, htail.tail hc⟩

/-- A letter that is not written twice. -/
lemma single (h : Before text position (c :: rest)) (hc : c.toNat < 128)
    (hne : ∀ more, rest = c :: more → False) :
    letterAt (Utf8.encode text) (position + 1) ≠ some c ∧ Before text (position + 1) rest := by
  have htail := h.tail hc
  refine ⟨?_, htail⟩
  rw [Ne, htail.letterAt_eq_some_iff hc]
  intro hhead
  obtain ⟨more, rfl⟩ := List.head?_eq_some_iff.mp hhead
  exact hne more rfl

/-- Where a letter can be doubled, the next byte says whether it is. -/
lemma readLength (h : Before text position rest) :
    ∃ stop, Checked.readLength (Utf8.encode text) position = ((takeLength rest).1, stop) ∧
      Before text stop (takeLength rest).2 := by
  rw [Checked.readLength, h.letterAt_eq]
  cases rest with
  | nil => exact ⟨position, rfl, h⟩
  | cons c rest =>
    have hletter := firstLetter_of_ascii
      (lengthOf_of_ge position (letterAt (Utf8.encode text) (position + 1))) c
    simp only [List.head?_cons, Option.map_some, hletter]
    unfold takeLength
    split
    · next heq =>
      obtain ⟨rfl, rfl⟩ := List.cons.inj heq
      obtain ⟨hnext, hbefore⟩ := h.doubled (by decide)
      exact ⟨position + 2, by rw [hnext]; rfl, hbefore⟩
    · next hsingle heq =>
      obtain ⟨rfl, rfl⟩ := List.cons.inj heq
      obtain ⟨hnext, hbefore⟩ := h.single (by decide) hsingle
      exact ⟨position + 1, by rw [lengthOf, if_neg hnext], hbefore⟩
    · next heq =>
      obtain ⟨rfl, rfl⟩ := List.cons.inj heq
      obtain ⟨hnext, hbefore⟩ := h.doubled (by decide)
      exact ⟨position + 2, by rw [hnext]; rfl, hbefore⟩
    · next hsingle heq =>
      obtain ⟨rfl, rfl⟩ := List.cons.inj heq
      obtain ⟨hnext, hbefore⟩ := h.single (by decide) hsingle
      exact ⟨position + 1, by rw [lengthOf, if_neg hnext], hbefore⟩
    · next heq =>
      obtain ⟨rfl, rfl⟩ := List.cons.inj heq
      exact ⟨position + 1, rfl, h.tail (by decide)⟩
    · next heq =>
      obtain ⟨rfl, rfl⟩ := List.cons.inj heq
      exact ⟨position + 1, rfl, h.tail (by decide)⟩
    · next heq =>
      obtain ⟨rfl, rfl⟩ := List.cons.inj heq
      exact ⟨position + 1, rfl, h.tail (by decide)⟩
    · next heq =>
      obtain ⟨rfl, rfl⟩ := List.cons.inj heq
      exact ⟨position + 1, rfl, h.tail (by decide)⟩
    · refine ⟨position, ?_, h⟩
      unfold lengthOf
      split <;> simp_all

end Before

lemma ofLetter?_of_ge (c : Char) (hc : 128 ≤ c.toNat) : Conversion.ofLetter? c = none := by
  cases hletter : Conversion.ofLetter? c with
  | none => rfl
  | some conversion =>
    obtain rfl := Conversion.letter_of_ofLetter? hletter
    revert hc
    cases conversion <;> decide

/-- From its bytes, a directive is read as from its characters, and no step goes wrong. -/
theorem parseDirective_eq (text : List Char) :
    parseDirective text = .ok (match Directive.read text with
      | .ok (d, rest) => .ok (d, Utf8.size text - Utf8.size rest)
      | .error found  => .error found) := by
  obtain ⟨stop₁, hflags, h₁⟩ := (Before.start text).readFlags
  obtain ⟨stop₂, hwidth, h₂⟩ := h₁.readWidth
  obtain ⟨stop₃, hprecision, h₃⟩ := h₂.readPrecision
  obtain ⟨stop₄, hlength, h₄⟩ := h₃.readLength
  unfold parseDirective Directive.read
  simp only [hflags, hwidth, hprecision, hlength, h₄.letterAt_eq, Bind.bind, Except.bind]
  revert h₄
  generalize takeLength (takePrecision (takeWidth (takeFlags text).2).2).2 = taken
  obtain ⟨length, rest⟩ := taken
  intro h₄
  cases rest with
  | nil => rfl
  | cons c rest =>
    have hletter := firstLetter_of_ascii ofLetter?_of_ge c
    simp only [List.head?_cons, Option.map_some, hletter]
    cases hconversion : Conversion.ofLetter? c with
    | none =>
      simp only [h₄.sliceFrom_eq]
      rfl
    | some conversion =>
      have hc : c.toNat < 128 := by
        by_contra hge
        rw [ofLetter?_of_ge c (Nat.not_lt.mp hge)] at hconversion
        cases hconversion
      rw [(h₄.tail hc).eq_sub]
      rfl

end TypedFormat.Checked
