import TypedFormat.Proofs.Directive.Reading

/-!
# Reading with other text after it

A stage of the reader looks no further than the first character that it leaves, so that in front of any
text that begins with this character it takes the same (`LooksAtHead`). What is read stays so whatever
follows it (`Directive.read_append`), and so does the character that is blamed for a malformed directive
(`Directive.exists_parts_of_read_error`). Only where the text ends in the middle of a directive may it
go on.
-/

namespace TypedFormat

namespace Directive

variable {α β : Type} {text rest : List Char}

/-! ### Stages look at one character -/

/-- A stage, and then another one on what it leaves. -/
def andThen (take : List Char → α × List Char) (next : α → List Char → β × List Char) :
    List Char → β × List Char :=
  fun text => next (take text).1 (take text).2

/-- What a stage takes stands in front of what it leaves, and is taken also in front of any other text
that begins alike. -/
def LooksAtHead (take : List Char → α × List Char) : Prop :=
  ∀ text, ∃ front, front ++ (take text).2 = text ∧
    ∀ more, more.head? = (take text).2.head? → take (front ++ more) = ((take text).1, more)

namespace LooksAtHead

/-- Where nothing is taken, nothing is looked at. -/
lemma pure (v : α) : LooksAtHead fun text => (v, text) :=
  fun _ => ⟨[], rfl, fun _ _ => rfl⟩

/-- Where the second stage takes nothing, it leaves the character that the first one looked at. -/
lemma andThen {take : List Char → α × List Char} {next : α → List Char → β × List Char}
    (h : LooksAtHead take) (hnext : ∀ v, LooksAtHead (next v)) :
    LooksAtHead (andThen take next) := by
  intro text
  obtain ⟨front, hfront, htake⟩ := h text
  obtain ⟨front', hfront', hnext'⟩ := hnext (take text).1 (take text).2
  refine ⟨front ++ front', ?_, fun more hmore => ?_⟩
  · rw [List.append_assoc]
    exact (congrArg (front ++ ·) hfront').trans hfront
  · have hhead : (front' ++ more).head? = (take text).2.head? := by
      rw [← hfront', List.head?_append, List.head?_append]
      exact congrArg _ hmore
    unfold Directive.andThen
    rw [List.append_assoc, htake _ hhead]
    exact hnext' more hmore

end LooksAtHead

lemma looksAtHead_takeChar (c : Char) : LooksAtHead (takeChar c) := by
  intro text
  by_cases hhead : text.head? = some c
  · obtain ⟨rest, rfl⟩ := List.head?_eq_some_iff.mp hhead
    exact ⟨[c], by simp [takeChar], fun more _ => by simp [takeChar]⟩
  · rw [takeChar_of_head?_ne hhead]
    refine ⟨[], rfl, fun more hmore => takeChar_of_head?_ne ?_⟩
    rw [List.nil_append, hmore]
    exact hhead

lemma looksAtHead_takeFlags : LooksAtHead takeFlags := by
  show LooksAtHead (andThen (takeChar '-') fun minus => andThen (takeChar '+') fun plus =>
    andThen (takeChar '#') fun hash => andThen (takeChar '0') fun zero text =>
      ((⟨minus, plus, hash, zero && !minus⟩ : Flags), text))
  refine (looksAtHead_takeChar '-').andThen fun minus => ?_
  refine (looksAtHead_takeChar '+').andThen fun plus => ?_
  refine (looksAtHead_takeChar '#').andThen fun hash => ?_
  exact (looksAtHead_takeChar '0').andThen fun zero => .pure _

lemma looksAtHead_takeNumber : LooksAtHead takeNumber := by
  intro text
  obtain ⟨rest, hdigit, hcases⟩ := exists_takeNumber text
  -- What follows begins with the same character as before, which is no digit.
  have hmore : ∀ more : List Char, more.head? = rest.head? →
      ∀ c, more.head? = some c → c.isDigit = false :=
    fun more h c hc => hdigit c (h ▸ hc)
  rcases hcases with ⟨hnone, rfl⟩ | ⟨run, hrun, rfl⟩
  · rw [hnone]
    exact ⟨[], rfl, fun more h => takeNumber_of_head? (hmore more h)⟩
  · rw [hrun]
    exact ⟨run.digits, rfl, fun more h => takeNumber_digits_append run (hmore more h)⟩

lemma takeWidth_eq :
    takeWidth = andThen (takeChar '*') fun star =>
      if star then fun text => (.fromArgument, text)
      else andThen takeNumber fun n text => (n.elim .absent .literal, text) := by
  funext text
  obtain ⟨star, rest, hstar, hs, -⟩ := exists_takeChar '*' text
  cases star with
  | true => simp [takeWidth, andThen, hstar]
  | false =>
    obtain rfl : rest = text := hs
    simp only [takeWidth, andThen, hstar, Bool.false_eq_true, if_false]
    rcases takeNumber rest with ⟨_ | n, rest'⟩ <;> rfl

lemma looksAtHead_takeWidth : LooksAtHead takeWidth := by
  rw [takeWidth_eq]
  refine (looksAtHead_takeChar '*').andThen fun star => ?_
  cases star with
  | true => exact .pure _
  | false => exact looksAtHead_takeNumber.andThen fun n => .pure _

lemma takePrecision_eq :
    takePrecision = andThen (takeChar '.') fun point =>
      if point then andThen takeWidth fun size text =>
        (if size = .absent then .literal 0 else size, text)
      else fun text => (.absent, text) := by
  funext text
  obtain ⟨point, rest, hpoint, hs, -⟩ := exists_takeChar '.' text
  cases point with
  | true =>
    simp only [takePrecision, andThen, hpoint, if_true]
    rcases takeWidth rest with ⟨_ | n | _, rest'⟩ <;> rfl
  | false =>
    obtain rfl : rest = text := hs
    simp [takePrecision, andThen, hpoint]

lemma looksAtHead_takePrecision : LooksAtHead takePrecision := by
  rw [takePrecision_eq]
  refine (looksAtHead_takeChar '.').andThen fun point => ?_
  cases point with
  | true => exact looksAtHead_takeWidth.andThen fun size => .pure _
  | false => exact .pure _

/-- A single `h` or `l` is followed by another character, or by none. -/
lemma looksAtHead_takeLength : LooksAtHead takeLength := by
  intro text
  refine ⟨(takeLength text).1.spelling, ?_, ?_⟩
  · unfold takeLength
    split <;> rfl
  · unfold takeLength
    split <;>
    · intro more hmore
      cases more with
      | nil => simp_all [LengthModifier.spelling]
      | cons c more =>
        obtain ⟨rest, rfl⟩ := List.head?_eq_some_iff.mp hmore.symm
        simp_all [LengthModifier.spelling]

/-! ### Whole directives -/

/-- Takes all parts of a directive that stand in front of its conversion. -/
def takeParts : List Char → (Flags × Size × Size × LengthModifier) × List Char :=
  andThen takeFlags fun flags => andThen takeWidth fun width =>
    andThen takePrecision fun precision => andThen takeLength fun length text =>
      ((flags, width, precision, length), text)

/-- Reads the conversion behind the other parts. -/
def takeConversion : Flags × Size × Size × LengthModifier → List Char →
    Except (Option Char) (Directive × List Char)
  | _,                                    []        => .error none
  | (flags, width, precision, length),    c :: rest =>
    match Conversion.ofLetter? c with
    | some conversion => .ok (⟨flags, width, precision, length, conversion⟩, rest)
    | none            => .error (some c)

lemma read_eq_takeConversion (text : List Char) :
    read text = takeConversion (takeParts text).1 (takeParts text).2 := by
  simp only [read, takeParts, andThen]
  generalize takeLength (takePrecision (takeWidth (takeFlags text).2).2).2 = taken
  rcases taken with ⟨length, _ | ⟨c, rest⟩⟩ <;> rfl

lemma takeConversion_eq_error_iff {parts : Flags × Size × Size × LengthModifier}
    {found : Option Char} :
    takeConversion parts rest = .error found ↔
      rest.head? = found ∧ found.bind Conversion.ofLetter? = none := by
  cases rest with
  | nil => cases found <;> simp [takeConversion]
  | cons c rest =>
    cases hc : Conversion.ofLetter? c with
    | none =>
      simp only [takeConversion, hc, Except.error.injEq, List.head?_cons]
      exact ⟨fun h => ⟨h, h ▸ hc⟩, And.left⟩
    | some conversion =>
      simp only [takeConversion, hc, List.head?_cons]
      refine iff_of_false nofun ?_
      rintro ⟨rfl, h⟩
      simp [hc] at h

lemma looksAtHead_takeParts : LooksAtHead takeParts :=
  looksAtHead_takeFlags.andThen fun _ => looksAtHead_takeWidth.andThen fun _ =>
    looksAtHead_takePrecision.andThen fun _ => looksAtHead_takeLength.andThen fun _ => .pure _

/-- What is taken in front of the conversion can be completed to a word with any conversion. -/
lemma exists_takeParts (text : List Char) :
    ∃ front, front ++ (takeParts text).2 = text ∧
      ∀ conversion : Conversion, IsWord (front ++ [conversion.letter]) := by
  obtain ⟨marks, text₁, h₁, hs₁, -⟩ := exists_takeFlags text
  obtain ⟨width, text₂, h₂, hs₂⟩ := exists_takeWidth text₁
  obtain ⟨precision, text₃, h₃, hs₃⟩ := exists_takePrecision text₂
  obtain ⟨length, text₄, h₄, hs₄⟩ := exists_takeLength text₃
  refine ⟨marks.spelling ++ (width.spelling ++ (precision.spelling ++ length.spelling)), ?_,
    fun conversion => ⟨⟨marks, width, precision, length, conversion⟩, ?_⟩⟩
  · simp only [takeParts, andThen, h₁, h₂, h₃, h₄, List.append_assoc, hs₄, hs₃, hs₂, hs₁]
  · simp only [Wording.spelling, List.append_assoc]

/-- Where a directive is malformed, what was taken can be completed to a word, and is not in front of the
character that is blamed, whatever follows that. -/
lemma exists_parts_of_read_error {found : Option Char} (h : read text = .error found) :
    ∃ front rest, front ++ rest = text ∧ rest.head? = found ∧
      (∀ conversion : Conversion, IsWord (front ++ [conversion.letter])) ∧
      ∀ more, more.head? = found → read (front ++ more) = .error found := by
  rw [read_eq_takeConversion, takeConversion_eq_error_iff] at h
  obtain ⟨front, hfront, hword⟩ := exists_takeParts text
  obtain ⟨front', hfront', hmore⟩ := looksAtHead_takeParts text
  obtain rfl := List.append_cancel_right (hfront'.trans hfront.symm)
  refine ⟨front', (takeParts text).2, hfront, h.1, hword, fun more hhead => ?_⟩
  rw [read_eq_takeConversion, hmore more (hhead.trans h.1.symm), takeConversion_eq_error_iff]
  exact ⟨hhead, h.2⟩

/-- A directive that was read is read again, whatever follows. -/
lemma read_append {d : Directive} (h : read text = .ok (d, rest)) (more : List Char) :
    read (text ++ more) = .ok (d, rest ++ more) := by
  obtain ⟨w, hw, hd, hs⟩ := read_eq_ok_iff.mp h
  refine read_eq_ok_iff.mpr ⟨w, hw, hd, ?_⟩
  rw [← List.append_assoc, hs]

/-- What was read as a directive is one in front of any other text. -/
lemma read_of_read_append {spelling : List Char} {d : Directive}
    (h : read (spelling ++ rest) = .ok (d, rest)) (more : List Char) :
    read (spelling ++ more) = .ok (d, more) := by
  obtain ⟨w, hw, hd, hs⟩ := read_eq_ok_iff.mp h
  obtain rfl := List.append_cancel_right hs
  exact read_eq_ok_iff.mpr ⟨w, hw, hd, rfl⟩

/-- A character that no directive has in its place is blamed again, whatever follows. -/
lemma read_error_append {c : Char} (h : read text = .error (some c)) (more : List Char) :
    read (text ++ more) = .error (some c) := by
  obtain ⟨front, rest, rfl, hhead, -, hread⟩ := exists_parts_of_read_error h
  rw [List.append_assoc]
  exact hread _ (by rw [List.head?_append, hhead, Option.some_or])

end Directive

end TypedFormat
