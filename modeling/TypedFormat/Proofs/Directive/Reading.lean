import TypedFormat.Proofs.Directive.Wording

/-!
# Reading finds the words of the grammar

Every stage of the reader is matched with the part of a wording that it reads: what a stage takes
is the spelling of such a part (soundness), and a spelling in front of later parts is taken whole
(completeness). Together they say which texts are read, and with which result.
-/

namespace TypedFormat

namespace Directive

/-! ### Digit runs -/

/-- Adding up digit by digit, and stopping at the greatest size, comes to the number that the
digits write or the greatest size, whichever is less. -/
lemma foldl_addDigit (digits : List Char) (n : Nat) :
    digits.foldl addDigit (min n largestSize)
      = min (Nat.ofDigitChars 10 digits n) largestSize := by
  induction digits generalizing n with
  | nil => rfl
  | cons c digits ih =>
    have hstep : addDigit (min n largestSize) c
        = min (10 * n + (c.toNat - '0'.toNat)) largestSize := by
      unfold addDigit
      omega
    rw [List.foldl_cons, hstep, ih, Nat.ofDigitChars_cons]

lemma takeNumber_digits_append (run : DigitRun) {text : List Char}
    (h : ∀ c, text.head? = some c → c.isDigit = false) :
    takeNumber (run.digits ++ text) = (some (min run.value (UInt64.size - 1)), text) := by
  have htake : text.takeWhile Char.isDigit = [] := by
    cases text with
    | nil => rfl
    | cons c text => simp [h c rfl]
  have hdrop : text.dropWhile Char.isDigit = text := by
    cases text with
    | nil => rfl
    | cons c text => simp [h c rfl]
  have hrun : (run.digits ++ text).takeWhile Char.isDigit = run.digits := by
    rw [List.takeWhile_append_of_pos run.isDigit, htake, List.append_nil]
  have hvalue : run.digits.foldl addDigit 0 = min run.value (UInt64.size - 1) :=
    foldl_addDigit run.digits 0
  unfold takeNumber
  split
  · next hnil => exact absurd (hrun.symm.trans hnil) run.ne_nil
  · rw [hrun, hvalue, List.dropWhile_append_of_pos run.isDigit, hdrop]

lemma takeNumber_of_head? {text : List Char}
    (h : ∀ c, text.head? = some c → c.isDigit = false) : takeNumber text = (none, text) := by
  cases text with
  | nil => rfl
  | cons c text => simp [takeNumber, h c rfl]

/-! ### Completeness: a spelling in front of later parts is taken whole -/

lemma takeChar_of_head?_ne {c : Char} {text : List Char} (h : text.head? ≠ some c) :
    takeChar c text = (false, text) := by
  cases text with
  | nil => rfl
  | cons x text =>
    have hx : x ≠ c := by simpa using h
    simp [takeChar, hx]

lemma takeChar_mark_append {c : Char} {written : Bool} {text : List Char}
    (h : written = false → text.head? ≠ some c) :
    takeChar c (mark c written ++ text) = (written, text) := by
  cases written with
  | false => exact takeChar_of_head?_ne (h rfl)
  | true => simp [mark, takeChar]

lemma takeFlags_spelling_append (m : FlagMarks) {text : List Char} (h : BeginsFrom 3 text)
    (hzero : m.zero = false → text.head? ≠ some '0') :
    takeFlags (m.spelling ++ text) = (m.flags, text) := by
  have h₂ : BeginsFrom 3 (mark '0' m.zero ++ text) := (beginsFrom_mark '0' _).append h
  have h₁ : BeginsFrom 2 (mark '#' m.hash ++ (mark '0' m.zero ++ text)) :=
    (beginsFrom_mark '#' _).append (h₂.mono (by decide))
  have h₀ : BeginsFrom 1 (mark '+' m.plus ++ (mark '#' m.hash ++ (mark '0' m.zero ++ text))) :=
    (beginsFrom_mark '+' _).append (h₁.mono (by decide))
  simp only [takeFlags, FlagMarks.spelling, List.append_assoc]
  rw [takeChar_mark_append fun _ => h₀.head?_ne (by decide)]
  dsimp only
  rw [takeChar_mark_append fun _ => h₁.head?_ne (by decide)]
  dsimp only
  rw [takeChar_mark_append fun _ => h₂.head?_ne (by decide)]
  dsimp only
  rw [takeChar_mark_append hzero]
  rfl

lemma takeWidth_spelling_append (w : SizeWording) {text : List Char} (h : BeginsFrom 4 text) :
    takeWidth (w.spelling ++ text) = (w.size, text) := by
  have hdigit : ∀ c, text.head? = some c → c.isDigit = false := fun c => h.isDigit_eq_false
  have hstar : text.head? ≠ some '*' := h.head?_ne (by decide)
  cases w with
  | absent =>
    simp only [SizeWording.spelling, List.nil_append, takeWidth, takeChar_of_head?_ne hstar,
      takeNumber_of_head? hdigit, SizeWording.size]
  | star => simp [SizeWording.spelling, SizeWording.size, takeWidth, takeChar]
  | digits run =>
    have hrun : (run.digits ++ text).head? ≠ some '*' := by
      obtain ⟨d, digits, hd⟩ := List.exists_cons_of_ne_nil run.ne_nil
      have hdigit : d.isDigit = true := run.isDigit d (by simp [hd])
      rintro hc
      simp only [hd, List.cons_append, List.head?_cons, Option.some.injEq] at hc
      subst hc
      exact absurd hdigit (by decide)
    simp only [SizeWording.spelling, takeWidth, takeChar_of_head?_ne hrun,
      takeNumber_digits_append run hdigit, SizeWording.size]

lemma takePrecision_spelling_append (w : PrecisionWording) {text : List Char}
    (h : BeginsFrom 5 text) : takePrecision (w.spelling ++ text) = (w.size, text) := by
  cases w with
  | absent =>
    have hpoint : text.head? ≠ some '.' := h.head?_ne (by decide)
    simp only [PrecisionWording.spelling, List.nil_append, takePrecision,
      takeChar_of_head?_ne hpoint, PrecisionWording.size]
  | point w =>
    have hw := takeWidth_spelling_append w (h.mono (by decide))
    simp only [PrecisionWording.spelling, List.cons_append, takePrecision, takeChar, if_true, hw]
    cases w <;> rfl

lemma takeLength_spelling_append (length : LengthModifier) (c : Conversion) (rest : List Char) :
    takeLength (length.spelling ++ c.letter :: rest) = (length, c.letter :: rest) := by
  cases length <;> cases c <;> rfl

/-- A word in front of any text is read as its wording says. -/
lemma read_spelling_append {w : Wording} (hw : w.ZeroFlagFirst) (rest : List Char) :
    read (w.spelling ++ rest) = .ok (w.directive, rest) := by
  have hconversion : BeginsFrom 5 (w.conversion.letter :: rest) :=
    beginsFrom_cons.mpr (Nat.le_of_eq w.conversion.place_letter.symm)
  have hlength : BeginsFrom 5 (w.length.spelling ++ w.conversion.letter :: rest) :=
    w.length.beginsFrom_spelling.append hconversion
  have hprecision : BeginsFrom 4
      (w.precision.spelling ++ (w.length.spelling ++ w.conversion.letter :: rest)) :=
    w.precision.beginsFrom_spelling.append (hlength.mono (by decide))
  have hwidth : BeginsFrom 3 (w.width.spelling ++
      (w.precision.spelling ++ (w.length.spelling ++ w.conversion.letter :: rest))) :=
    w.width.beginsFrom_spelling.append (hprecision.mono (by decide))
  have hzero : w.marks.zero = false → (w.width.spelling ++
      (w.precision.spelling ++ (w.length.spelling ++ w.conversion.letter :: rest))).head?
        ≠ some '0' := by
    intro hz hhead
    rw [List.head?_append, Option.or_eq_some_iff] at hhead
    rcases hhead with hhead | ⟨_, hhead⟩
    · exact hw hz hhead
    · exact hprecision.head?_ne (by decide) hhead
  simp only [read, Wording.spelling, List.append_assoc, List.singleton_append,
    takeFlags_spelling_append w.marks hwidth hzero, takeWidth_spelling_append w.width hprecision,
    takePrecision_spelling_append w.precision hlength, takeLength_spelling_append,
    Conversion.ofLetter?_letter]
  rfl

/-- A percent sign alone is read as a conversion. -/
lemma read_percent (text : List Char) :
    read ('%' :: text) = .ok (⟨{}, .absent, .absent, .absent, .percent⟩, text) := rfl

/-! ### Soundness: what a stage takes is the spelling of a part -/

lemma exists_takeChar (c : Char) (text : List Char) :
    ∃ written rest, takeChar c text = (written, rest) ∧ mark c written ++ rest = text ∧
      (written = false → rest.head? ≠ some c) := by
  by_cases h : text.head? = some c
  · obtain ⟨rest, rfl⟩ := List.head?_eq_some_iff.mp h
    exact ⟨true, rest, by simp [takeChar], rfl, by simp⟩
  · exact ⟨false, text, takeChar_of_head?_ne h, rfl, fun _ => h⟩

lemma exists_takeFlags (text : List Char) :
    ∃ (m : FlagMarks) (rest : List Char), takeFlags text = (m.flags, rest) ∧
      m.spelling ++ rest = text ∧ (m.zero = false → rest.head? ≠ some '0') := by
  obtain ⟨minus, text₁, h₁, hs₁, -⟩ := exists_takeChar '-' text
  obtain ⟨plus, text₂, h₂, hs₂, -⟩ := exists_takeChar '+' text₁
  obtain ⟨hash, text₃, h₃, hs₃, -⟩ := exists_takeChar '#' text₂
  obtain ⟨zero, rest, h₄, hs₄, hzero⟩ := exists_takeChar '0' text₃
  refine ⟨⟨minus, plus, hash, zero⟩, rest, ?_, ?_, hzero⟩
  · simp only [takeFlags, h₁, h₂, h₃, h₄, FlagMarks.flags]
  · simp only [FlagMarks.spelling, List.append_assoc, hs₄, hs₃, hs₂, hs₁]

lemma exists_takeNumber (text : List Char) :
    ∃ rest, (∀ c, rest.head? = some c → c.isDigit = false) ∧
      (takeNumber text = (none, rest) ∧ rest = text ∨
        ∃ run : DigitRun, takeNumber text = (some (min run.value (UInt64.size - 1)), rest) ∧
          run.digits ++ rest = text) := by
  refine ⟨text.dropWhile Char.isDigit, fun c hc => ?_, ?_⟩
  · have hdrop := List.head?_dropWhile_not Char.isDigit text
    rwa [hc] at hdrop
  cases hrun : text.takeWhile Char.isDigit with
  | nil =>
    have hdrop : text.dropWhile Char.isDigit = text := by
      have happend := List.takeWhile_append_dropWhile (p := Char.isDigit) (l := text)
      rwa [hrun, List.nil_append] at happend
    exact .inl ⟨by simp only [takeNumber, hrun, hdrop], hdrop⟩
  | cons c digits =>
    have hdigits : ∀ x ∈ c :: digits, x.isDigit = true := by
      rw [← hrun]
      exact List.all_eq_true.mp List.all_takeWhile
    refine .inr ⟨⟨c :: digits, List.cons_ne_nil c digits, hdigits⟩, ?_, ?_⟩
    · simp only [takeNumber, hrun]
      exact congrArg (fun n => (some n, text.dropWhile Char.isDigit)) (foldl_addDigit _ 0)
    · show c :: digits ++ text.dropWhile Char.isDigit = text
      rw [← hrun]
      exact List.takeWhile_append_dropWhile

lemma exists_takeWidth (text : List Char) :
    ∃ (w : SizeWording) (rest : List Char),
      takeWidth text = (w.size, rest) ∧ w.spelling ++ rest = text := by
  obtain ⟨star, rest, hstar, hs, -⟩ := exists_takeChar '*' text
  cases star with
  | true => exact ⟨.star, rest, by simp only [takeWidth, hstar, SizeWording.size], hs⟩
  | false =>
    obtain ⟨rest, -, ⟨hnone, rfl⟩ | ⟨run, hrun, hs⟩⟩ := exists_takeNumber text
    · exact ⟨.absent, rest, by simp only [takeWidth, hstar, hnone, SizeWording.size], rfl⟩
    · exact ⟨.digits run, rest, by simp only [takeWidth, hstar, hrun, SizeWording.size], hs⟩

lemma exists_takePrecision (text : List Char) :
    ∃ (w : PrecisionWording) (rest : List Char),
      takePrecision text = (w.size, rest) ∧ w.spelling ++ rest = text := by
  obtain ⟨point, rest, hpoint, hs, -⟩ := exists_takeChar '.' text
  cases point with
  | false => exact ⟨.absent, text, by simp only [takePrecision, hpoint, PrecisionWording.size], rfl⟩
  | true =>
    obtain ⟨w, rest', hw, hs'⟩ := exists_takeWidth rest
    refine ⟨.point w, rest', ?_, ?_⟩
    · simp only [takePrecision, hpoint, hw]
      cases w <;> rfl
    · rw [← hs, ← hs']
      rfl

lemma exists_takeLength (text : List Char) :
    ∃ (length : LengthModifier) (rest : List Char),
      takeLength text = (length, rest) ∧ length.spelling ++ rest = text := by
  refine ⟨(takeLength text).1, (takeLength text).2, rfl, ?_⟩
  unfold takeLength
  split <;> rfl

/-- What is read is a word in front of the rest of the text, and its wording says the result. -/
lemma exists_wording_of_read {text rest : List Char} {d : Directive}
    (h : read text = .ok (d, rest)) :
    ∃ w : Wording, w.ZeroFlagFirst ∧ w.directive = d ∧ w.spelling ++ rest = text := by
  obtain ⟨marks, text₁, h₁, hs₁, hzero⟩ := exists_takeFlags text
  obtain ⟨width, text₂, h₂, hs₂⟩ := exists_takeWidth text₁
  obtain ⟨precision, text₃, h₃, hs₃⟩ := exists_takePrecision text₂
  obtain ⟨length, text₄, h₄, hs₄⟩ := exists_takeLength text₃
  simp only [read, h₁, h₂, h₃, h₄] at h
  cases text₄ with
  | nil => simp at h
  | cons c text₅ =>
    cases hc : Conversion.ofLetter? c with
    | none => simp [hc] at h
    | some conversion =>
      simp only [hc, Except.ok.injEq, Prod.mk.injEq] at h
      obtain ⟨rfl, rfl⟩ := h
      refine ⟨⟨marks, width, precision, length, conversion⟩, ?_, rfl, ?_⟩
      · intro hz hhead
        refine hzero hz ?_
        rw [← hs₂, List.head?_append, hhead]
        rfl
      · simp only [Wording.spelling, Conversion.letter_of_ofLetter? hc, List.append_assoc,
          List.singleton_append, hs₄, hs₃, hs₂, hs₁]

/-! ### Words -/

/-- Reading takes a wording from the front of the text, the zero flag first. -/
lemma read_eq_ok_iff {text rest : List Char} {d : Directive} :
    read text = .ok (d, rest) ↔
      ∃ w : Wording, w.ZeroFlagFirst ∧ w.directive = d ∧ w.spelling ++ rest = text := by
  constructor
  · exact exists_wording_of_read
  · rintro ⟨w, hw, rfl, rfl⟩
    exact read_spelling_append hw rest

/-- A text that begins with a word is read, and exactly the word is taken. -/
lemma exists_read_append {word : List Char} (h : IsWord word) (rest : List Char) :
    ∃ d, read (word ++ rest) = .ok (d, rest) := by
  obtain ⟨v, rfl⟩ := h
  obtain ⟨w, hw, hs⟩ := v.exists_zeroFlagFirst
  exact ⟨w.directive, hs ▸ read_spelling_append hw rest⟩

/-- No text begins with two different words. -/
lemma IsWord.eq_of_prefix {text v w : List Char} (hv : IsWord v) (hw : IsWord w)
    (hvt : v <+: text) (hwt : w <+: text) : v = w := by
  obtain ⟨s, rfl⟩ := hvt
  obtain ⟨t, ht⟩ := hwt
  obtain ⟨d, hd⟩ := exists_read_append hv s
  obtain ⟨e, he⟩ := exists_read_append hw t
  rw [ht, hd, Except.ok.injEq, Prod.mk.injEq] at he
  rw [he.2] at ht
  exact (List.append_cancel_right ht).symm

/-- The reader accepts exactly the texts that begin with a word of the grammar. There is at most
one such word. It is what the reader takes, in characters and in bytes, and the result is what
the word says, a zero after the other flags being the zero flag. -/
theorem read_eq_ok_iff_word (text : List Char) :
    ((∃ d rest, read text = .ok (d, rest)) ↔ ∃ word, IsWord word ∧ word <+: text) ∧
    (∀ v w, IsWord v ∧ v <+: text → IsWord w ∧ w <+: text → v = w) ∧
    (∀ d n, (∃ rest, read text = .ok (d, rest) ∧ Utf8.size text - Utf8.size rest = n) ↔
      ∃ w : Wording, w.ZeroFlagFirst ∧ w.directive = d ∧ w.spelling <+: text ∧
        Utf8.size w.spelling = n) := by
  refine ⟨⟨?_, ?_⟩, ?_, ?_⟩
  · rintro ⟨d, rest, h⟩
    obtain ⟨w, -, -, hs⟩ := read_eq_ok_iff.mp h
    exact ⟨w.spelling, ⟨w, rfl⟩, rest, hs⟩
  · rintro ⟨word, hword, rest, rfl⟩
    obtain ⟨d, hd⟩ := exists_read_append hword rest
    exact ⟨d, rest, hd⟩
  · rintro v w ⟨hv, hvt⟩ ⟨hw, hwt⟩
    exact hv.eq_of_prefix hw hvt hwt
  · intro d n
    constructor
    · rintro ⟨rest, h, rfl⟩
      obtain ⟨w, hw, hd, hs⟩ := read_eq_ok_iff.mp h
      refine ⟨w, hw, hd, ⟨rest, hs⟩, ?_⟩
      rw [← hs, Utf8.size_append, Nat.add_sub_cancel]
    · rintro ⟨w, hw, hd, ⟨rest, hs⟩, rfl⟩
      refine ⟨rest, read_eq_ok_iff.mpr ⟨w, hw, hd, hs⟩, ?_⟩
      rw [← hs, Utf8.size_append, Nat.add_sub_cancel]

end Directive

end TypedFormat
