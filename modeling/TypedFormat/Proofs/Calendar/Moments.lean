import Mathlib
import TypedFormat.Proofs.Calendar.Dates
import TypedFormat.Proofs.Number.Increment

/-!
# Moments and their texts

The text of a moment is a row of columns, each a number with as many digits in every text and a mark
behind it (`Moment.toList_text`). Rows with the same columns are in the order of their numbers, the first
column counting most (`Column.flatMap_text_lt_iff`), and the numbers of a moment are in the order of
time. So texts are in the order of time too, as long as no year has more than four digits.
-/

namespace TypedFormat

/-! ### Lexicographic order -/

/-- The first of two parts counts most, if it is equally long. -/
lemma append_lt_append_iff {s t u v : List Char} (h : s.length = t.length) :
    s ++ u < t ++ v ↔ s < t ∨ s = t ∧ u < v := by
  induction s generalizing t with
  | nil =>
    obtain rfl := List.eq_nil_of_length_eq_zero h.symm
    simp
  | cons c s ih =>
    cases t with
    | nil => cases h
    | cons d t =>
      simp only [List.cons_append, List.cons_lt_cons_iff, ih (Nat.succ.inj h), List.cons.injEq]
      tauto

lemma digitChar_lt_iff {m n : Nat} (hm : m < 10) (hn : n < 10) :
    [Nat.digitChar m] < [Nat.digitChar n] ↔ m < n := by
  have h : ∀ m < 10, ∀ n < 10, [Nat.digitChar m] < [Nat.digitChar n] ↔ m < n := by decide
  exact h m hm n hn

/-- Equally long numerals are in the order of their numbers. -/
lemma paddedDigits_lt_iff {least m n : Nat} (hpos : 0 < least) (hm : m < tenTo least)
    (hn : n < tenTo least) : paddedDigits least m < paddedDigits least n ↔ m < n := by
  induction least, hpos using Nat.le_induction generalizing m n with
  | base =>
    have hone : ∀ k < 10, paddedDigits 1 k = [Nat.digitChar k] := by decide
    rw [hone m hm, hone n hn]
    exact digitChar_lt_iff hm hn
  | succ least hpos ih =>
    rw [tenTo_succ] at hm hn
    have hm' : m / 10 < tenTo least := by omega
    have hn' : n / 10 < tenTo least := by omega
    have hlength : (paddedDigits least (m / 10)).length = (paddedDigits least (n / 10)).length := by
      rw [length_paddedDigits hpos hm', length_paddedDigits hpos hn']
    rw [paddedDigits_succ hpos, paddedDigits_succ hpos, append_lt_append_iff hlength, ih hm' hn',
      paddedDigits_inj, digitChar_lt_iff (Nat.mod_lt m (by decide)) (Nat.mod_lt n (by decide))]
    omega

/-! ### Columns -/

/-- A number of a fixed number of digits, and the mark behind it. -/
structure Column where
  digits : Nat
  number : Nat
  mark : Char

namespace Column

def text (c : Column) : List Char :=
  paddedDigits c.digits c.number ++ [c.mark]

/-- The number has no more digits than the column. -/
def Fits (c : Column) : Prop :=
  0 < c.digits ∧ c.number < tenTo c.digits

/-- Two columns that differ in nothing but their numbers. -/
def Alike (c c' : Column) : Prop :=
  c.digits = c'.digits ∧ c.mark = c'.mark

lemma length_text {c : Column} (h : c.Fits) : c.text.length = c.digits + 1 := by
  rw [text, List.length_append, length_paddedDigits h.1 h.2, List.length_singleton]

lemma text_lt_iff {c c' : Column} (hc : c.Fits) (hc' : c'.Fits) (h : c.Alike c') :
    c.text < c'.text ↔ c.number < c'.number := by
  obtain ⟨digits, number, mark⟩ := c
  obtain ⟨digits', number', mark'⟩ := c'
  obtain ⟨hdigits, hmark⟩ := h
  dsimp only at hdigits hmark
  subst hdigits hmark
  have hlength : (paddedDigits digits number).length = (paddedDigits digits number').length := by
    rw [length_paddedDigits hc.1 hc.2, length_paddedDigits hc.1 hc'.2]
  unfold text
  rw [append_lt_append_iff hlength, paddedDigits_lt_iff hc.1 hc.2 hc'.2]
  simp

lemma text_eq_iff {c c' : Column} (h : c.Alike c') : c.text = c'.text ↔ c.number = c'.number := by
  rw [text, text, h.1, h.2, List.append_left_inj, paddedDigits_inj]

/-- Rows of columns are in the order of their numbers, the first column counting most. -/
lemma flatMap_text_lt_iff {row row' : List Column} (h : row.Forall₂ Alike row')
    (hrow : ∀ c ∈ row, c.Fits) (hrow' : ∀ c ∈ row', c.Fits) :
    row.flatMap text < row'.flatMap text ↔ row.map number < row'.map number := by
  induction h with
  | nil => simp
  | @cons c c' row row' halike _ ih =>
    have hc := hrow c List.mem_cons_self
    have hc' := hrow' c' List.mem_cons_self
    have hlength : c.text.length = c'.text.length := by
      rw [length_text hc, length_text hc', halike.1]
    rw [List.flatMap_cons, List.flatMap_cons, List.map_cons, List.map_cons,
      append_lt_append_iff hlength, text_lt_iff hc hc' halike, text_eq_iff halike, List.cons_lt_cons_iff,
      ih (fun x hx => hrow x (List.mem_cons_of_mem c hx))
        fun x hx => hrow' x (List.mem_cons_of_mem c' hx)]

end Column

/-! ### Moments -/

namespace Moment

/-- The seconds count before the thousandths. -/
def orderKey (m : Moment) : ℕ ×ₗ ℕ :=
  toLex (m.seconds, m.millis)

lemma orderKey_injective : Function.Injective orderKey := by
  rintro ⟨seconds, millis⟩ ⟨seconds', millis'⟩ h
  simpa [orderKey] using h

instance : LinearOrder Moment :=
  LinearOrder.lift' orderKey orderKey_injective

lemma lt_iff {m m' : Moment} :
    m < m' ↔ m.seconds < m'.seconds ∨ m.seconds = m'.seconds ∧ m.millis < m'.millis := by
  show orderKey m < orderKey m' ↔ _
  simp [orderKey, Prod.Lex.toLex_lt_toLex]

/-- A moment in a year of at most four digits, with less than a thousand thousandths. -/
structure IsPlain (m : Moment) : Prop where
  year_le : (Date.ofDays (m.seconds / 86400)).year ≤ 9999
  millis_lt : m.millis < 1000

/-- The columns for a date, the seconds of its day and thousandths. -/
def columnsOf (date : Date) (time millis : Nat) : List Column :=
  [⟨4, date.year, '-'⟩, ⟨2, date.month, '-'⟩, ⟨2, date.day, 'T'⟩, ⟨2, time / 3600, ':'⟩,
    ⟨2, time % 3600 / 60, ':'⟩, ⟨2, time % 60, '.'⟩, ⟨3, millis, 'Z'⟩]

/-- The columns of a moment's text. -/
def columns (m : Moment) : List Column :=
  columnsOf (Date.ofDays (m.seconds / 86400)) (m.seconds % 86400) m.millis

lemma flatMap_columnsOf (date : Date) (time millis : Nat) :
    paddedDigits 4 date.year ++ '-' :: paddedDigits 2 date.month ++ '-' :: paddedDigits 2 date.day
      ++ 'T' :: paddedDigits 2 (time / 3600) ++ ':' :: paddedDigits 2 (time % 3600 / 60)
      ++ ':' :: paddedDigits 2 (time % 60) ++ '.' :: paddedDigits 3 millis ++ ['Z']
      = (columnsOf date time millis).flatMap Column.text := by
  simp only [columnsOf, List.flatMap_cons, List.flatMap_nil, Column.text, List.append_assoc,
    List.cons_append, List.nil_append]

lemma toList_text (m : Moment) : m.text.toList = m.columns.flatMap Column.text := by
  rw [columns, ← flatMap_columnsOf, text, String.toList_ofList]

lemma columns_alike (m m' : Moment) : m.columns.Forall₂ Column.Alike m'.columns := by
  unfold columns columnsOf
  simp only [List.forall₂_cons, Column.Alike, and_self, List.Forall₂.nil]

/-- Numbers are in the order of their quotients, and where these are equal, of their remainders. -/
lemma lt_or_eq_and_iff (b : Nat) {a a' : Nat} (p : Prop) :
    a < a' ∨ a = a' ∧ p ↔ a / b < a' / b ∨ a / b = a' / b ∧ (a % b < a' % b ∨ a % b = a' % b ∧ p) := by
  have ha := Nat.div_add_mod a b
  have ha' := Nat.div_add_mod a' b
  rcases lt_trichotomy (a / b) (a' / b) with hlt | heq | hgt
  · have hlt' : a < a' := Nat.lt_of_div_lt_div hlt
    simp [hlt, hlt']
  · have hmod : (a < a' ↔ a % b < a' % b) ∧ (a = a' ↔ a % b = a' % b) := by
      rw [heq] at ha
      omega
    rw [hmod.1, hmod.2]
    simp [heq]
  · have hgt' : a' < a := Nat.lt_of_div_lt_div hgt
    simp [hgt.not_gt, hgt.ne', hgt'.not_gt, hgt'.ne']

/-- Moments are in the order of their dates, of the seconds of the day, and of the thousandths. -/
lemma number_columnsOf_lt_iff {date date' : Date} {time time' millis millis' : Nat} :
    (columnsOf date time millis).map Column.number < (columnsOf date' time' millis').map Column.number ↔
      date < date' ∨ date = date' ∧ (time < time' ∨ time = time' ∧ millis < millis') := by
  have hdate : date = date' ↔
      date.year = date'.year ∧ date.month = date'.month ∧ date.day = date'.day := by
    obtain ⟨year, month, day⟩ := date
    obtain ⟨year', month', day'⟩ := date'
    simp
  have hsecond : ∀ time, time % 3600 % 60 = time % 60 := fun time => Nat.mod_mod_of_dvd time (by decide)
  rw [lt_or_eq_and_iff 3600 (a := time), lt_or_eq_and_iff 60 (a := time % 3600), hsecond, hsecond,
    Date.lt_iff, hdate]
  unfold columnsOf
  simp only [List.map_cons, List.map_nil, List.cons_lt_cons_iff, lt_irrefl, and_false, or_false]
  tauto

lemma number_columns_lt_iff (m m' : Moment) :
    m.columns.map Column.number < m'.columns.map Column.number ↔ m < m' := by
  unfold columns
  rw [number_columnsOf_lt_iff, Date.strictMono_ofDays.lt_iff_lt,
    Date.strictMono_ofDays.injective.eq_iff, lt_iff,
    lt_or_eq_and_iff 86400 (a := m.seconds)]

namespace IsPlain

variable {m m' : Moment} (h : m.IsPlain)

include h

/-- Each number has no more digits than its column. -/
lemma fits : ∀ c ∈ m.columns, c.Fits := by
  obtain ⟨hyear, hmillis⟩ := h
  have hvalid := Date.isValid_ofDays (m.seconds / 86400)
  have htime : m.seconds % 86400 < 86400 := Nat.mod_lt _ (by decide)
  unfold columns columnsOf
  generalize Date.ofDays (m.seconds / 86400) = date at *
  generalize m.seconds % 86400 = time at *
  have hmonth : date.month < 100 := Nat.lt_of_le_of_lt hvalid.month_le (by decide)
  have hday : date.day < 100 :=
    Nat.lt_of_le_of_lt (hvalid.day_le.trans (Date.daysInMonth_le _ _)) (by decide)
  simp only [List.forall_mem_cons, Column.Fits]
  refine ⟨⟨Nat.succ_pos 3, Nat.lt_succ_of_le hyear⟩, ⟨Nat.succ_pos 1, hmonth⟩, ⟨Nat.succ_pos 1, hday⟩,
    ⟨Nat.succ_pos 1, ?_⟩, ⟨Nat.succ_pos 1, ?_⟩, ⟨Nat.succ_pos 1, ?_⟩, ⟨Nat.succ_pos 2, hmillis⟩, by simp⟩
  · show time / 3600 < 100
    omega
  · show time % 3600 / 60 < 100
    omega
  · show time % 60 < 100
    omega

lemma length_text : m.text.length = 24 := by
  have hlength : ∀ c ∈ m.columns, c.text.length = c.digits + 1 :=
    fun c hc => Column.length_text (h.fits c hc)
  rw [← String.length_toList, toList_text, List.length_flatMap, List.map_congr_left hlength]
  rfl

lemma text_lt_iff (h' : m'.IsPlain) : m.text < m'.text ↔ m < m' := by
  rw [String.lt_iff_toList_lt, toList_text, toList_text,
    Column.flatMap_text_lt_iff (columns_alike m m') h.fits h'.fits, number_columns_lt_iff]

/-- Different moments have different texts, since one of them is earlier. -/
lemma text_eq_iff (h' : m'.IsPlain) : m.text = m'.text ↔ m = m' := by
  constructor
  · intro heq
    by_contra hne
    rcases lt_or_gt_of_ne hne with hlt | hgt
    · exact absurd heq ((h.text_lt_iff h').mpr hlt).ne
    · exact absurd heq ((h'.text_lt_iff h).mpr hgt).ne'
  · rintro rfl
    rfl

end IsPlain

/-- The date of day zero is the first of January 1970. All dates that are computed are in the calendar,
and the date of the next day is the next date, so that the dates from 1970 on and their day numbers are
inverse to each other and in the same order. The texts of moments up to the year 9999 have 24 characters
each, and they are equal or in lexicographic order just as the moments are equal or in order. -/
theorem dated_in_order :
    Date.ofDays 0 = ⟨1970, 1, 1⟩ ∧
    (∀ days, (Date.ofDays days).IsValid ∧ Date.ofDays (days + 1) = (Date.ofDays days).next) ∧
    (∀ days, (Date.ofDays days).dayNumber = days) ∧
    (∀ d : Date, d.IsValid → 1970 ≤ d.year → Date.ofDays d.dayNumber = d) ∧
    StrictMono Date.ofDays ∧
    (∀ m m' : Moment, m.IsPlain → m'.IsPlain →
      m.text.length = 24 ∧ (m.text = m'.text ↔ m = m') ∧ (m.text < m'.text ↔ m < m')) := by
  refine ⟨by decide, fun days => ⟨Date.isValid_ofDays days, (Date.next_ofDays days).symm⟩,
    Date.dayNumber_ofDays, fun d => Date.ofDays_dayNumber, Date.strictMono_ofDays, ?_⟩
  intro m m' h h'
  exact ⟨h.length_text, h.text_eq_iff h', h.text_lt_iff h'⟩

/-- The last thousandth of a leap day in a year that 400 divides, and the first one of the next day. -/
theorem dated_in_order_of_leap_day :
    let last : Moment := ⟨951868799, 999⟩
    let first : Moment := ⟨951868800, 0⟩
    let leapDay : Date := ⟨2000, 2, 29⟩
    (leapDay.IsValid ∧ Date.ofDays leapDay.dayNumber = leapDay ∧ leapDay.next = ⟨2000, 3, 1⟩) ∧
    (last.text = "2000-02-29T23:59:59.999Z" ∧ first.text = "2000-03-01T00:00:00.000Z") ∧
    last.text.length = 24 ∧ last.text < first.text := by
  intro last first leapDay
  obtain ⟨-, -, -, hnumber, -, htext⟩ := dated_in_order
  have hvalid : leapDay.IsValid := ⟨by decide, by decide, by decide, by decide⟩
  have hlast : last.IsPlain := ⟨by decide, by decide⟩
  have hfirst : first.IsPlain := ⟨by decide, by decide⟩
  obtain ⟨hlength, -, horder⟩ := htext last first hlast hfirst
  have hlt : last < first := lt_iff.mpr (.inl (by decide))
  exact ⟨⟨hvalid, hnumber leapDay hvalid (by decide), by decide⟩, ⟨by decide, by decide⟩, hlength,
    horder.mpr hlt⟩

end Moment

end TypedFormat
