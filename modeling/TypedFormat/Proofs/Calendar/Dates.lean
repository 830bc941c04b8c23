import Mathlib
import TypedFormat.Calendar

/-!
# Days and dates

The calendar by its rules: which years are leap years, how long the months are, what the next day of a
date is, and how many days have gone by since the first of January 1970 (`Date.dayNumber`). The dates
that are computed from day numbers obey them (`Date.next_ofDays`), so that both ways of counting are
inverse to each other and keep the order.

The computation takes years from March on. Each of its two steps finds the greatest beginning that is
not past the day: first that of a year (`Date.yearOfEra_spec`), then that of a month
(`Date.monthFromMarch_eq_iff`).
-/

namespace TypedFormat

namespace Date

/-! ### The rules of the calendar -/

/-- Every fourth year is a leap year, but of the hundreds only every fourth. -/
def IsLeap (year : Nat) : Prop :=
  year % 4 = 0 ∧ (year % 100 ≠ 0 ∨ year % 400 = 0)

instance : DecidablePred IsLeap :=
  fun _ => inferInstanceAs (Decidable (_ ∧ _))

def daysInMonth (year month : Nat) : Nat :=
  if month = 2 then (if IsLeap year then 29 else 28)
  else if month ∈ [4, 6, 9, 11] then 30
  else 31

/-- A date that is in the calendar. -/
structure IsValid (d : Date) : Prop where
  one_le_month : 1 ≤ d.month
  month_le : d.month ≤ 12
  one_le_day : 1 ≤ d.day
  day_le : d.day ≤ daysInMonth d.year d.month

lemma daysInMonth_le (year month : Nat) : daysInMonth year month ≤ 31 := by
  unfold daysInMonth
  split_ifs <;> decide

/-- The next day of the calendar. -/
def next (d : Date) : Date :=
  if d.day < daysInMonth d.year d.month then ⟨d.year, d.month, d.day + 1⟩
  else if d.month < 12 then ⟨d.year, d.month + 1, 1⟩
  else ⟨d.year + 1, 1, 1⟩

/-- The number of days from the first of January 1970 to a date, by the lengths of the years and months
between them. -/
def dayNumber (d : Date) : Nat :=
  ∑ year ∈ Finset.Ico 1970 d.year, ∑ month ∈ Finset.Ico 1 13, daysInMonth year month
    + ∑ month ∈ Finset.Ico 1 d.month, daysInMonth d.year month + (d.day - 1)

/-! ### The order of dates -/

/-- The year counts before the month, and the month before the day. -/
def orderKey (d : Date) : ℕ ×ₗ ℕ ×ₗ ℕ :=
  toLex (d.year, toLex (d.month, d.day))

lemma orderKey_injective : Function.Injective orderKey := by
  rintro ⟨year, month, day⟩ ⟨year', month', day'⟩ h
  simpa [orderKey] using h

instance : LinearOrder Date :=
  LinearOrder.lift' orderKey orderKey_injective

lemma lt_iff {d e : Date} : d < e ↔
    d.year < e.year ∨ d.year = e.year ∧ (d.month < e.month ∨ d.month = e.month ∧ d.day < e.day) := by
  show orderKey d < orderKey e ↔ _
  simp [orderKey, Prod.Lex.toLex_lt_toLex]

lemma lt_next (d : Date) : d < d.next := by
  rw [lt_iff]
  unfold next
  split_ifs
  · exact .inr ⟨rfl, .inr ⟨rfl, Nat.lt_succ_self _⟩⟩
  · exact .inr ⟨rfl, .inl (Nat.lt_succ_self _)⟩
  · exact .inl (Nat.lt_succ_self _)

/-! ### Years from March on -/

/-- One for a leap year. -/
def leapDay (year : Nat) : Nat :=
  if IsLeap year then 1 else 0

lemma leapDay_le_one (year : Nat) : leapDay year ≤ 1 := by
  unfold leapDay
  split_ifs <;> omega

/-- The number of days from the first of March of the year 0 to that of another year. -/
def marchDays (year : Nat) : Nat :=
  365 * year + year / 4 - year / 100 + year / 400

/-- A year from March on ends with the February of the next one. -/
lemma marchDays_succ (year : Nat) :
    marchDays (year + 1) = marchDays year + 365 + leapDay (year + 1) := by
  have hfour : 100 ∣ year + 1 → 4 ∣ year + 1 := Nat.dvd_trans (by decide)
  have hhundred : 400 ∣ year + 1 → 100 ∣ year + 1 := Nat.dvd_trans (by decide)
  have hle : year / 100 ≤ year := Nat.div_le_self year 100
  unfold marchDays leapDay IsLeap
  simp only [Nat.succ_div, ← Nat.dvd_iff_mod_eq_zero, ne_eq]
  split_ifs <;> omega

lemma marchDays_add_era (year era : Nat) :
    marchDays (year + era * 400) = marchDays year + era * daysPerEra := by
  unfold marchDays daysPerEra
  omega

/-- The first of March within an era, by hundreds of years, fours of years and years. -/
lemma marchDays_within_era {century four more : Nat} (hcentury : century ≤ 3) (hfour : four ≤ 24)
    (hmore : more ≤ 3) :
    marchDays (100 * century + 4 * four + more) = 36524 * century + 1461 * four + 365 * more := by
  have hfours : (100 * century + 4 * four + more) / 4 = 25 * century + four := by omega
  have hhundreds : (100 * century + 4 * four + more) / 100 = century := by omega
  have hnone : (100 * century + 4 * four + more) / 400 = 0 := by omega
  rw [marchDays, hfours, hhundreds, hnone]
  omega

/-- The year of an era that a day belongs to. -/
def yearOfEra (dayOfEra : Nat) : Nat :=
  (dayOfEra - dayOfEra / 1460 + dayOfEra / 36524 - dayOfEra / 146096) / 365

/-- The parts of a day of an era: hundreds of years, fours of years, and the days that are left. Only at
the end of the era has a hundred one day more. -/
lemma exists_parts {dayOfEra : Nat} (h : dayOfEra < daysPerEra) :
    ∃ century four left, dayOfEra = 36524 * century + 1461 * four + left ∧ century ≤ 3 ∧ four ≤ 24 ∧
      left < 1461 ∧ (four = 24 → left = 1460 → century = 3) ∧
      dayOfEra / 36524 - dayOfEra / 146096 = century := by
  unfold daysPerEra at h
  obtain ⟨century, hcentury⟩ : ∃ century, dayOfEra / 36524 - dayOfEra / 146096 = century := ⟨_, rfl⟩
  obtain ⟨rest, hrest⟩ : ∃ rest, dayOfEra = 36524 * century + rest :=
    ⟨dayOfEra - 36524 * century, by omega⟩
  have hlast : century ≤ 3 ∧ rest ≤ 36524 ∧ (rest = 36524 → century = 3) := by omega
  exact ⟨century, rest / 1461, rest % 1461, by omega, by omega, by omega, by omega, by omega, hcentury⟩

/-- The years of those parts. The last day of a leap year is not counted as a year. -/
lemma yearOfEra_parts {century four left : Nat} (hcentury : century ≤ 3) (hfour : four ≤ 24)
    (hleft : left < 1461) {dayOfEra : Nat} (hday : dayOfEra = 36524 * century + 1461 * four + left)
    (hhundreds : dayOfEra / 36524 - dayOfEra / 146096 = century) :
    yearOfEra dayOfEra = 100 * century + 4 * four + min (left / 365) 3 := by
  obtain ⟨leaps, hleaps⟩ : ∃ leaps, (24 * century + four + left) / 1460 = leaps := ⟨_, rfl⟩
  have hfours : dayOfEra / 1460 = 25 * century + four + leaps := by omega
  have hyears : dayOfEra - dayOfEra / 1460 + dayOfEra / 36524 - dayOfEra / 146096
      = 365 * (100 * century + 4 * four) + (left - leaps) := by
    omega
  have hlast : (left - leaps) / 365 = min (left / 365) 3 := by omega
  rw [yearOfEra, hyears, Nat.mul_add_div (by decide), hlast]

/-- A day of an era lies between the first of March of its year and that of the next. -/
lemma yearOfEra_spec {dayOfEra : Nat} (h : dayOfEra < daysPerEra) :
    yearOfEra dayOfEra < 400 ∧ marchDays (yearOfEra dayOfEra) ≤ dayOfEra ∧
      dayOfEra < marchDays (yearOfEra dayOfEra + 1) := by
  obtain ⟨century, four, left, hday, hcentury, hfour, hleft, hend, hhundreds⟩ := exists_parts h
  obtain ⟨more, hmore⟩ : ∃ more, min (left / 365) 3 = more := ⟨_, rfl⟩
  rw [yearOfEra_parts hcentury hfour hleft hday hhundreds, hmore, marchDays_succ,
    marchDays_within_era hcentury hfour (by omega)]
  refine ⟨by omega, by omega, ?_⟩
  by_cases hlast : left = 1460
  · have hleap : leapDay (100 * century + 4 * four + more + 1) = 1 := by
      refine if_pos ⟨by omega, ?_⟩
      omega
    omega
  · omega

/-! ### Months from March on -/

/-- The number of days from the first of March to the first of a month that comes `index` months later. -/
def monthStart (index : Nat) : Nat :=
  (153 * index + 2) / 5

/-- A month by the number of months that it comes after March. -/
def monthAfterMarch (index : Nat) : Nat :=
  if index < 10 then index + 3 else index - 9

/-- The date of a day that is counted from the first of March of a year. -/
def ofMarch (year dayOfYear : Nat) : Date :=
  let index := (5 * dayOfYear + 2) / 153
  ⟨year + (if monthAfterMarch index ≤ 2 then 1 else 0), monthAfterMarch index,
    dayOfYear - monthStart index + 1⟩

/-- The month of a day is the last that does not begin after it. -/
lemma monthFromMarch_eq_iff {dayOfYear index : Nat} :
    (5 * dayOfYear + 2) / 153 = index ↔
      monthStart index ≤ dayOfYear ∧ dayOfYear < monthStart (index + 1) := by
  unfold monthStart
  omega

/-- The first day past a month, in a year that ends with the last of February. -/
def monthEnd (year index : Nat) : Nat :=
  min (monthStart (index + 1)) (365 + leapDay (year + 1))

lemma monthEnd_february (year : Nat) : monthEnd year 11 = 365 + leapDay (year + 1) := by
  have hleap := leapDay_le_one (year + 1)
  have hstart : monthStart 12 = 367 := rfl
  rw [monthEnd, hstart, Nat.min_eq_right (by omega)]

lemma daysInMonth_afterMarch {year index : Nat} (h : index ≤ 11) :
    daysInMonth (year + (if monthAfterMarch index ≤ 2 then 1 else 0)) (monthAfterMarch index)
      = monthEnd year index - monthStart index := by
  by_cases hfebruary : index = 11
  · subst hfebruary
    rw [monthEnd_february]
    show (if IsLeap (year + 1) then 29 else 28) = 365 + leapDay (year + 1) - 337
    unfold leapDay
    split_ifs <;> rfl
  · have hend : monthStart (index + 1) ≤ 365 := by
      unfold monthStart
      omega
    rw [monthEnd, Nat.min_eq_left (by omega)]
    have hlength : ∀ index < 11, ∀ year, daysInMonth year (monthAfterMarch index)
        = monthStart (index + 1) - monthStart index := by
      intro index hindex year
      interval_cases index <;> rfl
    exact hlength index (by omega) _

section Months

variable {year dayOfYear index : Nat} (h : (5 * dayOfYear + 2) / 153 = index)

include h

lemma ofMarch_eq : ofMarch year dayOfYear
    = ⟨year + (if monthAfterMarch index ≤ 2 then 1 else 0), monthAfterMarch index,
        dayOfYear - monthStart index + 1⟩ := by
  rw [ofMarch, h]

variable (hday : dayOfYear < 365 + leapDay (year + 1))

include hday

lemma index_le : index ≤ 11 := by
  have hleap := leapDay_le_one (year + 1)
  omega

lemma isValid_ofMarch : (ofMarch year dayOfYear).IsValid := by
  have hindex := index_le h hday
  obtain ⟨hstart, hend⟩ := monthFromMarch_eq_iff.mp h
  rw [ofMarch_eq h]
  refine ⟨?_, ?_, Nat.le_add_left 1 _, ?_⟩
  · show 1 ≤ monthAfterMarch index
    unfold monthAfterMarch
    split_ifs <;> omega
  · show monthAfterMarch index ≤ 12
    unfold monthAfterMarch
    split_ifs <;> omega
  · show dayOfYear - monthStart index + 1 ≤ daysInMonth _ (monthAfterMarch index)
    rw [daysInMonth_afterMarch hindex, monthEnd]
    omega

/-- Within a month, the next day is the next of the year. -/
lemma next_ofMarch_of_lt (hlt : dayOfYear + 1 < monthEnd year index) :
    (ofMarch year dayOfYear).next = ofMarch year (dayOfYear + 1) := by
  obtain ⟨hstart, hend⟩ := monthFromMarch_eq_iff.mp h
  have hnext : (5 * (dayOfYear + 1) + 2) / 153 = index :=
    monthFromMarch_eq_iff.mpr ⟨by omega, hlt.trans_le (Nat.min_le_left _ _)⟩
  rw [ofMarch_eq h, ofMarch_eq hnext, next]
  dsimp only
  rw [daysInMonth_afterMarch (index_le h hday), if_pos (by omega), Nat.sub_add_comm hstart]

/-- After the last day of a month comes the first of the next, and after February a new year. -/
lemma next_ofMarch_of_eq (heq : dayOfYear + 1 = monthEnd year index) :
    (ofMarch year dayOfYear).next
      = if index = 11 then ofMarch (year + 1) 0 else ofMarch year (dayOfYear + 1) := by
  have hindex := index_le h hday
  obtain ⟨hstart, hend⟩ := monthFromMarch_eq_iff.mp h
  rw [ofMarch_eq h, next]
  dsimp only
  rw [daysInMonth_afterMarch hindex, if_neg (by omega)]
  by_cases hfebruary : index = 11
  · subst hfebruary
    rfl
  · have hbegins : dayOfYear + 1 = monthStart (index + 1) := by
      rw [heq, monthEnd]
      unfold monthStart
      omega
    have hnext : (5 * (dayOfYear + 1) + 2) / 153 = index + 1 := by
      refine monthFromMarch_eq_iff.mpr ⟨hbegins.ge, ?_⟩
      rw [hbegins]
      unfold monthStart
      omega
    rw [if_neg hfebruary, ofMarch_eq hnext, hbegins, Nat.sub_self]
    have hmonth : index < 11 := by omega
    interval_cases index <;> rfl

end Months

/-- The last day of a year from March on is the last of February. -/
lemma next_ofMarch_of_last {year dayOfYear : Nat}
    (hlast : dayOfYear + 1 = 365 + leapDay (year + 1)) :
    (ofMarch year dayOfYear).next = ofMarch (year + 1) 0 := by
  have hfebruary : (5 * dayOfYear + 2) / 153 = 11 := by
    refine monthFromMarch_eq_iff.mpr ⟨?_, ?_⟩
    · show 337 ≤ dayOfYear
      omega
    · show dayOfYear < 367
      have hleap := leapDay_le_one (year + 1)
      omega
  exact next_ofMarch_of_eq hfebruary (by omega) (hlast.trans (monthEnd_february year).symm)

lemma next_ofMarch {year dayOfYear : Nat} (hday : dayOfYear + 1 < 365 + leapDay (year + 1)) :
    (ofMarch year dayOfYear).next = ofMarch year (dayOfYear + 1) := by
  obtain ⟨index, h⟩ : ∃ index, (5 * dayOfYear + 2) / 153 = index := ⟨_, rfl⟩
  obtain ⟨-, hend⟩ := monthFromMarch_eq_iff.mp h
  by_cases hlt : dayOfYear + 1 < monthEnd year index
  · exact next_ofMarch_of_lt h (by omega) hlt
  · have heq : dayOfYear + 1 = monthEnd year index := by
      unfold monthEnd at hlt ⊢
      omega
    have hfebruary : index ≠ 11 := by
      rintro rfl
      rw [monthEnd_february] at heq
      omega
    rw [next_ofMarch_of_eq h (by omega) heq, if_neg hfebruary]

/-! ### Dates from day numbers -/

/-- A day lies within a year from March on, and its date is that of this day of the year. -/
lemma exists_ofMarch (days : Nat) : ∃ year dayOfYear,
    days + epochOffset = marchDays year + dayOfYear ∧ dayOfYear < 365 + leapDay (year + 1) ∧
      ofDays days = ofMarch year dayOfYear := by
  obtain ⟨era, hera⟩ : ∃ era, (days + epochOffset) / daysPerEra = era := ⟨_, rfl⟩
  obtain ⟨dayOfEra, hdayOfEra⟩ : ∃ dayOfEra, (days + epochOffset) % daysPerEra = dayOfEra := ⟨_, rfl⟩
  have hdays : era * daysPerEra + dayOfEra = days + epochOffset := by
    rw [← hera, ← hdayOfEra]
    exact Nat.div_add_mod' _ _
  obtain ⟨hyear, hstart, hend⟩ :=
    yearOfEra_spec (hdayOfEra ▸ Nat.mod_lt (days + epochOffset) (by decide))
  have hmarch : marchDays (yearOfEra dayOfEra)
      = 365 * yearOfEra dayOfEra + yearOfEra dayOfEra / 4 - yearOfEra dayOfEra / 100 := by
    rw [marchDays, Nat.div_eq_of_lt hyear, Nat.add_zero]
  refine ⟨yearOfEra dayOfEra + era * 400, dayOfEra - marchDays (yearOfEra dayOfEra), ?_, ?_, ?_⟩
  · rw [marchDays_add_era]
    omega
  · -- The eras are equally long, so the year has as many days as the one of the first era.
    have hlength := marchDays_succ (yearOfEra dayOfEra + era * 400)
    have hnext : marchDays (yearOfEra dayOfEra + era * 400 + 1)
        = marchDays (yearOfEra dayOfEra + 1) + era * daysPerEra := by
      rw [Nat.add_right_comm, marchDays_add_era]
    rw [hnext, marchDays_add_era] at hlength
    omega
  · unfold ofDays
    simp only [hera, hdayOfEra]
    rw [hmarch]
    rfl

lemma strictMono_marchDays : StrictMono marchDays := by
  refine strictMono_nat_of_lt_succ fun year => ?_
  rw [marchDays_succ]
  omega

/-- There is only one such year. -/
lemma ofDays_eq {days year dayOfYear : Nat} (hdays : days + epochOffset = marchDays year + dayOfYear)
    (hday : dayOfYear < 365 + leapDay (year + 1)) : ofDays days = ofMarch year dayOfYear := by
  obtain ⟨year', dayOfYear', hdays', hday', hdate⟩ := exists_ofMarch days
  have hlength := marchDays_succ year
  have hlength' := marchDays_succ year'
  have hle : ∀ {y z : Nat}, marchDays y < marchDays (z + 1) → y ≤ z := fun h =>
    Nat.lt_succ_iff.mp (strictMono_marchDays.lt_iff_lt.mp h)
  obtain rfl : year' = year := Nat.le_antisymm (hle (by omega)) (hle (by omega))
  obtain rfl : dayOfYear' = dayOfYear := by omega
  exact hdate

lemma isValid_ofDays (days : Nat) : (ofDays days).IsValid := by
  obtain ⟨year, dayOfYear, -, hday, hdate⟩ := exists_ofMarch days
  rw [hdate]
  exact isValid_ofMarch rfl hday

/-- The date of the next day is the next date. -/
lemma next_ofDays (days : Nat) : (ofDays days).next = ofDays (days + 1) := by
  obtain ⟨year, dayOfYear, hdays, hday, hdate⟩ := exists_ofMarch days
  by_cases hlast : dayOfYear + 1 = 365 + leapDay (year + 1)
  · have hnext : ofDays (days + 1) = ofMarch (year + 1) 0 := by
      refine ofDays_eq ?_ (by omega)
      rw [marchDays_succ]
      omega
    rw [hdate, hnext, next_ofMarch_of_last hlast]
  · have hnext : ofDays (days + 1) = ofMarch year (dayOfYear + 1) := ofDays_eq (by omega) (by omega)
    rw [hdate, hnext, next_ofMarch (by omega)]

/-! ### Day numbers of dates -/

lemma dayNumber_next {d : Date} (hd : d.IsValid) (hyear : 1970 ≤ d.year) :
    d.next.dayNumber = d.dayNumber + 1 := by
  obtain ⟨year, month, day⟩ := d
  obtain ⟨hmonth, hmonth', hday, hday'⟩ := hd
  dsimp only at hmonth hmonth' hday hday' hyear
  unfold next
  dsimp only
  split_ifs with hwithin hbefore
  · unfold dayNumber
    dsimp only
    omega
  · unfold dayNumber
    dsimp only
    rw [Finset.sum_Ico_succ_top hmonth]
    omega
  · obtain rfl : month = 12 := by omega
    unfold dayNumber
    dsimp only
    rw [Finset.sum_Ico_succ_top hyear, Finset.sum_Ico_succ_top (show 1 ≤ 12 by decide), Finset.Ico_self,
      Finset.sum_empty]
    omega

lemma year_le_next (d : Date) : d.year ≤ d.next.year := by
  rcases lt_iff.mp d.lt_next with hlt | ⟨heq, -⟩
  · exact hlt.le
  · exact heq.le

/-- The first day is in 1970. -/
lemma le_year_ofDays (days : Nat) : 1970 ≤ (ofDays days).year := by
  induction days with
  | zero => decide
  | succ days ih =>
    rw [← next_ofDays]
    exact ih.trans (year_le_next _)

lemma dayNumber_ofDays (days : Nat) : (ofDays days).dayNumber = days := by
  induction days with
  | zero => decide
  | succ days ih => rw [← next_ofDays, dayNumber_next (isValid_ofDays days) (le_year_ofDays days), ih]

/-- Dates of later days are later. -/
lemma strictMono_ofDays : StrictMono ofDays := by
  refine strictMono_nat_of_lt_succ fun days => ?_
  rw [← next_ofDays]
  exact lt_next _

/-- The days of a month end before the next month begins. -/
lemma daysBefore_lt {d : Date} (hd : d.IsValid) {month : Nat} (hmonth : d.month < month) :
    ∑ m ∈ Finset.Ico 1 d.month, daysInMonth d.year m + (d.day - 1)
      < ∑ m ∈ Finset.Ico 1 month, daysInMonth d.year m := by
  have hsubset : Finset.Ico 1 (d.month + 1) ⊆ Finset.Ico 1 month := Finset.Ico_subset_Ico_right hmonth
  refine lt_of_lt_of_le ?_ (Finset.sum_le_sum_of_subset hsubset)
  have hday := hd.one_le_day
  have hday' := hd.day_le
  rw [Finset.sum_Ico_succ_top hd.one_le_month]
  omega

/-- Later dates have greater numbers. -/
lemma dayNumber_lt {d e : Date} (hd : d.IsValid) (hyear : 1970 ≤ d.year) (h : d < e) :
    d.dayNumber < e.dayNumber := by
  have hday := hd.one_le_day
  unfold dayNumber
  rcases lt_iff.mp h with hlt | ⟨hsame, hlt | ⟨hsame', hlt⟩⟩
  · have hsubset : Finset.Ico 1970 (d.year + 1) ⊆ Finset.Ico 1970 e.year :=
      Finset.Ico_subset_Ico_right hlt
    have hyears := Finset.sum_le_sum_of_subset hsubset
      (f := fun year => ∑ month ∈ Finset.Ico 1 13, daysInMonth year month)
    rw [Finset.sum_Ico_succ_top hyear] at hyears
    have hwithin := daysBefore_lt hd (show d.month < 13 from Nat.lt_succ_of_le hd.month_le)
    omega
  · have hwithin := daysBefore_lt hd hlt
    rw [hsame] at hwithin ⊢
    omega
  · rw [hsame, hsame']
    omega

/-- Every date of the calendar from 1970 on is that of its day number. -/
lemma ofDays_dayNumber {d : Date} (hd : d.IsValid) (hyear : 1970 ≤ d.year) :
    ofDays d.dayNumber = d := by
  have hvalid := isValid_ofDays d.dayNumber
  have hnumber := dayNumber_ofDays d.dayNumber
  rcases lt_trichotomy (ofDays d.dayNumber) d with hlt | heq | hgt
  · exact absurd hnumber (dayNumber_lt hvalid (le_year_ofDays _) hlt).ne
  · exact heq
  · exact absurd hnumber (dayNumber_lt hd hyear hgt).ne'

end Date

end TypedFormat
