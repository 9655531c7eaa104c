import ModelCatalog.Time.JulianDay

/-!
Dates of days. A day is found in its cycle of 400 years by the centuries, groups of four years and
years before it; its date exists, and the count of the calendar leads back from the date to the day.
A store counts as the calendar does, except in some years before the year zero.
-/

namespace ModelCatalog.Time

/-- A day of a cycle of 400 years, which begins in March: the whole centuries, groups of four years
and years before it, and the days that are left. A leap day is the last day of its group. -/
structure CycleDay where
  century : Int
  group : Int
  year : Int
  rest : Int
  century_le : 0 ≤ century ∧ century ≤ 3
  group_le : 0 ≤ group ∧ group ≤ 24
  year_le : 0 ≤ year ∧ year ≤ 3
  rest_le : 0 ≤ rest ∧ (rest ≤ 364 ∨ rest = 365 ∧ year = 3 ∧ (group ≤ 23 ∨ century = 3))

namespace CycleDay

def number (day : CycleDay) : Int :=
  36524 * day.century + 1461 * day.group + 365 * day.year + day.rest

def yearNumber (day : CycleDay) : Int := 100 * day.century + 4 * day.group + day.year

theorem exists_number {n : Int} (first : 0 ≤ n) (last : n < 146097) :
    ∃ day : CycleDay, day.number = n := by
  -- The last day of the cycle would begin a fifth century, and a leap day a fifth year.
  let century := min (n / 36524) 3
  let group := (n - 36524 * century) / 1461
  let year := min ((n - 36524 * century - 1461 * group) / 365) 3
  let rest := n - 36524 * century - 1461 * group - 365 * year
  refine ⟨⟨century, group, year, rest, ?_, ?_, ?_, ?_⟩, ?_⟩
  · omega
  · omega
  · omega
  · omega
  · simp only [number]
    omega

variable (day : CycleDay)

theorem exists_day (days : Int) :
    ∃ (cycle : Int) (day : CycleDay), days = 146097 * cycle + day.number - 719468 := by
  obtain ⟨day, number⟩ := exists_number (n := (days + 719468) % 146097) (by omega) (by omega)
  exact ⟨(days + 719468) / 146097, day, by omega⟩

theorem number_bounds : 0 ≤ day.number ∧ day.number < 146097 := by
  obtain ⟨century, group, year, rest, _, _, _, _⟩ := day
  simp only [number]
  omega

theorem yearNumber_eq :
    (day.number - day.number / 1460 + day.number / 36524 - day.number / 146096) / 365 =
      day.yearNumber := by
  obtain ⟨century, group, year, rest, _, _, _, _⟩ := day
  simp only [number, yearNumber]
  by_cases last : group = 24 ∧ rest = 365
  · obtain ⟨rfl, rfl⟩ : group = 24 ∧ rest = 365 := last
    obtain ⟨rfl, rfl⟩ : century = 3 ∧ year = 3 := by omega
    decide
  · have centuries : (36524 * century + 1461 * group + 365 * year + rest) / 36524 = century := by
      omega
    have cycles : (36524 * century + 1461 * group + 365 * year + rest) / 146096 = 0 := by omega
    have groups : (36524 * century + 1461 * group + 365 * year + rest) / 1460 =
        25 * century + group + (24 * century + group + 365 * year + rest) / 1460 := by omega
    rw [centuries, cycles, groups]
    omega

theorem rest_eq : day.number - (365 * day.yearNumber + day.yearNumber / 4 - day.yearNumber / 100) =
    day.rest := by
  obtain ⟨century, group, year, rest, _, _, _, _⟩ := day
  simp only [number, yearNumber]
  omega

def month : Int := (5 * day.rest + 2) / 153

theorem month_bounds : 0 ≤ day.month ∧ day.month ≤ 11 := by
  have bounds := day.rest_le
  rw [month]
  omega

def dayOfMonth : Int := day.rest - (153 * day.month + 2) / 5

theorem dayOfMonth_bounds : 0 ≤ day.dayOfMonth ∧ day.dayOfMonth ≤ 30 := by
  have bounds := day.rest_le
  rw [dayOfMonth, month]
  omega

def yearIn (cycle : Int) : Int := 400 * cycle + day.yearNumber

def date (cycle : Int) : Date :=
  if day.month < 10 then
    ⟨day.yearIn cycle, (day.month + 3).toNat, (day.dayOfMonth + 1).toNat⟩
  else ⟨day.yearIn cycle + 1, (day.month - 9).toNat, (day.dayOfMonth + 1).toNat⟩

theorem ofDays_number (cycle : Int) :
    Date.ofDays (146097 * cycle + day.number - 719468) = day.date cycle := by
  have bounds := day.number_bounds
  have months := day.month_bounds
  have rest : (146097 * cycle + day.number - 719468 + 719468) % 146097 = day.number := by omega
  have cycles : (146097 * cycle + day.number - 719468 + 719468) / 146097 = cycle := by omega
  simp only [Date.ofDays, rest, cycles, day.yearNumber_eq, day.rest_eq, Int.mul_comm cycle 400]
  change Date.mk (if (if day.month < 10 then day.month + 3 else day.month - 9) ≤ 2 then
      day.yearIn cycle + 1 else day.yearIn cycle)
    (if day.month < 10 then day.month + 3 else day.month - 9).toNat
    (day.dayOfMonth + 1).toNat = _
  rw [date]
  by_cases early : day.month < 10
  · rw [if_pos early, if_pos early, if_neg (by omega)]
  · rw [if_neg early, if_neg early, if_pos (by omega)]

theorem date_bounds (cycle : Int) :
    (1 ≤ (day.date cycle).month ∧ (day.date cycle).month ≤ 12) ∧
      1 ≤ (day.date cycle).day ∧ (day.date cycle).day ≤ 31 := by
  have months := day.month_bounds
  have days := day.dayOfMonth_bounds
  rw [date]
  split <;> dsimp only <;> omega

theorem date_year (cycle : Int) :
    (day.date cycle).year = if day.rest < 306 then day.yearIn cycle else day.yearIn cycle + 1 := by
  have late : day.month < 10 ↔ day.rest < 306 := by
    rw [month]
    omega
  simp only [date, late]
  split <;> rfl

theorem date_year_nonneg_iff (cycle : Int) :
    0 ≤ (day.date cycle).year ↔ -719528 ≤ 146097 * cycle + day.number - 719468 := by
  rw [date_year]
  obtain ⟨century, group, left, rest, _, _, _, _⟩ := day
  simp only [yearIn, yearNumber, number]
  omega

theorem date_year_le_iff (cycle : Int) :
    (day.date cycle).year ≤ 9999 ↔ 146097 * cycle + day.number - 719468 ≤ 2932896 := by
  rw [date_year]
  obtain ⟨century, group, left, rest, _, _, _, _⟩ := day
  simp only [yearIn, yearNumber, number]
  omega

theorem yearNumber_bounds : 0 ≤ day.yearNumber ∧ day.yearNumber ≤ 399 := by
  obtain ⟨century, group, year, rest, _, _, _, _⟩ := day
  simp only [yearNumber]
  omega

theorem isLeapYear_of_rest (cycle : Int) (last : day.rest = 365) :
    isLeapYear (day.yearIn cycle + 1) = true := by
  obtain ⟨century, group, year, rest, _, _, _, _⟩ := day
  simp only [isLeapYear, yearIn, yearNumber, Bool.and_eq_true, Bool.or_eq_true, beq_iff_eq,
    bne_iff_ne] at last ⊢
  omega

theorem date_valid (cycle : Int) : (day.date cycle).Valid := by
  have months := day.month_bounds
  have days := day.dayOfMonth_bounds
  have rest := day.rest_le
  have month : day.month = (5 * day.rest + 2) / 153 := rfl
  have dayOfMonth : day.dayOfMonth = day.rest - (153 * day.month + 2) / 5 := rfl
  rw [date]
  by_cases early : day.month < 10
  · rw [if_pos early, Date.Valid]
    have february : ¬(day.month + 3).toNat = 2 := by omega
    simp only [daysInMonth, february, if_false]
    split <;> omega
  · rw [if_neg early, Date.Valid]
    have short : ¬((day.month - 9).toNat = 4 ∨ (day.month - 9).toNat = 6 ∨
      (day.month - 9).toNat = 9 ∨ (day.month - 9).toNat = 11) := by omega
    have leap := day.isLeapYear_of_rest cycle
    simp only [daysInMonth, short, if_false]
    by_cases last : day.rest = 365
    · simp only [leap last, if_true]
      split <;> omega
    · split
      · split <;> omega
      · omega

theorem toDays_date (cycle : Int) :
    (day.date cycle).toDays = 146097 * cycle + day.number - 719468 := by
  have months := day.month_bounds
  have days := day.dayOfMonth_bounds
  have years := day.yearNumber_bounds
  have rest := day.rest_eq
  have dayOfMonth : day.dayOfMonth = day.rest - (153 * day.month + 2) / 5 := rfl
  have yearIn : day.yearIn cycle = 400 * cycle + day.yearNumber := rfl
  have dayNumber : ((day.dayOfMonth + 1).toNat : Int) = day.dayOfMonth + 1 := by omega
  rw [date]
  by_cases early : day.month < 10
  · have late : ¬(day.month + 3).toNat ≤ 2 := by omega
    rw [if_pos early]
    simp only [Date.toDays, late, if_false, dayNumber]
    omega
  · have late : (day.month - 9).toNat ≤ 2 := by omega
    rw [if_neg early]
    simp only [Date.toDays, late, if_true, dayNumber]
    omega

end CycleDay

namespace Date

theorem ofDays_bounds (days : Int) :
    (1 ≤ (ofDays days).month ∧ (ofDays days).month ≤ 12) ∧
      1 ≤ (ofDays days).day ∧ (ofDays days).day ≤ 31 := by
  obtain ⟨cycle, day, rfl⟩ := CycleDay.exists_day days
  rw [day.ofDays_number]
  exact day.date_bounds cycle

theorem ofDays_year_nonneg_iff (days : Int) : 0 ≤ (ofDays days).year ↔ -719528 ≤ days := by
  obtain ⟨cycle, day, rfl⟩ := CycleDay.exists_day days
  rw [day.ofDays_number]
  exact day.date_year_nonneg_iff cycle

theorem ofDays_year_le_iff (days : Int) : (ofDays days).year ≤ 9999 ↔ days ≤ 2932896 := by
  obtain ⟨cycle, day, rfl⟩ := CycleDay.exists_day days
  rw [day.ofDays_number]
  exact day.date_year_le_iff cycle

theorem ofDays_valid (days : Int) : (ofDays days).Valid := by
  obtain ⟨cycle, day, rfl⟩ := CycleDay.exists_day days
  rw [day.ofDays_number]
  exact day.date_valid cycle

theorem toDays_ofDays (days : Int) : (ofDays days).toDays = days := by
  obtain ⟨cycle, day, rfl⟩ := CycleDay.exists_day days
  rw [day.ofDays_number]
  exact day.toDays_date cycle

variable {date : Date}

def yearFromMarch (date : Date) : Int := if date.month ≤ 2 then date.year - 1 else date.year

/-- A year before the year zero, begun in March, from which a store counts one day too many: the first
one of a century that is no leap year. -/
def IsMiscounted (date : Date) : Prop :=
  date.yearFromMarch < 0 ∧ date.yearFromMarch % 100 = 0 ∧ date.yearFromMarch % 400 ≠ 0

instance (date : Date) : Decidable date.IsMiscounted := inferInstanceAs (Decidable (_ ∧ _ ∧ _))

theorem yearDays_eq (year : Int) :
    36525 * (year + 4716) / 100 - year.tdiv 100 + (year.tdiv 100).tdiv 4 =
      year / 400 * 146097 + year % 400 * 365 + year % 400 / 4 - year % 400 / 100 + 1722519 +
        if year < 0 ∧ year % 100 = 0 ∧ year % 400 ≠ 0 then 1 else 0 := by
  have leapDays : 36525 * (year + 4716) / 100 = 365 * year + year / 4 + 1722519 := by omega
  have floored : year / 400 * 146097 + year % 400 * 365 + year % 400 / 4 - year % 400 / 100 =
      365 * year + year / 4 - year / 100 + year / 400 := by omega
  rw [leapDays, floored]
  by_cases negative : year < 0
  · have centuries : year.tdiv 100 = -(-year / 100) := by
      rw [← Int.tdiv_eq_ediv_of_nonneg (by omega), Int.neg_tdiv, Int.neg_neg]
    have cycles : (year.tdiv 100).tdiv 4 = -(-year / 100 / 4) := by
      rw [centuries, Int.neg_tdiv, Int.tdiv_eq_ediv_of_nonneg (by omega)]
    rw [cycles, centuries]
    split <;> omega
  · rw [Int.tdiv_eq_ediv_of_nonneg (a := year) (by omega), Int.tdiv_eq_ediv_of_nonneg (by omega)]
    split <;> omega

theorem monthDays_eq {month : Nat} (months : 1 ≤ month ∧ month ≤ 12) :
    306001 * ((if month ≤ 2 then (month : Int) + 12 else month) + 1) / 10000 =
      (153 * (((month : Int) + 9) % 12) + 2) / 5 + 122 := by
  split <;> omega

theorem dayNumber_eq (months : 1 ≤ date.month ∧ date.month ≤ 12) :
    JulianDay.dayNumber date.year date.month date.day =
      date.toDays + if date.IsMiscounted then 1 else 0 := by
  have years := yearDays_eq date.yearFromMarch
  have monthDays := monthDays_eq months
  simp only [JulianDay.dayNumber, toDays, IsMiscounted, yearFromMarch, decide_eq_true_eq] at years ⊢
  omega

end Date

end ModelCatalog.Time
