import Mathlib.Tactic.SplitIfs
import PxHost.Lib.Calendar

/-! Dates give back the days they stand for, and moving on by months never goes back in time. -/

namespace Calendar

/-- The year inside a cycle of 400 years that a day of the cycle falls in. -/
def yearOfEra (dayOfEra : Int) : Int :=
  (dayOfEra - dayOfEra / 1460 + dayOfEra / 36524 - dayOfEra / 146096) / 365

def dayOfYear (dayOfEra : Int) : Int :=
  dayOfEra - (365 * yearOfEra dayOfEra + yearOfEra dayOfEra / 4 - yearOfEra dayOfEra / 100)

/-- The days before a year that starts in March. -/
def yearStart (year : Int) : Int := 365 * year + year / 4 - year / 100 + year / 400

section Era

variable {dayOfEra : Int} (first : 0 ≤ dayOfEra) (last : dayOfEra < 146097)

include first last

theorem yearOfEra_range : 0 ≤ yearOfEra dayOfEra ∧ yearOfEra dayOfEra < 400 := by
  -- The corrections never exceed the days they are taken from, and the cycle is fixed.
  unfold yearOfEra
  omega

/-- The century of the year is the one the day is counted in, the last day of all apart. -/
theorem yearOfEra_century :
    yearOfEra dayOfEra / 100 = dayOfEra / 36524 - dayOfEra / 146096 := by
  have century : dayOfEra / 36524 = 0 ∨ dayOfEra / 36524 = 1 ∨ dayOfEra / 36524 = 2 ∨
      dayOfEra / 36524 = 3 ∨ dayOfEra = 146096 := by omega
  unfold yearOfEra
  -- With the century fixed, what is left is linear in the day and its leap years.
  rcases century with fixed | fixed | fixed | fixed | rfl
  · rw [fixed]
    omega
  · rw [fixed]
    omega
  · rw [fixed]
    omega
  · rw [fixed]
    omega
  · decide

/-- The leap years before the year are those before the day, but perhaps for one. -/
theorem yearOfEra_leaps : dayOfEra / 1460 - 1 ≤ yearOfEra dayOfEra / 4 ∧
    yearOfEra dayOfEra / 4 ≤ dayOfEra / 1460 := by
  unfold yearOfEra
  omega

theorem dayOfYear_range : 0 ≤ dayOfYear dayOfEra ∧ dayOfYear dayOfEra ≤ 365 := by
  have century := yearOfEra_century first last
  have leaps := yearOfEra_leaps first last
  -- The year is a quotient by 365, so that what remains is less than that.
  have quotient : 365 * yearOfEra dayOfEra ≤
        dayOfEra - dayOfEra / 1460 + dayOfEra / 36524 - dayOfEra / 146096 ∧
      dayOfEra - dayOfEra / 1460 + dayOfEra / 36524 - dayOfEra / 146096 ≤
        365 * yearOfEra dayOfEra + 364 := by
    unfold yearOfEra
    omega
  unfold dayOfYear
  omega

end Era

theorem firstOfMonth_eq (year month : Int) :
    firstOfMonth year month =
      yearStart (year + (month - 2) / 12) + (153 * ((month - 2) % 12) + 2) / 5 - 719468 := by
  -- Both sides count the same days; only the year is written out differently.
  simp only [firstOfMonth, yearStart]
  omega

theorem yearStart_lt {year later : Int} (before : year < later) :
    yearStart year + 365 ≤ yearStart later := by
  -- The years that are no leap years are fewer than the leap years they are taken from.
  have century : year / 100 = year / 4 / 25 ∧ later / 100 = later / 4 / 25 := by omega
  have leaps : year / 4 ≤ later / 4 := by omega
  unfold yearStart
  omega

theorem firstOfMonth_le (year : Int) {month later : Int} (ordered : month ≤ later) :
    firstOfMonth year month ≤ firstOfMonth year later := by
  simp only [firstOfMonth_eq]
  -- Either both months are in one year, or a whole year's start lies between them.
  by_cases same : (month - 2) / 12 = (later - 2) / 12
  · rw [same]
    omega
  · have apart := yearStart_lt
      (show year + (month - 2) / 12 < year + (later - 2) / 12 by omega)
    omega

/-- Within its cycle of 400 years a year starts where the leap years before it put it. -/
theorem yearStart_era (era : Int) {year : Int} (first : 0 ≤ year) (last : year < 400) :
    yearStart (year + era * 400) = era * 146097 + (365 * year + year / 4 - year / 100) := by
  unfold yearStart
  omega

theorem month_range {day : Int} (first : 0 ≤ day) (last : day ≤ 365) :
    0 ≤ (5 * day + 2) / 153 ∧ (5 * day + 2) / 153 ≤ 11 := by
  omega

theorem firstOfMonth_march (year : Int) {month : Int} (first : 0 ≤ month) (last : month ≤ 11) :
    firstOfMonth year (month + 2) = yearStart year + (153 * month + 2) / 5 - 719468 ∧
      firstOfMonth (year + 1) (month - 10) =
        yearStart year + (153 * month + 2) / 5 - 719468 := by
  -- March to December stay in the year, January and February are counted in the next one.
  have here : (month + 2 - 2) / 12 = 0 ∧ (month + 2 - 2) % 12 = month := by omega
  have next : (month - 10 - 2) / 12 = -1 ∧ (month - 10 - 2) % 12 = month := by omega
  constructor
  · rw [firstOfMonth_eq, here.1, here.2, Int.add_zero]
  · rw [firstOfMonth_eq, next.1, next.2, show year + 1 + -1 = year by omega]

theorem dateOfDay_eq (era : Int) {dayOfEra : Int} (first : 0 ≤ dayOfEra)
    (last : dayOfEra < 146097) :
    dateOfDay (era * 146097 + dayOfEra - 719468) =
      let month := (5 * dayOfYear dayOfEra + 2) / 153
      let day := dayOfYear dayOfEra - (153 * month + 2) / 5 + 1
      if month < 10 then ⟨yearOfEra dayOfEra + era * 400, month + 2, day⟩
      else ⟨yearOfEra dayOfEra + era * 400 + 1, month - 10, day⟩ := by
  -- The day is taken apart into the cycle and the day in it that it was put together from.
  have cycle : (era * 146097 + dayOfEra - 719468 + 719468) / 146097 = era := by omega
  have rest : era * 146097 + dayOfEra - 719468 + 719468 - era * 146097 = dayOfEra := by omega
  simp only [dateOfDay, cycle, rest]
  rfl

theorem firstOfMonth_dateOfDay (days : Int) :
    firstOfMonth (dateOfDay days).year (dateOfDay days).month + ((dateOfDay days).day - 1) =
      days := by
  -- Count the day from the start of its cycle of 400 years.
  obtain ⟨era, dayOfEra, first, last, rfl⟩ : ∃ era dayOfEra : Int,
      0 ≤ dayOfEra ∧ dayOfEra < 146097 ∧ days = era * 146097 + dayOfEra - 719468 :=
    ⟨(days + 719468) / 146097, (days + 719468) % 146097, by omega, by omega, by omega⟩
  have year := yearOfEra_range first last
  have within := dayOfYear_range first last
  have month := month_range within.1 within.2
  have start := yearStart_era era year.1 year.2
  have months := firstOfMonth_march (yearOfEra dayOfEra + era * 400) month.1 month.2
  have parts : dayOfYear dayOfEra = dayOfEra - (365 * yearOfEra dayOfEra +
      yearOfEra dayOfEra / 4 - yearOfEra dayOfEra / 100) := rfl
  rw [dateOfDay_eq era first last]
  dsimp only
  -- January and February are months of the next calendar year.
  split_ifs
  · dsimp only
    rw [months.1, start]
    omega
  · dsimp only
    rw [months.2, start]
    omega

theorem le_firstOfMonth_dateOfDay (days : Int) {months : Int} (forward : 0 ≤ months) :
    days ≤ firstOfMonth (dateOfDay days).year ((dateOfDay days).month + months) +
      ((dateOfDay days).day - 1) := by
  -- The month moves on and the day in it stays, so that the sum moves on.
  have later := firstOfMonth_le (dateOfDay days).year (Int.le_add_of_nonneg_right forward :
    (dateOfDay days).month ≤ (dateOfDay days).month + months)
  have here := firstOfMonth_dateOfDay days
  omega

theorem le_addMonths (t : Instant) {months : Int} (forward : 0 ≤ months) :
    t ≤ addMonths t months := by
  -- The day does not move back, and the time of day is kept.
  have reached := Int.mul_le_mul_of_nonneg_right (le_firstOfMonth_dateOfDay (t / dayMs) forward)
    (show (0 : Int) ≤ dayMs by decide)
  calc t = t / dayMs * dayMs + t % dayMs := (Int.ediv_mul_add_emod t dayMs).symm
    _ ≤ _ := Int.add_le_add_right reached _

end Calendar
