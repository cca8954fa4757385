import Mathlib.Logic.Function.Iterate
import Mathlib.Tactic.IntervalCases
import LedgerClient.Proofs.Timestamp.Calendar

/-!
# Dates one after another

The calendar, said without counting: a date is followed by the next day of its month, by the first
of the next month, or by the first of January of the next year (`next`). The date of a day is what
this gives when it is repeated from the first of January 1970 (`ofDays_natCast`).

Behind it stands that every month begins where the one before it ends (`monthStart_succ`). So the
days are in the order of their dates (`toDays_lt_toDays_iff`), two dates of the calendar are never
the same day, and every such date is the date of a day (`ofDays_toDays`).
-/

namespace LedgerClient.Date

/-! ### Dates of the calendar -/

/-- The date is one of the calendar: the month is one of the twelve and has the day. -/
structure IsValid (d : Date) : Prop where
  month_pos : 1 ≤ d.month
  month_le : d.month ≤ 12
  day_pos : 1 ≤ d.day
  day_le : d.day ≤ daysInMonth d.year d.month

/-- A date whose year is not negative is given by a natural number for the year. -/
theorem mk_toNat_year {d : Date} (h : 0 ≤ d.year) :
    (⟨d.year.toNat, d.month, d.day⟩ : Date) = d := by
  rw [Int.toNat_of_nonneg h]

theorem isValid_ofDays (n : Int) : (ofDays n).IsValid :=
  ⟨(month_ofDays n).1, (month_ofDays n).2, (day_ofDays n).1, day_le_daysInMonth n⟩

/-- The date comes before the other one: the years decide, then the months, then the days. -/
def Precedes (d e : Date) : Prop :=
  d.year < e.year ∨ d.year = e.year ∧ (d.month < e.month ∨ d.month = e.month ∧ d.day < e.day)

theorem precedes_or_eq_or_precedes (d e : Date) : d.Precedes e ∨ d = e ∨ e.Precedes d := by
  obtain ⟨year, month, day⟩ := d
  obtain ⟨year', month', day'⟩ := e
  simp only [Precedes, mk.injEq]
  omega

/-- The date that follows. -/
def next (d : Date) : Date :=
  if d.day < daysInMonth d.year d.month then ⟨d.year, d.month, d.day + 1⟩
  else if d.month < 12 then ⟨d.year, d.month + 1, 1⟩
  else ⟨d.year + 1, 1, 1⟩

theorem daysInMonth_pos (year : Int) (month : Nat) : 1 ≤ daysInMonth year month := by
  unfold daysInMonth
  split
  · split <;> omega
  all_goals omega

theorem daysInMonth_le (year : Int) (month : Nat) : daysInMonth year month ≤ 31 := by
  unfold daysInMonth
  split
  · split <;> omega
  all_goals omega

theorem IsValid.next {d : Date} (h : d.IsValid) : d.next.IsValid := by
  obtain ⟨hmonth, hmonth', hday, -⟩ := h
  unfold Date.next
  split
  · exact ⟨hmonth, hmonth', Nat.le_add_left 1 _, ‹_›⟩
  · split
    · exact ⟨Nat.le_add_left 1 _, ‹_›, le_rfl, daysInMonth_pos _ _⟩
    · exact ⟨le_rfl, Nat.le_add_left 1 11, le_rfl, daysInMonth_pos _ _⟩

/-! ### Months one after another -/

/-- Within a year the next month begins after as many days as the month has. -/
theorem toDays_month_succ (year : Int) {month : Nat} (hlow : 1 ≤ month) (hhigh : month < 12) :
    toDays ⟨year, month + 1, 1⟩ = toDays ⟨year, month, 1⟩ + daysInMonth year month := by
  by_cases hfebruary : month = 2
  · -- The count goes from March to March, and this is where it comes to the next year.
    have hleap : isLeap year = true ↔ year % 4 = 0 ∧ (year % 100 ≠ 0 ∨ year % 400 = 0) := by
      simp [isLeap]
    rw [hfebruary]
    by_cases hyear : isLeap year = true
    · have hrule := hleap.mp hyear
      norm_num [toDays, daysInMonth, hyear]
      omega
    · have hrule := mt hleap.mpr hyear
      norm_num [toDays, daysInMonth, hyear]
      omega
  · interval_cases month <;> first
      | exact absurd rfl hfebruary
      | norm_num [toDays, daysInMonth]; omega

/-- The next year begins after the 31 days of December. -/
theorem toDays_year_succ (year : Int) :
    toDays ⟨year + 1, 1, 1⟩ = toDays ⟨year, 12, 1⟩ + 31 := by
  norm_num [toDays]
  omega

theorem toDays_day (year : Int) (month day : Nat) :
    toDays ⟨year, month, day⟩ = toDays ⟨year, month, 1⟩ + (day - 1) := by
  simp only [toDays]
  omega

/-- The first day of a month, the months counted from January of the year zero. -/
def monthStart (k : Int) : Int :=
  toDays ⟨k / 12, (k % 12).toNat + 1, 1⟩

theorem monthStart_eq (year : Int) (month : Nat) (hlow : 1 ≤ month) (hhigh : month ≤ 12) :
    monthStart (12 * year + month - 1) = toDays ⟨year, month, 1⟩ := by
  have hyear : (12 * year + month - 1) / 12 = year := by omega
  have hmonth : ((12 * year + month - 1) % 12).toNat + 1 = month := by omega
  rw [monthStart, hyear, hmonth]

/-- Every month begins where the one before it ends. -/
theorem monthStart_succ (year : Int) (month : Nat) (hlow : 1 ≤ month) (hhigh : month ≤ 12) :
    monthStart (12 * year + month) = toDays ⟨year, month, 1⟩ + daysInMonth year month := by
  rcases Nat.lt_or_eq_of_le hhigh with hlt | rfl
  · rw [← toDays_month_succ year hlow hlt, ← monthStart_eq year (month + 1) (by omega) hlt]
    congr 1
    push_cast
    omega
  · have hdecember : daysInMonth year 12 = 31 := rfl
    rw [hdecember, Nat.cast_ofNat, Nat.cast_ofNat, ← toDays_year_succ,
      ← monthStart_eq (year + 1) 1 le_rfl (by omega)]
    congr 1
    omega

/-- Later months begin later. -/
theorem monthStart_le {k l : Int} (h : k ≤ l) : monthStart k ≤ monthStart l := by
  have hstep : ∀ k, monthStart k ≤ monthStart (k + 1) := fun k => by
    have hk : 12 * (k / 12) + ((k % 12).toNat + 1 : Nat) = k + 1 := by omega
    have hnext := monthStart_succ (k / 12) ((k % 12).toNat + 1) (by omega) (by omega)
    rw [hk] at hnext
    rw [hnext, monthStart]
    omega
  obtain ⟨n, rfl⟩ := Int.le.dest h
  induction n with
  | zero => simp
  | succ n ih =>
    have hn : k + ((n + 1 : Nat) : Int) = k + n + 1 := by omega
    rw [hn]
    exact Int.le_trans (ih (by omega)) (hstep _)

/-! ### Days in the order of their dates -/

/-- A later date is a later day. -/
theorem toDays_lt_toDays {d e : Date} (hd : d.IsValid) (he : e.IsValid) (h : d.Precedes e) :
    d.toDays < e.toDays := by
  obtain ⟨year, month, day⟩ := d
  obtain ⟨year', month', day'⟩ := e
  obtain ⟨hlow, hhigh, hpos, hle⟩ := hd
  obtain ⟨hlow', hhigh', hpos', -⟩ := he
  dsimp only [Precedes] at hlow hhigh hpos hle hlow' hhigh' hpos' h
  have hend := monthStart_succ year month hlow hhigh
  have hstart := monthStart_eq year' month' hlow' hhigh'
  rw [toDays_day year, toDays_day year']
  by_cases hmonth : year = year' ∧ month = month'
  · obtain ⟨rfl, rfl⟩ := hmonth
    omega
  · -- The month of the first date ends before or where that of the second begins.
    have hle : monthStart (12 * year + month) ≤ monthStart (12 * year' + month' - 1) :=
      monthStart_le (by omega)
    omega

/-- **The order of dates.** Dates of the calendar are in the order of their days. -/
theorem toDays_lt_toDays_iff {d e : Date} (hd : d.IsValid) (he : e.IsValid) :
    d.toDays < e.toDays ↔ d.Precedes e := by
  refine ⟨fun h => ?_, toDays_lt_toDays hd he⟩
  rcases d.precedes_or_eq_or_precedes e with hlt | rfl | hgt
  · exact hlt
  · exact absurd h (lt_irrefl _)
  · exact absurd h (lt_asymm (toDays_lt_toDays he hd hgt))

theorem toDays_injective {d e : Date} (hd : d.IsValid) (he : e.IsValid)
    (h : d.toDays = e.toDays) : d = e := by
  rcases d.precedes_or_eq_or_precedes e with hlt | heq | hgt
  · exact absurd h (toDays_lt_toDays hd he hlt).ne
  · exact heq
  · exact absurd h (toDays_lt_toDays he hd hgt).ne'

/-- Every date of the calendar is the date of its day. -/
theorem ofDays_toDays {d : Date} (h : d.IsValid) : ofDays d.toDays = d :=
  toDays_injective (isValid_ofDays _) h (toDays_ofDays _)

/-! ### Counting on -/

/-- The date that follows is one day later. -/
theorem toDays_next {d : Date} (h : d.IsValid) : d.next.toDays = d.toDays + 1 := by
  obtain ⟨year, month, day⟩ := d
  obtain ⟨hlow, hhigh, hpos, hle⟩ := h
  dsimp only at hlow hhigh hpos hle
  simp only [next]
  rw [toDays_day year month day]
  split
  · rw [toDays_day]
    push_cast
    omega
  · have hlast : day = daysInMonth year month := by omega
    split
    · rw [toDays_month_succ year hlow ‹_›]
      omega
    · have hdecember : month = 12 := by omega
      rw [toDays_year_succ, hlast, hdecember]
      simp only [daysInMonth]
      omega

theorem ofDays_succ (n : Int) : ofDays (n + 1) = (ofDays n).next := by
  have hvalid := isValid_ofDays n
  rw [← toDays_ofDays n, ← toDays_next hvalid, ofDays_toDays hvalid.next, toDays_ofDays]

/-- **The calendar.** The date of a day is reached from the first of January 1970 by going to the
date that follows as many times. -/
theorem ofDays_natCast (n : Nat) : ofDays n = next^[n] ⟨1970, 1, 1⟩ := by
  induction n with
  | zero => decide
  | succ n ih => rw [Nat.cast_succ, ofDays_succ, ih, Function.iterate_succ_apply']

end LedgerClient.Date
