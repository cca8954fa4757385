import LedgerClient.Timestamp.Calendar

/-!
# Days and dates

Every day has a date, and counting the days to that date gives the day again. A day is a place in
cycles of 400, 100, 4 and 1 years that begin in March (`exists_cycles`); within its year it
determines the month and the day of the month. The last day of such a year is the leap day, which
the cycles reach exactly in leap years, so that no date has more days than its month.
-/

namespace LedgerClient.Date

/-! ### Days within a year -/

/-- The date of a day within the year that begins in March of the given year. -/
def ofYearDay (year day : Int) : Date :=
  let month := (5 * day + 2) / 153
  if month < 10 then ⟨year, month.toNat + 3, (day - (153 * month + 2) / 5 + 1).toNat⟩
  else ⟨year + 1, month.toNat - 9, (day - (153 * month + 2) / 5 + 1).toNat⟩

/-- Every day is a place in the cycles of the calendar, and the last day of a year is reached in
the last year of a cycle of four, and then in the last of a cycle of 100 years only if this is the
last of a cycle of 400. -/
theorem exists_cycles (n : Int) : ∃ era century quad single day : Int,
    (0 ≤ century ∧ century ≤ 3) ∧ (0 ≤ quad ∧ quad ≤ 24) ∧ (0 ≤ single ∧ single ≤ 3) ∧
      (0 ≤ day ∧ day ≤ 365) ∧ (day = 365 → single = 3 ∧ (quad = 24 → century = 3)) ∧
      n + epochOffset = 146097 * era + 36524 * century + 1461 * quad + 365 * single + day ∧
      ofDays n = ofYearDay (400 * era + 100 * century + 4 * quad + single) day := by
  let place := n + epochOffset
  let inEra := place % 146097
  let century := min (inEra / 36524) 3
  let inCentury := inEra - 36524 * century
  let inQuad := inCentury % 1461
  let single := min (inQuad / 365) 3
  refine ⟨place / 146097, century, inCentury / 1461, single, inQuad - 365 * single, ?_, ?_, ?_, ?_,
    ?_, ?_, rfl⟩ <;> omega

/-- The days to a date, from the day within its year. -/
theorem toDays_ofYearDay {year day : Int} (hlow : 0 ≤ day) (hhigh : day ≤ 365) :
    toDays (ofYearDay year day) =
      365 * year + year / 4 - year / 100 + year / 400 + day - epochOffset := by
  obtain ⟨month, hmonth⟩ : ∃ month : Nat, (5 * day + 2) / 153 = month :=
    Int.eq_ofNat_of_zero_le (by omega)
  have hle : month ≤ 11 := by omega
  have hday : ((day - (153 * month + 2) / 5 + 1).toNat : Int) = day - (153 * month + 2) / 5 + 1 :=
    Int.toNat_of_nonneg (by omega)
  simp only [toDays, ofYearDay, hmonth, Int.toNat_natCast]
  by_cases hspring : (month : Int) < 10
  · have hback : ((month + 3 : Nat) + 9 : Int) % 12 = month := by omega
    simp only [if_pos hspring, if_neg (show ¬month + 3 ≤ 2 by omega), hback, hday]
    omega
  · have hback : ((month - 9 : Nat) + 9 : Int) % 12 = month := by omega
    simp only [if_neg hspring, if_pos (show month - 9 ≤ 2 by omega), hback, hday]
    omega

/-- The month of a day within a year, and the day of the month. -/
theorem month_day_ofYearDay {year day : Int} (hlow : 0 ≤ day) (hhigh : day ≤ 365) :
    (1 ≤ (ofYearDay year day).month ∧ (ofYearDay year day).month ≤ 12) ∧
      (1 ≤ (ofYearDay year day).day ∧ (ofYearDay year day).day ≤ 31) ∧
      ((ofYearDay year day).month ∈ [4, 6, 9, 11] → (ofYearDay year day).day ≤ 30) := by
  simp only [ofYearDay, List.mem_cons, List.not_mem_nil, or_false]
  by_cases hmonth : (5 * day + 2) / 153 < 10
  · simp only [if_pos hmonth]
    omega
  · simp only [if_neg hmonth]
    omega

/-- The last day of a year is the 29th of February. -/
theorem february_ofYearDay {year day : Int} (hlow : 0 ≤ day) (hhigh : day ≤ 365)
    (hmonth : (ofYearDay year day).month = 2) : (ofYearDay year day).year = year + 1 ∧
      (ofYearDay year day).day ≤ 29 ∧ ((ofYearDay year day).day = 29 → day = 365) := by
  simp only [ofYearDay] at hmonth ⊢
  by_cases hspring : (5 * day + 2) / 153 < 10
  · simp only [if_pos hspring] at hmonth
    omega
  · simp only [if_neg hspring] at hmonth ⊢
    have hlast : (5 * day + 2) / 153 = 11 := by omega
    rw [hlast]
    exact ⟨trivial, by omega, fun h => by omega⟩

/-! ### Days and dates -/

/-- **The calendar.** Counting the days to the date of a day gives the day. -/
theorem toDays_ofDays (n : Int) : toDays (ofDays n) = n := by
  obtain ⟨era, century, quad, single, day, hcentury, hquad, hsingle, hday, -, hplace, hdate⟩ :=
    exists_cycles n
  rw [hdate, toDays_ofYearDay hday.1 hday.2]
  have hfour : (400 * era + 100 * century + 4 * quad + single) / 4 =
      100 * era + 25 * century + quad := by omega
  have hhundred : (400 * era + 100 * century + 4 * quad + single) / 100 = 4 * era + century := by
    omega
  have hfourHundred : (400 * era + 100 * century + 4 * quad + single) / 400 = era := by omega
  omega

theorem month_ofDays (n : Int) : 1 ≤ (ofDays n).month ∧ (ofDays n).month ≤ 12 := by
  obtain ⟨era, century, quad, single, day, -, -, -, hday, -, -, hdate⟩ := exists_cycles n
  rw [hdate]
  exact (month_day_ofYearDay hday.1 hday.2).1

theorem day_ofDays (n : Int) : 1 ≤ (ofDays n).day ∧ (ofDays n).day ≤ 31 := by
  obtain ⟨era, century, quad, single, day, -, -, -, hday, -, -, hdate⟩ := exists_cycles n
  rw [hdate]
  exact (month_day_ofYearDay hday.1 hday.2).2.1

/-- No date has more days than its month. -/
theorem day_le_daysInMonth (n : Int) :
    (ofDays n).day ≤ daysInMonth (ofDays n).year (ofDays n).month := by
  obtain ⟨era, century, quad, single, day, hcentury, hquad, hsingle, hday, hleap, -, hdate⟩ :=
    exists_cycles n
  rw [hdate]
  obtain ⟨-, ⟨-, hle⟩, hshort⟩ :=
    @month_day_ofYearDay (400 * era + 100 * century + 4 * quad + single) day hday.1 hday.2
  by_cases hmonth : (ofYearDay (400 * era + 100 * century + 4 * quad + single) day).month = 2
  · obtain ⟨hyear, hle', hlast⟩ := february_ofYearDay hday.1 hday.2 hmonth
    rw [hmonth, hyear, daysInMonth]
    split
    · exact hle'
    · rename_i hcommon
      -- The 29th is the last day of a cycle of years, and this falls into a leap year.
      refine Nat.le_of_lt_succ (Nat.lt_of_le_of_ne hle' fun h29 => hcommon ?_)
      obtain ⟨hsingle', hquad'⟩ := hleap (hlast h29)
      simp only [isLeap, Bool.and_eq_true, Bool.or_eq_true, decide_eq_true_eq]
      omega
  · unfold daysInMonth
    split
    · exact absurd ‹_› hmonth
    all_goals first
      | exact hle
      | exact hshort (by simp [*])

/-- The days since 1970 that times of 32 bits reach lie in years of four digits. -/
theorem year_ofDays {n : Int} (hlow : 0 ≤ n) (hhigh : n ≤ 49710) :
    0 ≤ (ofDays n).year ∧ (ofDays n).year < 10000 := by
  obtain ⟨era, century, quad, single, day, hcentury, hquad, hsingle, hday, -, hplace, hdate⟩ :=
    exists_cycles n
  rw [hdate, ofYearDay]
  simp only [epochOffset] at hplace
  split <;> simp only <;> omega

end LedgerClient.Date
