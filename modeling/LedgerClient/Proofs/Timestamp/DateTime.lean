import LedgerClient.Proofs.Text.Order
import LedgerClient.Proofs.Timestamp.Succession

/-!
# Dates and times of day

A `DateTime` is a date of the calendar in a year of four digits and a time of day, and `chars` is
its usual form. It is determined by its number of seconds (`eq_of_seconds_eq`). The parts stand in
the order of their weight and in fixed widths, so that texts are in the order of the times
(`chars_lt_chars`).
-/

namespace LedgerClient

open Numeral

/-- A date of the calendar in a year of four digits, and a time of day. -/
@[ext]
structure DateTime where
  year : Nat
  month : Nat
  day : Nat
  hour : Nat
  minute : Nat
  second : Nat
  year_lt : year < 10000
  isValid_date : (⟨year, month, day⟩ : Date).IsValid
  hour_lt : hour < 24
  minute_lt : minute < 60
  second_lt : second < 60

namespace DateTime

variable (m : DateTime)

/-- The date. -/
def date : Date :=
  ⟨m.year, m.month, m.day⟩

/-- The seconds from midnight. -/
def secondOfDay : Nat :=
  3600 * m.hour + 60 * m.minute + m.second

/-- The seconds from the beginning of 1970. -/
def seconds : Int :=
  m.date.toDays * 86400 + m.secondOfDay

/-- The date and the time of day in their usual form, such as `2024-01-01T00:00:00`. -/
def chars : List Char :=
  padded 4 m.year ++ '-' :: (padded 2 m.month ++ '-' :: (padded 2 m.day ++
    'T' :: (padded 2 m.hour ++ ':' :: (padded 2 m.minute ++ ':' :: padded 2 m.second))))

variable {m} {n : DateTime}

theorem secondOfDay_lt : m.secondOfDay < 86400 := by
  have hhour := m.hour_lt
  have hminute := m.minute_lt
  have hsecond := m.second_lt
  unfold secondOfDay
  omega

theorem month_lt : m.month < 100 :=
  m.isValid_date.month_le.trans_lt (by decide)

theorem day_lt : m.day < 100 :=
  (m.isValid_date.day_le.trans (Date.daysInMonth_le _ _)).trans_lt (by decide)

/-- The characters number nineteen. -/
theorem length_chars : m.chars.length = 19 := by
  have hyear := length_padded (show 0 < 4 by omega) m.year_lt
  have htwo : ∀ {k}, k < 100 → (padded 2 k).length = 2 := fun hk => length_padded (by omega) hk
  simp only [chars, List.length_append, List.length_cons, hyear, htwo m.month_lt, htwo m.day_lt,
    htwo (m.hour_lt.trans (by omega : 24 < 100)), htwo (m.minute_lt.trans (by omega : 60 < 100)),
    htwo (m.second_lt.trans (by omega : 60 < 100))]

/-! ### The parts of a time -/

theorem date_eq : m.date = Date.ofDays (m.seconds / 86400) := by
  have htime := m.secondOfDay_lt
  have hdays : m.seconds / 86400 = m.date.toDays := by
    unfold seconds
    omega
  rw [hdays]
  exact (Date.ofDays_toDays m.isValid_date).symm

theorem secondOfDay_eq : (m.secondOfDay : Int) = m.seconds % 86400 := by
  have htime := m.secondOfDay_lt
  unfold seconds
  omega

/-- The hour, the minute and the second of a time of day. -/
theorem time_eq : m.hour = m.secondOfDay / 3600 ∧ m.minute = m.secondOfDay % 3600 / 60 ∧
    m.second = m.secondOfDay % 60 := by
  have hminute := m.minute_lt
  have hsecond := m.second_lt
  unfold secondOfDay
  omega

/-- Times of the same number of seconds are the same in every part. -/
theorem eq_of_seconds_eq (h : m.seconds = n.seconds) : m = n := by
  have hdate : m.date = n.date := by rw [date_eq, date_eq, h]
  have htime : m.secondOfDay = n.secondOfDay :=
    Int.ofNat_inj.mp (by rw [secondOfDay_eq, secondOfDay_eq, h])
  obtain ⟨hhour, hminute, hsecond⟩ := m.time_eq
  obtain ⟨hhour', hminute', hsecond'⟩ := n.time_eq
  simp only [date, Date.mk.injEq, Int.ofNat_inj] at hdate
  refine DateTime.ext hdate.1 hdate.2.1 hdate.2.2 ?_ ?_ ?_
  · rw [hhour, hhour', htime]
  · rw [hminute, hminute', htime]
  · rw [hsecond, hsecond', htime]

/-- The first part in which two times differ is in the order of the times. -/
theorem parts_of_seconds_lt (h : m.seconds < n.seconds) :
    m.year < n.year ∨ m.year = n.year ∧ (m.month < n.month ∨ m.month = n.month ∧
      (m.day < n.day ∨ m.day = n.day ∧ (m.hour < n.hour ∨ m.hour = n.hour ∧
        (m.minute < n.minute ∨ m.minute = n.minute ∧ m.second < n.second)))) := by
  have hm := m.secondOfDay_lt
  have hn := n.secondOfDay_lt
  have hdays : m.date.toDays < n.date.toDays ∨
      m.date.toDays = n.date.toDays ∧ m.secondOfDay < n.secondOfDay := by
    unfold seconds at h
    omega
  rcases hdays with hday | ⟨hday, htime⟩
  · have hdate := (Date.toDays_lt_toDays_iff m.isValid_date n.isValid_date).mp hday
    simp only [Date.Precedes, Int.ofNat_lt, Int.ofNat_inj] at hdate
    tauto
  · have hdate := Date.toDays_injective m.isValid_date n.isValid_date hday
    simp only [Date.mk.injEq, Int.ofNat_inj] at hdate
    have hm := m.time_eq
    have hn := n.time_eq
    exact .inr ⟨hdate.1, .inr ⟨hdate.2.1, .inr ⟨hdate.2.2, by omega⟩⟩⟩

/-- **The order of texts.** Of two times the later one has the later text. -/
theorem chars_lt_chars (h : m.seconds < n.seconds) : m.chars < n.chars := by
  unfold chars
  -- One part after another: it settles the order, or it is the same and the next one does.
  refine padded_append_cons_lt _ (by omega) n.year_lt ?_
  refine (parts_of_seconds_lt h).imp_right (And.imp_right fun h => ?_)
  refine padded_append_cons_lt _ (by omega) n.month_lt ?_
  refine h.imp_right (And.imp_right fun h => ?_)
  refine padded_append_cons_lt _ (by omega) n.day_lt ?_
  refine h.imp_right (And.imp_right fun h => ?_)
  refine padded_append_cons_lt _ (by omega) (n.hour_lt.trans (by omega)) ?_
  refine h.imp_right (And.imp_right fun h => ?_)
  refine padded_append_cons_lt _ (by omega) (n.minute_lt.trans (by omega)) ?_
  refine h.imp_right (And.imp_right fun h => ?_)
  exact padded_lt_padded (by omega) h (n.second_lt.trans (by omega))

/-! ### A date and a second of the day -/

/-- The second of a day on a date. -/
def ofDate (d : Date) (hyear : 0 ≤ d.year ∧ d.year < 10000) (hvalid : d.IsValid) (second : Nat)
    (h : second < 86400) : DateTime where
  year := d.year.toNat
  month := d.month
  day := d.day
  hour := second / 3600
  minute := second % 3600 / 60
  second := second % 60
  year_lt := (Int.toNat_lt hyear.1).mpr hyear.2
  isValid_date := (Date.mk_toNat_year hyear.1).symm ▸ hvalid
  hour_lt := by omega
  minute_lt := by omega
  second_lt := by omega

section OfDate

variable {d : Date} (hyear : 0 ≤ d.year ∧ d.year < 10000) (hvalid : d.IsValid) {k : Nat}
  (h : k < 86400)

@[simp]
theorem date_ofDate : (ofDate d hyear hvalid k h).date = d :=
  Date.mk_toNat_year hyear.1

@[simp]
theorem secondOfDay_ofDate : (ofDate d hyear hvalid k h).secondOfDay = k := by
  simp only [secondOfDay, ofDate]
  omega

theorem chars_ofDate : (ofDate d hyear hvalid k h).chars =
    padded 4 d.year.toNat ++ '-' :: (padded 2 d.month ++ '-' :: (padded 2 d.day ++
      'T' :: (padded 2 (k / 3600) ++ ':' :: (padded 2 (k % 3600 / 60) ++
        ':' :: padded 2 (k % 60))))) :=
  rfl

end OfDate

end DateTime

end LedgerClient
