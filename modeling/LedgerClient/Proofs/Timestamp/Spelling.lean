import LedgerClient.Proofs.Json.Form
import LedgerClient.Proofs.Timestamp.DateTime
import LedgerClient.Proofs.Timestamp.Text

/-!
# Which texts are times

The text of a time consists of the characters of a date and a time of day (`chars_dateTime`). They
are all that the reader takes, but for a plus sign in front and one `Z` at the end: `of_readParts`
says so of the parts and `exists_spelling_of_ofText` of the whole text. A minus sign in front of the
year makes it one before 1970, which no time of 32 bits reaches.
-/

namespace LedgerClient

open Numeral

namespace Timestamp

/-! ### What the reader takes -/

/-- Digits are read from the numeral in their width. -/
theorem of_digits? {width n : Nat} {cs rest : List Char} (hwidth : 0 < width)
    (h : digits? width cs = some (n, rest)) : n < 10 ^ width ∧ cs = padded width n ++ rest := by
  simp only [digits?] at h
  split at h
  · rename_i htake
    cases h
    simp only [Bool.and_eq_true, decide_eq_true_eq, List.all_eq_true] at htake
    obtain ⟨hlen, hdigits⟩ := htake
    have hne : cs.take width ≠ [] := List.ne_nil_of_length_pos (by omega)
    have hlt := valueOf_lt hdigits
    have hpadded := padded_length_valueOf hne hdigits
    rw [hlen] at hlt hpadded
    exact ⟨hlt, by rw [hpadded, List.take_append_drop]⟩
  · cases h

theorem of_readPart {name : String} {low high n : Nat} {cs rest : List Char}
    (h : readPart name low high cs = .ok (n, rest)) :
    (low ≤ n ∧ n ≤ high) ∧ cs = padded 2 n ++ rest := by
  rw [readPart] at h
  split at h
  · rename_i hdigits
    split at h <;> cases h
    rename_i hrange
    simp only [Bool.and_eq_true, decide_eq_true_eq] at hrange
    exact ⟨hrange, (of_digits? (by omega) hdigits).2⟩
  · cases h

theorem of_readLiteral {c : Char} {cs rest : List Char} (h : readLiteral c cs = .ok rest) :
    cs = c :: rest := by
  cases cs with
  | nil => cases h
  | cons d cs =>
    rw [readLiteral] at h
    split at h <;> cases h
    rename_i hsame
    rw [hsame]

/-- A year is read from four digits, perhaps behind a sign. -/
theorem of_readYear {year : Int} {cs rest : List Char} (h : readYear cs = .ok (year, rest)) :
    ∃ n : Nat, n < 10000 ∧
      (year = n ∧ (cs = padded 4 n ++ rest ∨ cs = '+' :: (padded 4 n ++ rest)) ∨ year ≤ 0) := by
  simp only [readYear] at h
  split at h <;> cases h
  rename_i n hdigits
  obtain ⟨hlt, heq⟩ := of_digits? (by omega) hdigits
  refine ⟨n, hlt, ?_⟩
  split at heq
  · exact .inr (by simp)
  · exact .inl ⟨by simp, .inr (by rw [← heq])⟩
  · exact .inl ⟨by simp, .inl heq⟩

/-- What is read as a date and a time of day has a year in front and the other parts in two digits
each behind it. -/
theorem exists_of_readParts {cs : List Char} {seconds : Int} (h : readParts cs = .ok seconds) :
    ∃ (year : Int) (month day hour minute second : Nat), (⟨year, month, day⟩ : Date).IsValid ∧
      hour < 24 ∧ minute < 60 ∧ second < 60 ∧
      seconds = Date.toDays ⟨year, month, day⟩ * 86400 +
        (3600 * hour + 60 * minute + second : Nat) ∧
      readYear cs = .ok (year, '-' :: (padded 2 month ++ '-' :: (padded 2 day ++
        'T' :: (padded 2 hour ++ ':' :: (padded 2 minute ++ ':' :: padded 2 second))))) := by
  unfold readParts at h
  obtain ⟨⟨year, cs₁⟩, hyear, h⟩ := Json.bind_eq_ok_iff.mp h
  obtain ⟨cs₂, hdash, h⟩ := Json.bind_eq_ok_iff.mp h
  obtain ⟨⟨month, cs₃⟩, hmonth, h⟩ := Json.bind_eq_ok_iff.mp h
  obtain ⟨cs₄, hdash', h⟩ := Json.bind_eq_ok_iff.mp h
  obtain ⟨⟨day, cs₅⟩, hday, h⟩ := Json.bind_eq_ok_iff.mp h
  obtain ⟨cs₆, hletter, h⟩ := Json.bind_eq_ok_iff.mp h
  obtain ⟨⟨hour, cs₇⟩, hhour, h⟩ := Json.bind_eq_ok_iff.mp h
  obtain ⟨cs₈, hcolon, h⟩ := Json.bind_eq_ok_iff.mp h
  obtain ⟨⟨minute, cs₉⟩, hminute, h⟩ := Json.bind_eq_ok_iff.mp h
  obtain ⟨cs₁₀, hcolon', h⟩ := Json.bind_eq_ok_iff.mp h
  obtain ⟨⟨second, cs₁₁⟩, hsecond, h⟩ := Json.bind_eq_ok_iff.mp h
  dsimp only at hdash hmonth hdash' hday hletter hhour hcolon hminute hcolon' hsecond h
  -- Nothing may be left, the month has the day, and the minute has no 61st second.
  split at h
  · cases h
  · rename_i hempty
    split at h
    · cases h
    · rename_i hlength
      split at h <;> cases h
      rename_i hleap
      obtain ⟨hrangeMonth, rfl⟩ := of_readPart hmonth
      obtain ⟨hrangeDay, rfl⟩ := of_readPart hday
      obtain ⟨hrangeHour, rfl⟩ := of_readPart hhour
      obtain ⟨hrangeMinute, rfl⟩ := of_readPart hminute
      obtain ⟨hrangeSecond, rfl⟩ := of_readPart hsecond
      have hnil : cs₁₁ = [] := by simpa using hempty
      refine ⟨year, month, day, hour, minute, second,
        ⟨hrangeMonth.1, hrangeMonth.2, hrangeDay.1, Nat.not_lt.mp hlength⟩, by omega, by omega,
        by omega, rfl, ?_⟩
      rw [hyear, of_readLiteral hdash, of_readLiteral hdash', of_readLiteral hletter,
        of_readLiteral hcolon, of_readLiteral hcolon', hnil, List.append_nil]

/-- **The grammar of times.** What is read as a time of 1970 or later is the text of a date and a
time of day, perhaps behind a plus sign. -/
theorem of_readParts {cs : List Char} {seconds : Int} (h : readParts cs = .ok seconds)
    (hpos : 0 ≤ seconds) :
    ∃ (m : DateTime) (plus : Bool), m.seconds = seconds ∧
      cs = (if plus then ['+'] else []) ++ m.chars := by
  obtain ⟨year, month, day, hour, minute, second, hdate, hhour, hminute, hsecond, rfl, hyear⟩ :=
    exists_of_readParts h
  obtain ⟨n, hlt, ⟨rfl, hcs⟩ | hold⟩ := of_readYear hyear
  · let m : DateTime := ⟨n, month, day, hour, minute, second, hlt, hdate, hhour, hminute, hsecond⟩
    rcases hcs with rfl | rfl
    · exact ⟨m, false, rfl, rfl⟩
    · exact ⟨m, true, rfl, rfl⟩
  · -- A year that is not positive is over before 1970 begins.
    have hbefore : Date.toDays ⟨year, month, day⟩ < Date.toDays ⟨1970, 1, 1⟩ :=
      Date.toDays_lt_toDays hdate (Date.isValid_ofDays 0) (.inl (by dsimp only; omega))
    have hepoch : Date.toDays ⟨1970, 1, 1⟩ = 0 := by decide
    omega

/-- A date and a time of day are read as their seconds, with a plus sign in front or without. -/
theorem readParts_dateTime (m : DateTime) (plus : Bool) :
    readParts ((if plus then ['+'] else []) ++ m.chars) = .ok m.seconds := by
  have hdate := m.isValid_date
  have hday := hdate.day_le.trans (Date.daysInMonth_le _ _)
  have hchars : readParts m.chars = .ok m.seconds := by
    have hread := readParts_padded m.year_lt ⟨hdate.month_pos, hdate.month_le⟩
      ⟨hdate.day_pos, hday⟩ hdate.day_le m.hour_lt m.minute_lt m.second_lt
    rwa [List.append_nil] at hread
  cases plus with
  | false => exact hchars
  | true =>
    have hplus : readYear ('+' :: m.chars) = readYear m.chars := by
      rw [DateTime.chars, readYear_padded m.year_lt]
      simp only [readYear, digits?_padded (show 0 < 4 by omega) m.year_lt]
      simp
    have hsame : readParts ('+' :: m.chars) = readParts m.chars := by
      unfold readParts
      rw [hplus]
    exact hsame.trans hchars

/-- A text is what is left without the zone, and then the zone. -/
theorem exists_zone (cs : List Char) :
    ∃ zone : Bool, cs = dropZone cs ++ if zone then ['Z'] else [] := by
  unfold dropZone
  split
  · rename_i hlast
    obtain ⟨ds, rfl⟩ := List.getLast?_eq_some_iff.mp hlast
    exact ⟨true, by rw [List.dropLast_concat, if_pos rfl]⟩
  · exact ⟨false, (List.append_nil cs).symm⟩

/-- The zone is looked for at the end only. -/
theorem dropZone_append (ds : List Char) {cs : List Char} (hne : cs ≠ []) :
    dropZone (ds ++ cs) = ds ++ dropZone cs := by
  have hlast : (ds ++ cs).getLast? = cs.getLast? := by
    rw [List.getLast?_append_of_ne_nil _ hne]
  unfold dropZone
  rw [hlast, List.dropLast_append_of_ne_nil hne]
  split <;> rfl

/-- One zone is dropped, and there is no other. -/
theorem dropZone_append_zone {cs : List Char} (hne : cs ≠ []) (h : dropZone cs = cs)
    (ds : List Char) (zone : Bool) :
    dropZone (ds ++ cs ++ if zone then ['Z'] else []) = ds ++ cs := by
  cases zone with
  | false =>
    have hnone : dropZone (ds ++ cs) = ds ++ cs := by rw [dropZone_append _ hne, h]
    simpa using hnone
  | true =>
    rw [if_pos rfl, dropZone_append _ (by decide)]
    exact List.append_nil _

/-! ### The text of a time -/

/-- The days of a time lie in years of four digits. -/
theorem year_ofDays (t : Timestamp) :
    0 ≤ (Date.ofDays ((t.seconds.toNat : Int) / 86400)).year ∧
      (Date.ofDays ((t.seconds.toNat : Int) / 86400)).year < 10000 := by
  have hlt : t.seconds.toNat < 4294967296 := t.seconds.toNat_lt
  generalize t.seconds.toNat = n at hlt
  exact Date.year_ofDays (by omega) (by omega)

/-- The date and the time of day of a time. -/
def dateTime (t : Timestamp) : DateTime :=
  .ofDate (Date.ofDays ((t.seconds.toNat : Int) / 86400)) t.year_ofDays
    (Date.isValid_ofDays _) (t.seconds.toNat % 86400) (Nat.mod_lt _ (by decide))

theorem seconds_dateTime (t : Timestamp) : t.dateTime.seconds = t.seconds.toNat := by
  rw [DateTime.seconds, dateTime, DateTime.date_ofDate, DateTime.secondOfDay_ofDate,
    Date.toDays_ofDays]
  generalize t.seconds.toNat = n
  omega

/-- The text of a time consists of the characters of its date and its time of day. -/
theorem chars_dateTime (t : Timestamp) : t.dateTime.chars = t.chars := by
  rw [dateTime, DateTime.chars_ofDate]
  unfold chars
  obtain ⟨date, hdate⟩ : ∃ date, Date.ofDays ((t.seconds.toNat : Int) / 86400) = date := ⟨_, rfl⟩
  have hhour : ∀ n : Nat, n % 86400 % 3600 = n % 3600 := fun n => by omega
  have hminute : ∀ n : Nat, n % 86400 % 60 = n % 60 := fun n => by omega
  simp only [hdate, hhour, hminute, List.append_assoc, List.cons_append]

theorem toList_text (t : Timestamp) : t.text.toList = t.dateTime.chars := by
  rw [text, String.toList_ofList, chars_dateTime]

/-- The seconds that a time is made from are its own. -/
theorem of_ofSeconds {seconds : Int} {t : Timestamp} (h : ofSeconds seconds = .ok t) :
    0 ≤ seconds ∧ seconds = t.seconds.toNat := by
  rw [ofSeconds] at h
  split at h <;> cases h
  rename_i hrange
  have hlt : seconds.toNat < UInt32.size := (Int.toNat_lt hrange.1).mpr hrange.2
  exact ⟨hrange.1, by rw [UInt32.toNat_ofNat_of_lt' hlt, Int.toNat_of_nonneg hrange.1]⟩

/-- The text of a time, with or without a plus sign in front and with or without a `Z` behind. -/
def spelling (t : Timestamp) (plus zone : Bool) : String :=
  (if plus then "+" else "") ++ t.text ++ if zone then "Z" else ""

theorem toList_spelling (t : Timestamp) (plus zone : Bool) : (t.spelling plus zone).toList =
    (if plus then ['+'] else []) ++ t.dateTime.chars ++ if zone then ['Z'] else [] := by
  rw [spelling, String.toList_append, String.toList_append, toList_text]
  cases plus <;> cases zone <;> rfl

/-- A text that is read as a time is one of its spellings. -/
theorem exists_spelling_of_ofText {s : String} {t : Timestamp} (h : ofText s = .ok t) :
    ∃ plus zone, s = t.spelling plus zone := by
  rw [ofText] at h
  split at h
  · rename_i seconds hread
    obtain ⟨hpos, hseconds⟩ := of_ofSeconds h
    obtain ⟨m, plus, hm, hchars⟩ := of_readParts hread hpos
    obtain ⟨zone, hzone⟩ := exists_zone s.toList
    obtain rfl : m = t.dateTime :=
      DateTime.eq_of_seconds_eq (by rw [hm, hseconds, seconds_dateTime])
    refine ⟨plus, zone, String.toList_inj.mp ?_⟩
    rw [toList_spelling, ← hchars]
    exact hzone
  · cases h

/-- Every spelling of a time is read as the time. -/
theorem ofText_spelling (t : Timestamp) (plus zone : Bool) :
    ofText (t.spelling plus zone) = .ok t := by
  have hne : t.dateTime.chars ≠ [] :=
    List.ne_nil_of_length_pos (by rw [DateTime.length_chars]; omega)
  have hdrop : dropZone t.dateTime.chars = t.dateTime.chars := by
    rw [chars_dateTime, dropZone_chars]
  have hread := readParts_dateTime t.dateTime plus
  rw [seconds_dateTime] at hread
  rw [ofText, toList_spelling, dropZone_append_zone hne hdrop, hread]
  exact ofSeconds_toNat t

/-- The date of a time is reached from the first of January 1970 day by day. -/
theorem date_dateTime (t : Timestamp) :
    t.dateTime.date = Date.next^[t.seconds.toNat / 86400] ⟨1970, 1, 1⟩ := by
  rw [dateTime, DateTime.date_ofDate, ← Date.ofDays_natCast, Int.natCast_ediv]
  rfl

/-- Later times have later texts. -/
theorem text_lt_text {t₁ t₂ : Timestamp} (h : t₁.seconds < t₂.seconds) : t₁.text < t₂.text := by
  have hseconds : t₁.dateTime.seconds < t₂.dateTime.seconds := by
    rw [seconds_dateTime, seconds_dateTime]
    exact Int.ofNat_lt.mpr (UInt32.lt_iff_toNat_lt.mp h)
  rw [String.lt_iff_toList_lt, toList_text, toList_text]
  exact DateTime.chars_lt_chars hseconds

/-- **The text of a time.** It is the date that is reached from the first of January 1970 in as many
steps as there are days in the time, and the time of day that is left over, in nineteen characters.
It is what a text has to be to be read as the time, but for a plus sign in front and a `Z` behind.
And times are in the order of their texts. -/
theorem text_calendar :
    (∀ t : Timestamp, t.text.length = 19 ∧ ∃ m : DateTime, t.text = String.ofList m.chars ∧
      m.date = Date.next^[t.seconds.toNat / 86400] ⟨1970, 1, 1⟩ ∧
      t.seconds.toNat % 86400 = 3600 * m.hour + 60 * m.minute + m.second) ∧
    (∀ (s : String) (t : Timestamp), ofText s = .ok t ↔ ∃ plus zone : Bool,
      s = (if plus then "+" else "") ++ t.text ++ if zone then "Z" else "") ∧
    ∀ t₁ t₂ : Timestamp, t₁.seconds < t₂.seconds ↔ t₁.text < t₂.text := by
  refine ⟨fun t => ⟨?_, t.dateTime, ?_, t.date_dateTime, ?_⟩,
    fun s t => ⟨exists_spelling_of_ofText, ?_⟩, fun t₁ t₂ => ⟨text_lt_text, fun h => ?_⟩⟩
  · rw [← String.length_toList, toList_text, DateTime.length_chars]
  · rw [← toList_text, String.ofList_toList]
  · exact (DateTime.secondOfDay_ofDate ..).symm
  · rintro ⟨plus, zone, rfl⟩
    exact ofText_spelling t plus zone
  · -- The order of numbers is total, and the other two cases are those of the other texts.
    rcases Nat.lt_trichotomy t₁.seconds.toNat t₂.seconds.toNat with hlt | heq | hgt
    · exact UInt32.lt_iff_toNat_lt.mpr hlt
    · rw [show t₁ = t₂ from congrArg mk (UInt32.toNat_inj.mp heq)] at h
      exact absurd h (lt_irrefl _)
    · exact absurd h (lt_asymm (text_lt_text (UInt32.lt_iff_toNat_lt.mpr hgt)))

example : (⟨4107542399⟩ : Timestamp).text = "2100-02-28T23:59:59" ∧
    (⟨4107542400⟩ : Timestamp).text = "2100-03-01T00:00:00" := by
  decide

end Timestamp

end LedgerClient
