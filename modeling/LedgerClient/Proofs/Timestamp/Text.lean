import LedgerClient.Proofs.Text.Numeral
import LedgerClient.Proofs.Timestamp.Calendar
import LedgerClient.Timestamp.Basic

/-!
# Times are read back from their text

Every part of the text of a time is written with its full width and within the range that the
reader checks, so that each step of the reader takes the part that was written for it.
`Timestamp.ofText_text` puts the steps together: the text of any of the `2 ^ 32` times is read as
this time.
-/

namespace LedgerClient.Timestamp

/-! ### Parts of the text -/

theorem digits?_padded {width n : Nat} (hwidth : 0 < width) (h : n < 10 ^ width)
    (rest : List Char) : digits? width (Numeral.padded width n ++ rest) = some (n, rest) := by
  have hlen := Numeral.length_padded hwidth h
  have htake : (Numeral.padded width n ++ rest).take width = Numeral.padded width n :=
    List.take_left' hlen
  have hdrop : (Numeral.padded width n ++ rest).drop width = rest := List.drop_left' hlen
  have hall : (Numeral.padded width n).all Numeral.isDigit = true :=
    List.all_eq_true.mpr fun _ => Numeral.isDigit_of_mem_padded
  simp [digits?, htake, hdrop, hlen, hall]

/-- A year of four digits is read without a sign. -/
theorem readYear_padded {n : Nat} (h : n < 10000) (rest : List Char) :
    readYear (Numeral.padded 4 n ++ rest) = .ok ((n : Int), rest) := by
  have hread : digits? 4 (Numeral.padded 4 n ++ rest) = some (n, rest) :=
    digits?_padded (by omega) h rest
  have hlen : (Numeral.padded 4 n).length = 4 := Numeral.length_padded (by omega) h
  cases hdigits : Numeral.padded 4 n with
  | nil =>
    rw [hdigits] at hlen
    cases hlen
  | cons c cs =>
    have hc : Numeral.isDigit c = true :=
      Numeral.isDigit_of_mem_padded (hdigits ▸ List.mem_cons_self)
    have hsign : ∀ d, Numeral.isDigit d = false → c ≠ d := by
      rintro d hd rfl
      rw [hc] at hd
      cases hd
    rw [hdigits, List.cons_append] at hread
    simp [readYear, hsign '-' (by decide), hsign '+' (by decide), hread]

/-- A part within its range is read from its two digits. -/
theorem readPart_padded {name : String} {low high n : Nat} (hlow : low ≤ n) (hhigh : n ≤ high)
    (h : n < 100) (rest : List Char) :
    readPart name low high (Numeral.padded 2 n ++ rest) = .ok (n, rest) := by
  have hread : digits? 2 (Numeral.padded 2 n ++ rest) = some (n, rest) :=
    digits?_padded (by omega) h rest
  simp [readPart, hread, hlow, hhigh]

theorem readLiteral_cons (c : Char) (rest : List Char) : readLiteral c (c :: rest) = .ok rest := by
  simp [readLiteral]

/-! ### Dates and times of day -/

/-- A date and a time of day whose parts are in their ranges are read as the number of seconds that
they are. -/
theorem readParts_padded {year month day hour minute second : Nat} (hyear : year < 10000)
    (hmonth : 1 ≤ month ∧ month ≤ 12) (hday : 1 ≤ day ∧ day ≤ 31)
    (hlength : day ≤ Date.daysInMonth year month) (hhour : hour < 24) (hminute : minute < 60)
    (hsecond : second < 60) :
    readParts (Numeral.padded 4 year ++ '-' :: (Numeral.padded 2 month ++ '-' ::
      (Numeral.padded 2 day ++ 'T' :: (Numeral.padded 2 hour ++ ':' ::
        (Numeral.padded 2 minute ++ ':' :: (Numeral.padded 2 second ++ [])))))) =
      .ok (Date.toDays ⟨year, month, day⟩ * 86400 +
        (3600 * hour + 60 * minute + second : Nat)) := by
  have hrange : ¬Date.daysInMonth year month < day := Nat.not_lt.mpr hlength
  have hleap : second ≠ 60 := by omega
  simp only [readParts, readYear_padded hyear, readLiteral_cons,
    readPart_padded hmonth.1 hmonth.2 (show month < 100 by omega),
    readPart_padded hday.1 hday.2 (show day < 100 by omega),
    readPart_padded (Nat.zero_le hour) (show hour ≤ 23 by omega) (by omega),
    readPart_padded (Nat.zero_le minute) (show minute ≤ 59 by omega) (by omega),
    readPart_padded (Nat.zero_le second) (show second ≤ 60 by omega) (by omega),
    bind, Except.bind, List.isEmpty_nil, Bool.not_true, hrange, hleap, if_false, pure, Except.pure]
  simp

/-! ### Texts -/

/-- A text that ends with digits has no zone. -/
theorem dropZone_append_padded (cs : List Char) (c : Char) (n : Nat) :
    dropZone (cs ++ c :: Numeral.padded 2 n) = cs ++ c :: Numeral.padded 2 n := by
  have hne : Numeral.padded 2 n ≠ [] := by
    have hlen := Numeral.le_length_padded 2 n
    exact List.ne_nil_of_length_pos (by omega)
  have hdigit : Numeral.isDigit ((Numeral.padded 2 n).getLast hne) = true :=
    Numeral.isDigit_of_mem_padded (List.getLast_mem hne)
  have hlast : (cs ++ c :: Numeral.padded 2 n).getLast? =
      some ((Numeral.padded 2 n).getLast hne) := by
    rw [List.getLast?_append, List.getLast?_cons, List.getLast?_eq_some_getLast hne]
    rfl
  rw [dropZone, hlast, if_neg]
  intro heq
  rw [Option.some.inj heq] at hdigit
  exact absurd hdigit (by decide)

/-- The parts of a time are read as the time. -/
theorem readParts_chars (t : Timestamp) : readParts t.chars = .ok (t.seconds.toNat : Int) := by
  have hn : t.seconds.toNat < 4294967296 := t.seconds.toNat_lt
  obtain ⟨n, hseconds⟩ : ∃ n, t.seconds.toNat = n := ⟨_, rfl⟩
  obtain ⟨date, hdate⟩ : ∃ date, Date.ofDays ((n : Int) / 86400) = date := ⟨_, rfl⟩
  have hyear := Date.year_ofDays (n := (n : Int) / 86400) (by omega) (by omega)
  have hmonth := Date.month_ofDays ((n : Int) / 86400)
  have hday := Date.day_ofDays ((n : Int) / 86400)
  have hlength := Date.day_le_daysInMonth ((n : Int) / 86400)
  have hdays := Date.toDays_ofDays ((n : Int) / 86400)
  rw [hdate] at hyear hmonth hday hlength hdays
  obtain ⟨year, month, day⟩ := date
  obtain ⟨year, rfl⟩ : ∃ y : Nat, year = y := Int.eq_ofNat_of_zero_le hyear.1
  dsimp only at hyear hmonth hday hlength
  have hread := readParts_padded (by omega) hmonth hday hlength
    (show n % 86400 / 3600 < 24 by omega) (show n % 3600 / 60 < 60 by omega)
    (show n % 60 < 60 by omega)
  rw [hdays, show (n : Int) / 86400 * 86400 + (3600 * (n % 86400 / 3600) +
    60 * (n % 3600 / 60) + n % 60 : Nat) = n by omega] at hread
  rw [hseconds, ← hread]
  simp [chars, hseconds, hdate]

theorem ofSeconds_toNat (t : Timestamp) : ofSeconds t.seconds.toNat = .ok t := by
  have hlt : (t.seconds.toNat : Int) < UInt32.size := Int.ofNat_lt.mpr t.seconds.toNat_lt
  rw [ofSeconds, if_pos ⟨Int.natCast_nonneg _, hlt⟩, Int.toNat_natCast, UInt32.ofNat_toNat]

theorem dropZone_chars (t : Timestamp) : dropZone t.chars = t.chars := by
  rw [chars]
  exact dropZone_append_padded _ _ _

/-- **Times.** The text of a time is read as the time. -/
theorem ofText_text (t : Timestamp) : ofText t.text = .ok t := by
  rw [ofText, text, String.toList_ofList, dropZone_chars, readParts_chars]
  exact ofSeconds_toNat t

end LedgerClient.Timestamp
