import LedgerClient.Proofs.Asset.Text

/-!
# Which texts are amounts, and of how much

The grammar of the text of an amount as a type: a *spelling* is a choice of everything that such a
text may vary in, the blanks, the sign, the digits and the ticker, together with the proofs that the
choice is admissible. A spelling has a text, and it stands for a whole number of smallest units and
for a symbol, both of them said without the reader: the number is computed without any bound on the
way, and only its size is bounded in the end.

The main statement is that reading finds exactly this (`ofText_eq_ok_iff_exists_spelling`). What is
read is the text of some spelling, and the text of every spelling is read, as the amount it stands
for; leading zeros, however many, make no difference.
-/

namespace LedgerClient.Asset

theorem units_replicate_append (zeros : Nat) (whole places : List Char) :
    units (List.replicate zeros '0' ++ whole) places = units whole places := by
  rw [units, Numeral.valueOf_replicate_append, units]

theorem le_maxValue_iff {n : Nat} : (n : Int) ≤ Int64.maxValue.toInt ↔ n ≤ 2 ^ 63 - 1 := by
  have hmax : Int64.maxValue.toInt = 2 ^ 63 - 1 := by decide
  omega

/-- The text of an amount by its parts. -/
structure Spelling where
  /-- The blanks in front. -/
  before : List Char
  /-- Whether there is a minus sign. -/
  negative : Bool
  /-- The digits before the point. -/
  whole : List Char
  /-- The digits behind the point; without any there is no point. -/
  places : List Char
  /-- The blanks between the number and the ticker. -/
  between : List Char
  /-- The name of the symbol. -/
  ticker : List Char
  /-- The blanks at the end. -/
  after : List Char
  blanks : ∀ c ∈ before ++ between ++ after, isBlank c = true
  between_ne : between ≠ []
  digits : ∀ c ∈ whole ++ places, Numeral.isDigit c = true
  whole_ne : whole ≠ []
  ticker_chars : ∀ c ∈ ticker, isSymbolChar c = true
  ticker_ne : ticker ≠ []
  places_le : places.length ≤ 18
  viz_places : String.ofList ticker = "VIZ" → places.length = 3
  vests_places : String.ofList ticker = "SHARES" → places.length = 6
  /-- The units are no more than the largest amount. -/
  units_le : units whole places ≤ 2 ^ 63 - 1

namespace Spelling

variable (p : Spelling)

/-- The number without its sign. -/
def decimal : List Char :=
  p.whole ++ if p.places = [] then [] else '.' :: p.places

/-- The first of the two words. -/
def number : List Char :=
  if p.negative then '-' :: p.decimal else p.decimal

/-- The text that is spelled. -/
def text : String :=
  String.ofList (p.before ++ (p.number ++ (p.between ++ (p.ticker ++ p.after))))

/-- The number of smallest units that the text stands for. -/
def amount : Int :=
  if p.negative then -units p.whole p.places else units p.whole p.places

/-- The symbol that the text stands for. -/
def symbol : Symbol :=
  let name := String.ofList p.ticker
  if name = "VIZ" then .viz
  else if name = "SHARES" then .vests
  else .custom name (.ofNat p.places.length)

/-- The spelling with more zeros in front of its digits. -/
def padded (zeros : Nat) : Spelling where
  __ := p
  whole := List.replicate zeros '0' ++ p.whole
  digits := by
    have hdigits := p.digits
    simp only [List.forall_mem_append] at hdigits ⊢
    refine ⟨⟨fun c hc => ?_, hdigits.1⟩, hdigits.2⟩
    rw [(List.mem_replicate.mp hc).2]
    decide
  whole_ne := List.append_ne_nil_of_right_ne_nil _ p.whole_ne
  units_le := by
    rw [units_replicate_append]
    exact p.units_le

@[simp]
theorem amount_padded (zeros : Nat) : (p.padded zeros).amount = p.amount := by
  simp [amount, padded, units_replicate_append]

@[simp]
theorem symbol_padded (zeros : Nat) : (p.padded zeros).symbol = p.symbol :=
  rfl

/-! ### The words of a spelling -/

theorem exists_decimal_eq_cons : ∃ c cs, p.decimal = c :: cs ∧ Numeral.isDigit c = true := by
  obtain ⟨c, cs, hwhole⟩ := List.exists_cons_of_ne_nil p.whole_ne
  refine ⟨c, cs ++ if p.places = [] then [] else '.' :: p.places, ?_, ?_⟩
  · rw [decimal, hwhole, List.cons_append]
  · exact p.digits c (by simp [hwhole])

/-- The sign is the only character that a decimal does not begin with, so it is found. -/
theorem number_sign : decide (p.number.head? = some '-') = p.negative ∧
    (if p.number.head? = some '-' then p.number.drop 1 else p.number) = p.decimal := by
  obtain ⟨c, cs, hdecimal, hc⟩ := p.exists_decimal_eq_cons
  have hminus : c ≠ '-' := Numeral.ne_of_isDigit hc (by decide)
  cases hsign : p.negative with
  | true => simp [number, hsign]
  | false => simp [number, hsign, hdecimal, hminus]

theorem isBlank_of_mem_number {c : Char} (h : c ∈ p.number) : isBlank c = false := by
  have hchar : c = '-' ∨ c = '.' ∨ c ∈ p.whole ++ p.places := by
    grind [number, decimal]
  rcases hchar with rfl | rfl | h
  · decide
  · decide
  · exact Numeral.isBlank_of_isDigit (p.digits c h)

theorem words_text : words p.text.toList = [p.number, p.ticker] := by
  have hnumber : p.number ≠ [] := by
    obtain ⟨c, cs, hdecimal, -⟩ := p.exists_decimal_eq_cons
    rw [number, hdecimal]
    split <;> exact List.cons_ne_nil _ _
  refine words_eq_pair_iff.mpr ⟨hnumber, p.ticker_ne, ?_, p.before, p.between, p.after, ?_,
    p.between_ne, p.blanks⟩
  · intro c hc
    rcases List.mem_append.mp hc with hc | hc
    · exact p.isBlank_of_mem_number hc
    · exact isBlank_of_isSymbolChar (p.ticker_chars c hc)
  · rw [text, String.toList_ofList]

theorem splitDecimal?_decimal : splitDecimal? p.decimal = some (p.whole, p.places) := by
  have hdigits := p.digits
  simp only [List.forall_mem_append] at hdigits
  rw [decimal]
  split
  · rename_i hnil
    rw [List.append_nil, hnil]
    exact splitDecimal?_digits p.whole_ne hdigits.1
  · rename_i hne
    exact splitDecimal?_point p.whole_ne hne hdigits.1 hdigits.2

/-- The ticker comes with the places that it demands. -/
theorem placesOf?_ticker :
    ∀ n ∈ placesOf? (String.ofList p.ticker), n = p.places.length := by
  intro n hn
  have hviz := p.viz_places
  have hvests := p.vests_places
  rw [placesOf?, Symbol.vizName, Symbol.vestsName] at hn
  grind

/-- The symbol is told by the ticker alone, since the ticker has the places that it demands. -/
theorem ofParts_ticker :
    Symbol.ofParts (String.ofList p.ticker) (.ofNat p.places.length) = p.symbol := by
  rw [Symbol.ofParts, symbol, Symbol.vizName, Symbol.vestsName]
  by_cases hviz : String.ofList p.ticker = "VIZ"
  · rw [if_pos ⟨hviz, by rw [p.viz_places hviz]; rfl⟩, if_pos hviz]
  · rw [if_neg (fun h => hviz h.1), if_neg hviz]
    by_cases hvests : String.ofList p.ticker = "SHARES"
    · rw [if_pos ⟨hvests, by rw [p.vests_places hvests]; rfl⟩, if_pos hvests]
    · rw [if_neg (fun h => hvests h.1), if_neg hvests]

/-! ### The amount of a spelling -/

/-- The amount is within 64 bits. -/
theorem toInt_amount : (Int64.ofInt p.amount).toInt = p.amount := by
  have hmin : Int64.minValue.toInt = -2 ^ 63 := by decide
  have hmax : Int64.maxValue.toInt = 2 ^ 63 - 1 := by decide
  have hle := p.units_le
  rw [amount]
  refine Int64.toInt_ofInt_of_le ?_ ?_ <;> split <;> omega

/-- The text of a spelling is read as the amount that it stands for. -/
theorem ofText_text : ofText p.text = .ok ⟨.ofInt p.amount, p.symbol⟩ := by
  obtain ⟨hsign, hdecimal⟩ := p.number_sign
  refine ofText_eq_ok_iff.mpr ⟨p.number, p.ticker, p.words_text, ofWords_eq_ok_iff.mpr ?_⟩
  refine ⟨p.ticker_ne, p.ticker_chars, p.whole, p.places, ?_, p.places_le, p.placesOf?_ticker,
    le_maxValue_iff.mpr p.units_le, ?_⟩
  · rw [hdecimal, p.splitDecimal?_decimal]
  · -- The reader finds the sign in the number, the spelling states it.
    have hnegative : (p.number.head? = some '-') = (p.negative = true) := by
      rw [← hsign, decide_eq_true_eq]
    simp only [hnegative]
    rw [p.ofParts_ticker, amount]

end Spelling

/-! ### What is read is spelled -/

/-- Whatever is read is the text of a spelling. -/
theorem exists_spelling_of_ofText {s : String} {a : Asset} (h : ofText s = .ok a) :
    ∃ p : Spelling, s = p.text := by
  obtain ⟨number, symbol, hwords, hread⟩ := ofText_eq_ok_iff.mp h
  obtain ⟨-, -, -, before, between, after, hs, hbetween, hblanks⟩ := words_eq_pair_iff.mp hwords
  obtain ⟨hne, hchars, whole, places, hsplit, hplaces, hname, hmax, -⟩ := ofWords_eq_ok_iff.mp hread
  obtain ⟨hwhole, hdigits, hdecimal⟩ := of_splitDecimal? hsplit
  -- The places of both native tickers are what the reader demands of a ticker in general.
  have hdemand : ∀ name n, placesOf? name = some n → String.ofList symbol = name →
      places.length = n := by
    rintro name n hn rfl
    exact (hname n hn).symm
  refine ⟨⟨before, decide (number.head? = some '-'), whole, places, between, symbol, after, hblanks,
    hbetween, hdigits, hwhole, hchars, hne, hplaces, hdemand "VIZ" 3 (by decide),
    hdemand "SHARES" 6 (by decide), le_maxValue_iff.mp hmax⟩, ?_⟩
  -- A sign that was found stands in front of the decimal.
  have hnumber : number = if decide (number.head? = some '-') then
      '-' :: (if number.head? = some '-' then number.drop 1 else number)
    else if number.head? = some '-' then number.drop 1 else number := by
    cases number with
    | nil => rfl
    | cons c cs => by_cases hc : c = '-' <;> simp [hc]
  rw [Spelling.text, Spelling.number, Spelling.decimal, ← hdecimal, ← hnumber, ← hs,
    String.ofList_toList]

/-- **The grammar of amounts.** A text is read as an amount if and only if it is the text of a
spelling that stands for this amount. The text of every spelling is read, and zeros in front of its
digits, however many, make no difference. -/
theorem ofText_eq_ok_iff_exists_spelling :
    (∀ (s : String) (a : Asset), ofText s = .ok a ↔
      ∃ p : Spelling, s = p.text ∧ a.amount.toInt = p.amount ∧ a.symbol = p.symbol) ∧
    ∀ (p : Spelling) (zeros : Nat),
      ofText (p.padded zeros).text = .ok ⟨.ofInt p.amount, p.symbol⟩ := by
  refine ⟨fun s a => ⟨fun h => ?_, ?_⟩, fun p zeros => ?_⟩
  · obtain ⟨p, rfl⟩ := exists_spelling_of_ofText h
    obtain rfl : _ = a := Except.ok.inj (p.ofText_text.symm.trans h)
    exact ⟨p, rfl, p.toInt_amount, rfl⟩
  · rintro ⟨p, rfl, hamount, hsymbol⟩
    have hunits : a.amount = .ofInt p.amount := by
      rw [← Int64.toInt_inj, p.toInt_amount, hamount]
    rw [p.ofText_text, ← hunits, ← hsymbol]
  · rw [(p.padded zeros).ofText_text, p.amount_padded, p.symbol_padded]

example : ofText "\t-00000000000000000000009223372036854775.807  VIZ " =
    .ok ⟨-Int64.maxValue, .viz⟩ := by
  cbv

end LedgerClient.Asset
