import LedgerClient.Asset.Text
import LedgerClient.Proofs.Asset.Wire
import LedgerClient.Proofs.Checked
import LedgerClient.Proofs.Text.Blank

/-!
# Assets that their text carries

The text of an amount says how many smallest units there are and how many places they are shown
with, and reading it finds both again, whatever the symbol. What can be lost is the symbol: its name
must be one that the reader takes, with the places that the ledger's own symbols demand, and a
symbol that is merely written like one of the ledger's own is read as that one. An amount is
*readable* if its text is read at all as its units, its name and its places (`ofText_text`), and
*text-safe* if moreover its symbol is the one that these determine. Every amount that is read is
text-safe.
-/

namespace LedgerClient

/-- A symbol that its name and places determine in a text: one of the ledger's own, or any other
with a name of capital letters and digits that is not the name of one of them. -/
def Symbol.IsTextSafe : Symbol → Prop
  | viz => True
  | vests => True
  | custom name _ => name ≠ "" ∧ (∀ c ∈ name.toList, Asset.isSymbolChar c = true) ∧
      name ≠ vizName ∧ name ≠ vestsName

/-- The name and the places of a symbol are such that they are read again from a text. -/
structure Symbol.IsReadable (s : Symbol) : Prop where
  /-- The places are no more than a text may have. -/
  precision_le : s.precision.toNat ≤ Asset.maxPlaces
  /-- The symbol has a name. -/
  name_ne : s.name ≠ ""
  /-- The name has capital letters and digits only. -/
  name_chars : ∀ c ∈ s.name.toList, Asset.isSymbolChar c = true
  /-- The name of one of the ledger's own symbols comes with its places. -/
  places : ∀ n ∈ Asset.placesOf? s.name, n = s.precision.toNat

namespace Symbol

theorem isTextSafe_ofParts {name : String} {precision : UInt8} (hne : name ≠ "")
    (hchars : ∀ c ∈ name.toList, Asset.isSymbolChar c = true)
    (hplaces : ∀ n ∈ Asset.placesOf? name, n = precision.toNat) :
    (ofParts name precision).IsTextSafe := by
  unfold ofParts
  split
  · trivial
  · split
    · trivial
    · rename_i hviz hvests
      refine ⟨hne, hchars, ?_, ?_⟩
      · rintro rfl
        exact hviz ⟨rfl, UInt8.toNat_inj.mp (hplaces 3 rfl).symm⟩
      · rintro rfl
        exact hvests ⟨rfl, UInt8.toNat_inj.mp (hplaces 6 rfl).symm⟩

/-- A text-safe symbol has a name that is read, comes with the places that the name demands, and is
the symbol that they determine. -/
theorem IsTextSafe.name_places {s : Symbol} (h : s.IsTextSafe) : s.name ≠ "" ∧
    (∀ c ∈ s.name.toList, Asset.isSymbolChar c = true) ∧
      (∀ n ∈ Asset.placesOf? s.name, n = s.precision.toNat) ∧ ofParts s.name s.precision = s := by
  cases s with
  | viz =>
    exact ⟨by decide, List.all_eq_true.mp (by decide), by simp [name, precision, Asset.placesOf?],
      rfl⟩
  | vests => exact ⟨by decide, List.all_eq_true.mp (by decide), by decide, rfl⟩
  | custom name precision =>
    obtain ⟨hne, hchars, hviz, hvests⟩ := h
    refine ⟨hne, hchars, ?_, ?_⟩
    · rw [Symbol.name, Asset.placesOf?, if_neg hviz, if_neg hvests]
      simp
    · rw [Symbol.name, Symbol.precision, ofParts, if_neg (fun h => hviz h.1),
        if_neg (fun h => hvests h.1)]

end Symbol

namespace Asset

/-- The amount is the one that its text is read as. -/
structure IsTextSafe (a : Asset) : Prop where
  /-- The number of units has an opposite. -/
  amount_ne : a.amount ≠ Int64.minValue
  /-- The places are no more than a text may have. -/
  precision_le : a.precision.toNat ≤ maxPlaces
  /-- The name and the places determine the symbol. -/
  symbol : a.symbol.IsTextSafe

/-- The text of the amount is read as the same units, name and places. -/
structure IsReadable (a : Asset) : Prop where
  /-- The number of units has an opposite. -/
  amount_ne : a.amount ≠ Int64.minValue
  /-- The name and the places are read again. -/
  symbol : a.symbol.IsReadable

/-- The amount with the symbol that its name and places determine. -/
def resolved (a : Asset) : Asset :=
  ⟨a.amount, .ofParts a.symbol.name a.precision⟩

/-! ### Characters -/

theorem isBlank_of_isSymbolChar {c : Char} (h : isSymbolChar c = true) : isBlank c = false := by
  rcases Bool.or_eq_true_iff.mp h with h | h
  · simp only [Bool.and_eq_true, decide_eq_true_eq, Char.le_def, UInt32.le_iff_toNat_le] at h
    have hlow : 65 ≤ c.toNat := h.1
    have hhigh : c.toNat ≤ 90 := h.2
    simp [isBlank, blankRanges]
    omega
  · exact Numeral.isBlank_of_isDigit h

/-! ### Decimals -/

theorem splitDecimal?_digits {whole : List Char} (hne : whole ≠ [])
    (h : ∀ c ∈ whole, Numeral.isDigit c = true) : splitDecimal? whole = some (whole, []) := by
  have hpoint : ∀ c ∈ whole, decide (c ≠ '.') = true := fun c hc =>
    decide_eq_true (Numeral.ne_of_isDigit (h c hc) (by decide))
  have htake : (whole ++ []).takeWhile (· ≠ '.') = whole ++ [] :=
    List.takeWhile_append_of_pos hpoint
  have hdrop : (whole ++ []).dropWhile (· ≠ '.') = [] := List.dropWhile_append_of_pos hpoint
  rw [List.append_nil] at htake hdrop
  have hall : (!whole.isEmpty && whole.all Numeral.isDigit) = true := by simpa [hne] using h
  rw [splitDecimal?]
  simp only [htake, hdrop, hall, if_true]

theorem splitDecimal?_point {whole places : List Char} (hne : whole ≠ []) (hne' : places ≠ [])
    (h : ∀ c ∈ whole, Numeral.isDigit c = true) (h' : ∀ c ∈ places, Numeral.isDigit c = true) :
    splitDecimal? (whole ++ '.' :: places) = some (whole, places) := by
  have hpoint : ∀ c ∈ whole, decide (c ≠ '.') = true := fun c hc =>
    decide_eq_true (Numeral.ne_of_isDigit (h c hc) (by decide))
  have htake : (whole ++ '.' :: places).takeWhile (· ≠ '.') = whole := by
    rw [List.takeWhile_append_of_pos hpoint]
    simp
  have hdrop : (whole ++ '.' :: places).dropWhile (· ≠ '.') = '.' :: places := by
    rw [List.dropWhile_append_of_pos hpoint]
    simp
  have hall : (!whole.isEmpty && whole.all Numeral.isDigit) = true := by simpa [hne] using h
  have hall' : (!places.isEmpty && places.all Numeral.isDigit) = true := by simpa [hne'] using h'
  rw [splitDecimal?]
  simp only [htake, hdrop]
  rw [if_pos (by rw [hall, Bool.true_and, hall'])]

/-- A decimal that is split consists of its digits, with a point before those of the places. -/
theorem of_splitDecimal? {cs whole places : List Char}
    (h : splitDecimal? cs = some (whole, places)) :
    whole ≠ [] ∧ (∀ c ∈ whole ++ places, Numeral.isDigit c = true) ∧
      cs = whole ++ if places = [] then [] else '.' :: places := by
  have hcs : cs.takeWhile (· ≠ '.') ++ cs.dropWhile (· ≠ '.') = cs :=
    List.takeWhile_append_dropWhile
  simp only [splitDecimal?] at h
  split at h
  · rename_i hdrop
    split at h
    · rename_i hdigits
      obtain ⟨rfl, rfl⟩ := Prod.mk.inj (Option.some.inj h)
      rw [hdrop] at hcs
      simp only [Bool.and_eq_true, Bool.not_eq_true', List.isEmpty_eq_false_iff,
        List.all_eq_true] at hdigits
      refine ⟨hdigits.1, ?_, ?_⟩
      · simpa using hdigits.2
      · simpa using hcs.symm
    · cases h
  · rename_i point rest hdrop
    split at h
    · rename_i hdigits
      obtain ⟨rfl, rfl⟩ := Prod.mk.inj (Option.some.inj h)
      -- The character that ends the first run is the point.
      have hpoint : point = '.' := by
        have hnot := List.head?_dropWhile_not (· ≠ '.') cs
        rw [hdrop] at hnot
        simpa using hnot
      rw [hdrop, hpoint] at hcs
      simp only [Bool.and_eq_true, Bool.not_eq_true', List.isEmpty_eq_false_iff,
        List.all_eq_true] at hdigits
      obtain ⟨⟨⟨hne, hwhole⟩, hne'⟩, hplaces⟩ := hdigits
      refine ⟨hne, ?_, ?_⟩
      · exact fun c hc => (List.mem_append.mp hc).elim (hwhole c) (hplaces c)
      · rw [if_neg hne', hcs]
    · cases h

/-- A written decimal consists of two runs of digits, the second of them for the places, with a
point between them if there are places. The first begins with a zero only if it is a zero. -/
theorem exists_decimalChars (places n : Nat) : ∃ whole rest, whole ≠ [] ∧ rest.length = places ∧
    (∀ c ∈ whole, Numeral.isDigit c = true) ∧ (∀ c ∈ rest, Numeral.isDigit c = true) ∧
      (whole.head? = some '0' → whole = ['0']) ∧
        Numeral.valueOf whole * 10 ^ places + Numeral.valueOf rest = n ∧
          decimalChars places n = if places = 0 then whole else whole ++ '.' :: rest := by
  let ds := Numeral.padded (places + 1) n
  have hlen : places + 1 ≤ ds.length := Numeral.le_length_padded (places + 1) n
  have happend : ds.take (ds.length - places) ++ ds.drop (ds.length - places) = ds :=
    List.take_append_drop _ _
  have hrest : (ds.drop (ds.length - places)).length = places := by
    rw [List.length_drop]
    omega
  refine ⟨ds.take (ds.length - places), ds.drop (ds.length - places), ?_, hrest, ?_, ?_, ?_, ?_,
    rfl⟩
  · refine List.ne_nil_of_length_pos ?_
    rw [List.length_take]
    omega
  · exact fun c hc => Numeral.isDigit_of_mem_padded (List.mem_of_mem_take hc)
  · exact fun c hc => Numeral.isDigit_of_mem_padded (List.mem_of_mem_drop hc)
  · intro hzero
    rw [List.head?_take, if_neg (by omega)] at hzero
    -- A zero in front fills up the width, which leaves room for a single digit before the point.
    have hwidth : ds.length = places + 1 := Numeral.length_padded_of_head? (Nat.succ_pos _) hzero
    obtain ⟨cs, hcons⟩ := List.head?_eq_some_iff.mp hzero
    rw [hwidth, Nat.add_sub_cancel_left, hcons]
    rfl
  · have hvalue := Numeral.valueOf_append (ds.take (ds.length - places))
      (ds.drop (ds.length - places))
    rw [happend, hrest, Numeral.valueOf_padded] at hvalue
    exact hvalue.symm

/-- A written decimal is split into its two runs of digits, which together stand for the number of
units. -/
theorem splitDecimal?_decimalChars (places n : Nat) : ∃ whole rest,
    splitDecimal? (decimalChars places n) = some (whole, rest) ∧ rest.length = places ∧
      Numeral.valueOf whole * 10 ^ places + Numeral.valueOf rest = n := by
  obtain ⟨whole, rest, hne, hlen, hwhole, hrest, -, hvalue, hchars⟩ := exists_decimalChars places n
  refine ⟨whole, rest, ?_, hlen, hvalue⟩
  rcases Nat.eq_zero_or_pos places with hzero | hpos
  · have hnil : rest = [] := List.length_eq_zero_iff.mp (hlen.trans hzero)
    rw [hchars, if_pos hzero, hnil, splitDecimal?_digits hne hwhole]
  · have hne' : rest ≠ [] := List.ne_nil_of_length_pos (by omega)
    rw [hchars, if_neg (by omega), splitDecimal?_point hne hne' hwhole hrest]

/-! ### The written number -/

/-- The number in the text of an amount, with its sign. -/
def numberChars (a : Asset) : List Char :=
  (if a.amount.toInt < 0 then ['-'] else []) ++
    decimalChars a.precision.toNat a.amount.toInt.natAbs

theorem toList_text (a : Asset) : a.text.toList = a.numberChars ++ ' ' :: a.symbol.name.toList := by
  simp [text, numberChars]

/-- A decimal begins with a digit. -/
theorem exists_decimalChars_cons (places n : Nat) :
    ∃ c cs, decimalChars places n = c :: cs ∧ Numeral.isDigit c = true := by
  obtain ⟨whole, rest, hne, -, hwhole, -, -, -, hchars⟩ := exists_decimalChars places n
  cases whole with
  | nil => exact absurd rfl hne
  | cons c cs =>
    refine ⟨c, if places = 0 then cs else cs ++ '.' :: rest, ?_, hwhole c List.mem_cons_self⟩
    rw [hchars]
    split <;> rfl

theorem isBlank_of_mem_numberChars {a : Asset} {c : Char} (h : c ∈ a.numberChars) :
    isBlank c = false := by
  rcases List.mem_append.mp h with h | h
  · split at h
    · rw [List.mem_singleton.mp h]
      decide
    · cases h
  · obtain ⟨whole, rest, -, -, hwhole, hrest, -, -, hchars⟩ :=
      exists_decimalChars a.precision.toNat a.amount.toInt.natAbs
    have hparts : c ∈ whole ∨ c = '.' ∨ c ∈ rest := by
      rw [hchars] at h
      split at h
      · exact .inl h
      · simpa using h
    rcases hparts with h | rfl | h
    · exact Numeral.isBlank_of_isDigit (hwhole c h)
    · decide
    · exact Numeral.isBlank_of_isDigit (hrest c h)

theorem numberChars_ne_nil (a : Asset) : a.numberChars ≠ [] := by
  obtain ⟨c, cs, hcons, -⟩ := exists_decimalChars_cons a.precision.toNat a.amount.toInt.natAbs
  simp [numberChars, hcons]

/-- The sign tells whether the amount is negative, and behind it stands the decimal. -/
theorem numberChars_sign (a : Asset) :
    (a.numberChars.head? = some '-' ↔ a.amount.toInt < 0) ∧
      (if a.amount.toInt < 0 then a.numberChars.drop 1 else a.numberChars) =
        decimalChars a.precision.toNat a.amount.toInt.natAbs := by
  obtain ⟨c, cs, hcons, hc⟩ := exists_decimalChars_cons a.precision.toNat a.amount.toInt.natAbs
  have hminus : c ≠ '-' := Numeral.ne_of_isDigit hc (by decide)
  by_cases hneg : a.amount.toInt < 0
  · simp [numberChars, hneg]
  · simp [numberChars, hneg, hcons, hminus]

/-! ### Reading what is written -/

/-- The written units are back in range unless the amount is the least one, which has no
opposite. -/
theorem natAbs_le_iff {x : Int64} :
    (x.toInt.natAbs : Int) ≤ Int64.maxValue.toInt ↔ x ≠ Int64.minValue := by
  have hle := x.minValue_le_toInt
  have hge := x.toInt_le
  have hmin : Int64.minValue.toInt = -9223372036854775808 := by decide
  have hmax : Int64.maxValue.toInt = 9223372036854775807 := by decide
  rw [Ne, ← Int64.toInt_inj]
  omega

theorem ofInt_natAbs (x : Int64) :
    Int64.ofInt (if x.toInt < 0 then -(x.toInt.natAbs : Int) else x.toInt.natAbs) = x := by
  have hsign : (if x.toInt < 0 then -(x.toInt.natAbs : Int) else x.toInt.natAbs) = x.toInt := by
    split <;> omega
  rw [hsign, Int64.ofInt_toInt]

/-- The number of units of a decimal, as a number without a bound. -/
def units (whole places : List Char) : Nat :=
  Numeral.valueOf whole * Nat.pow 10 places.length + Numeral.valueOf places

/-- No step of the computation in 64 bits refuses a decimal whose units fit: the scale fits because
the places are few, and all other intermediate values are bounded by the units. -/
theorem magnitude?_eq_some_iff {whole places : List Char} {m : Int64} (hne : whole ≠ [])
    (hdigits : ∀ c ∈ whole ++ places, Numeral.isDigit c = true)
    (hlength : places.length ≤ maxPlaces) :
    magnitude? whole places = some m ↔ m.toInt = units whole places := by
  obtain ⟨hwhole, hplaces⟩ := List.forall_mem_append.mp hdigits
  have hten : (10 : Int64).toInt = 10 := rfl
  have hunits : (units whole places : Int) =
      Numeral.valueOf whole * 10 ^ places.length + Numeral.valueOf places := by
    rw [units, Nat.pow_eq]
    push_cast
    rfl
  have hfraction : ∀ y : Int64, (if places.isEmpty then some 0 else Checked.ofDigits? places) =
      some y ↔ y.toInt = Numeral.valueOf places := by
    intro y
    rw [← Checked.foldlM_appendDigit?_eq_some_iff hplaces, Checked.ofDigits?]
    cases places <;> rfl
  simp only [magnitude?, Option.bind_eq_bind, Option.bind_eq_some_iff, hfraction,
    Checked.pow?_eq_some_iff (x := 10) (by decide), Checked.ofDigits?_eq_some_iff hne hwhole,
    Checked.mul?_eq_some_iff, Checked.add?_eq_some_iff, hten, hunits]
  constructor
  · rintro ⟨scale, hscale, x, hx, y, hy, shifted, hshifted, hm⟩
    rw [hm, hshifted, hx, hscale, hy]
  · intro hm
    have hpos : (0 : Int) < 10 ^ places.length := pow_pos (by decide) _
    have hbound : (10 : Int) ^ places.length ≤ Int64.maxValue.toInt :=
      (pow_le_pow_right₀ (by decide) hlength).trans (by decide)
    have hgrows : (Numeral.valueOf whole : Int) ≤ Numeral.valueOf whole * 10 ^ places.length :=
      le_mul_of_one_le_right (by omega) hpos
    obtain ⟨scale, hscale⟩ := Checked.exists_toInt_eq hpos.le hbound
    obtain ⟨x, hx⟩ := Checked.exists_toInt_eq (n := Numeral.valueOf whole) (z := m)
      (by omega) (by omega)
    obtain ⟨y, hy⟩ := Checked.exists_toInt_eq (n := Numeral.valueOf places) (z := m)
      (by omega) (by omega)
    obtain ⟨shifted, hshifted⟩ := Checked.exists_toInt_eq
      (n := Numeral.valueOf whole * 10 ^ places.length) (z := m) (by omega) (by omega)
    exact ⟨scale, hscale, x, hx, y, hy, shifted, by rw [hshifted, hx, hscale],
      by rw [hm, hshifted, hy]⟩

/-- An amount is read from two words if the second is a name, the first is a decimal with an
optional sign, its places are those that the name demands, and its units are in range. -/
theorem ofWords_eq_ok_iff {number symbol : List Char} {a : Asset} :
    ofWords number symbol = .ok a ↔ symbol ≠ [] ∧ (∀ c ∈ symbol, isSymbolChar c = true) ∧
      ∃ whole places,
        splitDecimal? (if number.head? = some '-' then number.drop 1 else number) =
          some (whole, places) ∧ places.length ≤ maxPlaces ∧
        (∀ n ∈ placesOf? (String.ofList symbol), n = places.length) ∧
        units whole places ≤ Int64.maxValue.toInt ∧
        ⟨.ofInt (if number.head? = some '-' then -units whole places else units whole places),
          .ofParts (String.ofList symbol) (.ofNat places.length)⟩ = a := by
  have hfilter : ∀ n, (placesOf? (String.ofList symbol)).filter (· ≠ n) = none ↔
      ∀ m ∈ placesOf? (String.ofList symbol), m = n := by
    simp [Option.filter_eq_none_iff]
  have hsigned : ∀ m : Int64, Int64.ofInt (if number.head? = some '-' then -m.toInt else m.toInt) =
      if number.head? = some '-' then -m else m := by
    intro m
    split
    · rw [Int64.ofInt_neg, Int64.ofInt_toInt]
    · exact m.ofInt_toInt
  constructor
  · intro h
    simp only [ofWords] at h
    split at h
    · cases h
    · rename_i hsymbol
      split at h
      · cases h
      · rename_i whole places hsplit
        split at h
        · cases h
        · rename_i hplaces
          split at h
          · cases h
          · rename_i hnone
            split at h
            · rename_i m hm
              obtain ⟨hwhole, hdigits, -⟩ := of_splitDecimal? hsplit
              have hunits := (magnitude?_eq_some_iff hwhole hdigits (Nat.not_lt.mp hplaces)).mp hm
              have hsymbol' : symbol ≠ [] ∧ ∀ c ∈ symbol, isSymbolChar c = true := by
                simpa using hsymbol
              refine ⟨hsymbol'.1, hsymbol'.2, whole, places, hsplit, Nat.not_lt.mp hplaces,
                (hfilter _).mp hnone, hunits ▸ m.toInt_le, ?_⟩
              rw [← hunits, hsigned]
              exact Except.ok.inj h
            · cases h
  · rintro ⟨hne, hchars, whole, places, hsplit, hplaces, hnone, hunits, rfl⟩
    have hsymbol : ¬(symbol.isEmpty || !symbol.all isSymbolChar) = true := by
      simpa using ⟨hne, hchars⟩
    obtain ⟨m, hm⟩ := Checked.exists_toInt_eq (Int.natCast_nonneg _) hunits
    obtain ⟨hwhole, hdigits, -⟩ := of_splitDecimal? hsplit
    have hmagnitude := (magnitude?_eq_some_iff hwhole hdigits hplaces).mpr hm
    rw [ofWords, if_neg hsymbol, ← hm, hsigned]
    simp only [hsplit, if_neg (Nat.not_lt.mpr hplaces), (hfilter _).mpr hnone, hmagnitude]

/-- The number that is written is read again, with the places of the amount. -/
theorem ofWords_numberChars_eq_ok_iff {a b : Asset} {symbol : List Char} :
    ofWords a.numberChars symbol = .ok b ↔ symbol ≠ [] ∧ (∀ c ∈ symbol, isSymbolChar c = true) ∧
      a.precision.toNat ≤ maxPlaces ∧
      (∀ n ∈ placesOf? (String.ofList symbol), n = a.precision.toNat) ∧
      a.amount ≠ Int64.minValue ∧ ⟨a.amount, .ofParts (String.ofList symbol) a.precision⟩ = b := by
  obtain ⟨hsign, hdecimal⟩ := a.numberChars_sign
  obtain ⟨whole, rest, hsplit, hlen, hvalue⟩ :=
    splitDecimal?_decimalChars a.precision.toNat a.amount.toInt.natAbs
  have hunits : units whole rest = a.amount.toInt.natAbs := by
    rw [units, hlen]
    exact hvalue
  simp only [ofWords_eq_ok_iff, hsign, hdecimal, hsplit, Option.some.injEq, Prod.mk.injEq]
  constructor
  · rintro ⟨hne, hchars, whole', rest', ⟨rfl, rfl⟩, hplaces, hname, hmax, hb⟩
    rw [hunits, natAbs_le_iff] at hmax
    rw [hunits, ofInt_natAbs, hlen, UInt8.ofNat_toNat] at hb
    exact ⟨hne, hchars, hlen ▸ hplaces, hlen ▸ hname, hmax, hb⟩
  · rintro ⟨hne, hchars, hplaces, hname, hmin, hb⟩
    refine ⟨hne, hchars, whole, rest, ⟨rfl, rfl⟩, hlen ▸ hplaces, hlen ▸ hname, ?_, ?_⟩
    · rwa [hunits, natAbs_le_iff]
    · rwa [hunits, ofInt_natAbs, hlen, UInt8.ofNat_toNat]

/-! ### Texts -/

theorem ofText_eq_ok_iff {s : String} {a : Asset} : ofText s = .ok a ↔
    ∃ number symbol, words s.toList = [number, symbol] ∧ ofWords number symbol = .ok a := by
  constructor
  · intro h
    rw [ofText] at h
    split at h
    · rename_i number symbol hwords
      cases hread : ofWords number symbol with
      | error flaw =>
        rw [hread] at h
        cases h
      | ok b =>
        rw [hread] at h
        exact ⟨number, symbol, hwords, hread.trans (congrArg _ (Except.ok.inj h))⟩
    · cases h
  · rintro ⟨number, symbol, hwords, hread⟩
    rw [ofText, hwords]
    simp only [hread]
    rfl

/-- A text that is written is read as its number and the only word in the name of its symbol. -/
theorem ofText_text_eq_ok_iff {a b : Asset} : ofText a.text = .ok b ↔
    ∃ symbol, words a.symbol.name.toList = [symbol] ∧ ofWords a.numberChars symbol = .ok b := by
  have hwords : words a.text.toList = a.numberChars :: words a.symbol.name.toList := by
    rw [toList_text]
    exact words_append_blank a.numberChars_ne_nil (fun _ => isBlank_of_mem_numberChars)
      (by decide) _
  rw [ofText_eq_ok_iff, hwords]
  constructor
  · rintro ⟨number, symbol, heq, hread⟩
    obtain ⟨rfl, hsymbol⟩ := List.cons.inj heq
    exact ⟨symbol, hsymbol, hread⟩
  · rintro ⟨symbol, hsymbol, hread⟩
    exact ⟨_, symbol, by rw [hsymbol], hread⟩

/-- **Writing and reading.** A readable amount is read from its text up to the symbol that its name
and places stand for. -/
theorem IsReadable.ofText_text {a : Asset} (h : a.IsReadable) : ofText a.text = .ok a.resolved := by
  obtain ⟨hmin, hprecision, hname, hchars, hplaces⟩ := h
  have hne : a.symbol.name.toList ≠ [] := fun hnil => hname (String.toList_eq_nil_iff.mp hnil)
  have hword : words a.symbol.name.toList = [a.symbol.name.toList] :=
    words_of_forall hne fun c hc => isBlank_of_isSymbolChar (hchars c hc)
  refine ofText_text_eq_ok_iff.mpr ⟨_, hword, ofWords_numberChars_eq_ok_iff.mpr ?_⟩
  rw [String.ofList_toList]
  exact ⟨hne, hchars, hprecision, hplaces, hmin, rfl⟩

/-- An amount is readable if its text is read as an amount of a symbol of the same name. -/
theorem isReadable_of_ofText {a b : Asset} (h : ofText a.text = .ok b)
    (hname : b.symbol.name = a.symbol.name) : a.IsReadable := by
  obtain ⟨symbol, -, hread⟩ := ofText_text_eq_ok_iff.mp h
  obtain ⟨hne, hchars, hplaces, hname', hmin, rfl⟩ := ofWords_numberChars_eq_ok_iff.mp hread
  rw [Symbol.name_ofParts] at hname
  rw [hname] at hname'
  have hlist : a.symbol.name.toList = symbol := by rw [← hname, String.toList_ofList]
  refine ⟨hmin, hplaces, fun hempty => hne ?_, hlist ▸ hchars, hname'⟩
  rw [← hlist, hempty]
  rfl

/-- The name that is read has no other characters than names have, and it is one of the words that
were written. -/
theorem name_of_ofText {a b : Asset} (h : ofText a.text = .ok b) :
    words a.symbol.name.toList = [b.symbol.name.toList] ∧
      ∀ c ∈ b.symbol.name.toList, isSymbolChar c = true := by
  obtain ⟨symbol, hwords, hread⟩ := ofText_text_eq_ok_iff.mp h
  obtain ⟨-, hchars, -, -, -, rfl⟩ := ofWords_numberChars_eq_ok_iff.mp hread
  rw [Symbol.name_ofParts, String.toList_ofList]
  exact ⟨hwords, hchars⟩

/-! ### Amounts that are read -/

theorem IsTextSafe.isReadable {a : Asset} (h : a.IsTextSafe) : a.IsReadable := by
  obtain ⟨hne, hchars, hplaces, -⟩ := h.symbol.name_places
  exact ⟨h.amount_ne, h.precision_le, hne, hchars, hplaces⟩

theorem IsTextSafe.resolved_eq {a : Asset} (h : a.IsTextSafe) : a.resolved = a := by
  obtain ⟨-, -, -, hparts⟩ := h.symbol.name_places
  exact congrArg (Asset.mk a.amount) hparts

/-- Reading resolves a readable amount to a text-safe one. -/
theorem IsReadable.isTextSafe_resolved {a : Asset} (h : a.IsReadable) : a.resolved.IsTextSafe := by
  obtain ⟨hmin, hprecision, hname, hchars, hplaces⟩ := h
  refine ⟨hmin, ?_, Symbol.isTextSafe_ofParts hname hchars hplaces⟩
  rw [resolved, precision, Symbol.precision_ofParts]
  exact hprecision

/-- The text of a text-safe amount is read as the amount. -/
theorem IsTextSafe.ofText_text {a : Asset} (h : a.IsTextSafe) : ofText a.text = .ok a := by
  rw [h.isReadable.ofText_text, h.resolved_eq]

/-- Every amount that is read from a text is text-safe. -/
theorem isTextSafe_of_ofText {s : String} {a : Asset} (h : ofText s = .ok a) : a.IsTextSafe := by
  obtain ⟨number, symbol, -, hread⟩ := ofText_eq_ok_iff.mp h
  obtain ⟨hne, hchars, whole, places, -, hplaces, hname, hmax, rfl⟩ := ofWords_eq_ok_iff.mp hread
  have hprecision : (UInt8.ofNat places.length).toNat = places.length := by
    rw [maxPlaces] at hplaces
    simp
    omega
  refine ⟨?_, ?_, Symbol.isTextSafe_ofParts ?_ (by simpa using hchars) (by rwa [hprecision])⟩
  · have hmin : Int64.minValue.toInt = -9223372036854775808 := by decide
    have hmax' : Int64.maxValue.toInt = 9223372036854775807 := by decide
    rw [Ne, ← Int64.toInt_inj]
    split <;> rw [Int64.toInt_ofInt_of_le (by omega) (by omega)] <;> omega
  · rw [precision, Symbol.precision_ofParts, hprecision]
    exact hplaces
  · exact fun hempty => hne (String.ofList_eq_empty_iff.mp hempty)

end Asset

end LedgerClient
