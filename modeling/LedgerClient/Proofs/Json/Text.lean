import LedgerClient.Json.Evaluate
import LedgerClient.Json.Print
import LedgerClient.Proofs.Json.Whole
import LedgerClient.Proofs.Text.Numeral

/-!
# The text of a value is read back

What a value is printed as is read as the value again, up to the order of its members, if its
numbers are whole numbers of 64 bits and it does not nest too deep.

As in the reader, the structure of the text comes first: `document?_chars` finds the document of a
value (`Document.ofJson`) at the front of any text that starts with the text of the value, provided
that what follows does not go on with a number. What the document evaluates to is a matter of its
own: `evaluate_ofJson` says that it is the sorted value, or nothing if the value nests deeper than
it may. A reader that asks for some members of an object gets the sorted values of these
(`exists_evaluate?_text`).
-/

namespace LedgerClient

namespace Json

/-! ### Numbers -/

/-- The text does not go on with a number. -/
def EndsNumber (rest : List Char) : Prop :=
  ∀ c ∈ rest.head?, LedgerClient.Numeral.isDigit c = false ∧ c ≠ '.' ∧ c ≠ 'e' ∧ c ≠ 'E'

/-- The numeral of a whole number. -/
def Numeral.ofInt (i : Int) : Numeral :=
  ⟨decide (i < 0), LedgerClient.Numeral.digits i.natAbs, none, none⟩

theorem digits?_append {ds rest : List Char} (hne : ds ≠ [])
    (hds : ∀ c ∈ ds, LedgerClient.Numeral.isDigit c = true) (hrest : EndsNumber rest) :
    digits? (ds ++ rest) = some (ds, rest) := by
  have htake : rest.takeWhile LedgerClient.Numeral.isDigit = [] := by
    cases rest with
    | nil => rfl
    | cons c rest => rw [List.takeWhile_cons, (hrest c rfl).1, if_neg (by decide)]
  have hdrop : rest.dropWhile LedgerClient.Numeral.isDigit = rest := by
    cases rest with
    | nil => rfl
    | cons c rest => rw [List.dropWhile_cons, (hrest c rfl).1, if_neg (by decide)]
  rw [digits?, List.takeWhile_append_of_pos hds, List.dropWhile_append_of_pos hds, htake, hdrop,
    List.append_nil]
  simp [hne]

theorem whole?_digits (n : Nat) {rest : List Char} (hrest : EndsNumber rest) :
    whole? (LedgerClient.Numeral.digits n ++ rest) =
      some (LedgerClient.Numeral.digits n, rest) := by
  have hdigits : digits? (LedgerClient.Numeral.digits n ++ rest) =
      some (LedgerClient.Numeral.digits n, rest) :=
    digits?_append (LedgerClient.Numeral.digits_ne_nil n)
      (fun _ => LedgerClient.Numeral.isDigit_of_mem_digits) hrest
  obtain ⟨c, cs, heq, -, hne⟩ := LedgerClient.Numeral.exists_digits_eq_cons n
  by_cases hn : n = 0
  · subst hn
    rfl
  · rw [heq] at hdigits ⊢
    rw [List.cons_append, whole?]
    · exact hdigits
    · exact fun _ hzero => hne (Nat.pos_of_ne_zero hn) (List.cons.inj hzero).1

/-- A whole number is found at the front of a text that does not go on with a number. -/
theorem numeral?_ofInt (i : Int) {rest : List Char} (hrest : EndsNumber rest) :
    numeral? (LedgerClient.Numeral.ofInt i ++ rest) = some (.ofInt i, rest) := by
  have hfraction : fraction? rest = some (none, rest) := by
    rw [fraction?]
    rintro rest' rfl
    exact (hrest '.' rfl).2.1 rfl
  have hpower : power? rest = some (none, rest) := by
    cases rest with
    | nil => rfl
    | cons c rest =>
      obtain ⟨-, -, he, hE⟩ := hrest c rfl
      unfold power?
      exact if_neg (by simp [he, hE])
  have hwhole := whole?_digits i.natAbs hrest
  rw [LedgerClient.Numeral.ofInt, Numeral.ofInt]
  by_cases hi : i < 0
  · simp [numeral?, hwhole, hfraction, hpower, hi]
  · obtain ⟨c, cs, heq, hdigit, -⟩ := LedgerClient.Numeral.exists_digits_eq_cons i.natAbs
    have hsign : c ≠ '-' := LedgerClient.Numeral.ne_of_isDigit hdigit rfl
    rw [heq, List.cons_append] at hwhole
    rw [if_neg hi, heq, List.cons_append, numeral?]
    · simp [hwhole, hfraction, hpower, hi]
    · exact fun _ hminus => hsign (List.cons.inj hminus).1

/-- The numeral of a whole number of 64 bits stands for the number. -/
theorem number?_ofInt {i : Int} (hlow : -(UInt64.size / 2 : Nat) ≤ i) (hhigh : i < UInt64.size) :
    (Numeral.ofInt i).number? = some (.int i) := by
  have hplain : ((none : Option (List Char)).isNone &&
      (none : Option (Bool × List Char)).isNone) = true := rfl
  rw [Numeral.number?]
  simp only [Numeral.ofInt, LedgerClient.Numeral.valueOf_digits]
  by_cases hi : i < 0
  · have hrange : 0 < i.natAbs ∧ i.natAbs ≤ UInt64.size / 2 := by omega
    have hvalue : -(i.natAbs : Int) = i := by omega
    rw [if_pos hplain, if_pos (decide_eq_true hi), if_pos (by simpa using hrange), hvalue]
  · have hrange : i.natAbs < UInt64.size := by omega
    have hvalue : (i.natAbs : Int) = i := by omega
    rw [if_pos hplain, if_neg (by simpa using hi), if_pos hrange, hvalue]

/-! ### Quoted texts -/

/-- A character that is escaped by a letter. -/
theorem units?_escaped {c e : Char} (hc : escaped? c = some e) (rest : List Char) :
    units? ('\\' :: c :: rest) = (units? rest).map fun r => (.char e :: r.1, r.2) := by
  have hu : c ≠ 'u' := by
    rintro rfl
    cases hc
  rw [units?, hc]
  · cases units? rest <;> rfl
  · intro _ _ _ _ _ heq
    exact fun _ => hu heq

/-- A character that is escaped by its number. -/
theorem units?_numbered {a b c d : Char} {n : Nat} (hn : code? a b c d = some n)
    (rest : List Char) : units? ('\\' :: 'u' :: a :: b :: c :: d :: rest) =
      (units? rest).map fun r => (.code n :: r.1, r.2) := by
  rw [units?, hn]
  cases units? rest <;> rfl

/-- The two digits in base sixteen of the number of a control stand for the number. -/
theorem code?_control : ∀ n < 0x20,
    code? '0' '0' (Nat.digitChar (n / 16)) (Nat.digitChar (n % 16)) = some n := by
  decide +kernel

/-- A control is escaped by a letter that stands for it or by its number. -/
theorem escape_control {c : Char} (hc : c.toNat < 0x20) :
    (∃ l, escape c = ['\\', l] ∧ escaped? l = some c) ∨
    ∃ a b, escape c = ['\\', 'u', '0', '0', a, b] ∧ code? '0' '0' a b = some c.toNat := by
  have hquote : c ≠ '"' := by
    rintro rfl
    exact absurd hc (by decide)
  have hback : c ≠ '\\' := by
    rintro rfl
    exact absurd hc (by decide)
  have hof : ∀ n, c.toNat = n → c = Char.ofNat n := by
    rintro n rfl
    exact (Char.ofNat_toNat c).symm
  rw [escape, if_neg hquote, if_neg hback, if_pos hc]
  split
  case h_1 h => exact .inl ⟨'b', rfl, congrArg some (hof _ h).symm⟩
  case h_2 h => exact .inl ⟨'t', rfl, congrArg some (hof _ h).symm⟩
  case h_3 h => exact .inl ⟨'n', rfl, congrArg some (hof _ h).symm⟩
  case h_4 h => exact .inl ⟨'f', rfl, congrArg some (hof _ h).symm⟩
  case h_5 h => exact .inl ⟨'r', rfl, congrArg some (hof _ h).symm⟩
  case h_6 => exact .inr ⟨_, _, rfl, code?_control _ hc⟩

/-- A character is escaped by one written character, or by several that together stand for it. -/
theorem exists_unit (c : Char) : ∃ u, (∀ rest, units? (escape c ++ rest) =
      (units? rest).map fun r => (u :: r.1, r.2)) ∧
    ∀ us, joined? (u :: us) = (joined? us).map (c :: ·) := by
  by_cases hquote : c = '"'
  · subst hquote
    exact ⟨.char '"', units?_escaped rfl, fun us => rfl⟩
  by_cases hback : c = '\\'
  · subst hback
    exact ⟨.char '\\', units?_escaped rfl, fun us => rfl⟩
  by_cases hcontrol : c.toNat < 0x20
  · obtain ⟨l, hescape, hl⟩ | ⟨a, b, hescape, hcode⟩ := escape_control hcontrol
    · rw [hescape]
      exact ⟨.char c, units?_escaped hl, fun us => rfl⟩
    · rw [hescape]
      refine ⟨.code c.toNat, units?_numbered hcode, fun us => ?_⟩
      have hlow : ¬isLowHalf c.toNat = true := by
        simp only [isLowHalf, Bool.and_eq_true, decide_eq_true_eq]
        omega
      have hhigh : ¬isHighHalf c.toNat = true := by
        simp only [isHighHalf, Bool.and_eq_true, decide_eq_true_eq]
        omega
      conv => lhs; unfold joined?
      rw [if_neg hlow, if_neg hhigh, Char.ofNat_toNat]
  · refine ⟨.char c, fun rest => ?_, fun us => rfl⟩
    rw [escape, if_neg hquote, if_neg hback, if_neg hcontrol, List.singleton_append, units?]
    · rw [if_neg (by simp [hback, hcontrol])]
      cases units? rest <;> rfl
    · exact hquote
    · exact fun _ _ _ _ _ h => absurd h hback
    · exact fun _ _ h => absurd h hback

/-- A quoted text is read back, whatever follows. -/
theorem string?_quoted (s : String) (rest : List Char) :
    string? (s.toList.flatMap escape ++ '"' :: rest) = some (some s, rest) := by
  have hunits : ∀ cs : List Char, ∃ us, units? (cs.flatMap escape ++ '"' :: rest) =
      some (us, rest) ∧ joined? us = some cs := by
    intro cs
    induction cs with
    | nil => exact ⟨[], rfl, rfl⟩
    | cons c cs ih =>
      obtain ⟨us, hus, hjoined⟩ := ih
      obtain ⟨u, hu, hjoin⟩ := exists_unit c
      refine ⟨u :: us, ?_, ?_⟩
      · rw [List.flatMap_cons, List.append_assoc, hu, hus]
        rfl
      · rw [hjoin, hjoined]
        rfl
  obtain ⟨us, hus, hjoined⟩ := hunits s.toList
  rw [string?, hus, Option.map_some, hjoined, Option.map_some, String.ofList_toList]

theorem quoted_append (s : String) (rest : List Char) :
    quoted s ++ rest = '"' :: (s.toList.flatMap escape ++ '"' :: rest) := by
  simp [quoted]

/-! ### Documents -/

mutual

/-- The document of a value, in which only whole numbers are numbers. -/
def Document.ofJson : Json → Document
  | .null => .null
  | .bool b => .bool b
  | .num (.int i) => .number (.ofInt i)
  | .num (.real _) => .null
  | .str s => .string (some s)
  | .arr xs => .list (ofItems xs)
  | .obj ms => .object (ofMembers ms)

/-- The documents of a list of values. -/
def Document.ofItems : List Json → List Document
  | [] => []
  | x :: xs => .ofJson x :: ofItems xs

/-- The documents of a list of members. -/
def Document.ofMembers : List (String × Json) → List (Option String × Document)
  | [] => []
  | (k, v) :: ms => (some k, .ofJson v) :: ofMembers ms

end

theorem skipSpace_cons {c : Char} (hc : isSpace c = false) (cs : List Char) :
    skipSpace (c :: cs) = c :: cs := by
  rw [skipSpace, List.dropWhile_cons, hc, if_neg (by decide)]

theorem isSpace_of_isDigit {c : Char} (hc : LedgerClient.Numeral.isDigit c = true) :
    isSpace c = false := by
  have hne : ∀ d, LedgerClient.Numeral.isDigit d = false → c ≠ d := fun _ =>
    LedgerClient.Numeral.ne_of_isDigit hc
  simp [isSpace, hne ' ' rfl, hne '\n' rfl, hne '\t' rfl, hne '\r' rfl]

/-- The text of a whole number starts with a digit or with a sign. -/
theorem exists_ofInt_eq_cons (i : Int) : ∃ c cs, LedgerClient.Numeral.ofInt i = c :: cs ∧
    (c = '-' ∨ LedgerClient.Numeral.isDigit c = true) := by
  rw [LedgerClient.Numeral.ofInt]
  split
  · exact ⟨_, _, rfl, .inl rfl⟩
  · obtain ⟨c, cs, heq, hdigit, -⟩ := LedgerClient.Numeral.exists_digits_eq_cons i.natAbs
    exact ⟨c, cs, heq, .inr hdigit⟩

/-- The text of a value starts neither with a blank nor with the end of a list. -/
theorem exists_chars_eq_cons : (v : Json) → v.IsWhole →
    ∃ c cs, v.chars = c :: cs ∧ isSpace c = false ∧ c ≠ ']'
  | .null, _ | .bool true, _ | .bool false, _ | .str _, _ | .arr [], _ | .arr (_ :: _), _
  | .obj [], _ | .obj (_ :: _), _ => ⟨_, _, rfl, rfl, by decide⟩
  | .num (.int i), _ => by
    obtain ⟨c, cs, heq, hc⟩ := exists_ofInt_eq_cons i
    refine ⟨c, cs, heq, ?_⟩
    rcases hc with rfl | hc
    · decide
    · exact ⟨isSpace_of_isDigit hc, LedgerClient.Numeral.ne_of_isDigit hc rfl⟩

/-- A text that starts with a digit or a sign is read as a number. -/
theorem document?_number {c : Char} (hc : c = '-' ∨ LedgerClient.Numeral.isDigit c = true)
    (fuel : Nat) (cs : List Char) : document? (fuel + 1) (c :: cs) =
      (numeral? (c :: cs)).map fun r => (.number r.1, r.2) := by
  rcases hc with rfl | hc
  · rw [document?, skipSpace_cons rfl]
    simp
  · have hne : ∀ d, LedgerClient.Numeral.isDigit d = false → c ≠ d := fun _ =>
      LedgerClient.Numeral.ne_of_isDigit hc
    rw [document?, skipSpace_cons (isSpace_of_isDigit hc)]
    simp [hne 'n' rfl, hne 't' rfl, hne 'f' rfl, hne '"' rfl, hne '[' rfl, hne '\x7b' rfl]

theorem endsNumber_of_head? {cs : List Char} {c : Char} (h : cs.head? = some c)
    (hc : c = ',' ∨ c = ']' ∨ c = '\x7d') (rest : List Char) : EndsNumber (cs ++ rest) := by
  intro d hd
  rw [List.head?_append, h] at hd
  obtain rfl : c = d := Option.some.inj hd
  rcases hc with rfl | rfl | rfl <;> decide

theorem endsNumber_charsItems (xs : List Json) (rest : List Char) :
    EndsNumber (charsItems xs ++ rest) := by
  cases xs with
  | nil => exact endsNumber_of_head? rfl (.inr (.inl rfl)) rest
  | cons x xs => exact endsNumber_of_head? rfl (.inl rfl) rest

theorem endsNumber_charsMembers (ms : List (String × Json)) (rest : List Char) :
    EndsNumber (charsMembers ms ++ rest) := by
  cases ms with
  | nil => exact endsNumber_of_head? rfl (.inr (.inr rfl)) rest
  | cons m ms => exact endsNumber_of_head? rfl (.inl rfl) rest

mutual

/-- The document of a value is found at the front of a text that starts with the text of the value
and does not go on with a number. -/
theorem document?_chars : (v : Json) → v.IsWhole → ∀ (fuel : Nat) (rest : List Char),
    v.chars.length ≤ fuel → EndsNumber rest →
      document? fuel (v.chars ++ rest) = some (.ofJson v, rest)
  | v, hv, 0, rest, hfuel, _ => by
    obtain ⟨c, cs, heq, -⟩ := exists_chars_eq_cons v hv
    rw [heq] at hfuel
    cases hfuel
  | .null, _, fuel + 1, rest, _, _ | .bool true, _, fuel + 1, rest, _, _
  | .bool false, _, fuel + 1, rest, _, _ => rfl
  | .num (.int i), hv, fuel + 1, rest, _, hrest => by
    obtain ⟨c, cs, heq, hc⟩ := exists_ofInt_eq_cons i
    have hnumeral := numeral?_ofInt i hrest
    rw [heq, List.cons_append] at hnumeral
    rw [chars, Number.chars, heq, List.cons_append, document?_number hc, hnumeral]
    rfl
  | .str s, _, fuel + 1, rest, _, _ => by
    rw [chars, quoted_append, document?, skipSpace_cons rfl]
    simp only [string?_quoted]
    rfl
  | .arr [], _, fuel + 1, rest, _, _ => rfl
  | .arr (x :: xs), ⟨hx, hxs⟩, fuel + 1, rest, hfuel, _ => by
    obtain ⟨c, cs, heq, hspace, hbracket⟩ := exists_chars_eq_cons x hx
    rw [chars, List.length_cons, List.length_append] at hfuel
    have hitem := document?_chars x hx fuel (charsItems xs ++ rest) (by omega)
      (endsNumber_charsItems xs rest)
    have hitems := items?_charsItems xs hxs fuel rest (by omega)
    rw [heq, List.cons_append] at hitem
    rw [chars, List.cons_append, List.append_assoc, document?, skipSpace_cons rfl]
    simp only [heq, List.cons_append, skipSpace_cons hspace]
    split
    · rename_i hend
      exact absurd (List.cons.inj hend).1 hbracket
    · simp only [hitem, hitems, Option.bind_eq_bind, Option.bind_some]
      rfl
  | .obj [], _, fuel + 1, rest, _, _ => rfl
  | .obj ((k, v) :: ms), ⟨hv, hms⟩, fuel + 1, rest, hfuel, _ => by
    rw [chars, List.length_cons, List.length_append, List.length_cons,
      List.length_append] at hfuel
    have hmember := member?_chars k v hv fuel (charsMembers ms ++ rest) (by omega)
      (endsNumber_charsMembers ms rest)
    have hmembers := members?_charsMembers ms hms fuel rest (by omega)
    rw [quoted_append] at hmember
    rw [chars, List.cons_append, List.append_assoc, List.cons_append, List.append_assoc, document?,
      skipSpace_cons rfl]
    simp only [quoted_append, skipSpace_cons (c := '"') rfl]
    split
    · rename_i hend
      exact absurd (List.cons.inj hend).1 (by decide)
    · simp only [hmember, hmembers, Option.bind_eq_bind, Option.bind_some]
      rfl

/-- The documents of items are found up to the end of the list. -/
theorem items?_charsItems : (xs : List Json) → IsWholeItems xs → ∀ (fuel : Nat) (rest : List Char),
    (charsItems xs).length ≤ fuel →
      items? fuel (charsItems xs ++ rest) = some (Document.ofItems xs, rest)
  | [], _, 0, rest, hfuel | _ :: _, _, 0, rest, hfuel => nomatch hfuel
  | [], _, fuel + 1, rest, hfuel => rfl
  | x :: xs, ⟨hx, hxs⟩, fuel + 1, rest, hfuel => by
    rw [charsItems, List.length_cons, List.length_append] at hfuel
    have hitem := document?_chars x hx fuel (charsItems xs ++ rest) (by omega)
      (endsNumber_charsItems xs rest)
    have hitems := items?_charsItems xs hxs fuel rest (by omega)
    rw [charsItems, List.cons_append, List.append_assoc, items?, skipSpace_cons rfl]
    simp only [hitem, hitems, Option.bind_eq_bind, Option.bind_some]
    rfl

/-- The document of a member is found at the front of a text. -/
theorem member?_chars (k : String) : (v : Json) → v.IsWhole → ∀ (fuel : Nat) (rest : List Char),
    (quoted k).length + (v.chars.length + 1) ≤ fuel → EndsNumber rest →
      member? fuel (quoted k ++ ':' :: (v.chars ++ rest)) = some ((some k, .ofJson v), rest)
  | v, _, 0, rest, hfuel, _ => by omega
  | v, hv, fuel + 1, rest, hfuel, hrest => by
    have hquoted : 1 ≤ (quoted k).length := by simp [quoted]
    have hvalue := document?_chars v hv fuel rest (by omega) hrest
    rw [quoted_append, member?, skipSpace_cons rfl]
    simp only [string?_quoted, skipSpace_cons (c := ':') rfl, hvalue, Option.bind_eq_bind,
      Option.bind_some]
    rfl

/-- The documents of members are found up to the end of the object. -/
theorem members?_charsMembers : (ms : List (String × Json)) → IsWholeMembers ms →
    ∀ (fuel : Nat) (rest : List Char), (charsMembers ms).length ≤ fuel →
      members? fuel (charsMembers ms ++ rest) = some (Document.ofMembers ms, rest)
  | [], _, 0, rest, hfuel | (_, _) :: _, _, 0, rest, hfuel => nomatch hfuel
  | [], _, fuel + 1, rest, hfuel => rfl
  | (k, v) :: ms, ⟨hv, hms⟩, fuel + 1, rest, hfuel => by
    rw [charsMembers, List.length_cons, List.length_append, List.length_cons,
      List.length_append] at hfuel
    have hmember := member?_chars k v hv fuel (charsMembers ms ++ rest) (by omega)
      (endsNumber_charsMembers ms rest)
    have hmembers := members?_charsMembers ms hms fuel rest (by omega)
    rw [charsMembers, List.cons_append, List.append_assoc, List.cons_append, List.append_assoc,
      members?, skipSpace_cons rfl]
    simp only [hmember, hmembers, Option.bind_eq_bind, Option.bind_some]
    rfl

end

/-- The text of a value holds the document of the value. -/
theorem ofText?_text {v : Json} (hv : v.IsWhole) : Document.ofText? v.text = some (.ofJson v) := by
  have hdocument := document?_chars v hv (v.chars.length + 1) [] (Nat.le_succ _) nofun
  rw [List.append_nil] at hdocument
  simp only [Document.ofText?, text, String.toList_ofList, hdocument, Option.bind_eq_bind,
    Option.bind_some]
  rfl

/-! ### Evaluation -/

mutual

/-- The document of a value evaluates to the value with its members sorted, unless the value nests
too deep. -/
theorem evaluate_ofJson : (v : Json) → v.IsWhole → ∀ depth : Nat,
    (Document.ofJson v).evaluate depth .all = if v.depth ≤ depth then some v.sorted else none
  | .null, _, _ | .bool _, _, _ | .str _, _, _ => (if_pos (Nat.zero_le _)).symm
  | .num (.int i), ⟨hlow, hhigh⟩, depth => by
    rw [Document.ofJson, Document.evaluate, number?_ofInt hlow hhigh]
    exact (if_pos (Nat.zero_le _)).symm
  | .arr xs, _, 0 => (if_neg (Nat.not_succ_le_zero _)).symm
  | .arr xs, hxs, n + 1 => by
    rw [Document.ofJson, Document.evaluate, evaluateItems_ofItems xs hxs, Json.depth, sorted]
    simp only [Nat.add_le_add_iff_right]
    split <;> rfl
  | .obj ms, _, 0 => (if_neg (Nat.not_succ_le_zero _)).symm
  | .obj ms, hms, n + 1 => by
    rw [Document.ofJson, Document.evaluate, evaluateMembers_ofMembers ms hms, Json.depth, sorted,
      sortMembers]
    simp only [Nat.add_le_add_iff_right]
    split <;> rfl

theorem evaluateItems_ofItems : (xs : List Json) → IsWholeItems xs → ∀ depth position : Nat,
    evaluateItems depth .all position (Document.ofItems xs) =
      if depthItems xs ≤ depth then some (sortedItems xs) else none
  | [], _, _, _ => (if_pos (Nat.zero_le _)).symm
  | x :: xs, ⟨hx, hxs⟩, depth, position => by
    rw [Document.ofItems, evaluateItems, Demand.item, evaluate_ofJson x hx,
      evaluateItems_ofItems xs hxs, depthItems, sortedItems]
    simp only [Nat.max_le]
    by_cases hdepth : x.depth ≤ depth
    · by_cases hdepths : depthItems xs ≤ depth
      · simp [hdepth, hdepths]
      · simp [hdepth, hdepths]
    · simp [hdepth]

theorem evaluateMembers_ofMembers : (ms : List (String × Json)) → IsWholeMembers ms →
    ∀ (depth : Nat) (sofar : List (String × Json)),
      evaluateMembers depth .all sofar (Document.ofMembers ms) =
        if depthMembers ms ≤ depth then
          some ((sortedMembers ms).foldl (fun sorted m => insertMember m.1 m.2 sorted) sofar)
        else none
  | [], _, _, _ => (if_pos (Nat.zero_le _)).symm
  | (k, v) :: ms, ⟨hv, hms⟩, depth, sofar => by
    rw [Document.ofMembers, evaluateMembers]
    simp only [Demand.member?, Demand.refusesRepeat, evaluate_ofJson v hv]
    rw [depthMembers, sortedMembers]
    simp only [Nat.max_le]
    by_cases hdepth : v.depth ≤ depth
    · simp [hdepth, evaluateMembers_ofMembers ms hms]
    · simp [hdepth]

end

/-- **The text of a value.** It is read as the value with its members sorted, unless the value nests
too deep. -/
theorem parse?_text {v : Json} (hv : v.IsWhole) :
    parse? v.text = if v.depth ≤ nestingLimit then some v.sorted else none := by
  rw [parse?, evaluate?, ofText?_text hv, Option.bind_some, evaluate_ofJson v hv]

/-! ### Records -/

/-- What a record is asked for: of each member that is asked for, its value. The members have
different names. -/
theorem exists_evaluateMembers {fields : List (String × Demand)} {depth : Nat} :
    (ms : List (String × Json)) → (ms.map Prod.fst).Nodup →
    (∀ m ∈ ms, ∀ inner ∈ fields.lookup m.1,
      (Document.ofJson m.2).evaluate depth inner = some m.2.sorted) →
    ∀ sofar : List (String × Json), (∀ m ∈ ms, find? sofar m.1 = none) →
      ∃ vs, evaluateMembers depth (.record fields) sofar (Document.ofMembers ms) = some vs ∧
        ∀ name, find? vs name =
          ((fields.lookup name).bind fun _ => (find? ms name).map sorted).or (find? sofar name)
  | [], _, _, sofar, _ => by
    refine ⟨sofar, rfl, fun name => ?_⟩
    cases fields.lookup name <;> rfl
  | (k, v) :: ms, hnames, hvalues, sofar, hsofar => by
    rw [List.map_cons, List.nodup_cons] at hnames
    have habsent : ∀ m ∈ ms, m.1 ≠ k := fun m hm heq =>
      hnames.1 (List.mem_map.mpr ⟨m, hm, heq⟩)
    obtain ⟨hvalue, hvalues⟩ := List.forall_mem_cons.mp hvalues
    obtain ⟨hfirst, hrest⟩ := List.forall_mem_cons.mp hsofar
    have hother : ∀ name, name ≠ k → find? ((k, v) :: ms) name = find? ms name :=
      fun name hne => (find?_cons _ _ _).trans (if_neg hne)
    have hlast : find? ms k = none := Option.eq_none_iff_forall_ne_some.mpr fun w hw =>
      habsent (k, w) (mem_of_find? hw) rfl
    rw [Document.ofMembers, evaluateMembers, Demand.member?]
    cases hinner : fields.lookup k with
    | none =>
      -- The member is skipped.
      obtain ⟨vs, heq, hvs⟩ := exists_evaluateMembers ms hnames.2 hvalues sofar hrest
      refine ⟨vs, heq, fun name => ?_⟩
      rw [hvs name]
      by_cases hname : name = k
      · rw [hname, hinner]
        rfl
      · rw [hother name hname]
    | some inner =>
      have hinserted : ∀ m ∈ ms, find? (insertMember k v.sorted sofar) m.1 = none := by
        intro m hm
        rw [find?_insertMember, find?_cons, if_neg (habsent m hm), hrest m hm]
      obtain ⟨vs, heq, hvs⟩ :=
        exists_evaluateMembers ms hnames.2 hvalues (insertMember k v.sorted sofar) hinserted
      have hfresh : sofar.lookup k = none := hfirst
      refine ⟨vs, ?_, fun name => ?_⟩
      · simpa [hfresh, hvalue inner hinner] using heq
      rw [hvs name, find?_insertMember]
      by_cases hname : name = k
      · rw [hname, hinner, hlast, find?_cons, find?_cons]
        simp
      · rw [hother name hname, find?_cons, if_neg hname]

/-- Members with different names, all of which a record is asked for in full, are read like those of
any object. -/
theorem evaluateMembers_record_eq_all {fields : List (String × Demand)} {depth : Nat} :
    (ms : List (String × Json)) → (ms.map Prod.fst).Nodup →
    (∀ m ∈ ms, fields.lookup m.1 = some .all) →
    ∀ sofar : List (String × Json), (∀ m ∈ ms, find? sofar m.1 = none) →
      evaluateMembers depth (.record fields) sofar (Document.ofMembers ms) =
        evaluateMembers depth .all sofar (Document.ofMembers ms)
  | [], _, _, _, _ => rfl
  | (k, v) :: ms, hnames, hfields, sofar, hsofar => by
    rw [List.map_cons, List.nodup_cons] at hnames
    obtain ⟨hfield, hfields⟩ := List.forall_mem_cons.mp hfields
    obtain ⟨hfirst, hrest⟩ := List.forall_mem_cons.mp hsofar
    -- The name is new, so that the record does not refuse it as a repeated one.
    have hfresh : sofar.lookup k = none := hfirst
    have hinserted : ∀ w : Json, ∀ m ∈ ms, find? (insertMember k w sofar) m.1 = none := by
      intro w m hm
      have hne : m.1 ≠ k := fun heq => hnames.1 (List.mem_map.mpr ⟨m, hm, heq⟩)
      rw [find?_insertMember, find?_cons, if_neg hne, hrest m hm]
    have hstep : ∀ w : Json,
        evaluateMembers depth (.record fields) (insertMember k w sofar) (Document.ofMembers ms) =
          evaluateMembers depth .all (insertMember k w sofar) (Document.ofMembers ms) := fun w =>
      evaluateMembers_record_eq_all ms hnames.2 hfields _ (hinserted w)
    rw [Document.ofMembers, evaluateMembers, evaluateMembers]
    simp only [Demand.member?, hfield, hfresh, hstep, Option.isSome_none, Bool.and_false]

/-- A record that is asked for all of its members is read like any object. -/
theorem evaluate_record_ofJson {fields : List (String × Demand)} {ms : List (String × Json)}
    (hnames : (ms.map Prod.fst).Nodup) (hfields : ∀ m ∈ ms, fields.lookup m.1 = some .all)
    (hwhole : (obj ms).IsWhole) {depth : Nat} (hdepth : (obj ms).depth ≤ depth) :
    (Document.ofJson (.obj ms)).evaluate depth (.record fields) = some (obj ms).sorted := by
  obtain ⟨n, rfl⟩ : ∃ n, depth = n + 1 := Nat.exists_eq_add_one.mpr (by
    rw [Json.depth] at hdepth
    omega)
  have hall := (evaluate_ofJson (obj ms) hwhole (n + 1)).trans (if_pos hdepth)
  rw [Document.ofJson, Document.evaluate] at hall ⊢
  rw [evaluateMembers_record_eq_all ms hnames hfields [] fun _ _ => rfl]
  exact hall

/-- **The text of an object**, read for a record: the members that are asked for are found by their
names, and no others. -/
theorem exists_evaluate?_text {fields : List (String × Demand)} {ms : List (String × Json)}
    (hnames : (ms.map Prod.fst).Nodup) (hwhole : ∀ m ∈ ms, m.2.IsWhole)
    (hvalues : ∀ m ∈ ms, ∀ inner ∈ fields.lookup m.1,
      (Document.ofJson m.2).evaluate (nestingLimit - 1) inner = some m.2.sorted) :
    ∃ vs, evaluate? (.record fields) (obj ms).text = some (.obj vs) ∧
      ∀ name, find? vs name = (fields.lookup name).bind fun _ => (find? ms name).map sorted := by
  have hobj : (obj ms).IsWhole := isWholeMembers_iff.mpr hwhole
  obtain ⟨vs, heq, hvs⟩ := exists_evaluateMembers ms hnames hvalues [] fun _ _ => rfl
  refine ⟨vs, ?_, fun name => (hvs name).trans (Option.or_none)⟩
  have hevaluate : (Document.ofJson (.obj ms)).evaluate (nestingLimit - 1 + 1) (.record fields) =
      some (.obj vs) := by
    rw [Document.ofJson, Document.evaluate, heq, Option.map_some]
  rw [evaluate?, ofText?_text hobj, Option.bind_some]
  exact hevaluate

end Json

end LedgerClient
