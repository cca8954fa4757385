import LedgerClient.Asset.Wire
import LedgerClient.Proofs.Wire.Codec

/-!
# Assets that the wire carries

An asset takes sixteen bytes, seven of them for the name of its symbol, and the reader turns a name
and a number of places back into one of the ledger's own symbols where they agree with it. A symbol
is *canonical* if this loses nothing: `codec_carries` then reads every amount of the symbol back.
-/

namespace LedgerClient

/-! ### Canonical symbols -/

/-- A symbol that its name and places determine: one of the ledger's own, or any other with a name
of one to seven bytes, none of them zero, that is not written like one of the ledger's own. -/
def Symbol.IsCanonical : Symbol → Prop
  | viz => True
  | vests => True
  | custom name precision =>
    name ≠ "" ∧ (Utf8.encode name).length ≤ 7 ∧ 0 ∉ Utf8.encode name ∧
      ¬(name = vizName ∧ precision = 3) ∧ ¬(name = vestsName ∧ precision = 6)

namespace Symbol

instance : DecidablePred IsCanonical
  | viz => isTrue trivial
  | vests => isTrue trivial
  | custom name precision =>
    inferInstanceAs (Decidable (name ≠ "" ∧ (Utf8.encode name).length ≤ 7 ∧
      0 ∉ Utf8.encode name ∧ ¬(name = vizName ∧ precision = 3) ∧
      ¬(name = vestsName ∧ precision = 6)))

@[simp]
theorem name_ofParts (name : String) (precision : UInt8) :
    (ofParts name precision).name = name := by
  unfold ofParts
  split
  · simp_all [Symbol.name]
  · split <;> simp_all [Symbol.name]

@[simp]
theorem precision_ofParts (name : String) (precision : UInt8) :
    (ofParts name precision).precision = precision := by
  unfold ofParts
  split
  · simp_all [Symbol.precision]
  · split <;> simp_all [Symbol.precision]

/-- The name of a canonical symbol fits its field and has no zero byte. -/
theorem IsCanonical.encode_name {s : Symbol} (h : s.IsCanonical) :
    Utf8.encode s.name ≠ [] ∧ (Utf8.encode s.name).length ≤ 7 ∧ 0 ∉ Utf8.encode s.name := by
  cases s with
  | viz => decide
  | vests => decide
  | custom name precision =>
    obtain ⟨hne, hlen, hzero, -⟩ := h
    exact ⟨fun hnil => hne (Utf8.encode_eq_nil_iff.mp hnil), hlen, hzero⟩

/-- A canonical symbol is the one of its name and places. -/
theorem IsCanonical.ofParts_name {s : Symbol} (h : s.IsCanonical) :
    ofParts s.name s.precision = s := by
  cases s with
  | viz => rfl
  | vests => rfl
  | custom name precision =>
    obtain ⟨-, -, -, hviz, hvests⟩ := h
    rw [Symbol.name, Symbol.precision, ofParts, if_neg hviz, if_neg hvests]

end Symbol

namespace Asset

/-! ### The field of the name -/

theorem takeWhile_paddedName {name : Bytes} (h : 0 ∉ name) :
    (paddedName name).takeWhile (· ≠ 0) = name := by
  have hname : ∀ b ∈ name, decide (b ≠ 0) = true := fun b hb => by
    simpa using fun hzero : b = 0 => h (hzero ▸ hb)
  rw [paddedName, List.takeWhile_append_of_pos hname]
  simp

/-- The name is read back from its field. -/
theorem readName_paddedName {s : String} (hne : Utf8.encode s ≠ []) (hzero : 0 ∉ Utf8.encode s) :
    readName (paddedName (Utf8.encode s)) = .ok s := by
  have hpadding :
      ((paddedName (Utf8.encode s)).drop (Utf8.encode s).length).any (· ≠ 0) = false := by
    simp [paddedName]
  simp only [readName, takeWhile_paddedName hzero, hpadding, Utf8.decode_encode]
  simpa using hne

theorem length_paddedName {name : Bytes} (h : name.length ≤ symbolWidth) :
    (paddedName name).length = symbolWidth := by
  simp only [paddedName, List.length_append, List.length_replicate]
  omega

/-! ### The wire form -/

/-- **Assets.** An amount of a canonical symbol is read back from its sixteen bytes. -/
theorem codec_carries {a : Asset} (h : a.symbol.IsCanonical) : codec.Carries a := by
  obtain ⟨hne, hlen, hzero⟩ := h.encode_name
  obtain ⟨amount, hamount, hpos, htakesAmount⟩ := Wire.Codec.carries_i64 a.amount
  obtain ⟨places, hplaces, -, htakesPlaces⟩ := Wire.Codec.carries_u8 a.precision
  have htakesField : (Wire.Reader.take symbolWidth).Takes
      (paddedName (Utf8.encode a.symbol.name)) (paddedName (Utf8.encode a.symbol.name)) := by
    simpa [length_paddedName hlen] using
      Wire.Reader.takes_take (paddedName (Utf8.encode a.symbol.name))
  have hfits : ¬symbolWidth < (Utf8.encode a.symbol.name).length := Nat.not_lt.mpr hlen
  refine ⟨amount ++ (places ++ (paddedName (Utf8.encode a.symbol.name) ++ [])), ?_, ?_, ?_⟩
  · simp only [codec, if_neg hfits, hamount, hplaces, Wire.Output.ofBytes_append_ofBytes,
      List.append_assoc, List.append_nil]
  · rw [List.length_append]
    omega
  · refine htakesAmount.bind (htakesPlaces.bind (htakesField.bind ?_))
    have hsymbol : Symbol.ofParts a.symbol.name a.precision = a.symbol := h.ofParts_name
    simpa only [readName_paddedName hne hzero, hsymbol] using Wire.Reader.takes_pure a

end Asset

end LedgerClient
