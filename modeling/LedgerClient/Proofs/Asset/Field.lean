import Mathlib.Data.List.DropRight
import LedgerClient.Proofs.Asset.Wire
import LedgerClient.Proofs.Wire.Accepted
import LedgerClient.Proofs.Wire.Separation

/-!
# The sixteen bytes of an amount

The field of a name ends where its zeros begin, so the bytes of an amount say less than the amount
does: names that differ in the zeros at their end share a field, and a name that was not read from a
field need not come back. Here it is settled what the bytes do say. `codec_gives` starts from bytes:
what is read was written as just these bytes, and its symbol is canonical. `toBytes_eq_ok_iff_fits`
starts from the amount: it has a wire form if its name fits, and the form is its amount, its places
and the filled-up name. `paddedName_inj` says which names fill up to the same field, by their
*stem*, the name without the zeros at its end.
-/

namespace LedgerClient

open Wire Wire.Codec Wire.Reader

/-! ### Names without the zeros at their end -/

namespace Utf8

/-- Characters at the end of a text have their bytes at the end. -/
theorem encode_ofList_append (cs ds : List Char) :
    encode (String.ofList (cs ++ ds)) =
      encode (String.ofList cs) ++ encode (String.ofList ds) := by
  simp only [encode_eq_flatMap, String.toList_ofList, List.flatMap_append]

/-- The character zero is the byte zero. -/
theorem encode_replicate_zero (n : Nat) :
    encode (String.ofList (List.replicate n '\x00')) = List.replicate n 0 := by
  have hbyte : String.utf8EncodeChar '\x00' = [0] := by decide
  rw [encode_eq_flatMap, String.toList_ofList, List.flatMap_replicate, hbyte,
    List.flatten_replicate_singleton]

end Utf8

namespace Symbol

theorem isCanonical_ofParts {name : String} (precision : UInt8) (hne : name ≠ "")
    (hlen : (Utf8.encode name).length ≤ 7) (hzero : 0 ∉ Utf8.encode name) :
    (ofParts name precision).IsCanonical := by
  unfold ofParts
  split
  · trivial
  · split
    · trivial
    · exact ⟨hne, hlen, hzero, ‹_›, ‹_›⟩

theorem rdropWhile_append_zeros (cs : List Char) (n : Nat) :
    (cs ++ List.replicate n '\x00').rdropWhile (· = '\x00') = cs.rdropWhile (· = '\x00') := by
  have hzeros : ∀ c ∈ List.replicate n '\x00', decide (c = '\x00') = true := fun c hc =>
    decide_eq_true (List.eq_of_mem_replicate hc)
  rw [List.rdropWhile, List.reverse_append, List.reverse_replicate,
    List.dropWhile_append_of_pos hzeros, List.rdropWhile]

/-- The characters of the name without the zeros at its end. -/
def stem (s : Symbol) : List Char :=
  s.name.toList.rdropWhile (· = '\x00')

/-- The name is the stem and zeros. -/
theorem exists_name_eq (s : Symbol) :
    ∃ n, s.name = String.ofList (s.stem ++ List.replicate n '\x00') := by
  have hzeros : ∀ c ∈ s.name.toList.rtakeWhile (· = '\x00'), c = '\x00' := fun c hc => by
    simpa using List.mem_rtakeWhile_imp hc
  refine ⟨(s.name.toList.rtakeWhile (· = '\x00')).length, ?_⟩
  rw [← List.eq_replicate_of_mem hzeros, stem, List.rdropWhile_append_rtakeWhile,
    String.ofList_toList]

end Symbol

namespace Asset

/-! ### The field of the name -/

/-- Zeros at the end of a name that fits are zeros that the field has anyway. -/
theorem paddedName_append_replicate {name : Bytes} {n : Nat} (h : name.length + n ≤ symbolWidth) :
    paddedName (name ++ List.replicate n 0) = paddedName name := by
  have hzeros : n + (symbolWidth - (name.length + n)) = symbolWidth - name.length := by omega
  simp only [paddedName, List.length_append, List.length_replicate, List.append_assoc,
    List.replicate_append_replicate, hzeros]

/-- The name in a field has no zero byte, and filled up with zeros it is the field. -/
theorem of_readName {field : Bytes} {name : String} (h : readName field = .ok name)
    (hlen : field.length = symbolWidth) :
    paddedName (Utf8.encode name) = field ∧ name ≠ "" ∧ (Utf8.encode name).length ≤ 7 ∧
      0 ∉ Utf8.encode name := by
  have hsplit : field.takeWhile (· ≠ 0) ++ field.dropWhile (· ≠ 0) = field :=
    List.takeWhile_append_dropWhile
  have hdrop : field.drop (field.takeWhile (· ≠ 0)).length = field.dropWhile (· ≠ 0) := by
    have hleft : (field.takeWhile (· ≠ 0) ++ field.dropWhile (· ≠ 0)).drop
        (field.takeWhile (· ≠ 0)).length = field.dropWhile (· ≠ 0) := List.drop_left
    rwa [hsplit] at hleft
  simp only [readName, hdrop] at h
  split at h
  · cases h
  · rename_i hzeros
    split at h
    · cases h
    · rename_i s hdecode
      split at h <;> cases h
      rename_i hne
      have hname := Utf8.encode_of_decode hdecode
      have hnonzero : 0 ∉ Utf8.encode name := by
        rw [hname]
        exact fun hmem => by simpa using List.all_eq_true.mp List.all_takeWhile 0 hmem
      have hlengths := congrArg List.length hsplit
      rw [List.length_append, hlen, ← hname] at hlengths
      have hpadding : field.dropWhile (· ≠ 0) =
          List.replicate (symbolWidth - (Utf8.encode name).length) 0 :=
        List.eq_replicate_iff.mpr ⟨by omega, by simpa using hzeros⟩
      refine ⟨?_, ?_, by rw [symbolWidth] at hlengths; omega, hnonzero⟩
      · rw [paddedName, ← hpadding, hname, hsplit]
      · rintro rfl
        rw [← hname, Utf8.encode_eq_nil_iff.mpr rfl] at hne
        exact hne rfl

/-- A name that fits is filled up like its stem. -/
theorem paddedName_stem {s : Symbol} (h : (Utf8.encode s.name).length ≤ symbolWidth) :
    paddedName (Utf8.encode s.name) = paddedName (Utf8.encode (String.ofList s.stem)) := by
  obtain ⟨n, hname⟩ := s.exists_name_eq
  have hbytes : Utf8.encode s.name = Utf8.encode (String.ofList s.stem) ++ List.replicate n 0 := by
    rw [← Utf8.encode_replicate_zero, ← Utf8.encode_ofList_append, ← hname]
  rw [hbytes, List.length_append, List.length_replicate] at h
  rw [hbytes, paddedName_append_replicate h]

/-- A filled-up name is the name of the characters with zeros behind them. -/
theorem paddedName_encode (s : String) : ∃ n, paddedName (Utf8.encode s) =
    Utf8.encode (String.ofList (s.toList ++ List.replicate n '\x00')) := by
  refine ⟨symbolWidth - (Utf8.encode s).length, ?_⟩
  rw [Utf8.encode_ofList_append, Utf8.encode_replicate_zero, String.ofList_toList, paddedName]

/-- Two names that fit have the same field if and only if they have the same stem. -/
theorem paddedName_inj {s t : Symbol} (hs : (Utf8.encode s.name).length ≤ symbolWidth)
    (ht : (Utf8.encode t.name).length ≤ symbolWidth) :
    paddedName (Utf8.encode s.name) = paddedName (Utf8.encode t.name) ↔ s.stem = t.stem := by
  constructor
  · intro h
    obtain ⟨m, hm⟩ := paddedName_encode s.name
    obtain ⟨n, hn⟩ := paddedName_encode t.name
    rw [hm, hn] at h
    have hchars := String.ofList_injective (Utf8.encode_injective h)
    rw [Symbol.stem, ← Symbol.rdropWhile_append_zeros s.name.toList m, hchars,
      Symbol.rdropWhile_append_zeros, Symbol.stem]
  · intro h
    rw [paddedName_stem hs, paddedName_stem ht, h]

/-! ### From bytes to an amount -/

/-- An amount is read from its own sixteen bytes, and its symbol is canonical. -/
theorem codec_gives : codec.Gives fun a => a.symbol.IsCanonical := by
  intro bytes a rest hread
  obtain ⟨amount, mid, hamount, hafter⟩ := exists_of_runOn_bind hread
  obtain ⟨places, mid', hplaces, hafter'⟩ := exists_of_runOn_bind hafter
  obtain ⟨field, mid'', hfield, hrun⟩ := exists_of_runOn_bind hafter'
  split at hrun <;> cases hrun
  rename_i name hname
  obtain ⟨-, own, used, hown, rfl, hpos, hused⟩ := gives_i64 hamount
  obtain ⟨-, own', used', hown', rfl, -, hused'⟩ := gives_u8 hplaces
  obtain ⟨rfl, hlen⟩ := of_runOn_take hfield
  obtain ⟨hpadded, hne, hfits, hzero⟩ := of_readName hname hlen
  have htake : Delimits (fun _ => take symbolWidth) field field := hlen ▸ delimits_take field
  have hasset : Encodes (fun _ => codec.read) (used ++ (used' ++ (field ++ [])))
      (own ++ (own' ++ (field ++ []))) ⟨amount, .ofParts name places⟩ :=
    hused.bind (hused'.bind (htake.encodes.bind (by
      simpa only [hname] using (Delimits.pure _).encodes)))
  rw [List.append_nil] at hasset
  refine ⟨Symbol.isCanonical_ofParts places hne hfits hzero, own ++ (own' ++ field),
    used ++ (used' ++ field), ?_, by simp, by rw [List.length_append]; omega, hasset⟩
  simp only [codec, Symbol.name_ofParts, precision, Symbol.precision_ofParts, hown, hown', hpadded,
    if_neg (Nat.not_lt.mpr hfits), Output.ofBytes_append_ofBytes, symbolWidth, List.append_assoc]

/-! ### From an amount to bytes -/

/-- **The wire form.** An amount has one if and only if its name takes seven bytes or fewer, and
then it is the amount, the number of places and the filled-up name. -/
theorem toBytes_eq_ok_iff_fits {a : Asset} {bytes : Bytes} :
    codec.toBytes a = .ok bytes ↔ (Utf8.encode a.symbol.name).length ≤ symbolWidth ∧
      bytes = littleEndian 8 a.amount.toUInt64.toNat ++ littleEndian 1 a.precision.toNat ++
        paddedName (Utf8.encode a.symbol.name) := by
  rw [toBytes_eq_ok_iff]
  by_cases hfits : symbolWidth < (Utf8.encode a.symbol.name).length
  · simp only [codec, if_pos hfits, Nat.not_le.mpr hfits, false_and, iff_false]
    exact fun h => absurd (congrArg Output.fault h) (by simp [Output.ofFault, Output.ofBytes])
  · have hwrite : codec.write a = .ofBytes (littleEndian 8 a.amount.toUInt64.toNat ++
        littleEndian 1 a.precision.toNat ++ paddedName (Utf8.encode a.symbol.name)) := by
      simp only [codec, if_neg hfits, i64, u8, fixed, Output.ofBytes_append_ofBytes]
    simp only [hwrite, Nat.not_lt.mp hfits, true_and]
    exact ⟨fun h => (Output.mk.inj h).1.symm, fun h => by rw [h]⟩

/-- Every wire form takes sixteen bytes. -/
theorem length_of_toBytes {a : Asset} {bytes : Bytes} (h : codec.toBytes a = .ok bytes) :
    bytes.length = 16 := by
  obtain ⟨hfits, rfl⟩ := toBytes_eq_ok_iff_fits.mp h
  simp only [List.length_append, length_littleEndian, length_paddedName hfits, symbolWidth]

/-- Sixteen bytes that are read as an amount are its wire form: they are no longer than that, and an
encoding that is not longer is the written one. -/
theorem toBytes_of_runOn {buffer : Bytes} {a : Asset} (hlen : buffer.length = 16)
    (h : (codec.read.runOn buffer).1 = .ok a) : codec.toBytes a = .ok buffer := by
  obtain ⟨rest, hread⟩ : ∃ rest, codec.read.runOn buffer = (.ok a, rest) := ⟨_, Prod.ext h rfl⟩
  obtain ⟨-, own, used, hown, rfl, -, hused⟩ := codec_gives hread
  have hbytes : codec.toBytes a = .ok own := toBytes_eq_ok_iff.mpr hown
  have hlength := length_of_toBytes hbytes
  rw [List.length_append] at hlen
  -- The sixteen bytes are all taken, so that nothing is left behind them.
  rcases hused.lengthens.eq_or_length_lt with rfl | hlonger
  · have hrest : rest = [] := List.eq_nil_of_length_eq_zero (by omega)
    rw [hrest, List.append_nil, hbytes]
  · omega

/-- The wire forms of two amounts are the same if and only if everything in them is. -/
theorem toBytes_inj {a b : Asset} {x y : Bytes} (hx : codec.toBytes a = .ok x)
    (hy : codec.toBytes b = .ok y) :
    x = y ↔ a.amount = b.amount ∧ a.precision = b.precision ∧ a.symbol.stem = b.symbol.stem := by
  obtain ⟨ha, rfl⟩ := toBytes_eq_ok_iff_fits.mp hx
  obtain ⟨hb, rfl⟩ := toBytes_eq_ok_iff_fits.mp hy
  rw [← paddedName_inj ha hb]
  constructor
  · intro h
    obtain ⟨hnumbers, hname⟩ := List.append_inj h (by simp)
    obtain ⟨hamount, hplaces⟩ := List.append_inj hnumbers (by simp)
    have hamounts := (carries_i64 a.amount).separates (carries_i64 b.amount) _ _ [] [] rfl rfl
      (congrArg (· ++ []) hamount)
    have hprecisions := (carries_u8 a.precision).separates (carries_u8 b.precision) _ _ [] []
      rfl rfl (congrArg (· ++ []) hplaces)
    exact ⟨hamounts.1, hprecisions.1, hname⟩
  · rintro ⟨hamount, hplaces, hname⟩
    rw [hamount, hplaces, hname]

/-- **The sixteen bytes of an amount.** A buffer of sixteen bytes that is read as an amount is what
the amount is written as. An amount is written if and only if its name takes seven bytes or fewer,
and what is written is read as the amount if and only if the symbol is canonical. Two amounts are
written alike if and only if they have the same number of units, the same number of places, and
names that are the same without the zeros at their end. -/
theorem wire_faithful :
    (∀ (buffer : Bytes) (a : Asset), buffer.length = 16 → (codec.read.runOn buffer).1 = .ok a →
      codec.toBytes a = .ok buffer) ∧
    (∀ a : Asset, (∃ bytes, codec.toBytes a = .ok bytes) ↔
      (Utf8.encode a.symbol.name).length ≤ 7) ∧
    (∀ (a : Asset) (bytes : Bytes), codec.toBytes a = .ok bytes →
      bytes.length = 16 ∧ ((codec.read.runOn bytes).1 = .ok a ↔ a.symbol.IsCanonical)) ∧
    ∀ (a b : Asset) (x y : Bytes), codec.toBytes a = .ok x → codec.toBytes b = .ok y →
      (x = y ↔ a.amount = b.amount ∧ a.precision = b.precision ∧
        a.symbol.stem = b.symbol.stem) := by
  refine ⟨fun _ _ => toBytes_of_runOn, fun a => ?_, fun a bytes h => ⟨length_of_toBytes h, ?_⟩,
    fun _ _ _ _ => toBytes_inj⟩
  · constructor
    · rintro ⟨bytes, h⟩
      exact (toBytes_eq_ok_iff_fits.mp h).1
    · exact fun hfits => ⟨_, toBytes_eq_ok_iff_fits.mpr ⟨hfits, rfl⟩⟩
  · constructor
    · exact fun hread => (codec_gives (Prod.ext hread rfl)).1
    · intro hcanonical
      have htakes := (codec_carries hcanonical).takes_of_write (toBytes_eq_ok_iff.mp h) []
      rw [List.append_nil] at htakes
      rw [htakes]

/-- A name with a zero at its end is written like the name without it. -/
theorem wire_faithful_zeroAtEnd :
    ∃ bytes, codec.toBytes ⟨5, .custom "AB\x00" 2⟩ = .ok bytes ∧
      codec.toBytes ⟨5, .custom "AB" 2⟩ = .ok bytes ∧
      (codec.read.runOn bytes).1 = .ok ⟨5, .custom "AB" 2⟩ := by
  obtain ⟨x, hx⟩ := (wire_faithful.2.1 ⟨5, .custom "AB\x00" 2⟩).mpr (by decide)
  obtain ⟨y, hy⟩ := (wire_faithful.2.1 ⟨5, .custom "AB" 2⟩).mpr (by decide)
  have hsame : x = y := (wire_faithful.2.2.2 _ _ x y hx hy).mpr ⟨rfl, rfl, by decide⟩
  exact ⟨y, hsame ▸ hx, hy, (wire_faithful.2.2.1 _ y hy).2.mpr (by decide)⟩

end Asset

end LedgerClient
