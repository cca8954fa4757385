import LedgerClient.Operation.Wire
import LedgerClient.Proofs.Operation.Parts

/-!
# Operations are read back from the wire

`Operation.codec_carries`: a canonical operation of any kind, with proposals nested to any depth, is
read back from exactly the bytes that are written for it, whatever follows them.

The layouts need no case analysis: a record is carried because every shape of field is
(`Shape.codec_carries`), and the number of a kind leads back to the kind (`Kind.ofTag?_tag`). The
induction is over operations, records and lists of operations together. Its invariant speaks of
`readAt` at every depth that is at least the number of bytes written: the number of an operation
takes a byte, so what is nested in it has fewer bytes than one level less allows.
-/

namespace LedgerClient

open Wire Wire.Codec

/-! ### Kinds and their numbers -/

theorem Kind.mem_all (k : Kind) : k ∈ all := by
  cases k <;> decide

theorem Kind.tag_lt (k : Kind) : k.tag < 62 :=
  List.idxOf_lt_length_of_mem k.mem_all

/-- The number of a kind leads back to the kind. -/
theorem Kind.ofTag?_tag (k : Kind) : ofTag? k.tag = some k := by
  rw [ofTag?, tag, List.getElem?_eq_getElem (List.idxOf_lt_length_of_mem k.mem_all)]
  exact congrArg some (List.getElem_idxOf _)

theorem Kind.nodup_all : all.Nodup := by decide

/-- A number leads to the kind of the number. -/
theorem Kind.tag_of_ofTag? {n : Nat} {k : Kind} (h : ofTag? n = some k) : k.tag = n := by
  obtain ⟨hlt, rfl⟩ := List.getElem?_eq_some_iff.mp h
  exact nodup_all.idxOf_getElem n hlt

theorem Kind.tag_injective {k l : Kind} (h : k.tag = l.tag) : k = l := by
  have hkind : some k = some l := by rw [← k.ofTag?_tag, ← l.ofTag?_tag, h]
  exact Option.some.inj hkind

/-! ### Fields -/

/-- A value of any shape with canonical parts is carried. -/
theorem Shape.codec_carries : (s : Shape) → (v : s.Carrier) → (∀ p ∈ s.parts v, p.IsCanonical) →
    s.codec.Carries v
  | text, _, h => carries_text (h _ List.mem_cons_self)
  | asset, _, h => Asset.codec_carries (h _ List.mem_cons_self)
  | timestamp, t, _ => Timestamp.codec_carries t
  | key, k, _ => PublicKey.codec_carries k
  | u16, x, _ => carries_u16 x
  | i16, x, _ => carries_i16 x
  | u32, x, _ => carries_u32 x
  | flag, b, _ => carries_flag b
  | sequence, x, _ => carries_u64 x
  | authority, _, h => Authority.codec_carries fun n hn => h _ (List.mem_map_of_mem hn)
  | beneficiary, _, h => Beneficiary.codec_carries fun n hn => h _ (List.mem_map_of_mem hn)
  | extension, e, _ => Extension.codec_carries e
  | contentExtension, _, h =>
    ContentExtension.codec_carries fun n hn => h _ (List.mem_map_of_mem hn)
  | list item, xs, h => by
    simp only [parts, List.forall_mem_cons, List.forall_mem_flatMap] at h
    exact Carries.list (fun x hx => codec_carries item x (h.2 x hx)) h.1
  | option item, none, _ => carries_none item.codec
  | option item, some x, h =>
    (codec_carries item x fun p hp => h p (List.mem_flatMap.mpr ⟨x, by simp, hp⟩)).some

/-! ### Records and operations -/

/-- A number is followed by the payload of its kind. -/
theorem Operation.takes_readPayload {nested : Reader Operation} {kind : Kind}
    {supported : kind.isReserved = false} {payload : Record kind.layout} {bytes : Bytes}
    (h : (Record.read nested kind.layout).Takes bytes payload) :
    (readPayload nested kind.tag).Takes bytes (known kind supported payload) := by
  simp only [readPayload, kind.ofTag?_tag, dif_pos supported]
  simpa using h.map (known kind supported)

mutual

/-- A record with canonical parts is read back, if operations may nest as deep as it has bytes. -/
theorem Record.takes : {layout : Layout} → (r : Record layout) → (∀ p ∈ r.parts, p.IsCanonical) →
    ∃ bytes, r.write = .ofBytes bytes ∧ ∀ depth, bytes.length ≤ depth →
      (Record.read (Operation.readAt depth) layout).Takes bytes r
  | _, .empty, _ => ⟨[], rfl, fun _ _ => Reader.takes_pure _⟩
  | _, @Record.field _ shape _ value rest, h => by
    simp only [Record.parts, List.forall_mem_append] at h
    obtain ⟨first, hfirst, -, htake⟩ := shape.codec_carries value h.1
    obtain ⟨others, hothers, htakes⟩ := rest.takes h.2
    refine ⟨first ++ others, ?_, fun depth hdepth => htake.bind ?_⟩
    · rw [Record.write, hfirst, hothers, Output.ofBytes_append_ofBytes]
    · rw [List.length_append] at hdepth
      simpa using (htakes depth (by omega)).map (Record.field value)
  | _, .operations ops rest, h => by
    simp only [Record.parts, List.forall_mem_cons, List.forall_mem_append] at h
    obtain ⟨hcount, hops, hrest⟩ := h
    obtain ⟨nested, hnested, hlen, htake⟩ := Operation.takes_list ops hops
    obtain ⟨others, hothers, htakes⟩ := rest.takes hrest
    refine ⟨varintBytes ops.length ++ (nested ++ others), ?_, fun depth hdepth => ?_⟩
    · rw [Record.write, hnested, hothers, Output.ofBytes_append_ofBytes,
        Output.ofBytes_append_ofBytes, List.append_assoc]
    · simp only [List.length_append] at hdepth
      refine Reader.takes_count_bind hcount ((htake depth (by omega)).bind ?_) ?_
      · simpa using (htakes depth (by omega)).map (Record.operations ops)
      · rw [List.length_append]
        omega

/-- Canonical operations, one after another, are read back. -/
theorem Operation.takes_list : (ops : List Operation) →
    (∀ p ∈ Operation.partsList ops, p.IsCanonical) →
    ∃ bytes, Operation.writeList ops = .ofBytes bytes ∧ ops.length ≤ bytes.length ∧
      ∀ depth, bytes.length ≤ depth →
        ((Operation.readAt depth).times ops.length).Takes bytes ops
  | [], _ => ⟨[], rfl, Nat.le_refl _, fun _ _ => Reader.takes_times_zero _⟩
  | op :: ops, h => by
    simp only [Operation.partsList, List.forall_mem_append] at h
    obtain ⟨first, hfirst, hpos, htake⟩ := op.takes h.1
    obtain ⟨others, hothers, hlen, htakes⟩ := Operation.takes_list ops h.2
    refine ⟨first ++ others, ?_, ?_, fun depth hdepth => ?_⟩
    · rw [Operation.writeList, hfirst, hothers, Output.ofBytes_append_ofBytes]
    · simp only [List.length_append, List.length_cons]
      omega
    · rw [List.length_append] at hdepth
      exact (htake depth (by omega)).times_succ (htakes depth (by omega))

/-- A canonical operation is read back at every depth that its bytes do not exceed. -/
theorem Operation.takes : (op : Operation) → (∀ p ∈ op.parts, p.IsCanonical) →
    ∃ bytes, op.write = .ofBytes bytes ∧ 0 < bytes.length ∧ ∀ depth, bytes.length ≤ depth →
      (Operation.readAt depth).Takes bytes op
  | .known kind supported payload, h => by
    simp only [Operation.parts, List.forall_mem_cons] at h
    obtain ⟨bytes, hbytes, htakes⟩ := payload.takes h.2
    have hpos := length_varintBytes_pos kind.tag
    refine ⟨varintBytes kind.tag ++ bytes, ?_, ?_, fun depth hdepth => ?_⟩
    · rw [Operation.write, hbytes, Output.ofBytes_append_ofBytes]
    · rw [List.length_append]
      omega
    · rw [List.length_append] at hdepth
      obtain ⟨depth, rfl⟩ : ∃ d, depth = d + 1 := ⟨depth - 1, by omega⟩
      have htag : kind.tag < 2 ^ 64 := Nat.lt_trans kind.tag_lt (by decide)
      exact (Reader.takes_varint htag).bind
        (Operation.takes_readPayload (htakes depth (by omega)))
  | .unknown u, h => by
    have hknown : (Part.operation (.unknown u)).IsCanonical := h _ List.mem_cons_self
    cases hknown

end

/-- **Operations.** A canonical operation is read back from exactly the bytes that are written for
it. -/
theorem Operation.codec_carries {op : Operation} (h : op.IsCanonical) :
    Operation.codec.Carries op := by
  obtain ⟨bytes, hwrite, hpos, htakes⟩ := op.takes h
  exact ⟨bytes, hwrite, hpos, Reader.takes_remaining_bind htakes⟩

end LedgerClient
