import LedgerClient.Proofs.Operation.Accepted
import LedgerClient.Proofs.Operation.Json
import LedgerClient.Proofs.Operation.Length
import LedgerClient.Proofs.Operation.Writable

/-!
# Operations of numbers without a payload

A number that no kind with a payload has is read as an unknown operation. Nothing tells where such
an operation ends, so it takes all the bytes that remain (`Operation.codec_ofBytes_unknown`).

Nothing can then be read after it. At the top of an input that is no harm, but a proposal goes on
after its operations with the fields of its review and its extensions, which find no byte. So an
unknown operation in a proposal is what the reader fails at (`Operation.unknown_read_outermost`),
no matter how many operations the proposal claims to have: either the next operation or the next
field is missing, and both faults are the same. The reader of JSON knows where a payload ends and
reads such a proposal.
-/

namespace LedgerClient

open Wire Wire.Codec Wire.Reader

/-! ### Numbers without a payload -/

/-- The numbers without a payload are the two that are reserved and those beyond the last kind. -/
theorem Kind.forall_ofTag?_isReserved_iff {tag : UInt64} :
    (∀ k ∈ ofTag? tag.toNat, k.isReserved = true) ↔ tag = 25 ∨ tag = 46 ∨ 62 ≤ tag := by
  rw [← UInt64.toNat_inj, ← UInt64.toNat_inj, UInt64.le_iff_toNat_le]
  generalize tag.toNat = n
  have hall : all.length = 62 := rfl
  rcases Nat.lt_or_ge n 62 with hn | hn
  · have hsmall : ∀ m : Fin 62, (∀ k ∈ ofTag? m, k.isReserved = true) ↔
        m.val = 25 ∨ m.val = 46 ∨ 62 ≤ m.val := by decide
    exact hsmall ⟨n, hn⟩
  · have hnone : ofTag? n = none := List.getElem?_eq_none (by omega)
    rw [hnone]
    exact ⟨fun _ => .inr (.inr hn), fun _ => nofun⟩

/-- What the bytes after a number without a payload are read as. -/
def UnknownOperation.ofTag (tag : UInt64) (raw : Bytes) : UnknownOperation :=
  ⟨some tag, (Kind.ofTag? tag.toNat).map Kind.name, raw, .null⟩

/-- A number without a payload has a name if it is reserved. -/
theorem UnknownOperation.isSome_name_ofTag_iff {tag : UInt64}
    (h : tag = 25 ∨ tag = 46 ∨ 62 ≤ tag) (raw : Bytes) :
    (ofTag tag raw).name.isSome ↔ tag = 25 ∨ tag = 46 := by
  have hname : (ofTag tag raw).name.isSome ↔ tag.toNat < 62 := by
    rw [ofTag, Option.isSome_map, Kind.ofTag?, isSome_getElem?]
    rfl
  rw [← UInt64.toNat_inj, ← UInt64.toNat_inj, UInt64.le_iff_toNat_le] at h
  rw [hname, ← UInt64.toNat_inj, ← UInt64.toNat_inj]
  simp only [UInt64.reduceToNat] at h ⊢
  omega

namespace Operation

theorem runOn_readUnknown (tag : UInt64) (raw : Bytes) :
    (readUnknown tag.toNat).runOn raw = (.ok (.unknown (.ofTag tag raw)), []) := by
  have hrest : Reader.rest.runOn raw = (.ok raw, []) := rfl
  rw [readUnknown, runOn_bind_of_ok hrest, runOn_pure, UInt64.ofNat_toNat]
  rfl

theorem readPayload_of_isReserved {nested : Reader Operation} {n : Nat}
    (h : ∀ k ∈ Kind.ofTag? n, k.isReserved = true) : readPayload nested n = readUnknown n := by
  rw [readPayload]
  cases hkind : Kind.ofTag? n with
  | none => rfl
  | some kind =>
    have hreserved : ¬kind.isReserved = false := by
      rw [h kind hkind]
      exact Bool.noConfusion
    simp only [dif_neg hreserved]

/-- A number is followed by its payload, which may nest as deep as it has bytes. -/
theorem exists_runOn_codec_read {n : Nat} (hn : n < 2 ^ 64) (bytes : Bytes) :
    ∃ depth, bytes.length ≤ depth ∧ codec.read.runOn (varintBytes n ++ bytes) =
      (readPayload (readAt depth) n).runOn bytes := by
  have hremaining : remaining.runOn (varintBytes n ++ bytes) =
      (.ok (varintBytes n ++ bytes).length, varintBytes n ++ bytes) := rfl
  obtain ⟨depth, hdepth, hle⟩ : ∃ depth, (varintBytes n ++ bytes).length = depth + 1 ∧
      bytes.length ≤ depth := by
    have hpos := length_varintBytes_pos n
    rw [List.length_append]
    exact ⟨_, (Nat.sub_add_cancel (by omega)).symm, by omega⟩
  refine ⟨depth, hle, ?_⟩
  rw [codec, runOn_bind_of_ok hremaining, hdepth, readAt, runOn_bind_of_ok (takes_varint hn bytes)]

section Unassigned

variable {tag : UInt64} {raw : Bytes}

/-- A number without a payload is read at any depth, with all that follows it. -/
theorem runOn_readAt_unknown (h : ∀ k ∈ Kind.ofTag? tag.toNat, k.isReserved = true) (depth : Nat) :
    (readAt (depth + 1)).runOn (varintBytes tag.toNat ++ raw) =
      (.ok (.unknown (.ofTag tag raw)), []) := by
  rw [readAt, runOn_bind_of_ok (takes_varint tag.toNat_lt raw), readPayload_of_isReserved h,
    runOn_readUnknown]

theorem runOn_codec_read_unknown (h : ∀ k ∈ Kind.ofTag? tag.toNat, k.isReserved = true) :
    codec.read.runOn (varintBytes tag.toNat ++ raw) = (.ok (.unknown (.ofTag tag raw)), []) := by
  obtain ⟨depth, -, hread⟩ := exists_runOn_codec_read tag.toNat_lt raw
  rw [hread, readPayload_of_isReserved h, runOn_readUnknown]

/-- **Unknown operations.** A number without a payload and any bytes after it are read. -/
theorem codec_ofBytes_unknown (h : ∀ k ∈ Kind.ofTag? tag.toNat, k.isReserved = true) :
    codec.ofBytes (varintBytes tag.toNat ++ raw) = .ok (.unknown (.ofTag tag raw)) :=
  readAll_of_runOn (runOn_codec_read_unknown h)

end Unassigned

/-- An unknown operation that was read has a number without a payload and all bytes after it. -/
theorem exists_ofTag_of_readAt {depth : Nat} {bytes rest : Bytes} {u : UnknownOperation}
    (hread : (readAt depth).runOn bytes = (.ok (.unknown u), rest)) :
    ∃ tag raw, u = .ofTag tag raw ∧ ∀ k ∈ Kind.ofTag? tag.toNat, k.isReserved = true := by
  cases depth with
  | zero => cases hread
  | succ depth =>
    obtain ⟨n, mid, hn, hrun⟩ := exists_of_runOn_bind hread
    obtain ⟨hlt, -⟩ := encodes_of_runOn_varint hn
    have htag : (UInt64.ofNat n).toNat = n := by
      rw [UInt64.toNat_ofNat', Nat.mod_eq_of_lt hlt]
    by_cases hreserved : ∀ k ∈ Kind.ofTag? n, k.isReserved = true
    · rw [readPayload_of_isReserved hreserved, ← htag, runOn_readUnknown] at hrun
      cases hrun
      exact ⟨.ofNat n, mid, rfl, by rwa [htag]⟩
    · -- The kind has a payload, so what was read is not unknown.
      obtain ⟨kind, hkind, hsupported⟩ : ∃ kind, Kind.ofTag? n = some kind ∧
          kind.isReserved = false := by
        simpa using hreserved
      simp only [readPayload, hkind, dif_pos hsupported] at hrun
      obtain ⟨payload, -, hknown⟩ := runOn_bind_pure hrun
      cases hknown

/-- **Reading.** An operation that was read is given by the bytes that were taken, or it is unknown
itself and has taken all bytes. -/
theorem isGivenBy_or_of_runOn {bytes rest : Bytes} {op : Operation}
    (hread : codec.read.runOn bytes = (.ok op, rest)) :
    op.IsGivenBy bytes rest ∨ rest = [] ∧ ∃ tag raw, op = .unknown (.ofTag tag raw) ∧
      ∀ k ∈ Kind.ofTag? tag.toNat, k.isReserved = true := by
  rcases givesKnown_codec_read hread with hgiven | ⟨hunknown, hrest⟩
  · exact .inl hgiven
  · obtain ⟨depth, mid, hdepth, hrun⟩ := exists_of_runOn_bind hread
    cases op with
    | known kind supported payload => cases hunknown
    | unknown u =>
      obtain ⟨tag, raw, rfl, hreserved⟩ := exists_ofTag_of_readAt hrun
      exact .inr ⟨hrest, tag, raw, rfl, hreserved⟩

/-! ### Proposals -/

/-- The bytes of a text. -/
def textBytes (s : String) : Bytes :=
  varintBytes (Utf8.encode s).length ++ Utf8.encode s

/-- The bytes of a proposal from its author to its expiration. -/
def proposalHead (author title memo : String) (expiration : Timestamp) : Bytes :=
  textBytes author ++ (textBytes title ++ (textBytes memo ++
    littleEndian 4 expiration.seconds.toNat))

/-- The bytes of a proposal that is said to have `n` operations, up to one of a number without a
payload: those in front of it are written as `enc`, and `raw` follows it. -/
def cutProposal (author title memo : String) (expiration : Timestamp) (n : Nat) (enc : Bytes)
    (tag : UInt64) (raw : Bytes) : Bytes :=
  varintBytes Kind.proposalCreate.tag ++ (proposalHead author title memo expiration ++
    (varintBytes n ++ (enc ++ (varintBytes tag.toNat ++ raw))))

theorem runOn_readAt_nil (depth : Nat) :
    (readAt depth).runOn [] = (.error (.truncated 1 0), []) := by
  cases depth <;> rfl

/-- The operations before an unknown one are read and so is that one, but then no bytes are left for
a further one. -/
theorem runOn_times_unknown {tag : UInt64}
    (h : ∀ k ∈ Kind.ofTag? tag.toNat, k.isReserved = true) (raw : Bytes) (more : Nat) :
    ∀ {ops : List Operation} {enc : Bytes} {depth : Nat},
      (∀ p ∈ partsList ops, p.IsCanonical) → writeList ops = .ofBytes enc → enc.length < depth →
        ((readAt depth).times (ops.length + (more + 1))).runOn
            (enc ++ (varintBytes tag.toNat ++ raw)) =
          if more = 0 then (.ok (ops ++ [.unknown (.ofTag tag raw)]), [])
          else (.error (.truncated 1 0), []) := by
  intro ops
  induction ops with
  | nil =>
    intro enc depth _ hwrite hdepth
    obtain rfl : [] = enc := (Output.mk.inj hwrite).1
    obtain ⟨depth, rfl⟩ : ∃ d, depth = d + 1 := ⟨depth - 1, by omega⟩
    rw [List.length_nil, Nat.zero_add, List.nil_append, times,
      runOn_bind_of_ok (runOn_readAt_unknown h depth)]
    cases more with
    | zero => rfl
    | succ more =>
      -- The number of a further operation finds no byte.
      rw [times, if_neg (Nat.succ_ne_zero more)]
      exact runOn_bind_of_error (runOn_bind_of_error (runOn_readAt_nil _))
  | cons op ops ih =>
    intro enc depth hparts hwrite hdepth
    rw [partsList, List.forall_mem_append] at hparts
    obtain ⟨first, others, hfirst, hothers, rfl⟩ := Output.append_eq_ofBytes hwrite
    obtain ⟨own, hown, -, htakes⟩ := op.takes hparts.1
    obtain rfl : own = first := (Output.mk.inj (hown.symm.trans hfirst)).1
    rw [List.length_append] at hdepth
    have hlen : others.length < depth := by omega
    have hrest := ih hparts.2 hothers hlen
    rw [List.length_cons, Nat.add_right_comm, times, List.append_assoc,
      runOn_bind_of_ok (htakes depth (by omega) _), runOn_bind, hrest]
    by_cases hmore : more = 0
    · simp only [if_pos hmore]
      rfl
    · simp only [if_neg hmore]

/-- The operations of a record and the fields after them, which find no byte once an unknown
operation was read. -/
theorem runOn_read_operations_unknown {tag : UInt64} {raw enc : Bytes} {ops : List Operation}
    {n depth : Nat} {name : String} {layout : Layout}
    (h : ∀ k ∈ Kind.ofTag? tag.toNat, k.isReserved = true)
    (hparts : ∀ p ∈ partsList ops, p.IsCanonical) (hwrite : writeList ops = .ofBytes enc)
    (hmore : ops.length < n) (hcount : n ≤ (enc ++ (varintBytes tag.toNat ++ raw)).length)
    (hn : n < 2 ^ 64) (hdepth : enc.length < depth)
    (hlayout : (Record.read (readAt depth) layout).runOn [] = (.error (.truncated 1 0), [])) :
    (Record.read (readAt depth) (.operations name :: layout)).runOn
        (varintBytes n ++ (enc ++ (varintBytes tag.toNat ++ raw))) =
      (.error (.truncated 1 0), []) := by
  obtain ⟨more, rfl⟩ : ∃ more, n = ops.length + (more + 1) := ⟨n - ops.length - 1, by omega⟩
  have hops := runOn_times_unknown h raw more hparts hwrite hdepth
  rw [Record.read, runOn_count_bind (takes_varint hn _), if_neg (Nat.not_lt.mpr hcount)]
  by_cases hlast : more = 0
  · rw [if_pos hlast] at hops
    rw [runOn_bind_of_ok hops]
    exact runOn_bind_of_error hlayout
  · rw [if_neg hlast] at hops
    exact runOn_bind_of_error hops

/-- A proposal of an unknown operation is cut off: the fields after its operations are missing, if
not a further operation. -/
theorem runOn_read_proposal_unknown {author title memo : String} {expiration : Timestamp}
    {ops : List Operation} {enc raw : Bytes} {tag : UInt64} {n depth : Nat}
    (h : ∀ k ∈ Kind.ofTag? tag.toNat, k.isReserved = true)
    (hparts : ∀ p ∈ partsList ops, p.IsCanonical) (hwrite : writeList ops = .ofBytes enc)
    (hmore : ops.length < n) (hcount : n ≤ (enc ++ (varintBytes tag.toNat ++ raw)).length)
    (hlen : (proposalHead author title memo expiration ++
      (varintBytes n ++ (enc ++ (varintBytes tag.toNat ++ raw)))).length < 2 ^ 64)
    (hdepth : enc.length < depth) :
    (Record.read (readAt depth) Kind.proposalCreate.layout).runOn
        (proposalHead author title memo expiration ++
          (varintBytes n ++ (enc ++ (varintBytes tag.toNat ++ raw)))) =
      (.error (.truncated 1 0), []) := by
  obtain ⟨hauthor, htitle, hmemo, hn⟩ : (Utf8.encode author).length < 2 ^ 64 ∧
      (Utf8.encode title).length < 2 ^ 64 ∧ (Utf8.encode memo).length < 2 ^ 64 ∧ n < 2 ^ 64 := by
    simp only [proposalHead, textBytes, List.length_append] at hlen hcount
    omega
  have htime : Timestamp.codec.read.Takes (littleEndian 4 expiration.seconds.toNat) expiration :=
    (Timestamp.codec_carries expiration).takes_of_write rfl
  simp only [proposalHead, List.append_assoc]
  refine (runOn_bind_of_ok (takes_text hauthor _)).trans (runOn_bind_of_error ?_)
  refine (runOn_bind_of_ok (takes_text htitle _)).trans (runOn_bind_of_error ?_)
  refine (runOn_bind_of_ok (takes_text hmemo _)).trans (runOn_bind_of_error ?_)
  refine (runOn_bind_of_ok (htime _)).trans (runOn_bind_of_error ?_)
  exact runOn_read_operations_unknown h hparts hwrite hmore hcount hn hdepth rfl

/-! ### Where unknown operations are read -/

/-- Operations that are known at any depth and have canonical symbols are written. -/
theorem exists_writeList {ops : List Operation}
    (hknown : ∀ op ∈ ops, ∀ o ∈ op.within, o.isUnknown = false)
    (hsymbols : ∀ op ∈ ops, ∀ a ∈ op.assets, a.symbol.IsCanonical) :
    ∃ enc, writeList ops = .ofBytes enc := by
  have hwritable : ∀ p ∈ partsList ops, p.IsWritable := by
    rw [partsList_eq_flatMap, List.forall_mem_flatMap]
    intro op hop p hp
    cases p with
    | operation o => exact hknown op hop o (mem_within_iff.mpr hp)
    | asset a => exact (hsymbols op hop a (mem_assets_iff.mpr hp)).encode_name.2.1
    | count n => trivial
  have hfault : (writeList ops).fault = none := (fault_writeList_eq_none_iff ops).mpr hwritable
  exact ⟨_, congrArg (Output.mk _) hfault⟩

/-- Such operations are canonical if they are written as fewer than `2 ^ 64` bytes. -/
theorem forall_partsList_isCanonical {ops : List Operation} {enc : Bytes}
    (hknown : ∀ op ∈ ops, ∀ o ∈ op.within, o.isUnknown = false)
    (hsymbols : ∀ op ∈ ops, ∀ a ∈ op.assets, a.symbol.IsCanonical)
    (hwrite : writeList ops = .ofBytes enc) (hlen : enc.length < 2 ^ 64) :
    ∀ p ∈ partsList ops, p.IsCanonical := by
  have hcounts := (count_le_of_writeList ops hwrite).2
  intro p hp
  obtain ⟨op, hop, hpart⟩ : ∃ op ∈ ops, p ∈ op.parts := by
    rwa [partsList_eq_flatMap, List.mem_flatMap] at hp
  cases p with
  | operation o => exact hknown op hop o (mem_within_iff.mpr hpart)
  | asset a => exact hsymbols op hop a (mem_assets_iff.mpr hpart)
  | count n => exact Nat.lt_of_le_of_lt (hcounts n hp) hlen

/-- A proposal of known operations followed by an unknown one is truncated, whatever its other
fields are and however many operations it is said to have. -/
theorem codec_ofBytes_cutProposal {author title memo : String} {expiration : Timestamp}
    {ops : List Operation} {enc raw : Bytes} {n : Nat} {tag : UInt64}
    (h : ∀ k ∈ Kind.ofTag? tag.toNat, k.isReserved = true)
    (hknown : ∀ op ∈ ops, ∀ o ∈ op.within, o.isUnknown = false)
    (hsymbols : ∀ op ∈ ops, ∀ a ∈ op.assets, a.symbol.IsCanonical)
    (hwrite : writeList ops = .ofBytes enc) (hmore : ops.length < n)
    (hcount : n ≤ (enc ++ (varintBytes tag.toNat ++ raw)).length)
    (hlen : (cutProposal author title memo expiration n enc tag raw).length < 2 ^ 64) :
    codec.ofBytes (cutProposal author title memo expiration n enc tag raw) =
      .error (.truncated 1 0) := by
  obtain ⟨depth, hdepth, hread⟩ := exists_runOn_codec_read
    (show Kind.proposalCreate.tag < 2 ^ 64 by decide)
    (proposalHead author title memo expiration ++
      (varintBytes n ++ (enc ++ (varintBytes tag.toNat ++ raw))))
  -- The number of the unknown operation takes a byte, so the operations in front of it have fewer
  -- bytes than levels.
  have hpos := length_varintBytes_pos tag.toNat
  rw [cutProposal, List.length_append] at hlen
  have hless : enc.length < depth := by
    simp only [List.length_append] at hdepth
    omega
  have hparts : ∀ p ∈ partsList ops, p.IsCanonical := by
    refine forall_partsList_isCanonical hknown hsymbols hwrite ?_
    simp only [List.length_append] at hlen
    omega
  simp only [readPayload, Kind.ofTag?_tag] at hread
  have hrun := hread.trans (runOn_bind_of_error
    (runOn_read_proposal_unknown h hparts hwrite hmore hcount (by omega) hless))
  rw [Codec.ofBytes, readAll, cutProposal, runOn_bind_of_error hrun]

theorem isReserved_proposalCreate : Kind.proposalCreate.isReserved = false := rfl

/-- A proposal of operations. -/
def proposalCreate (author title memo : String) (expiration : Timestamp) (ops : List Operation)
    (review : Option Timestamp) (extensions : List Extension) : Operation :=
  .known .proposalCreate isReserved_proposalCreate (.field author (.field title (.field memo
    (.field expiration (.operations ops (.field review (.field extensions .empty)))))))

theorem mem_within_proposalCreate {author title memo : String} {expiration : Timestamp}
    {ops : List Operation} {review : Option Timestamp} {extensions : List Extension}
    {op : Operation} (hop : op ∈ ops) :
    op ∈ (proposalCreate author title memo expiration ops review extensions).within := by
  have hnested : .operation op ∈ partsList ops := by
    rw [partsList_eq_flatMap]
    exact List.mem_flatMap.mpr ⟨op, hop, op.mem_parts_self⟩
  rw [mem_within_iff]
  simp [proposalCreate, parts, Record.parts, hnested]

theorem isTextSafe_unknown {u : UnknownOperation} (h : u.IsTextSafe) : (unknown u).IsTextSafe where
  assets _ ha := nomatch ha
  unknown v hv := by
    have hself : .unknown v ∈ [unknown u] := hv
    cases List.mem_singleton.mp hself
    exact h

/-- A proposal of operations that JSON holds is read back from JSON. -/
theorem form_readsBack_proposalCreate {author title memo : String} {expiration : Timestamp}
    {ops : List Operation} {review : Option Timestamp} {extensions : List Extension}
    (hops : ∀ op ∈ ops, op.IsTextSafe) :
    form.read (form.write (proposalCreate author title memo expiration ops review extensions)) =
      .ok (proposalCreate author title memo expiration ops review extensions) := by
  refine form_readsBack Json.isTidying_id _ ?_
  have hnested : ∀ p ∈ partsList ops, p.IsTextSafe id := by
    rw [partsList_eq_flatMap, List.forall_mem_flatMap]
    exact fun op hop => forall_parts_isTextSafe_iff.mpr ⟨hops op hop, fun _ _ => rfl⟩
  have hreview : (Shape.option .timestamp).parts review = [] := by
    cases review <;> rfl
  have hextensions : (Shape.list .extension).parts extensions = [.count extensions.length] := by
    simp [Shape.parts]
  simp only [proposalCreate, parts, Record.parts, hreview, hextensions, List.forall_mem_cons,
    List.forall_mem_append]
  simpa [Shape.parts, Part.IsTextSafe] using hnested

/-- The unknown operations in an operation that was read are the operation itself. -/
theorem eq_of_mem_within_of_runOn {bytes rest : Bytes} {op o : Operation}
    (hread : codec.read.runOn bytes = (.ok op, rest)) (ho : o ∈ op.within)
    (hunknown : o.isUnknown = true) : o = op := by
  rcases isGivenBy_or_of_runOn hread with ⟨hcanonical, -⟩ | ⟨-, tag, raw, rfl, -⟩
  · exact absurd hunknown (hcanonical.not_isUnknown ho)
  · have hself : o ∈ [unknown (.ofTag tag raw)] := ho
    exact List.mem_singleton.mp hself

theorem eq_of_mem_within_of_ofBytes {bytes : Bytes} {op o : Operation}
    (hread : codec.ofBytes bytes = .ok op) (ho : o ∈ op.within) (hunknown : o.isUnknown = true) :
    o = op :=
  eq_of_mem_within_of_runOn (runOn_of_readAll hread) ho hunknown

/-- An operation that was read under the number of a kind with a payload is of this kind. -/
theorem isUnknown_of_runOn_codec_read {kind : Kind} (supported : kind.isReserved = false)
    {bytes rest : Bytes} {op : Operation}
    (hread : codec.read.runOn (varintBytes kind.tag ++ bytes) = (.ok op, rest)) :
    op.isUnknown = false := by
  have htag : kind.tag < 2 ^ 64 := Nat.lt_trans kind.tag_lt (by decide)
  obtain ⟨depth, -, hrun⟩ := exists_runOn_codec_read htag bytes
  rw [hrun] at hread
  simp only [readPayload, Kind.ofTag?_tag, dif_pos supported] at hread
  obtain ⟨payload, -, rfl⟩ := runOn_bind_pure hread
  rfl

/-- **Where unknown operations are read.** An operation of a number without a payload is read from
the wire with any bytes after it, but the only unknown operation there can be in what is read is the
outermost. So a proposal of such an operation is never read with that operation in it, whatever the
bytes in front of it are. If these are known operations with canonical symbols, the proposal is
refused, because the unknown operation takes the bytes that the proposal goes on with. The same
proposal is read from JSON, with the unknown operation in it. -/
theorem unknown_read_outermost {tag : UInt64} (htag : tag = 25 ∨ tag = 46 ∨ 62 ≤ tag)
    (raw : Bytes) :
    codec.ofBytes (varintBytes tag.toNat ++ raw) = .ok (.unknown (.ofTag tag raw)) ∧
    (∀ bytes op, codec.ofBytes bytes = .ok op → ∀ o ∈ op.within, o.isUnknown = true → o = op) ∧
    (∀ author title memo expiration n enc, ¬∃ op,
      codec.ofBytes (cutProposal author title memo expiration n enc tag raw) = .ok op ∧
        ∃ o ∈ op.within, o.isUnknown = true) ∧
    (∀ ops : List Operation, (∀ op ∈ ops, ∀ o ∈ op.within, o.isUnknown = false) →
      (∀ op ∈ ops, ∀ a ∈ op.assets, a.symbol.IsCanonical) → ∃ enc, writeList ops = .ofBytes enc ∧
        ∀ author title memo expiration n, ops.length < n →
          n ≤ (enc ++ (varintBytes tag.toNat ++ raw)).length →
          (cutProposal author title memo expiration n enc tag raw).length < 2 ^ 64 →
          codec.ofBytes (cutProposal author title memo expiration n enc tag raw) =
            .error (.truncated 1 0)) ∧
    ∀ author title memo expiration ops body review extensions op, (∀ o ∈ ops, o.IsTextSafe) →
      op = proposalCreate author title memo expiration
        (ops ++ [.unknown ⟨some tag, none, [], body⟩]) review extensions →
      form.read (form.write op) = .ok op ∧ .unknown ⟨some tag, none, [], body⟩ ∈ op.within := by
  have hreserved := Kind.forall_ofTag?_isReserved_iff.mpr htag
  refine ⟨codec_ofBytes_unknown hreserved,
    fun bytes op hread o => eq_of_mem_within_of_ofBytes hread, ?_, ?_, ?_⟩
  · rintro author title memo expiration n enc ⟨op, hread, o, ho, hunknown⟩
    obtain rfl := eq_of_mem_within_of_ofBytes hread ho hunknown
    have hknown : o.isUnknown = false :=
      isUnknown_of_runOn_codec_read isReserved_proposalCreate (runOn_of_readAll hread)
    rw [hunknown] at hknown
    cases hknown
  · intro ops hknown hsymbols
    obtain ⟨enc, hwrite⟩ := exists_writeList hknown hsymbols
    refine ⟨enc, hwrite, ?_⟩
    intro author title memo expiration n
    exact codec_ofBytes_cutProposal hreserved hknown hsymbols hwrite
  · intro author title memo expiration ops body review extensions op hops hop
    rw [hop]
    refine ⟨form_readsBack_proposalCreate ?_, mem_within_proposalCreate (by simp)⟩
    rw [List.forall_mem_append, List.forall_mem_singleton]
    exact ⟨hops, isTextSafe_unknown (.numbered hreserved)⟩

theorem unknown_read_outermost_after_transfer :
    codec.ofBytes (varintBytes 46 ++ [7]) = .ok (.unknown (.ofTag 46 [7])) ∧
      (∀ o ∈ (unknown (.ofTag 46 [7])).within, o.isUnknown = true → o = .unknown (.ofTag 46 [7])) ∧
      (∃ enc, writeList [.transfer "a" "b" (.viz 1) ""] = .ofBytes enc ∧
        codec.ofBytes (cutProposal "a" "b" "" .epoch 3 enc 46 [7]) = .error (.truncated 1 0)) ∧
      ∃ op, op = proposalCreate "a" "b" "" .epoch
          [.transfer "a" "b" (.viz 1) "", .unknown ⟨some 46, none, [], .null⟩] none [] ∧
        form.read (form.write op) = .ok op := by
  have htag : (46 : UInt64) = 25 ∨ (46 : UInt64) = 46 ∨ 62 ≤ (46 : UInt64) := by decide
  obtain ⟨hread, hself, -, hcut, hjson⟩ := unknown_read_outermost htag [7]
  refine ⟨hread, hself _ _ hread, ?_, _, rfl, ?_⟩
  · have hops : ∀ op ∈ [Operation.transfer "a" "b" (.viz 1) ""], op.IsCanonical := by decide
    simp only [isCanonical_iff] at hops
    obtain ⟨enc, hwrite, hrefused⟩ := hcut [.transfer "a" "b" (.viz 1) ""]
      (fun op hop => (hops op hop).1) (fun op hop => (hops op hop).2.1)
    refine ⟨enc, hwrite, ?_⟩
    obtain rfl : (writeList [.transfer "a" "b" (.viz 1) ""]).bytes = enc :=
      congrArg Output.bytes hwrite
    exact hrefused "a" "b" "" .epoch 3 (by decide) (by decide +kernel) (by decide +kernel)
  · refine (hjson "a" "b" "" .epoch [.transfer "a" "b" (.viz 1) ""] .null none [] _ ?_ rfl).1
    rw [List.forall_mem_singleton]
    constructor
    · intro a ha
      obtain rfl : a = .viz 1 := List.mem_singleton.mp ha
      exact ⟨by decide, by decide, trivial⟩
    · intro u hu
      cases List.mem_singleton.mp hu

/-- The start of a proposal of one operation, whose number is beyond the last kind, with a byte for
each of the two fields that follow the operations of a proposal. -/
def endlessProposal : Bytes :=
  [22, 1, 0x61, 1, 0x61, 0, 0, 0, 0, 0, 1, 77, 0, 0]

/-- No operation is read from these bytes. -/
theorem endlessProposal_refused :
    endlessProposal = cutProposal "a" "a" "" .epoch 1 [] 77 [0, 0] ∧
      ¬∃ op, codec.ofBytes endlessProposal = .ok op := by
  refine ⟨by decide +kernel, ?_⟩
  rintro ⟨op, hread⟩
  have hfault : codec.ofBytes endlessProposal = .error (.truncated 1 0) := rfl
  rw [hfault] at hread
  cases hread

end Operation

end LedgerClient
