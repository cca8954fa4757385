import LedgerClient.Proofs.Asset.Field
import LedgerClient.Proofs.Operation.Wire
import LedgerClient.Proofs.Wire.Accepted
import LedgerClient.Proofs.Wire.Separation

/-!
# The wire form of an operation is the shortest that is read as it

Bytes of any origin that are read as an operation of a known kind are the wire form of that
operation, or the wire form with longer variable-length numbers. So an operation that was read can
be written, and no other bytes that stand for it are as short.

The work is in what bytes cannot do. A key is kept as it was read, a symbol is determined by its
field, and an operation of an unknown kind cannot hide in a proposal: it takes all the bytes that
remain, and the field after the proposed operations needs one more. The last point is a property of
the layouts (`Layout.IsGuarded`) and the reason why nothing is assumed about nested operations.
-/

namespace LedgerClient

open Wire Wire.Codec Wire.Reader

/-! ### Times, keys, authorities and extensions -/

theorem Timestamp.codec_gives : Timestamp.codec.Gives fun _ => True :=
  gives_u32.via fun _ => rfl

theorem PublicKey.codec_gives : PublicKey.codec.Gives fun _ => True := by
  intro bytes k rest hread
  obtain ⟨v, mid, hv, hrun⟩ := exists_of_runOn_bind hread
  obtain ⟨-, own, used, hown, rfl, hpos, hused⟩ := gives_vector (by decide) hv
  have hkey : PublicKey.ofBytes v = .ok k ∧ mid = rest := by
    split at hrun <;> cases hrun
    exact ⟨‹_›, rfl⟩
  obtain ⟨hkey, rfl⟩ := hkey
  have hencodes : Encodes (fun _ => PublicKey.codec.read) (used ++ []) (own ++ []) k :=
    hused.bind (by simpa only [hkey] using (Delimits.pure k).encodes)
  rw [List.append_nil, List.append_nil] at hencodes
  rw [PublicKey.ofBytes] at hkey
  split at hkey <;> cases hkey
  exact ⟨trivial, own, used, hown, rfl, hpos, hencodes⟩

theorem Authority.codec_gives : Authority.codec.Gives fun a => ∀ n ∈ a.counts, n < 2 ^ 64 := by
  have hparts := gives_u32.pair ((gives_text.pair gives_u16).list.pair
    (PublicKey.codec_gives.pair gives_u16).list)
  refine (hparts.via fun _ => rfl).imp fun a h => ?_
  obtain ⟨-, ⟨haccounts, hnames⟩, hkeys, -⟩ := h
  simp only [counts, List.forall_mem_cons, List.forall_mem_map]
  exact ⟨haccounts, hkeys, fun p hp => (hnames p hp).1⟩

theorem Beneficiary.codec_gives : Beneficiary.codec.Gives fun b => ∀ n ∈ b.counts, n < 2 ^ 64 :=
  ((gives_text.pair gives_u16).via fun _ => rfl).imp fun b h => by
    simpa [counts] using h.1

theorem Extension.codec_gives : Extension.codec.Gives fun _ => True := by
  intro bytes e rest hread
  obtain ⟨tag, mid, htag, hrun⟩ := exists_of_runOn_bind hread
  obtain ⟨-, used, rfl, hpos, hused⟩ := encodes_of_runOn_varint htag
  split at hrun <;> cases hrun
  rename_i hzero
  subst hzero
  have hvoid : Encodes (fun _ => Extension.codec.read) (used ++ []) (varintBytes 0 ++ []) .void :=
    hused.bind (Delimits.pure Extension.void).encodes
  rw [List.append_nil, List.append_nil] at hvoid
  exact ⟨trivial, varintBytes 0, used, rfl, rfl, hpos, hvoid⟩

theorem ContentExtension.codec_gives :
    ContentExtension.codec.Gives fun e => ∀ n ∈ e.counts, n < 2 ^ 64 := by
  intro bytes e rest hread
  obtain ⟨tag, mid, htag, hrun⟩ := exists_of_runOn_bind hread
  obtain ⟨-, used, rfl, hpos, hused⟩ := encodes_of_runOn_varint htag
  split at hrun
  · rename_i hzero
    subst hzero
    obtain ⟨list, hlist, rfl⟩ := runOn_bind_pure hrun
    obtain ⟨⟨hlen, hcounts⟩, own', used', hown', rfl, -, hused'⟩ :=
      Beneficiary.codec_gives.list hlist
    refine ⟨?_, varintBytes 0 ++ own', used ++ used', ?_, by rw [List.append_assoc], ?_,
      hused.bind (hused'.map ContentExtension.beneficiaries)⟩
    · simpa only [counts, List.forall_mem_cons, List.forall_mem_flatMap] using ⟨hlen, hcounts⟩
    · simp only [ContentExtension.codec, hown', Output.ofBytes_append_ofBytes]
    · rw [List.length_append]
      omega
  · cases hrun

/-! ### Fields -/

/-- A value of any shape is read from its wire form or a longer one, and its parts are canonical. -/
theorem Shape.codec_gives : (s : Shape) → s.codec.Gives fun v => ∀ p ∈ s.parts v, p.IsCanonical
  | text => gives_text.imp fun _ h => by simpa [parts, Part.IsCanonical] using h
  | asset => Asset.codec_gives.imp fun _ h => by simpa [parts, Part.IsCanonical] using h
  | timestamp => Timestamp.codec_gives.imp fun _ _ => by simp [parts]
  | key => PublicKey.codec_gives.imp fun _ _ => by simp [parts]
  | u16 => gives_u16.imp fun _ _ => by simp [parts]
  | i16 => gives_i16.imp fun _ _ => by simp [parts]
  | u32 => gives_u32.imp fun _ _ => by simp [parts]
  | flag => gives_flag.imp fun _ _ => by simp [parts]
  | sequence => gives_u64.imp fun _ _ => by simp [parts]
  | authority => Authority.codec_gives.imp fun _ h => by simpa [parts, Part.IsCanonical] using h
  | beneficiary => Beneficiary.codec_gives.imp fun _ h => by simpa [parts, Part.IsCanonical] using h
  | extension => Extension.codec_gives.imp fun _ _ => by simp [parts]
  | contentExtension =>
    ContentExtension.codec_gives.imp fun _ h => by simpa [parts, Part.IsCanonical] using h
  | list item => (codec_gives item).list.imp fun _ h => by
    simpa only [parts, List.forall_mem_cons, List.forall_mem_flatMap, Part.IsCanonical] using h
  | option item => (codec_gives item).option.imp fun _ h => by
    simpa only [parts, List.forall_mem_flatMap, Option.mem_toList, Option.mem_def] using h

/-! ### Records -/

/-- Every field of operations is followed by a further field. -/
def Layout.IsGuarded : Layout → Prop
  | [] => True
  | .field _ _ :: layout => Layout.IsGuarded layout
  | .operations _ :: layout => layout ≠ [] ∧ Layout.IsGuarded layout

theorem Kind.isGuarded_layout (k : Kind) : Layout.IsGuarded k.layout := by
  cases k <;> simp [layout, Layout.IsGuarded]

namespace Operation

/-- The operation is canonical and has a wire form, and the bytes up to the given rest are an
encoding of it that lengthens this form. -/
def IsGivenBy (op : Operation) (bytes rest : Bytes) : Prop :=
  op.IsCanonical ∧ ∃ own used, op.write = .ofBytes own ∧ bytes = used ++ rest ∧ 0 < used.length ∧
    Encodes readAt used own op

/-- Every operation that is read is given by the bytes that were taken, or it is unknown and all
bytes were taken. -/
def GivesKnown (r : Reader Operation) : Prop :=
  ∀ ⦃bytes op rest⦄, r.runOn bytes = (.ok op, rest) →
    op.IsGivenBy bytes rest ∨ (op.isUnknown = true ∧ rest = [])

/-- Operations after which bytes remain are all given by the bytes that were taken. -/
theorem GivesKnown.times {r : Reader Operation} (hr : GivesKnown r) :
    ∀ {n : Nat} {bytes ops rest}, (r.times n).runOn bytes = (.ok ops, rest) → rest ≠ [] →
      ops.length = n ∧ (∀ p ∈ partsList ops, p.IsCanonical) ∧
        ∃ own used, writeList ops = .ofBytes own ∧ bytes = used ++ rest ∧ n ≤ used.length ∧
          Encodes (fun depth => (readAt depth).times n) used own ops := by
  intro n
  induction n with
  | zero =>
    intro bytes ops rest hread _
    cases hread
    exact ⟨rfl, by simp [partsList], [], [], rfl, rfl, Nat.le_refl _, (Delimits.pure []).encodes⟩
  | succ n ih =>
    intro bytes ops rest hread hrest
    obtain ⟨op, mid, hop, hread⟩ := exists_of_runOn_bind hread
    obtain ⟨ops', hops, rfl⟩ := runOn_bind_pure hread
    obtain ⟨hlen, hparts, own', used', hown', rfl, hle, hused'⟩ := ih hops hrest
    rcases hr hop with ⟨hcanonical, own, used, hown, rfl, hpos, hused⟩ | ⟨-, hnil⟩
    · refine ⟨by rw [List.length_cons, hlen], ?_, own ++ own', used ++ used', ?_,
        by rw [List.append_assoc], ?_, hused.bind (hused'.map (List.cons op))⟩
      · rw [partsList, List.forall_mem_append]
        exact ⟨hcanonical, hparts⟩
      · rw [writeList, hown, hown', Output.ofBytes_append_ofBytes]
      · rw [List.length_append]
        omega
    · -- After an unknown operation nothing is left to be read.
      exact absurd (List.append_eq_nil_iff.mp hnil).2 hrest

end Operation

/-- Reading one field or more takes at least one byte. -/
theorem Record.ne_nil_of_read {nested : Reader Operation} : {layout : Layout} → layout ≠ [] →
    ∀ ⦃bytes r rest⦄, (Record.read nested layout).runOn bytes = (.ok r, rest) → bytes ≠ []
  | [], hne => absurd rfl hne
  | .field _ shape :: layout, _ => by
    intro bytes r rest hread
    obtain ⟨value, mid, hvalue, -⟩ := exists_of_runOn_bind hread
    obtain ⟨-, own, used, -, rfl, hpos, -⟩ := shape.codec_gives hvalue
    exact List.append_ne_nil_of_left_ne_nil (List.length_pos_iff.mp hpos) _
  | .operations _ :: layout, _ => by
    rintro _ r rest hread rfl
    obtain ⟨n, mid, hcount, -⟩ := exists_of_runOn_bind hread
    cases hcount

/-- A record of a guarded layout is given by the bytes that were taken, whatever is nested in it. -/
theorem Record.gives_read {nested : Reader Operation} (hnested : Operation.GivesKnown nested) :
    {layout : Layout} → Layout.IsGuarded layout → ∀ ⦃bytes r rest⦄,
      (Record.read nested layout).runOn bytes = (.ok r, rest) → (∀ p ∈ r.parts, p.IsCanonical) ∧
        ∃ own used, r.write = .ofBytes own ∧ bytes = used ++ rest ∧
          Encodes (fun depth => Record.read (Operation.readAt depth) layout) used own r
  | [], _ => by
    intro bytes r rest hread
    cases hread
    exact ⟨by simp [Record.parts], [], [], rfl, rfl, (Delimits.pure Record.empty).encodes⟩
  | .field _ shape :: layout, hguarded => by
    intro bytes r rest hread
    have hguarded' : Layout.IsGuarded layout := hguarded
    obtain ⟨value, mid, hvalue, hrun⟩ := exists_of_runOn_bind hread
    obtain ⟨others, hothers, rfl⟩ := runOn_bind_pure hrun
    obtain ⟨hparts, own, used, hown, rfl, -, hused⟩ := shape.codec_gives hvalue
    obtain ⟨hparts', own', used', hown', rfl, hused'⟩ := Record.gives_read hnested hguarded' hothers
    refine ⟨?_, own ++ own', used ++ used', ?_, by rw [List.append_assoc],
      hused.bind (hused'.map (Record.field value))⟩
    · rw [Record.parts, List.forall_mem_append]
      exact ⟨hparts, hparts'⟩
    · rw [Record.write, hown, hown', Output.ofBytes_append_ofBytes]
  | .operations _ :: layout, hguarded => by
    intro bytes r rest hread
    obtain ⟨n, mid, hcount, hread⟩ := exists_of_runOn_bind hread
    obtain ⟨ops, mid', hops, hread⟩ := exists_of_runOn_bind hread
    obtain ⟨others, hothers, rfl⟩ := runOn_bind_pure hread
    -- The field that follows needs a byte, so no operation has taken them all.
    have hmore : mid' ≠ [] := Record.ne_nil_of_read hguarded.1 hothers
    obtain ⟨hlt, used, rfl, -, hused⟩ := encodes_of_runOn_count hcount
    obtain ⟨rfl, hparts, own', used', hown', rfl, hle, hused'⟩ := hnested.times hops hmore
    obtain ⟨hparts', own'', used'', hown'', rfl, hused''⟩ :=
      Record.gives_read hnested hguarded.2 hothers
    refine ⟨?_, varintBytes ops.length ++ (own' ++ own''), used ++ (used' ++ used''), ?_, by simp,
      hused.count_bind (hused'.bind (hused''.map (Record.operations ops))) ?_⟩
    · rw [Record.parts, List.forall_mem_cons, List.forall_mem_append]
      exact ⟨hlt, hparts, hparts'⟩
    · rw [Record.write, hown', hown'', Output.ofBytes_append_ofBytes, Output.ofBytes_append_ofBytes,
        List.append_assoc]
    · rw [List.length_append]
      omega

/-! ### Operations -/

namespace Operation

theorem of_runOn_readUnknown {tag : Nat} {bytes rest : Bytes} {op : Operation}
    (h : (readUnknown tag).runOn bytes = (.ok op, rest)) : op.isUnknown = true ∧ rest = [] := by
  obtain ⟨raw, hraw, rfl⟩ := runOn_bind_pure h
  cases hraw
  exact ⟨rfl, rfl⟩

/-- A number is followed by an encoding of the payload of its kind. -/
theorem encodes_readPayload {kind : Kind} {supported : kind.isReserved = false}
    {payload : Record kind.layout} {used own : Bytes}
    (h : Encodes (fun depth => Record.read (readAt depth) kind.layout) used own payload) :
    Encodes (fun depth => readPayload (readAt depth) kind.tag) used own
      (known kind supported payload) := by
  simp only [readPayload, kind.ofTag?_tag, dif_pos supported]
  exact h.map (known kind supported)

/-- Operations of any nesting are given by their bytes or unknown. -/
theorem givesKnown_readAt : ∀ depth : Nat, GivesKnown (readAt depth) := by
  intro depth
  induction depth with
  | zero =>
    intro bytes op rest hread
    cases hread
  | succ depth ih =>
    intro bytes op rest hread
    obtain ⟨tag, mid, htag, hrun⟩ := exists_of_runOn_bind hread
    obtain ⟨-, used, rfl, hpos, hused⟩ := encodes_of_runOn_varint htag
    rw [readPayload] at hrun
    split at hrun
    · exact .inr (of_runOn_readUnknown hrun)
    · rename_i kind hkind
      split at hrun
      · rename_i hsupported
        obtain ⟨payload, hpayload, rfl⟩ := runOn_bind_pure hrun
        obtain ⟨hparts, own', used', hown', rfl, hused'⟩ :=
          Record.gives_read ih kind.isGuarded_layout hpayload
        obtain rfl : kind.tag = tag := Kind.tag_of_ofTag? hkind
        refine .inl ⟨?_, varintBytes kind.tag ++ own', used ++ used', ?_,
          by rw [List.append_assoc], ?_,
          hused.nest ⟨1, 0, rfl, Nat.one_pos⟩ (fun _ => rfl) hpos (encodes_readPayload hused')⟩
        · exact List.forall_mem_cons.mpr ⟨rfl, hparts⟩
        · rw [write, hown', Output.ofBytes_append_ofBytes]
        · rw [List.length_append]
          omega
      · exact .inr (of_runOn_readUnknown hrun)

theorem givesKnown_codec_read : GivesKnown codec.read := by
  intro bytes op rest hread
  obtain ⟨depth, mid, hdepth, hread⟩ := exists_of_runOn_bind hread
  cases hdepth
  exact givesKnown_readAt _ hread

/-- An operation of a known kind that all the bytes are read as is canonical, and they are an
encoding of it that lengthens its wire form. -/
theorem encodes_of_ofBytes {bytes : Bytes} {op : Operation} (hread : codec.ofBytes bytes = .ok op)
    (hknown : op.isUnknown = false) : op.IsCanonical ∧ ∃ own, op.write = .ofBytes own ∧
      Encodes readAt bytes own op := by
  rcases givesKnown_codec_read (runOn_of_readAll hread) with
    ⟨hcanonical, own, used, hown, hused, -, hencodes⟩ | ⟨hunknown, -⟩
  · rw [List.append_nil] at hused
    exact ⟨hcanonical, own, hown, hused ▸ hencodes⟩
  · rw [hknown] at hunknown
    cases hunknown

/-- **The shortest encoding.** An operation of a known kind that was read can be written, and
reading what is written gives it again. The bytes it was read from differ from these at most in
variable-length numbers that take more groups than they need, so that all other bytes that are read
as the operation are longer. -/
theorem shortest_encoding {bytes : Bytes} {op : Operation} (hread : codec.ofBytes bytes = .ok op)
    (hknown : op.isUnknown = false) :
    ∃ own, codec.toBytes op = .ok own ∧ codec.ofBytes own = .ok op ∧
      ∀ other, codec.ofBytes other = .ok op →
        Lengthens other own ∧ (other ≠ own → own.length < other.length) := by
  obtain ⟨hcanonical, own, hown, -⟩ := encodes_of_ofBytes hread hknown
  obtain ⟨own', hown', -, htakes⟩ := codec_carries hcanonical
  obtain rfl : own = own' := (Output.mk.inj (hown.symm.trans hown')).1
  refine ⟨own, toBytes_eq_ok_iff.mpr hown, htakes.readAll, fun other hother => ?_⟩
  obtain ⟨-, own', hown', hencodes⟩ := encodes_of_ofBytes hother hknown
  obtain rfl : own = own' := (Output.mk.inj (hown.symm.trans hown')).1
  exact ⟨hencodes.lengthens, fun hne =>
    hencodes.lengthens.eq_or_length_lt.resolve_left hne⟩

/-- A proposal to delete content. Its number, the count of its operations and the length of a name
take more groups than they need. -/
def lengthenedProposal : Bytes :=
  [0x96, 0x80, 0, 0, 1, 0x61, 0, 0, 0, 0, 0, 0x81, 0, 9, 0x81, 0, 0x62, 0, 0, 0]

theorem shortest_encoding_lengthenedProposal :
    ∃ op own, op.isUnknown = false ∧ codec.ofBytes lengthenedProposal = .ok op ∧
      codec.toBytes op = .ok own ∧ codec.ofBytes own = .ok op ∧
      own.length < lengthenedProposal.length := by
  let op : Operation := .proposal "" "a" .epoch
    [.known .deleteContent rfl (.field "b" (.field "" .empty))]
  have hread : codec.ofBytes lengthenedProposal = .ok op := rfl
  obtain ⟨own, hown, hback, hothers⟩ := shortest_encoding hread rfl
  have hne : lengthenedProposal ≠ own := by
    -- The number of a kind below 128 is written as one byte.
    obtain ⟨first, rest, hfirst, -, rfl⟩ := Output.append_eq_ofBytes (toBytes_eq_ok_iff.mp hown)
    have hbyte : varintBytes 22 = [22] := varintBytes_of_lt (by decide)
    obtain rfl : varintBytes 22 = first := (Output.mk.inj hfirst).1
    rw [hbyte]
    exact fun heq => absurd (List.cons.inj heq).1 (by decide)
  exact ⟨op, own, rfl, hread, hown, hback, (hothers _ hread).2 hne⟩

end Operation

end LedgerClient
