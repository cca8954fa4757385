import LedgerClient.Proofs.Operation.Length
import LedgerClient.Proofs.Transaction.Json
import LedgerClient.Proofs.Transaction.Validation

/-!
# From JSON to the wire

Neither form holds all values. The wire takes more symbols than the texts of amounts, and JSON takes
unknown operations and longer names of symbols, which have no wire form at all. A value that was
read from JSON and can be written to the wire lies in both, and `transcoding_lossless` shows that
nothing else is to be asked: the bytes are read as the very value.

What JSON yields is text-safe, so its symbols have names of capital letters and digits. What is
written has no unknown operation at any depth and only symbols that fit their field. Together this
makes a value canonical, up to the lengths of its texts and lists; these are bounded by the number
of bytes that were written.
-/

namespace LedgerClient

open Wire Wire.Codec

/-! ### Symbols and operations -/

/-- A symbol that a text determines is canonical if its name fits its field on the wire. -/
theorem Symbol.IsTextSafe.isCanonical {s : Symbol} (h : s.IsTextSafe)
    (hfits : (Utf8.encode s.name).length ≤ Asset.symbolWidth) : s.IsCanonical := by
  cases s with
  | viz => trivial
  | vests => trivial
  | custom name precision =>
    obtain ⟨hne, hchars, hviz, hvests⟩ := h
    have hzero : 0 ∉ Utf8.encode name := by
      intro hmem
      have hchar := hchars _ (Utf8.zero_mem_of_mem_encode hmem)
      exact absurd hchar (by decide)
    exact ⟨hne, hfits, hzero, fun h => hviz h.1, fun h => hvests h.1⟩

/-- An operation whose amounts are carried by their texts is canonical if it was written as fewer
than `2 ^ 64` bytes. -/
theorem Operation.isCanonical_of_write {op : Operation} {bytes : Bytes}
    (hsafe : ∀ a ∈ op.assets, a.IsTextSafe) (hwrite : op.write = .ofBytes bytes)
    (hlen : bytes.length < 2 ^ 64) : op.IsCanonical := by
  have hwritable : ∀ p ∈ op.parts, p.IsWritable :=
    op.fault_write_eq_none_iff.mp (congrArg Output.fault hwrite)
  have hcounts : ∀ n ∈ op.counts, n ≤ bytes.length := (codec_bounds op bytes hwrite).2
  refine isCanonical_iff.mpr ⟨fun o ho => ?_, fun a ha => ?_, fun n hn => ?_⟩
  · exact hwritable _ (mem_within_iff.mp ho)
  · exact (hsafe a ha).symbol.isCanonical (hwritable _ (mem_assets_iff.mp ha))
  · exact Nat.lt_of_le_of_lt (hcounts n hn) hlen

/-! ### Transactions -/

namespace Transaction

/-- Within a transaction an operation that is not virtual is written as it is by itself. -/
theorem of_writeOperation_eq_ofBytes {op : Operation} {bytes : Bytes}
    (h : writeOperation op = .ofBytes bytes) :
    op.isVirtual = false ∧ op.write = .ofBytes bytes := by
  have hregular : op.isVirtual = false :=
    (fault_writeOperation_eq_none_iff.mp (congrArg Output.fault h)).1
  rw [writeOperation, hregular] at h
  exact ⟨hregular, h⟩

/-- Within a transaction as well, an operation takes as many bytes as each of its lengths. -/
theorem writeOperation_bounds :
    (Codec.mk writeOperation Operation.codec.read).Bounds Operation.counts := by
  intro op bytes hwrite
  exact Operation.codec_bounds op bytes (of_writeOperation_eq_ofBytes hwrite).2

/-- A transaction whose amounts are carried by their texts is canonical if it was written as fewer
than `2 ^ 64` bytes. -/
theorem isCanonical_of_write {t : Transaction} {bytes : Bytes}
    (hsafe : ∀ op ∈ t.operations, ∀ a ∈ op.assets, a.IsTextSafe) (hwrite : t.write = .ofBytes bytes)
    (hlen : bytes.length < 2 ^ 64) : t.IsCanonical := by
  obtain ⟨number, behind, -, hmark, rfl⟩ := Output.append_eq_ofBytes hwrite
  obtain ⟨mark, behind, -, htime, rfl⟩ := Output.append_eq_ofBytes hmark
  obtain ⟨time, behind, -, hcount, rfl⟩ := Output.append_eq_ofBytes htime
  obtain ⟨count, lists, -, hlists, rfl⟩ := Output.append_eq_ofBytes hcount
  obtain ⟨ops, exts, hops, hexts, rfl⟩ := Output.append_eq_ofBytes hlists
  simp only [List.length_append] at hlen
  -- Each length is at most the number of bytes written for its own part, so it fits as they do.
  have hopsLength : t.operations.length ≤ ops.length := (writeOperation_bounds.ofList hops).1
  have hextsLength : t.extensions.length ≤ exts.length :=
    (Extension.codec_bounds.list _ _ hexts).2 _ List.mem_cons_self
  have hown : ∀ op ∈ t.operations, op.isVirtual = false ∧ op.IsCanonical := by
    intro op hop
    obtain ⟨own, hown, hle⟩ := Output.exists_of_ofList hops op hop
    obtain ⟨hregular, hown⟩ := of_writeOperation_eq_ofBytes hown
    exact ⟨hregular, Operation.isCanonical_of_write (hsafe op hop) hown (by omega)⟩
  exact ⟨fun op hop => (hown op hop).1, fun op hop => (hown op hop).2, by omega, by omega⟩

end Transaction

/-- **Transcoding.** What was read from any JSON value and has a wire form is what its bytes are
read as, so that it is also written as the same JSON value afterwards. This holds of operations and
of transactions. There are fewer than `2 ^ 64` bytes, as lengths are words of 64 bits. -/
theorem transcoding_lossless :
    (∀ v op bytes, Operation.form.read v = .ok op → Operation.codec.toBytes op = .ok bytes →
      bytes.length < 2 ^ 64 → Operation.codec.ofBytes bytes = .ok op ∧
        (Operation.codec.ofBytes bytes).map Operation.form.write = .ok (Operation.form.write op)) ∧
    ∀ v t bytes, Transaction.form.read v = .ok t → Transaction.codec.toBytes t = .ok bytes →
      bytes.length < 2 ^ 64 → Transaction.codec.ofBytes bytes = .ok t ∧
        (Transaction.codec.ofBytes bytes).map Transaction.form.write =
          .ok (Transaction.form.write t) := by
  refine ⟨fun v op bytes hread hbytes hlen => ?_, fun v t bytes hread hbytes hlen => ?_⟩
  -- The value is taken as it was given, in whatever order its members are.
  · have hsafe : op.IsTextSafe := (Operation.forall_parts_isTextSafe_iff.mp
      (Operation.form_yields Json.isTidying_id rfl hread)).1
    have hcanonical : op.IsCanonical :=
      Operation.isCanonical_of_write hsafe.assets (toBytes_eq_ok_iff.mp hbytes) hlen
    have hback : Operation.codec.ofBytes bytes = .ok op :=
      (Operation.codec_carries hcanonical).ofBytes_of_toBytes hbytes
    exact ⟨hback, congrArg (Except.map Operation.form.write) hback⟩
  · have hsafe : t.IsTextSafe := (Transaction.form_yields Json.isTidying_id rfl hread).1
    have hcanonical : t.IsCanonical := Transaction.isCanonical_of_write
      (fun op hop => (hsafe op hop).assets) (toBytes_eq_ok_iff.mp hbytes) hlen
    have hback : Transaction.codec.ofBytes bytes = .ok t :=
      (Transaction.codec_carries hcanonical).ofBytes_of_toBytes hbytes
    exact ⟨hback, congrArg (Except.map Transaction.form.write) hback⟩

/-- A proposal in JSON, under its number, to move the smallest part of a coin with the most places
and some of the liquid token. -/
def coinProposal : Json :=
  .arr [.nat 22, .obj [("title", .str "coins"), ("author", .str "alice"),
    ("expiration_time", .str "2024-01-01T00:00:00"), ("proposed_operations", .arr [
      .obj [("op", .arr [.str "transfer", .obj [("from", .str "alice"), ("to", .str "bob"),
        ("amount", .str "-0.000000000000000001 GOLD"), ("memo", .str "")]])],
      .obj [("op", .arr [.nat 2, .obj [("from", .str "bob"), ("to", .str "alice"),
        ("amount", .str "1.000 VIZ"), ("memo", .str "")]])]]),
    ("memo", .str ""), ("review_period_time", .null), ("extensions", .arr [])]]

/-- A transaction in JSON that makes the proposal twice, with the largest reference and expiration
that there are. -/
def coinTransaction : Json :=
  .obj [("ref_block_num", .nat 65535), ("ref_block_prefix", .nat 4294967295),
    ("expiration", .str "2106-02-07T06:28:15"), ("operations", .arr [coinProposal, coinProposal])]

theorem transcoding_lossless_coinTransaction :
    (∃ op bytes, Operation.form.read coinProposal = .ok op ∧
      Operation.codec.toBytes op = .ok bytes ∧ Operation.codec.ofBytes bytes = .ok op) ∧
    ∃ t bytes, Transaction.form.read coinTransaction = .ok t ∧
      Transaction.codec.toBytes t = .ok bytes ∧ Transaction.codec.ofBytes bytes = .ok t := by
  let op : Operation := .proposal "alice" "coins" ⟨1704067200⟩
    [.transfer "alice" "bob" ⟨-1, .custom "GOLD" 18⟩ "", .transfer "bob" "alice" (.viz 1000) ""]
  let t : Transaction := ⟨65535, 4294967295, ⟨4294967295⟩, [op, op], []⟩
  have hop : Operation.codec.toBytes op = .ok op.write.bytes := by decide +kernel
  have hopLength : op.write.bytes.length < 2 ^ 64 := by decide +kernel
  have ht : Transaction.codec.toBytes t = .ok t.write.bytes := by decide +kernel
  have htLength : t.write.bytes.length < 2 ^ 64 := by decide +kernel
  obtain ⟨hopBack, -⟩ := transcoding_lossless.1 coinProposal op _ rfl hop hopLength
  obtain ⟨htBack, -⟩ := transcoding_lossless.2 coinTransaction t _ rfl ht htLength
  exact ⟨⟨op, _, rfl, hop, hopBack⟩, t, _, rfl, ht, htBack⟩

end LedgerClient
