import LedgerClient.Authority
import LedgerClient.Proofs.Wire.Codec
import LedgerClient.Timestamp.Basic

/-!
# Times, keys, authorities and extensions on the wire

The parts that operations share are read back from what is written for them. Times, keys, signatures
and empty extensions always are; authorities and shares of a reward hold texts and lists, whose
lengths precede them as numbers of 64 bits, so that these lengths have to be below `2 ^ 64`. The
functions `counts` collect them.
-/

namespace LedgerClient

open Wire Wire.Codec

/-! ### Times, keys and signatures -/

theorem Timestamp.codec_carries (t : Timestamp) : Timestamp.codec.Carries t :=
  Carries.via (carries_u32 t.seconds) rfl

theorem PublicKey.codec_carries (k : PublicKey) : PublicKey.codec.Carries k := by
  obtain ⟨bytes, hwrite, hpos, htakes⟩ := carries_vector (n := 33) (by omega) k.bytes
  have hread : PublicKey.codec.read.Takes (bytes ++ []) k := by
    refine htakes.bind ?_
    simpa only [PublicKey.ofBytes, dif_pos k.accepted] using Reader.takes_pure k
  rw [List.append_nil] at hread
  exact ⟨bytes, hwrite, hpos, hread⟩

/-! ### Authorities -/

/-- The lengths of the texts and lists of an authority. -/
def Authority.counts (a : Authority) : List Nat :=
  a.accounts.length :: a.keys.length :: a.accounts.map fun p => (Utf8.encode p.1).length

theorem Authority.codec_carries {a : Authority} (h : ∀ n ∈ a.counts, n < 2 ^ 64) :
    Authority.codec.Carries a := by
  simp only [counts, List.forall_mem_cons, List.forall_mem_map] at h
  obtain ⟨haccounts, hkeys, hnames⟩ := h
  have hlist : (text.pair u16).list.Carries a.accounts :=
    Carries.list (fun p hp => (carries_text (hnames p hp)).pair (carries_u16 p.2)) haccounts
  have hlist' : (PublicKey.codec.pair u16).list.Carries a.keys :=
    Carries.list (fun p _ => (PublicKey.codec_carries p.1).pair (carries_u16 p.2)) hkeys
  exact Carries.via ((carries_u32 a.threshold).pair (hlist.pair hlist')) rfl

/-! ### Shares of a reward -/

/-- The length of the name in a share of a reward. -/
def Beneficiary.counts (b : Beneficiary) : List Nat :=
  [(Utf8.encode b.account).length]

theorem Beneficiary.codec_carries {b : Beneficiary} (h : ∀ n ∈ b.counts, n < 2 ^ 64) :
    Beneficiary.codec.Carries b := by
  have hname : (Utf8.encode b.account).length < 2 ^ 64 := h _ List.mem_cons_self
  exact Carries.via ((carries_text hname).pair (carries_u16 b.weight)) rfl

/-! ### Extensions -/

theorem Extension.codec_carries (e : Extension) : Extension.codec.Carries e := by
  cases e
  refine ⟨varintBytes 0 ++ [], ?_, ?_, (Reader.takes_varint (by omega)).bind (Reader.takes_pure _)⟩
  · rw [List.append_nil]
    rfl
  · rw [List.append_nil]
    exact length_varintBytes_pos 0

/-- The lengths of the texts and lists of an extension of a content operation. -/
def ContentExtension.counts : ContentExtension → List Nat
  | beneficiaries list => list.length :: list.flatMap Beneficiary.counts

theorem ContentExtension.codec_carries {e : ContentExtension} (h : ∀ n ∈ e.counts, n < 2 ^ 64) :
    ContentExtension.codec.Carries e := by
  obtain ⟨list⟩ := e
  simp only [counts, List.forall_mem_cons, List.forall_mem_flatMap] at h
  obtain ⟨bytes, hwrite, hpos, htakes⟩ :=
    Carries.list (fun b hb => Beneficiary.codec_carries (h.2 b hb)) h.1
  refine ⟨varintBytes 0 ++ bytes, ?_, ?_, (Reader.takes_varint (by omega)).bind ?_⟩
  · simp only [ContentExtension.codec, hwrite, Output.ofBytes_append_ofBytes]
  · rw [List.length_append]
    omega
  · simpa using htakes.map beneficiaries

end LedgerClient
