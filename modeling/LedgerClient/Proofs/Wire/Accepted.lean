import LedgerClient.Proofs.Wire.Codec
import LedgerClient.Proofs.Wire.Truncation

/-!
# What bytes of any origin are read as

Reading back what was written starts from a value. Here the argument starts from bytes of any
origin: for every reader there is a lemma that says which bytes it has taken when it succeeds.

Readers accept more than writers put out in one place only: a variable-length number may carry
marked groups that hold nothing. `Lengthens used own` says that two byte strings differ in such
numbers only, and `Reader.Encodes r used own x` that `used` is an encoding of `x`, delimited for the
reader, that lengthens the encoding `own`. `Codec.Gives c p` is what a codec promises of bytes that
it reads: the value has the property `p` and a wire form, and the bytes that were taken are an
encoding of it that lengthens this form. The property is what a type promises of its values when
they come from the wire, such as lengths below `2 ^ 64` or canonical symbols.
-/

namespace LedgerClient

namespace Utf8

/-- Bytes that are read as a text are the bytes of the text. -/
theorem encode_of_decode {bytes : Bytes} {s : String} (h : decode bytes = .ok s) :
    encode s = bytes := by
  rw [decode] at h
  split at h
  · rename_i t ht
    obtain ⟨hvalid, rfl⟩ : ∃ hvalid, String.fromUTF8 ⟨bytes.toArray⟩ hvalid = t := by
      rw [String.fromUTF8?] at ht
      split at ht
      · exact ⟨_, Option.some.inj ht⟩
      · cases ht
    cases h
    simp [encode, String.fromUTF8]
  · cases h

end Utf8

namespace Wire

/-! ### What a reader has taken -/

namespace Reader

variable {α β : Type}

/-- A reader that goes on without reading returns what its first part read. -/
theorem runOn_bind_pure {r : Reader α} {f : α → β} {bytes rest : Bytes} {y : β}
    (h : runOn (r >>= fun x => pure (f x)) bytes = (.ok y, rest)) :
    ∃ x, r.runOn bytes = (.ok x, rest) ∧ f x = y := by
  obtain ⟨x, mid, hx, h⟩ := exists_of_runOn_bind h
  cases h
  exact ⟨x, hx, rfl⟩

/-- A reader that reads a whole input leaves nothing of it. -/
theorem runOn_of_readAll {r : Reader α} {bytes : Bytes} {x : α} (h : r.readAll bytes = .ok x) :
    r.runOn bytes = (.ok x, []) := by
  have hrun : runOn (do let y ← r; finish; return y) bytes =
      (.ok x, (runOn (do let y ← r; finish; return y) bytes).2) := Prod.ext h rfl
  obtain ⟨y, mid, hy, hrun⟩ := exists_of_runOn_bind hrun
  obtain ⟨_, mid', hfinish, hrun⟩ := exists_of_runOn_bind hrun
  cases hrun
  rw [finish, runOn_ofFun] at hfinish
  split at hfinish <;> cases hfinish
  rename_i hempty
  rw [hy, List.isEmpty_iff.mp hempty]

theorem of_runOn_byte {bytes rest : Bytes} {b : UInt8} (h : byte.runOn bytes = (.ok b, rest)) :
    bytes = b :: rest := by
  cases bytes <;> cases h
  rfl

theorem of_split? : ∀ {n : Nat} {bytes taken rest : Bytes}, split? n bytes = some (taken, rest) →
    bytes = taken ++ rest ∧ taken.length = n
  | 0, _, _, _, h => by
    cases h
    exact ⟨rfl, rfl⟩
  | n + 1, b :: bytes, taken, rest, h => by
    obtain ⟨⟨taken', rest'⟩, hsplit, heq⟩ := Option.map_eq_some_iff.mp h
    cases heq
    obtain ⟨rfl, hlen⟩ := of_split? hsplit
    exact ⟨rfl, by rw [List.length_cons, hlen]⟩

theorem of_runOn_take {n : Nat} {bytes taken rest : Bytes}
    (h : (take n).runOn bytes = (.ok taken, rest)) : bytes = taken ++ rest ∧ taken.length = n := by
  rw [take, runOn_ofFun] at h
  split at h
  · split at h
    · rename_i hsplit
      cases h
      exact of_split? hsplit
    · cases h
  · cases h

theorem of_runOn_vector {n : Nat} {bytes rest : Bytes} {v : Vector UInt8 n}
    (hread : (vector n).runOn bytes = (.ok v, rest)) : bytes = v.toList ++ rest := by
  obtain ⟨taken, mid, htake, h⟩ := exists_of_runOn_bind hread
  obtain ⟨rfl, hlen⟩ := of_runOn_take htake
  rw [dif_pos hlen] at h
  cases h
  rfl

/-- Groups were read from the groups of the number, or from more of them: a marked group in front of
a number that is zero holds nothing, and any other group is the one that is written. -/
theorem of_runOn_groups : ∀ {left n : Nat} {bytes rest : Bytes},
    (groups (left + 1)).runOn bytes = (.ok n, rest) →
    n < 2 ^ (7 * left + 1) ∧ ∃ used, bytes = used ++ rest ∧
      Delimits (fun _ => groups (left + 1)) used n ∧
        (used = varintBytes n ∨ (varintBytes n).length < used.length) := by
  intro left
  induction left with
  | zero =>
    intro n bytes rest hread
    obtain ⟨b, mid, hb, h⟩ := exists_of_runOn_bind hread
    obtain rfl := of_runOn_byte hb
    simp only [true_and] at h
    split at h
    · cases h
    · rename_i hroom
      split at h
      · rename_i hlast
        cases h
        have hsmall : b.toNat % 128 = b.toNat := Nat.mod_eq_of_lt hlast
        rw [hsmall] at hroom ⊢
        refine ⟨by omega, [b], rfl, delimits_groups_last 0 hlast (by omega), .inl ?_⟩
        rw [varintBytes_of_lt hlast, UInt8.ofNat_toNat]
      · obtain ⟨high, hhigh, -⟩ := runOn_bind_pure h
        cases hhigh
  | succ left ih =>
    intro n bytes rest hread
    obtain ⟨b, mid, hb, h⟩ := exists_of_runOn_bind hread
    obtain rfl := of_runOn_byte hb
    have hbyte : b.toNat < 256 := b.toNat_lt
    have hpow : 2 ^ (7 * (left + 1) + 1) = 128 * 2 ^ (7 * left + 1) := by
      rw [show 7 * (left + 1) + 1 = 7 + (7 * left + 1) by omega, Nat.pow_add]
    have hpos : 0 < 2 ^ (7 * left + 1) := Nat.two_pow_pos _
    simp only [Nat.succ_ne_zero, false_and, if_false] at h
    split at h
    · rename_i hlast
      cases h
      have hsmall : b.toNat % 128 = b.toNat := Nat.mod_eq_of_lt hlast
      rw [hsmall]
      refine ⟨by omega, [b], rfl, delimits_groups_last (left + 1) hlast (by omega), .inl ?_⟩
      rw [varintBytes_of_lt hlast, UInt8.ofNat_toNat]
    · rename_i hmarked
      obtain ⟨high, hhigh, rfl⟩ := runOn_bind_pure h
      obtain ⟨hlt, used, rfl, hdelimits, hused⟩ := ih hhigh
      refine ⟨by omega, b :: used, rfl, delimits_groups_more (by omega) (by omega) hdelimits, ?_⟩
      rcases Nat.eq_zero_or_pos high with rfl | hhigh
      · have hlen := length_varintBytes_pos 0
        have hle : (varintBytes 0).length ≤ used.length := by rcases hused with rfl | h <;> omega
        rw [varintBytes_of_lt (by omega)]
        exact .inr (by simp only [List.length_cons, List.length_nil]; omega)
      · have hdiv : (b.toNat % 128 + 128 * high) / 128 = high := by omega
        have hmod : UInt8.ofNat ((b.toNat % 128 + 128 * high) % 128 + 128) = b := by
          rw [← UInt8.toNat_inj, UInt8.toNat_ofNat']
          omega
        rw [varintBytes_of_le (by omega), hdiv, hmod]
        exact hused.imp (congrArg (b :: ·)) Nat.succ_lt_succ

theorem of_runOn_varint {n : Nat} {bytes rest : Bytes} (h : varint.runOn bytes = (.ok n, rest)) :
    n < 2 ^ 64 ∧ ∃ used, bytes = used ++ rest ∧ Delimits (fun _ => varint) used n ∧
      (used = varintBytes n ∨ (varintBytes n).length < used.length) :=
  of_runOn_groups h

end Reader

/-! ### Two encodings of one value -/

/-- The first bytes differ from the second only in that some of the variable-length numbers in them
take more groups than they need. -/
inductive Lengthens : Bytes → Bytes → Prop
  /-- No number takes more groups. -/
  | refl (bytes : Bytes) : Lengthens bytes bytes
  /-- Bytes that are read as a number lengthen the groups that are written for it. -/
  | varint {used : Bytes} {n : Nat} (h : Reader.varint.Takes used n) :
    Lengthens used (varintBytes n)
  /-- Both of two parts are lengthened. -/
  | append {used own used' own' : Bytes} (h : Lengthens used own) (h' : Lengthens used' own') :
      Lengthens (used ++ used') (own ++ own')

/-- Lengthening gives the same bytes or more of them. -/
theorem Lengthens.eq_or_length_lt {used own : Bytes} (h : Lengthens used own) :
    used = own ∨ own.length < used.length := by
  induction h with
  | refl bytes => exact .inl rfl
  | varint h =>
    obtain ⟨-, used', hused, -, hlength⟩ := Reader.of_runOn_varint (h [])
    obtain rfl : _ = used' := by simpa using hused
    exact hlength
  | append h h' ih ih' =>
    simp only [List.length_append]
    rcases ih with rfl | ih
    · exact ih'.imp (congrArg _) (by omega)
    · rcases ih' with rfl | ih' <;> exact .inr (by omega)

theorem Lengthens.length_le {used own : Bytes} (h : Lengthens used own) :
    own.length ≤ used.length := by
  rcases h.eq_or_length_lt with rfl | hlt <;> omega

namespace Reader

variable {α β : Type}

/-- The bytes `used` are an encoding of the value for the readers and lengthen the encoding
`own`. -/
structure Encodes (r : Nat → Reader α) (used own : Bytes) (x : α) : Prop where
  /-- The readers take exactly these bytes. -/
  delimits : Delimits r used x
  /-- They differ from the other encoding in longer numbers. -/
  lengthens : Lengthens used own

theorem Delimits.encodes {r : Nat → Reader α} {used : Bytes} {x : α} (h : Delimits r used x) :
    Encodes r used used x :=
  ⟨h, .refl used⟩

namespace Encodes

theorem bind {r : Nat → Reader α} {f : Nat → α → Reader β} {used own used' own' : Bytes} {x : α}
    {y : β} (hr : Encodes r used own x) (hf : Encodes (fun depth => f depth x) used' own' y) :
    Encodes (fun depth => r depth >>= f depth) (used ++ used') (own ++ own') y :=
  ⟨hr.delimits.bind hf.delimits, hr.lengthens.append hf.lengthens⟩

theorem map {r : Nat → Reader α} {used own : Bytes} {x : α} (h : Encodes r used own x) (f : α → β) :
    Encodes (fun depth => r depth >>= fun a => pure (f a)) used own (f x) :=
  ⟨h.delimits.map f, h.lengthens⟩

theorem count_bind {n : Nat} {f : Nat → Nat → Reader α} {used used' own' : Bytes} {x : α}
    (hn : Encodes (fun _ => varint) used (varintBytes n) n)
    (hf : Encodes (fun depth => f depth n) used' own' x) (hlen : n ≤ used'.length) :
    Encodes (fun depth => count >>= f depth) (used ++ used') (varintBytes n ++ own') x :=
  ⟨hn.delimits.count_bind hf.delimits hlen, hn.lengthens.append hf.lengthens⟩

/-- A number is followed by what is read with a smaller bound. -/
theorem nest {r : Reader α} {f : Nat → α → Reader β} {g : Nat → Reader β}
    {used own used' own' : Bytes} {x : α} {y : β} (hzero : IsTruncated ((g 0).runOn []).1)
    (hsucc : ∀ depth, g (depth + 1) = r >>= f depth) (hr : Encodes (fun _ => r) used own x)
    (hused : 0 < used.length) (hf : Encodes (fun depth => f depth x) used' own' y) :
    Encodes g (used ++ used') (own ++ own') y :=
  ⟨hr.delimits.nest hzero hsucc hused hf.delimits, hr.lengthens.append hf.lengthens⟩

end Encodes

/-- A number was read from its groups or from more of them. -/
theorem encodes_of_runOn_varint {n : Nat} {bytes rest : Bytes}
    (h : varint.runOn bytes = (.ok n, rest)) :
    n < 2 ^ 64 ∧ ∃ used, bytes = used ++ rest ∧ 0 < used.length ∧
      Encodes (fun _ => varint) used (varintBytes n) n := by
  obtain ⟨hlt, used, hbytes, hdelimits, -⟩ := of_runOn_varint h
  have hlengthens : Lengthens used (varintBytes n) := .varint (hdelimits.takes (Nat.le_refl _))
  have hpos := length_varintBytes_pos n
  have hle := hlengthens.length_le
  exact ⟨hlt, used, hbytes, by omega, hdelimits, hlengthens⟩

theorem encodes_of_runOn_count {n : Nat} {bytes rest : Bytes}
    (h : count.runOn bytes = (.ok n, rest)) :
    n < 2 ^ 64 ∧ ∃ used, bytes = used ++ rest ∧ 0 < used.length ∧
      Encodes (fun _ => varint) used (varintBytes n) n := by
  obtain ⟨m, mid, hvarint, h⟩ := exists_of_runOn_bind h
  obtain ⟨left, mid', hremaining, h⟩ := exists_of_runOn_bind h
  cases hremaining
  split at h <;> cases h
  exact encodes_of_runOn_varint hvarint

end Reader

/-! ### Codecs -/

namespace Codec

open Reader

variable {α β : Type}

/-- A value that is read has the property `p` and a wire form, and it was read from one byte or more
that are an encoding of it and lengthen this form. -/
def Gives (c : Codec α) (p : α → Prop) : Prop :=
  ∀ ⦃bytes x rest⦄, c.read.runOn bytes = (.ok x, rest) → p x ∧
    ∃ own used, c.write x = .ofBytes own ∧ bytes = used ++ rest ∧ 0 < used.length ∧
      Encodes (fun _ => c.read) used own x

theorem Gives.imp {c : Codec α} {p q : α → Prop} (h : c.Gives p) (hpq : ∀ x, p x → q x) :
    c.Gives q :=
  fun _ _ _ hread => (h hread).imp_left (hpq _)

/-! ### Numbers -/

/-- A number of a fixed width is read from its own bytes if its embedding undoes the reading. -/
theorem gives_fixed {width : Nat} {toNat : α → Nat} {ofNat : Nat → α} (hwidth : 0 < width)
    (hinv : ∀ n < 256 ^ width, toNat (ofNat n) = n) :
    (fixed width toNat ofNat).Gives fun _ => True := by
  intro bytes x rest h
  obtain ⟨n, hn, rfl⟩ := runOn_bind_pure h
  obtain ⟨taken, htake, rfl⟩ := runOn_bind_pure hn
  obtain ⟨rfl, rfl⟩ := of_runOn_take htake
  have hdelimits := (delimits_take taken).map ofLittleEndian
  refine ⟨trivial, taken, taken, ?_, rfl, hwidth, (hdelimits.map ofNat).encodes⟩
  simp only [fixed, hinv _ (ofLittleEndian_lt taken), littleEndian_ofLittleEndian]

theorem gives_u8 : u8.Gives fun _ => True :=
  gives_fixed (by omega) fun _ h => UInt8.toNat_ofNat_of_lt' h

theorem gives_u16 : u16.Gives fun _ => True :=
  gives_fixed (by omega) fun _ h => UInt16.toNat_ofNat_of_lt' h

theorem gives_u32 : u32.Gives fun _ => True :=
  gives_fixed (by omega) fun _ h => UInt32.toNat_ofNat_of_lt' h

theorem gives_u64 : u64.Gives fun _ => True :=
  gives_fixed (by omega) fun _ h => UInt64.toNat_ofNat_of_lt' h

theorem gives_i16 : i16.Gives fun _ => True :=
  gives_fixed (by omega) fun _ h => by simpa using UInt16.toNat_ofNat_of_lt' h

theorem gives_i64 : i64.Gives fun _ => True :=
  gives_fixed (by omega) fun _ h => by simpa using UInt64.toNat_ofNat_of_lt' h

theorem gives_flag : flag.Gives fun _ => True := by
  intro bytes x rest hread
  obtain ⟨b, mid, hb, h⟩ := exists_of_runOn_bind hread
  obtain rfl := of_runOn_byte hb
  obtain ⟨rfl, rfl⟩ : b = (if x then 1 else 0) ∧ mid = rest := by
    split at h
    · cases h
      simp_all
    · split at h <;> cases h
      simp_all
  have hdelimits : Delimits (fun _ => flag.read) [if x then 1 else 0] x :=
    (delimits_byte _).bind (by cases x <;> exact .pure _)
  exact ⟨trivial, _, [if x then 1 else 0], rfl, rfl, by simp, hdelimits.encodes⟩

/-! ### Texts and bytes -/

theorem gives_text : text.Gives fun s => (Utf8.encode s).length < 2 ^ 64 := by
  intro bytes s rest hread
  obtain ⟨taken, mid, hblob, hrun⟩ := exists_of_runOn_bind hread
  obtain ⟨n, mid', hcount, htake⟩ := exists_of_runOn_bind hblob
  obtain ⟨hlt, used, rfl, hpos, hused⟩ := encodes_of_runOn_count hcount
  obtain ⟨rfl, rfl⟩ := of_runOn_take htake
  split at hrun <;> cases hrun
  rename_i hdecode
  have hblob : Encodes (fun _ => blob.read) (used ++ taken) (varintBytes taken.length ++ taken)
      taken := hused.count_bind (delimits_take taken).encodes (Nat.le_refl _)
  have htext : Encodes (fun _ => text.read) (used ++ taken ++ []) (varintBytes taken.length ++
      taken ++ []) s := hblob.bind (by simpa only [hdecode] using (Delimits.pure s).encodes)
  rw [List.append_nil, List.append_nil] at htext
  have hencode := Utf8.encode_of_decode hdecode
  refine ⟨by simpa only [hencode], _, used ++ taken, ?_, by rw [List.append_assoc], ?_, htext⟩
  · simp only [text, blob, hencode]
  · rw [List.length_append]
    omega

theorem gives_vector {n : Nat} (hn : 0 < n) : (vector n).Gives fun _ => True := by
  intro bytes v rest h
  obtain rfl := of_runOn_vector h
  exact ⟨trivial, v.toList, v.toList, rfl, rfl, by simpa using hn, (delimits_vector v).encodes⟩

/-! ### Compound values -/

theorem Gives.times {c : Codec α} {p : α → Prop} (h : c.Gives p) : ∀ {n : Nat} {bytes xs rest},
    (c.read.times n).runOn bytes = (.ok xs, rest) → xs.length = n ∧ (∀ x ∈ xs, p x) ∧
      ∃ own used, Output.ofList c.write xs = .ofBytes own ∧ bytes = used ++ rest ∧
        n ≤ used.length ∧ Encodes (fun _ => c.read.times n) used own xs := by
  intro n
  induction n with
  | zero =>
    intro bytes xs rest hread
    cases hread
    exact ⟨rfl, by simp, [], [], rfl, rfl, Nat.le_refl _, (Delimits.pure []).encodes⟩
  | succ n ih =>
    intro bytes xs rest hread
    obtain ⟨x, mid, hx, hread⟩ := exists_of_runOn_bind hread
    obtain ⟨xs', hxs, rfl⟩ := runOn_bind_pure hread
    obtain ⟨hp, own, used, hwrite, rfl, hpos, hused⟩ := h hx
    obtain ⟨hlen, hps, own', used', hwrite', rfl, hle, hused'⟩ := ih hxs
    refine ⟨by rw [List.length_cons, hlen], List.forall_mem_cons.mpr ⟨hp, hps⟩, own ++ own',
      used ++ used', ?_, by rw [List.append_assoc], ?_, hused.bind (hused'.map (List.cons x))⟩
    · rw [Output.ofList, hwrite, hwrite', Output.ofBytes_append_ofBytes]
    · rw [List.length_append]
      omega

theorem Gives.list {c : Codec α} {p : α → Prop} (h : c.Gives p) :
    c.list.Gives fun xs => xs.length < 2 ^ 64 ∧ ∀ x ∈ xs, p x := by
  intro bytes xs rest hread
  obtain ⟨n, mid, hcount, htimes⟩ := exists_of_runOn_bind hread
  obtain ⟨hlt, used, rfl, hpos, hused⟩ := encodes_of_runOn_count hcount
  obtain ⟨rfl, hps, own', used', hwrite', rfl, hle, hused'⟩ := h.times htimes
  refine ⟨⟨hlt, hps⟩, varintBytes xs.length ++ own', used ++ used', ?_, by rw [List.append_assoc],
    ?_, hused.count_bind hused' hle⟩
  · rw [write_list, hwrite', Output.ofBytes_append_ofBytes]
  · rw [List.length_append]
    omega

theorem Gives.option {c : Codec α} {p : α → Prop} (h : c.Gives p) :
    c.option.Gives fun x => ∀ y ∈ x, p y := by
  intro bytes x rest hread
  obtain ⟨b, mid, hb, hread'⟩ := exists_of_runOn_bind hread
  obtain rfl := of_runOn_byte hb
  split at hread'
  · rename_i hzero
    cases hread'
    subst hzero
    exact ⟨by simp, [0], [0], rfl, rfl, by simp, ((delimits_byte 0).bind (.pure none)).encodes⟩
  · split at hread'
    · rename_i hone
      subst hone
      obtain ⟨y, hy, rfl⟩ := runOn_bind_pure hread'
      obtain ⟨hp, own, used, hwrite, rfl, -, hused⟩ := h hy
      refine ⟨by simpa using hp, [1] ++ own, [1] ++ used, ?_, rfl, by simp, ?_⟩
      · rw [write_some, hwrite, Output.ofBytes_append_ofBytes]
      · exact (delimits_byte 1).encodes.bind (hused.map Option.some)
    · cases hread'

theorem Gives.pair {c : Codec α} {d : Codec β} {p : α → Prop} {q : β → Prop} (hc : c.Gives p)
    (hd : d.Gives q) : (c.pair d).Gives fun x => p x.1 ∧ q x.2 := by
  intro bytes x rest hread
  obtain ⟨y, mid, hy, hread⟩ := exists_of_runOn_bind hread
  obtain ⟨z, hz, rfl⟩ := runOn_bind_pure hread
  obtain ⟨hp, own, used, hwrite, rfl, hpos, hused⟩ := hc hy
  obtain ⟨hq, own', used', hwrite', rfl, -, hused'⟩ := hd hz
  refine ⟨⟨hp, hq⟩, own ++ own', used ++ used', ?_, by rw [List.append_assoc], ?_,
    hused.bind (hused'.map (Prod.mk y))⟩
  · rw [write_pair, hwrite, hwrite', Output.ofBytes_append_ofBytes]
  · rw [List.length_append]
    omega

/-- A type with the parts of another is read from its own bytes if the parts are what was read. -/
theorem Gives.via {c : Codec α} {parts : β → α} {mk : α → β} {p : α → Prop} (h : c.Gives p)
    (hparts : ∀ x, parts (mk x) = x) : (c.via parts mk).Gives fun y => p (parts y) := by
  intro bytes y rest hread
  obtain ⟨x, hx, rfl⟩ := runOn_bind_pure hread
  obtain ⟨hp, own, used, hwrite, rfl, hpos, hused⟩ := h hx
  refine ⟨by simpa only [hparts] using hp, own, used, ?_, rfl, hpos, hused.map mk⟩
  simpa only [Codec.via, hparts] using hwrite

end Codec

end Wire

end LedgerClient
