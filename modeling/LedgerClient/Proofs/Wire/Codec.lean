import LedgerClient.Proofs.Text.Utf8
import LedgerClient.Proofs.Wire.Reader

/-!
# Codecs that read back what they write

`Codec.Carries c x` says that a codec writes a value without a fault, as one byte or more, and that
its reader takes exactly these bytes, whatever follows, and gives the value again. That at least one
byte is written is part of the notion because counts rely on it: the number of members of a list may
not exceed the bytes that remain, and a member without bytes would break this.

One lemma for each codec and each combinator of `Wire/Codec.lean` follows. Texts, byte strings and
lists are carried as long as their length is below `2 ^ 64`, the range of the numbers that precede
them.
-/

namespace LedgerClient.Wire.Codec

open Reader

variable {α β : Type}

/-- The value is written as one byte or more, which the reader takes whatever follows. -/
def Carries (c : Codec α) (x : α) : Prop :=
  ∃ bytes, c.write x = .ofBytes bytes ∧ 0 < bytes.length ∧ c.read.Takes bytes x

/-- The bytes of a value are what its writer puts out without a fault. -/
theorem toBytes_eq_ok_iff {c : Codec α} {x : α} {bytes : Bytes} :
    c.toBytes x = .ok bytes ↔ c.write x = .ofBytes bytes := by
  unfold toBytes
  rcases c.write x with ⟨written, _ | fault⟩ <;> simp [Output.toExcept, Output.ofBytes]

/-- There are no bytes because of the fault that ended what is written. -/
theorem toBytes_eq_error_iff {c : Codec α} {x : α} {fault : Fault} :
    c.toBytes x = .error fault ↔ (c.write x).fault = some fault := by
  unfold toBytes
  rcases c.write x with ⟨written, _ | fault'⟩ <;> simp [Output.toExcept]

/-- A carried value has a wire form, and reading it from the front of any input gives the value and
leaves the rest. -/
theorem Carries.toBytes {c : Codec α} {x : α} (h : c.Carries x) :
    ∃ bytes, c.toBytes x = .ok bytes ∧
      ∀ rest, c.read.runOn (bytes ++ rest) = (.ok x, rest) := by
  obtain ⟨bytes, hwrite, -, hread⟩ := h
  exact ⟨bytes, toBytes_eq_ok_iff.mpr hwrite, hread⟩

/-- What a carried value is written as is what its reader takes. -/
theorem Carries.takes_of_write {c : Codec α} {x : α} (h : c.Carries x) {bytes : Bytes}
    (hwrite : c.write x = .ofBytes bytes) : c.read.Takes bytes x := by
  obtain ⟨own, hown, -, hread⟩ := h
  have hsame : own = bytes := (Output.mk.inj (hown.symm.trans hwrite)).1
  rwa [← hsame]

/-- The bytes of a carried value are read as the value. -/
theorem Carries.ofBytes_of_toBytes {c : Codec α} {x : α} (h : c.Carries x) {bytes : Bytes}
    (hbytes : c.toBytes x = .ok bytes) : c.ofBytes bytes = .ok x :=
  (h.takes_of_write (toBytes_eq_ok_iff.mp hbytes)).readAll

/-! ### What the combinators write -/

theorem write_list (c : Codec α) (xs : List α) :
    c.list.write xs = .ofBytes (varintBytes xs.length) ++ Output.ofList c.write xs := rfl

theorem write_some (c : Codec α) (x : α) :
    c.option.write (some x) = .ofBytes [1] ++ c.write x := rfl

theorem write_pair (c : Codec α) (d : Codec β) (x : α) (y : β) :
    (c.pair d).write (x, y) = c.write x ++ d.write y := rfl

/-! ### Numbers -/

/-- A number of a fixed width is carried if its embedding fits the width and is undone. -/
theorem carries_fixed {width : Nat} {toNat : α → Nat} {ofNat : Nat → α} {x : α} (hwidth : 0 < width)
    (hfits : toNat x < 256 ^ width) (hinv : ofNat (toNat x) = x) :
    (fixed width toNat ofNat).Carries x := by
  refine ⟨littleEndian width (toNat x), rfl, by simpa using hwidth, ?_⟩
  simpa [fixed, hinv] using (takes_natural hfits).map ofNat

theorem carries_u8 (x : UInt8) : u8.Carries x :=
  carries_fixed (by omega) x.toNat_lt (by simp)

theorem carries_u16 (x : UInt16) : u16.Carries x :=
  carries_fixed (by omega) x.toNat_lt (by simp)

theorem carries_u32 (x : UInt32) : u32.Carries x :=
  carries_fixed (by omega) x.toNat_lt (by simp)

theorem carries_u64 (x : UInt64) : u64.Carries x :=
  carries_fixed (by omega) x.toNat_lt (by simp)

theorem carries_i16 (x : Int16) : i16.Carries x :=
  carries_fixed (by omega) x.toUInt16.toNat_lt (by simp)

theorem carries_i64 (x : Int64) : i64.Carries x :=
  carries_fixed (by omega) x.toUInt64.toNat_lt (by simp)

theorem carries_flag (b : Bool) : flag.Carries b := by
  refine ⟨[if b then 1 else 0], rfl, by simp, ?_⟩
  refine takes_byte_bind ?_
  cases b <;> exact takes_pure _

/-! ### Texts and bytes -/

theorem takes_blob {bytes : Bytes} (h : bytes.length < 2 ^ 64) :
    blob.read.Takes (varintBytes bytes.length ++ bytes) bytes :=
  takes_count_bind h (takes_take bytes) (Nat.le_refl _)

theorem takes_text {s : String} (h : (Utf8.encode s).length < 2 ^ 64) :
    text.read.Takes (varintBytes (Utf8.encode s).length ++ Utf8.encode s) s := by
  have hread : text.read.Takes ((varintBytes (Utf8.encode s).length ++ Utf8.encode s) ++ []) s :=
    (takes_blob h).bind (by simpa only [Utf8.decode_encode] using takes_pure s)
  rwa [List.append_nil] at hread

theorem carries_text {s : String} (h : (Utf8.encode s).length < 2 ^ 64) : text.Carries s := by
  refine ⟨varintBytes (Utf8.encode s).length ++ Utf8.encode s, rfl, ?_, takes_text h⟩
  have := length_varintBytes_pos (Utf8.encode s).length
  rw [List.length_append]
  omega

theorem carries_vector {n : Nat} (hn : 0 < n) (v : Vector UInt8 n) : (vector n).Carries v :=
  ⟨v.toList, rfl, by simpa using hn, takes_vector v⟩

/-! ### Compound values -/

/-- The members of a list, one after another, take at least as many bytes as there are members. -/
theorem takes_times {c : Codec α} {xs : List α} (h : ∀ x ∈ xs, c.Carries x) :
    ∃ bytes, Output.ofList c.write xs = .ofBytes bytes ∧ xs.length ≤ bytes.length ∧
      (c.read.times xs.length).Takes bytes xs := by
  induction xs with
  | nil => exact ⟨[], rfl, Nat.le_refl _, takes_times_zero _⟩
  | cons x xs ih =>
    obtain ⟨first, hfirst, hpos, htake⟩ := h x List.mem_cons_self
    obtain ⟨others, hothers, hlen, htakes⟩ := ih fun y hy => h y (List.mem_cons_of_mem x hy)
    refine ⟨first ++ others, ?_, ?_, htake.times_succ htakes⟩
    · rw [Output.ofList, hfirst, hothers, Output.ofBytes_append_ofBytes]
    · simp only [List.length_append, List.length_cons]
      omega

theorem Carries.list {c : Codec α} {xs : List α} (h : ∀ x ∈ xs, c.Carries x)
    (hlen : xs.length < 2 ^ 64) : c.list.Carries xs := by
  obtain ⟨bytes, hwrite, hle, htakes⟩ := takes_times h
  refine ⟨varintBytes xs.length ++ bytes, ?_, ?_, takes_count_bind hlen htakes hle⟩
  · rw [write_list, hwrite, Output.ofBytes_append_ofBytes]
  · have := length_varintBytes_pos xs.length
    rw [List.length_append]
    omega

theorem carries_none (c : Codec α) : c.option.Carries none :=
  ⟨[0], rfl, by simp, (takes_byte 0).bind (takes_pure none)⟩

theorem Carries.some {c : Codec α} {x : α} (h : c.Carries x) : c.option.Carries (some x) := by
  obtain ⟨bytes, hwrite, -, htakes⟩ := h
  refine ⟨1 :: bytes, ?_, by simp, ?_⟩
  · rw [write_some, hwrite, Output.ofBytes_append_ofBytes]
    rfl
  · refine takes_byte_bind ?_
    simpa using htakes.map Option.some

theorem Carries.pair {c : Codec α} {d : Codec β} {x : α} {y : β} (hx : c.Carries x)
    (hy : d.Carries y) : (c.pair d).Carries (x, y) := by
  obtain ⟨first, hfirst, hpos, htake⟩ := hx
  obtain ⟨second, hsecond, -, htake'⟩ := hy
  refine ⟨first ++ second, ?_, ?_, ?_⟩
  · rw [write_pair, hfirst, hsecond, Output.ofBytes_append_ofBytes]
  · rw [List.length_append]
    omega
  · refine htake.bind ?_
    simpa using htake'.map (Prod.mk x)

/-- A type with the parts of another is carried if its parts are and determine it. -/
theorem Carries.via {c : Codec α} {parts : β → α} {mk : α → β} {x : β} (h : c.Carries (parts x))
    (hmk : mk (parts x) = x) : (c.via parts mk).Carries x := by
  obtain ⟨bytes, hwrite, hpos, htakes⟩ := h
  refine ⟨bytes, hwrite, hpos, ?_⟩
  simpa [Codec.via, hmk] using htakes.map mk

end LedgerClient.Wire.Codec
