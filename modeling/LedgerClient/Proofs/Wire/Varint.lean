import Mathlib.Algebra.BigOperators.Fin
import LedgerClient.Proofs.Wire.Accepted

/-!
# Which bytes are a variable-length number

What is read as a variable-length number, apart from the loop that reads it. Marked groups are
followed by one without a mark (`EndsWithin`), and the number is the sum of what the groups hold,
each in its place (`groupSum`). Of ten groups the last has room for one bit.

Every input begins with the groups of a number, or holds more than 64 bits (`Exceeds`), or breaks
off behind a marked group (`endsWithin_or_exceeds_or_marked`), and the loop gives one result for
each. `varint_exact` collects this for numbers of 64 bits, together with what is written for them.
-/

namespace LedgerClient.Wire

/-! ### Groups -/

/-- Up to `left` marked groups and then one without a mark, which holds at most one bit if `left`
groups precede it. -/
def EndsWithin (left : Nat) (used : Bytes) : Prop :=
  ∃ front last, used = front ++ [last] ∧ front.length ≤ left ∧ (∀ b ∈ front, 128 ≤ b.toNat) ∧
    last.toNat < 128 ∧ (front.length = left → last.toNat ≤ 1)

/-- Behind `left` marked groups there is a byte other than 0 and 1. -/
def Exceeds (left : Nat) (bytes : Bytes) : Prop :=
  ∃ front b rest, bytes = front ++ b :: rest ∧ front.length = left ∧
    (∀ c ∈ front, 128 ≤ c.toNat) ∧ 1 < b.toNat

/-- The sum of the groups, which hold seven bits each, the low ones first. -/
def groupSum (used : Bytes) : Nat :=
  ∑ i : Fin used.length, used[i].toNat % 128 * 2 ^ (7 * i.val)

theorem groupSum_cons (b : UInt8) (used : Bytes) :
    groupSum (b :: used) = b.toNat % 128 + 128 * groupSum used := by
  have hplace (i : Fin used.length) : used[i].toNat % 128 * 2 ^ (7 * (i.val + 1)) =
      128 * (used[i].toNat % 128 * 2 ^ (7 * i.val)) := by
    rw [Nat.mul_succ, Nat.pow_add, Nat.mul_comm (2 ^ (7 * i.val)), Nat.mul_left_comm]
  calc groupSum (b :: used)
      = b.toNat % 128 * 2 ^ (7 * 0) +
          ∑ i : Fin used.length, used[i].toNat % 128 * 2 ^ (7 * (i.val + 1)) :=
        Fin.sum_univ_succ _
    _ = b.toNat % 128 + ∑ i : Fin used.length, 128 * (used[i].toNat % 128 * 2 ^ (7 * i.val)) := by
        rw [Nat.mul_zero, Nat.pow_zero, Nat.mul_one, Finset.sum_congr rfl fun i _ => hplace i]
    _ = b.toNat % 128 + 128 * groupSum used := by
        rw [groupSum, Finset.mul_sum]

theorem groupSum_singleton {b : UInt8} (h : b.toNat < 128) : groupSum [b] = b.toNat := by
  rw [groupSum_cons, Nat.mod_eq_of_lt h]
  rfl

namespace EndsWithin

variable {left : Nat} {b : UInt8} {used : Bytes}

theorem last (h : b.toNat < 128) (hroom : left = 0 → b.toNat ≤ 1) : EndsWithin left [b] :=
  ⟨[], b, rfl, Nat.zero_le _, by simp, h, fun heq => hroom heq.symm⟩

theorem more (h : 128 ≤ b.toNat) (hused : EndsWithin left used) :
    EndsWithin (left + 1) (b :: used) := by
  obtain ⟨front, last, rfl, hlen, hfront, hlast, hroom⟩ := hused
  exact ⟨b :: front, last, rfl, Nat.succ_le_succ hlen, List.forall_mem_cons.mpr ⟨h, hfront⟩, hlast,
    fun heq => hroom (Nat.succ.inj heq)⟩

end EndsWithin

/-- An input begins with the groups of a number, or holds too many bits, or has marked groups
only. -/
theorem endsWithin_or_exceeds_or_marked (left : Nat) (bytes : Bytes) :
    (∃ used, EndsWithin left used ∧ used <+: bytes) ∨ Exceeds left bytes ∨
      bytes.length ≤ left ∧ ∀ b ∈ bytes, 128 ≤ b.toNat := by
  induction bytes generalizing left with
  | nil => exact .inr (.inr ⟨Nat.zero_le _, by simp⟩)
  | cons b bytes ih =>
    by_cases hmark : 128 ≤ b.toNat
    · cases left with
      | zero => exact .inr (.inl ⟨[], b, bytes, rfl, rfl, by simp, by omega⟩)
      | succ left =>
        rcases ih left with ⟨used, hused, hbegins⟩ | hexceeds | ⟨hlen, hmarked⟩
        · exact .inl ⟨b :: used, hused.more hmark, List.cons_prefix_cons.mpr ⟨rfl, hbegins⟩⟩
        · obtain ⟨front, c, rest, rfl, rfl, hfront, hc⟩ := hexceeds
          exact .inr (.inl ⟨b :: front, c, rest, rfl, rfl,
            List.forall_mem_cons.mpr ⟨hmark, hfront⟩, hc⟩)
        · exact .inr (.inr ⟨Nat.succ_le_succ hlen, List.forall_mem_cons.mpr ⟨hmark, hmarked⟩⟩)
    · by_cases hroom : left = 0 ∧ 1 < b.toNat
      · exact .inr (.inl ⟨[], b, bytes, rfl, hroom.1.symm, by simp, hroom.2⟩)
      · have hends : EndsWithin left [b] := .last (by omega) (by omega)
        exact .inl ⟨[b], hends, bytes, rfl⟩

/-! ### What the loop makes of them -/

namespace Reader

theorem runOn_byte_cons (b : UInt8) (rest : Bytes) : byte.runOn (b :: rest) = (.ok b, rest) := rfl

theorem takes_groups_of_endsWithin {left : Nat} {used : Bytes} (h : EndsWithin left used) :
    (groups (left + 1)).Takes used (groupSum used) := by
  obtain ⟨front, last, rfl, hlen, hfront, hlast, hroom⟩ := h
  induction front generalizing left with
  | nil =>
    rw [List.nil_append, groupSum_singleton hlast]
    exact takes_groups_last left hlast fun h => hroom h.symm
  | cons b front ih =>
    cases left with
    | zero => exact absurd hlen (Nat.not_succ_le_zero _)
    | succ left =>
      obtain ⟨hb, hfront⟩ := List.forall_mem_cons.mp hfront
      have hhigh := ih (Nat.le_of_succ_le_succ hlen) hfront fun h => hroom (congrArg _ h)
      rw [List.cons_append, groupSum_cons]
      exact takes_groups_more hb (Nat.succ_ne_zero left) hhigh

/-- A marked group is passed by as long as another may follow, and a fault behind it is the fault of
the whole. -/
theorem runOn_groups_of_error {left : Nat} {b : UInt8} {bytes rest : Bytes} {fault : Fault}
    (hb : 128 ≤ b.toNat) (h : (groups (left + 1)).runOn bytes = (.error fault, rest)) :
    (groups (left + 2)).runOn (b :: bytes) = (.error fault, rest) := by
  rw [groups, runOn_bind_of_ok (runOn_byte_cons b bytes)]
  simp only [Nat.succ_ne_zero, false_and, if_false, if_neg (Nat.not_lt.mpr hb)]
  exact runOn_bind_of_error h

theorem runOn_groups_of_exceeds {left : Nat} {bytes : Bytes} (h : Exceeds left bytes) :
    ∃ rest, (groups (left + 1)).runOn bytes = (.error .varintOverflow, rest) := by
  obtain ⟨front, b, rest, rfl, rfl, hfront, hb⟩ := h
  refine ⟨rest, ?_⟩
  induction front with
  | nil =>
    rw [List.nil_append, List.length_nil, groups, runOn_bind_of_ok (runOn_byte_cons b rest)]
    -- The byte holds more than its one bit, or it is marked and no further group is read.
    by_cases hgroup : 1 < b.toNat % 128
    · simp only [true_and, if_pos hgroup, runOn_throw]
    · have hmark : ¬b.toNat < 128 := by omega
      simp only [true_and, if_neg hgroup, if_neg hmark]
      rfl
  | cons c front ih =>
    obtain ⟨hc, hfront⟩ := List.forall_mem_cons.mp hfront
    exact runOn_groups_of_error hc (ih hfront)

theorem runOn_groups_of_marked {left : Nat} {bytes : Bytes} (hlen : bytes.length ≤ left)
    (hmarked : ∀ b ∈ bytes, 128 ≤ b.toNat) :
    (groups (left + 1)).runOn bytes = (.error (.truncated 1 0), []) := by
  induction bytes generalizing left with
  | nil => exact runOn_bind_of_error rfl
  | cons b bytes ih =>
    cases left with
    | zero => exact absurd hlen (Nat.not_succ_le_zero _)
    | succ left =>
      obtain ⟨hb, hmarked⟩ := List.forall_mem_cons.mp hmarked
      exact runOn_groups_of_error hb (ih (Nat.le_of_succ_le_succ hlen) hmarked)

end Reader

namespace Codec

open Reader

/-! ### Numbers of 64 bits -/

/-- A number is taken from its groups, all of its bits with it. -/
theorem exists_takes_varint {used : Bytes} (h : EndsWithin 9 used) :
    ∃ x : UInt64, x.toNat = groupSum used ∧ varint.read.Takes used x := by
  have htakes : Reader.varint.Takes used (groupSum used) := takes_groups_of_endsWithin h
  obtain ⟨hlt, -⟩ := of_runOn_varint (htakes [])
  exact ⟨.ofNat (groupSum used), UInt64.toNat_ofNat_of_lt' hlt, htakes.map UInt64.ofNat⟩

/-- Reading fails if the groups do. -/
theorem runOn_varint_of_error {bytes rest : Bytes} {fault : Fault}
    (h : (groups 10).runOn bytes = (.error fault, rest)) :
    varint.read.runOn bytes = (.error fault, rest) :=
  runOn_bind_of_error h

/-- There are three ways to read a number, one for each kind of input. -/
theorem runOn_varint_cases (bytes : Bytes) :
    (∃ (used rest : Bytes) (x : UInt64), EndsWithin 9 used ∧ bytes = used ++ rest ∧
      x.toNat = groupSum used ∧ varint.read.runOn bytes = (.ok x, rest)) ∨
    (Exceeds 9 bytes ∧ ∃ rest, varint.read.runOn bytes = (.error .varintOverflow, rest)) ∨
    varint.read.runOn bytes = (.error (.truncated 1 0), []) := by
  rcases endsWithin_or_exceeds_or_marked 9 bytes with
    ⟨used, hused, rest, rfl⟩ | hexceeds | ⟨hlen, hmarked⟩
  · obtain ⟨x, hx, htakes⟩ := exists_takes_varint hused
    exact .inl ⟨used, rest, x, hused, rfl, hx, htakes rest⟩
  · obtain ⟨rest, hrun⟩ := runOn_groups_of_exceeds hexceeds
    exact .inr (.inl ⟨hexceeds, rest, runOn_varint_of_error hrun⟩)
  · exact .inr (.inr (runOn_varint_of_error (runOn_groups_of_marked hlen hmarked)))

theorem runOn_varint_eq_ok_iff {bytes rest : Bytes} {x : UInt64} :
    varint.read.runOn bytes = (.ok x, rest) ↔
      ∃ used, EndsWithin 9 used ∧ bytes = used ++ rest ∧ x.toNat = groupSum used := by
  constructor
  · intro hrun
    rcases runOn_varint_cases bytes with
      ⟨used, rest', y, hused, hbytes, hy, hrun'⟩ | ⟨-, rest', hrun'⟩ | hrun'
    · obtain ⟨hok, rfl⟩ := Prod.mk.inj (hrun.symm.trans hrun')
      obtain rfl : x = y := Except.ok.inj hok
      exact ⟨used, hused, hbytes, hy⟩
    · cases hrun.symm.trans hrun'
    · cases hrun.symm.trans hrun'
  · rintro ⟨used, hused, rfl, hx⟩
    obtain ⟨y, hy, htakes⟩ := exists_takes_varint hused
    obtain rfl : x = y := UInt64.toNat_inj.mp (hx.trans hy.symm)
    exact htakes rest

theorem exists_runOn_varint_iff {bytes : Bytes} :
    (∃ x rest, varint.read.runOn bytes = (.ok x, rest)) ↔
      ∃ used, EndsWithin 9 used ∧ used <+: bytes := by
  constructor
  · rintro ⟨x, rest, hrun⟩
    obtain ⟨used, hused, rfl, -⟩ := runOn_varint_eq_ok_iff.mp hrun
    exact ⟨used, hused, rest, rfl⟩
  · rintro ⟨used, hused, rest, rfl⟩
    obtain ⟨x, -, htakes⟩ := exists_takes_varint hused
    exact ⟨x, rest, htakes rest⟩

theorem runOn_varint_overflow_iff {bytes : Bytes} :
    (varint.read.runOn bytes).1 = .error .varintOverflow ↔ Exceeds 9 bytes := by
  constructor
  · intro hrun
    rcases runOn_varint_cases bytes with ⟨_, _, _, -, -, -, hrun'⟩ | ⟨hexceeds, -⟩ | hrun'
    · rw [hrun'] at hrun
      cases hrun
    · exact hexceeds
    · rw [hrun'] at hrun
      cases hrun
  · intro hexceeds
    obtain ⟨rest, hrun⟩ := runOn_groups_of_exceeds hexceeds
    rw [runOn_varint_of_error hrun]

/-- An input is too short if it is neither read nor too long. -/
theorem runOn_varint_truncated_iff {bytes : Bytes} :
    (varint.read.runOn bytes).1 = .error (.truncated 1 0) ↔
      (¬∃ used, EndsWithin 9 used ∧ used <+: bytes) ∧ ¬Exceeds 9 bytes := by
  rw [← exists_runOn_varint_iff, ← runOn_varint_overflow_iff]
  constructor
  · intro htruncated
    refine ⟨fun ⟨x, rest, hrun⟩ => ?_, fun hoverflow => ?_⟩
    · rw [hrun] at htruncated
      cases htruncated
    · cases htruncated.symm.trans hoverflow
  · rintro ⟨hfails, hfits⟩
    rcases runOn_varint_cases bytes with ⟨_, rest, x, -, -, -, hrun⟩ | ⟨-, rest, hrun⟩ | hrun
    · exact absurd ⟨x, rest, hrun⟩ hfails
    · exact absurd (by rw [hrun]) hfits
    · rw [hrun]

/-- A number is taken from what is written for it. -/
theorem takes_read_varint (v : UInt64) : varint.read.Takes (varintBytes v.toNat) v := by
  have htakes : varint.read.Takes (varintBytes v.toNat) (.ofNat v.toNat) :=
    (takes_varint v.toNat_lt).map UInt64.ofNat
  rwa [UInt64.ofNat_toNat] at htakes

/-- The shortest bytes that are read as a number are the ones that are written for it. -/
theorem eq_or_length_lt_of_runOn_varint {used rest : Bytes} {v : UInt64}
    (h : varint.read.runOn (used ++ rest) = (.ok v, rest)) :
    used = varintBytes v.toNat ∨ (varintBytes v.toNat).length < used.length := by
  obtain ⟨n, hn, rfl⟩ := runOn_bind_pure h
  obtain ⟨hlt, used', hbytes, -, hshort⟩ := of_runOn_varint hn
  rw [List.append_cancel_right hbytes, UInt64.toNat_ofNat_of_lt' hlt]
  exact hshort

/-- **Variable-length numbers.** A number is read exactly from the groups of a number, of which
there are at most ten and the tenth is 0 or 1: these bytes are consumed, and the number is their sum
without the loss of a bit. Nine marked groups and a byte other than 0 and 1 are too many bits, and
any other input is too short. What is written for a number is read back in front of any bytes, and
all other bytes that are read as the number are more. -/
theorem varint_exact :
    (∀ bytes : Bytes,
      (∀ x rest, varint.read.runOn bytes = (.ok x, rest) ↔
        ∃ used, EndsWithin 9 used ∧ bytes = used ++ rest ∧ x.toNat = groupSum used) ∧
      ((∃ x rest, varint.read.runOn bytes = (.ok x, rest)) ↔
        ∃ used, EndsWithin 9 used ∧ used <+: bytes) ∧
      ((varint.read.runOn bytes).1 = .error .varintOverflow ↔ Exceeds 9 bytes) ∧
      ((varint.read.runOn bytes).1 = .error (.truncated 1 0) ↔
        (¬∃ used, EndsWithin 9 used ∧ used <+: bytes) ∧ ¬Exceeds 9 bytes)) ∧
    ∀ v : UInt64, ∃ own, varint.toBytes v = .ok own ∧
      (∀ rest, varint.read.runOn (own ++ rest) = (.ok v, rest)) ∧
      ∀ used rest, varint.read.runOn (used ++ rest) = (.ok v, rest) →
        used = own ∨ own.length < used.length := by
  refine ⟨fun bytes => ⟨fun x rest => runOn_varint_eq_ok_iff, exists_runOn_varint_iff,
    runOn_varint_overflow_iff, runOn_varint_truncated_iff⟩, fun v => ?_⟩
  exact ⟨varintBytes v.toNat, rfl, takes_read_varint v,
    fun used rest => eq_or_length_lt_of_runOn_varint⟩

/-- The tenth group holds the highest of 64 bits. -/
example : varint.read.runOn (.replicate 9 0x80 ++ [1, 7]) = (.ok 0x8000000000000000, [7]) := rfl

example : varint.read.runOn (.replicate 9 0x80 ++ [2, 7]) = (.error .varintOverflow, [7]) := rfl

end Codec

end LedgerClient.Wire
