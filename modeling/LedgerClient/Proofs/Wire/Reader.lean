import LedgerClient.Proofs.Bytes.Endian
import LedgerClient.Wire.Codec

/-!
# Readers that take exactly their own bytes

`Reader.Takes r used x` says that a reader takes the bytes `used` off the front of its input, gives
`x`, and leaves whatever follows unread. Stated with an arbitrary remainder the relation composes:
a bind of two readers takes the bytes of the first followed by the bytes of the second. The readers
of numbers, texts and counts are shown to take what the corresponding writers put out; the readers
of compound values follow by composition, in `Proofs/Wire/Codec.lean`.

A count is the one reader that looks ahead: it refuses a number larger than the bytes that remain.
`takes_count_bind` therefore speaks of a count together with what reads the things counted, and asks
that these take at least as many bytes as were announced.
-/

namespace LedgerClient

namespace Wire

/-! ### Variable-length numbers -/

theorem varintBytes_of_lt {n : Nat} (h : n < 128) : varintBytes n = [UInt8.ofNat n] := by
  rw [varintBytes, if_pos h]

theorem varintBytes_of_le {n : Nat} (h : 128 ≤ n) :
    varintBytes n = UInt8.ofNat (n % 128 + 128) :: varintBytes (n / 128) := by
  rw [varintBytes, if_neg (Nat.not_lt.mpr h)]

theorem length_varintBytes_pos (n : Nat) : 0 < (varintBytes n).length := by
  rw [varintBytes]
  split <;> simp

namespace Reader

variable {α β : Type}

/-! ### Running a reader -/

@[simp]
theorem runOn_ofFun (f : Bytes → Except Fault α × Bytes) (bytes : Bytes) :
    (ofFun f).runOn bytes = f bytes := rfl

@[simp]
theorem runOn_pure (x : α) (bytes : Bytes) :
    runOn (pure x) bytes = (.ok x, bytes) := rfl

/-- A bind runs its first reader and, if that succeeds, the second on what the first left. -/
theorem runOn_bind (r : Reader α) (f : α → Reader β) (bytes : Bytes) :
    runOn (r >>= f) bytes =
      match r.runOn bytes with
      | (.ok x, rest) => (f x).runOn rest
      | (.error fault, rest) => (.error fault, rest) := by
  show (ExceptT.bindCont f (r.runOn bytes).1).run (r.runOn bytes).2 = _
  rcases r.runOn bytes with ⟨_ | _, _⟩ <;> rfl

theorem runOn_bind_of_ok {r : Reader α} {f : α → Reader β} {bytes rest : Bytes} {x : α}
    (h : r.runOn bytes = (.ok x, rest)) : runOn (r >>= f) bytes = (f x).runOn rest := by
  rw [runOn_bind, h]

theorem runOn_bind_of_error {r : Reader α} {f : α → Reader β} {bytes rest : Bytes} {fault : Fault}
    (h : r.runOn bytes = (.error fault, rest)) : runOn (r >>= f) bytes = (.error fault, rest) := by
  rw [runOn_bind, h]

/-- If a bind succeeds, so do its two readers, one after the other. -/
theorem exists_of_runOn_bind {r : Reader α} {f : α → Reader β} {bytes rest : Bytes} {y : β}
    (h : runOn (r >>= f) bytes = (.ok y, rest)) :
    ∃ x mid, r.runOn bytes = (.ok x, mid) ∧ (f x).runOn mid = (.ok y, rest) := by
  rw [runOn_bind] at h
  split at h
  · exact ⟨_, _, ‹_›, h⟩
  · cases h

/-! ### Taking exactly some bytes -/

/-- The reader takes exactly `used` off the front of its input and gives `x`, whatever follows. -/
def Takes (r : Reader α) (used : Bytes) (x : α) : Prop :=
  ∀ rest, r.runOn (used ++ rest) = (.ok x, rest)

theorem takes_pure (x : α) : Takes (pure x) [] x :=
  fun _ => rfl

/-- One reader after another takes the bytes of the one followed by the bytes of the other. -/
theorem Takes.bind {r : Reader α} {f : α → Reader β} {used more : Bytes} {x : α} {y : β}
    (hr : r.Takes used x) (hf : (f x).Takes more y) : (r >>= f).Takes (used ++ more) y := by
  intro rest
  rw [List.append_assoc, runOn_bind_of_ok (hr _), hf]

/-- A function applied to what was read takes no bytes of its own. -/
theorem Takes.map {r : Reader α} {used : Bytes} {x : α} (hr : r.Takes used x) (f : α → β) :
    (f <$> r).Takes used (f x) := by
  have hpure : Takes (pure (f x)) [] (f x) := takes_pure (f x)
  simpa using hr.bind (f := fun a => pure (f a)) hpure

theorem split?_append (used rest : Bytes) :
    split? used.length (used ++ rest) = some (used, rest) := by
  induction used with
  | nil => rfl
  | cons b used ih => simp [split?, ih]

/-- `take` takes as many bytes as it is told. -/
theorem takes_take (used : Bytes) : (take used.length).Takes used used := by
  intro rest
  simp [take, split?_append]

theorem takes_byte (b : UInt8) : byte.Takes [b] b :=
  fun _ => rfl

/-- A byte and what is read after it. -/
theorem takes_byte_bind {b : UInt8} {f : UInt8 → Reader α} {used : Bytes} {x : α}
    (hf : (f b).Takes used x) : (byte >>= f).Takes (b :: used) x :=
  (takes_byte b).bind hf

theorem takes_vector {n : Nat} (v : Vector UInt8 n) : (vector n).Takes v.toList v := by
  have hlen : v.toList.length = n := by simp
  have htake : (take n).Takes v.toList v.toList := by simpa [hlen] using takes_take v.toList
  have hgiven : Takes (if h : v.toList.length = n then
      pure (⟨v.toList.toArray, size_toArray_of_length h⟩ : Vector UInt8 n)
      else throw (.truncated n v.toList.length)) [] v := by
    simp only [hlen, dite_true]
    exact takes_pure _
  have hread := htake.bind (f := fun bytes =>
    if h : bytes.length = n then pure (⟨bytes.toArray, size_toArray_of_length h⟩ : Vector UInt8 n)
    else throw (.truncated n bytes.length)) hgiven
  simpa [vector] using hread

/-- A number of a fixed width is read from what `littleEndian` writes, if it fits the width. -/
theorem takes_natural {width n : Nat} (h : n < 256 ^ width) :
    (natural width).Takes (littleEndian width n) n := by
  have htake : (take width).Takes (littleEndian width n) (littleEndian width n) := by
    simpa using takes_take (littleEndian width n)
  simpa [natural, ofLittleEndian_littleEndian, Nat.mod_eq_of_lt h] using htake.map ofLittleEndian

/-! ### Variable-length numbers and counts -/

/-- A group without the mark ends the number. -/
theorem takes_groups_last (left : Nat) {b : UInt8} (hb : b.toNat < 128)
    (hroom : left = 0 → b.toNat ≤ 1) : (groups (left + 1)).Takes [b] b.toNat := by
  have hroom' : ¬(left = 0 ∧ 1 < b.toNat) := fun h => absurd (hroom h.1) (by omega)
  refine takes_byte_bind ?_
  simp only [Nat.mod_eq_of_lt hb, if_neg hroom', if_pos hb]
  exact takes_pure _

/-- A group with the mark is followed by the higher groups. -/
theorem takes_groups_more {left : Nat} {b : UInt8} {used : Bytes} {high : Nat}
    (hb : 128 ≤ b.toNat) (hleft : left ≠ 0) (h : (groups left).Takes used high) :
    (groups (left + 1)).Takes (b :: used) (b.toNat % 128 + 128 * high) := by
  refine takes_byte_bind ?_
  simp only [hleft, false_and, if_false, if_neg (Nat.not_lt.mpr hb)]
  simpa using h.map fun high => b.toNat % 128 + 128 * high

/-- A number is read back from its groups while enough of them may follow: `left + 1` groups hold
`7 * left + 1` bits, because the last of them has room for one bit only. -/
theorem takes_groups : ∀ (left n : Nat), n < 2 ^ (7 * left + 1) →
    (groups (left + 1)).Takes (varintBytes n) n := by
  intro left
  induction left with
  | zero =>
    intro n h
    have hn : n < 2 := h
    have hbyte : (UInt8.ofNat n).toNat = n := by simp; omega
    rw [varintBytes_of_lt (by omega)]
    simpa [hbyte] using takes_groups_last 0 (b := UInt8.ofNat n) (by omega) (by omega)
  | succ left ih =>
    intro n h
    rcases Nat.lt_or_ge n 128 with hn | hn
    · have hbyte : (UInt8.ofNat n).toNat = n := by simp; omega
      rw [varintBytes_of_lt hn]
      simpa [hbyte] using
        takes_groups_last (left + 1) (b := UInt8.ofNat n) (by omega) (by omega)
    · have hbyte : (UInt8.ofNat (n % 128 + 128)).toNat = n % 128 + 128 := by simp; omega
      have hpow : 2 ^ (7 * (left + 1) + 1) = 128 * 2 ^ (7 * left + 1) := by
        rw [show 7 * (left + 1) + 1 = 7 + (7 * left + 1) by omega, Nat.pow_add]
      have hhigh : (groups (left + 1)).Takes (varintBytes (n / 128)) (n / 128) :=
        ih _ (Nat.div_lt_of_lt_mul (by omega))
      rw [varintBytes_of_le hn]
      have hread := takes_groups_more (b := UInt8.ofNat (n % 128 + 128)) (by omega) (by omega) hhigh
      rwa [hbyte, show (n % 128 + 128) % 128 + 128 * (n / 128) = n by omega] at hread

/-- A variable-length number of 64 bits is read back. -/
theorem takes_varint {n : Nat} (h : n < 2 ^ 64) : varint.Takes (varintBytes n) n :=
  takes_groups 9 n h

/-- A count is accepted if the things counted take at least as many bytes as it announces. -/
theorem takes_count_bind {n : Nat} {f : Nat → Reader α} {used : Bytes} {x : α} (hn : n < 2 ^ 64)
    (hf : (f n).Takes used x) (hused : n ≤ used.length) :
    (count >>= f).Takes (varintBytes n ++ used) x := by
  intro rest
  have hcount : count.runOn (varintBytes n ++ (used ++ rest)) = (.ok n, used ++ rest) := by
    rw [count, runOn_bind_of_ok (takes_varint hn _), remaining, runOn_bind]
    have henough : ¬(used ++ rest).length < n := by simp; omega
    simp only [runOn_ofFun, if_neg henough, runOn_pure]
  rw [List.append_assoc, runOn_bind_of_ok hcount, hf]

/-- What depends on the number of bytes that remain may count on all the bytes it takes. -/
theorem takes_remaining_bind {f : Nat → Reader α} {used : Bytes} {x : α}
    (hf : ∀ n, used.length ≤ n → (f n).Takes used x) : (remaining >>= f).Takes used x := by
  intro rest
  have hremaining :
      remaining.runOn (used ++ rest) = (.ok (used ++ rest).length, used ++ rest) := rfl
  rw [runOn_bind_of_ok hremaining]
  exact hf _ (by simp) rest

/-! ### Repetition -/

theorem takes_times_zero (r : Reader α) : (r.times 0).Takes [] [] :=
  takes_pure []

/-- One value more takes the bytes of that value first. -/
theorem Takes.times_succ {r : Reader α} {n : Nat} {used more : Bytes} {x : α} {xs : List α}
    (hr : r.Takes used x) (hn : (r.times n).Takes more xs) :
    (r.times (n + 1)).Takes (used ++ more) (x :: xs) := by
  refine hr.bind ?_
  simpa using hn.map (List.cons x)

/-! ### Whole inputs -/

/-- A whole input is read by a reader that leaves nothing of it. -/
theorem readAll_of_runOn {r : Reader α} {bytes : Bytes} {x : α} (h : r.runOn bytes = (.ok x, [])) :
    r.readAll bytes = .ok x := by
  rw [readAll, runOn_bind_of_ok h]
  rfl

/-- A reader that takes exactly the input reads the value that it stands for. -/
theorem Takes.readAll {r : Reader α} {bytes : Bytes} {x : α} (h : r.Takes bytes x) :
    r.readAll bytes = .ok x :=
  readAll_of_runOn (by simpa using h [])

/-- If a whole input is read, the reader succeeds on it. -/
theorem exists_of_readAll {r : Reader α} {bytes : Bytes} {x : α} (h : r.readAll bytes = .ok x) :
    ∃ rest, r.runOn bytes = (.ok x, rest) := by
  have hrun : runOn (do let y ← r; finish; return y) bytes =
      (.ok x, (runOn (do let y ← r; finish; return y) bytes).2) := Prod.ext h rfl
  obtain ⟨y, rest, hread, hrun⟩ := exists_of_runOn_bind hrun
  obtain ⟨_, _, -, hrun⟩ := exists_of_runOn_bind hrun
  cases hrun
  exact ⟨rest, hread⟩

end Reader

end Wire

end LedgerClient
