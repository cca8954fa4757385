import LedgerClient.Proofs.Wire.Accepted

/-!
# What is left after reading, whatever the bytes

The modules on the wire form say what readers do with bytes that stand for something. This one says
what holds of a reader on every input, whether it succeeds or fails.

* **The remainder.** A reader *leaves a suffix* of its input: it has no other way to get at bytes
  than to take them off the front. The property is closed under binds, so that it holds of every
  reader that is composed of others (`Reader.LeavesSuffix`).
* **Agreement on short inputs.** Two readers that do the same with all inputs of at most `n` bytes
  can stand for each other wherever no more bytes are left. As readers leave suffixes, binds keep
  this too (`Reader.AgreeUpTo`), and a number, which takes a byte, increases the bound
  (`agreeUpTo_varint_bind`). That is the step of every argument about nested operations.
* **Counts.** A loop whose rounds are counted on the wire is not entered with a count that exceeds
  the bytes at hand (`Reader.IsCounted`).
-/

namespace LedgerClient.Wire

namespace Reader

variable {α β : Type}

/-! ### Suffixes -/

/-- Whatever becomes of the reading, what is left unread is a suffix of the input. -/
def LeavesSuffix (r : Reader α) : Prop :=
  ∀ bytes, (r.runOn bytes).2 <:+ bytes

theorem LeavesSuffix.of_runOn {r : Reader α} (h : r.LeavesSuffix) {bytes rest : Bytes}
    {result : Except Fault α} (hrun : r.runOn bytes = (result, rest)) : rest <:+ bytes := by
  have hsuffix := h bytes
  rwa [hrun] at hsuffix

theorem leavesSuffix_pure (x : α) : LeavesSuffix (pure x) :=
  fun bytes => List.suffix_refl bytes

theorem leavesSuffix_throw (fault : Fault) : LeavesSuffix (throw fault : Reader α) :=
  fun bytes => List.suffix_refl bytes

/-- The second of two readers goes on with a suffix of the input, and leaves a suffix of that. -/
theorem LeavesSuffix.bind {r : Reader α} {f : α → Reader β} (hr : r.LeavesSuffix)
    (hf : ∀ x, (f x).LeavesSuffix) : (r >>= f).LeavesSuffix := by
  intro bytes
  rw [runOn_bind]
  rcases hrun : r.runOn bytes with ⟨fault | x, rest⟩
  · exact hr.of_runOn hrun
  · exact (hf x rest).trans (hr.of_runOn hrun)

theorem LeavesSuffix.map {r : Reader α} (hr : r.LeavesSuffix) (f : α → β) :
    (r >>= fun x => pure (f x)).LeavesSuffix :=
  hr.bind fun x => leavesSuffix_pure (f x)

theorem leavesSuffix_byte : byte.LeavesSuffix
  | [] => List.suffix_refl []
  | b :: rest => List.suffix_cons b rest

theorem leavesSuffix_rest : rest.LeavesSuffix :=
  fun _ => List.nil_suffix

theorem leavesSuffix_remaining : remaining.LeavesSuffix :=
  fun bytes => List.suffix_refl bytes

theorem leavesSuffix_take (n : Nat) : (take n).LeavesSuffix := by
  intro bytes
  rw [take, runOn_ofFun]
  split
  · split
    · rename_i taken rest hsplit
      obtain ⟨hbytes, -⟩ := of_split? hsplit
      exact ⟨taken, hbytes.symm⟩
    · exact List.suffix_refl bytes
  · exact List.suffix_refl bytes

theorem leavesSuffix_vector (n : Nat) : (vector n).LeavesSuffix := by
  refine (leavesSuffix_take n).bind fun bytes => ?_
  split
  · exact leavesSuffix_pure _
  · exact leavesSuffix_throw _

theorem leavesSuffix_groups : ∀ left, (groups left).LeavesSuffix := by
  intro left
  induction left with
  | zero => exact leavesSuffix_throw _
  | succ left ih =>
    refine leavesSuffix_byte.bind fun b => ?_
    dsimp only
    split
    · exact leavesSuffix_throw _
    · split
      · exact leavesSuffix_pure _
      · exact ih.map _

theorem leavesSuffix_varint : varint.LeavesSuffix :=
  leavesSuffix_groups 10

theorem leavesSuffix_count : count.LeavesSuffix := by
  refine leavesSuffix_varint.bind fun n => leavesSuffix_remaining.bind fun left => ?_
  split
  · exact leavesSuffix_throw _
  · exact leavesSuffix_pure n

theorem LeavesSuffix.times {r : Reader α} (hr : r.LeavesSuffix) :
    ∀ n, (r.times n).LeavesSuffix := by
  intro n
  induction n with
  | zero => exact leavesSuffix_pure []
  | succ n ih => exact hr.bind fun x => ih.map (List.cons x)

/-! ### Short inputs -/

/-- The readers do the same with every input of at most `n` bytes. -/
def AgreeUpTo (n : Nat) (r r' : Reader α) : Prop :=
  ∀ bytes, bytes.length ≤ n → r.runOn bytes = r'.runOn bytes

namespace AgreeUpTo

variable {n : Nat} {r r' : Reader α}

theorem refl (n : Nat) (r : Reader α) : AgreeUpTo n r r :=
  fun _ _ => rfl

/-- What the first reader leaves is no longer than its input, so the second readers agree on it. -/
theorem bind {f f' : α → Reader β} (hsuffix : r.LeavesSuffix) (hr : AgreeUpTo n r r')
    (hf : ∀ x, AgreeUpTo n (f x) (f' x)) : AgreeUpTo n (r >>= f) (r' >>= f') := by
  intro bytes hle
  rw [runOn_bind, runOn_bind, ← hr bytes hle]
  rcases hrun : r.runOn bytes with ⟨fault | x, rest⟩
  · rfl
  · have hrest := (hsuffix.of_runOn hrun).length_le
    exact hf x rest (Nat.le_trans hrest hle)

theorem times (hsuffix : r.LeavesSuffix) (h : AgreeUpTo n r r') :
    ∀ k, AgreeUpTo n (r.times k) (r'.times k) := by
  intro k
  induction k with
  | zero => exact refl n _
  | succ k ih =>
    exact bind hsuffix h fun x =>
      bind (hsuffix.times k) ih fun xs => refl n _

end AgreeUpTo

/-- A number takes a byte, so what follows it need not agree on the whole input. -/
theorem agreeUpTo_varint_bind {n : Nat} {f f' : Nat → Reader α}
    (h : ∀ x, AgreeUpTo n (f x) (f' x)) : AgreeUpTo (n + 1) (varint >>= f) (varint >>= f') := by
  intro bytes hle
  rw [runOn_bind, runOn_bind]
  rcases hrun : varint.runOn bytes with ⟨fault | x, rest⟩
  · rfl
  · obtain ⟨-, used, rfl, hpos, -⟩ := encodes_of_runOn_varint hrun
    rw [List.length_append] at hle
    exact h x rest (by omega)

/-! ### Counts -/

/-- The reader reads a count and then runs a loop of as many rounds. If the loop is entered, the
count is at most the number of bytes that are unread then. -/
def IsCounted (r : Reader α) (loop : Nat → Reader α) : Prop :=
  ∀ bytes,
    (∃ fault rest, count.runOn bytes = (.error fault, rest) ∧
      r.runOn bytes = (.error fault, rest)) ∨
    ∃ n rest, count.runOn bytes = (.ok n, rest) ∧ n ≤ rest.length ∧
      r.runOn bytes = (loop n).runOn rest

/-- A count that is read is at most the number of bytes that remain. -/
theorem le_length_of_runOn_count {bytes rest : Bytes} {n : Nat}
    (h : count.runOn bytes = (.ok n, rest)) : n ≤ rest.length := by
  obtain ⟨m, mid, -, h⟩ := exists_of_runOn_bind h
  obtain ⟨left, mid', hremaining, h⟩ := exists_of_runOn_bind h
  cases hremaining
  split at h
  · cases h
  · rename_i henough
    cases h
    exact Nat.not_lt.mp henough

theorem isCounted_count_bind (loop : Nat → Reader α) : IsCounted (count >>= loop) loop := by
  intro bytes
  rcases hcount : count.runOn bytes with ⟨fault | n, rest⟩
  · exact .inl ⟨fault, rest, rfl, runOn_bind_of_error hcount⟩
  · exact .inr ⟨n, rest, rfl, le_length_of_runOn_count hcount, runOn_bind_of_ok hcount⟩

end Reader

/-! ### Codecs -/

namespace Codec

open Reader

variable {α β : Type}

theorem leavesSuffix_fixed {width : Nat} (toNat : α → Nat) (ofNat : Nat → α) :
    (fixed width toNat ofNat).read.LeavesSuffix :=
  ((leavesSuffix_take width).map ofLittleEndian).map ofNat

theorem leavesSuffix_flag : flag.read.LeavesSuffix := by
  refine leavesSuffix_byte.bind fun b => ?_
  split
  · exact leavesSuffix_pure false
  · split
    · exact leavesSuffix_pure true
    · exact leavesSuffix_throw _

theorem leavesSuffix_text : text.read.LeavesSuffix := by
  refine (leavesSuffix_count.bind leavesSuffix_take).bind fun bytes => ?_
  split
  · exact leavesSuffix_pure _
  · exact leavesSuffix_throw _

variable {c : Codec α} {d : Codec β}

theorem leavesSuffix_list (h : c.read.LeavesSuffix) : c.list.read.LeavesSuffix :=
  leavesSuffix_count.bind h.times

theorem leavesSuffix_option (h : c.read.LeavesSuffix) : c.option.read.LeavesSuffix := by
  refine leavesSuffix_byte.bind fun b => ?_
  split
  · exact leavesSuffix_pure none
  · split
    · exact h.map some
    · exact leavesSuffix_throw _

theorem leavesSuffix_pair (hc : c.read.LeavesSuffix) (hd : d.read.LeavesSuffix) :
    (c.pair d).read.LeavesSuffix :=
  hc.bind fun x => hd.map (Prod.mk x)

theorem leavesSuffix_via (h : c.read.LeavesSuffix) (parts : β → α) (mk : α → β) :
    (c.via parts mk).read.LeavesSuffix :=
  h.map mk

end Codec

end LedgerClient.Wire
