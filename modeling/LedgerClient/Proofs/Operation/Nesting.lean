import LedgerClient.Proofs.Operation.Unknown
import LedgerClient.Proofs.Wire.Remainder

/-!
# Nesting is bounded by the bytes that are read

A proposal on the wire holds operations that may be proposals again, and it is the input that says
how many they are and how deep they go. Three bounds keep a reader within its input.

* **It ends.** The reader of operations is defined with as many levels as there are bytes. It does
  what the recursion without any levels does (`runOn_codec_read_eq`), and what stands at the end of
  its levels is never asked for (`runOn_readWith`): each level takes the number of an operation, so
  the levels cannot run out before the bytes do.
* **It leaves a suffix** of its input, for operations of every kind (`leavesSuffix_codec_read`).
* **What it gives is small.** A proposal takes eleven bytes besides the operations in it, and every
  operation takes one, so that the bytes taken bound the levels of proposals and the number of
  operations at all depths (`levels_le_of_runOn`).
-/

namespace LedgerClient

open Wire Wire.Codec Wire.Reader

/-! ### What fields leave -/

theorem Asset.leavesSuffix_codec : Asset.codec.read.LeavesSuffix := by
  refine (leavesSuffix_fixed _ _).bind fun amount => (leavesSuffix_fixed _ _).bind fun places =>
    (leavesSuffix_take _).bind fun field => ?_
  split
  · exact leavesSuffix_pure _
  · exact leavesSuffix_throw _

theorem Timestamp.leavesSuffix_codec : Timestamp.codec.read.LeavesSuffix :=
  leavesSuffix_via (leavesSuffix_fixed _ _) _ _

theorem PublicKey.leavesSuffix_codec : PublicKey.codec.read.LeavesSuffix := by
  refine (leavesSuffix_vector 33).bind fun bytes => ?_
  split
  · exact leavesSuffix_pure _
  · exact leavesSuffix_throw _

theorem Authority.leavesSuffix_codec : Authority.codec.read.LeavesSuffix := by
  have hweight : u16.read.LeavesSuffix := leavesSuffix_fixed _ _
  have haccounts := leavesSuffix_list (leavesSuffix_pair leavesSuffix_text hweight)
  have hkeys := leavesSuffix_list (leavesSuffix_pair PublicKey.leavesSuffix_codec hweight)
  exact leavesSuffix_via (leavesSuffix_pair (leavesSuffix_fixed _ _)
    (leavesSuffix_pair haccounts hkeys)) _ _

theorem Beneficiary.leavesSuffix_codec : Beneficiary.codec.read.LeavesSuffix :=
  leavesSuffix_via (leavesSuffix_pair leavesSuffix_text (leavesSuffix_fixed _ _)) _ _

theorem Extension.leavesSuffix_codec : Extension.codec.read.LeavesSuffix := by
  refine leavesSuffix_varint.bind fun tag => ?_
  split
  · exact leavesSuffix_pure _
  · exact leavesSuffix_throw _

theorem ContentExtension.leavesSuffix_codec : ContentExtension.codec.read.LeavesSuffix := by
  refine leavesSuffix_varint.bind fun tag => ?_
  split
  · exact (leavesSuffix_list Beneficiary.leavesSuffix_codec).map _
  · exact leavesSuffix_throw _

theorem Shape.leavesSuffix_codec : (s : Shape) → s.codec.read.LeavesSuffix
  | text => leavesSuffix_text
  | asset => Asset.leavesSuffix_codec
  | timestamp => Timestamp.leavesSuffix_codec
  | key => PublicKey.leavesSuffix_codec
  | u16 | i16 | u32 | sequence => leavesSuffix_fixed _ _
  | flag => leavesSuffix_flag
  | authority => Authority.leavesSuffix_codec
  | beneficiary => Beneficiary.leavesSuffix_codec
  | extension => Extension.leavesSuffix_codec
  | contentExtension => ContentExtension.leavesSuffix_codec
  | list item => leavesSuffix_list (leavesSuffix_codec item)
  | option item => leavesSuffix_option (leavesSuffix_codec item)

/-! ### One level of operations -/

section Level

variable {nested nested' : Reader Operation}

theorem Record.leavesSuffix_read (h : nested.LeavesSuffix) :
    (layout : Layout) → (Record.read nested layout).LeavesSuffix
  | [] => leavesSuffix_pure _
  | .field _ shape :: layout =>
    shape.leavesSuffix_codec.bind fun _ =>
      (Record.leavesSuffix_read h layout).bind fun _ => leavesSuffix_pure _
  | .operations _ :: layout =>
    leavesSuffix_count.bind fun n => (h.times n).bind fun _ =>
      (Record.leavesSuffix_read h layout).bind fun _ => leavesSuffix_pure _

/-- Records are read alike if what is nested in them is, on inputs that are not longer. -/
theorem Record.agreeUpTo_read {n : Nat} (hsuffix : nested.LeavesSuffix)
    (h : AgreeUpTo n nested nested') :
    (layout : Layout) → AgreeUpTo n (Record.read nested layout) (Record.read nested' layout)
  | [] => .refl n _
  | .field _ shape :: layout =>
    .bind shape.leavesSuffix_codec (.refl n _) fun _ =>
      .bind (Record.leavesSuffix_read hsuffix layout) (Record.agreeUpTo_read hsuffix h layout)
        fun _ => .refl n _
  | .operations _ :: layout =>
    .bind leavesSuffix_count (.refl n _) fun k =>
      .bind (hsuffix.times k) (.times hsuffix h k) fun _ =>
        .bind (Record.leavesSuffix_read hsuffix layout) (Record.agreeUpTo_read hsuffix h layout)
          fun _ => .refl n _

namespace Operation

theorem leavesSuffix_readUnknown (tag : Nat) : (readUnknown tag).LeavesSuffix :=
  leavesSuffix_rest.map _

theorem leavesSuffix_readPayload (h : nested.LeavesSuffix) (tag : Nat) :
    (readPayload nested tag).LeavesSuffix := by
  rw [readPayload]
  split
  · exact leavesSuffix_readUnknown tag
  · split
    · exact (Record.leavesSuffix_read h _).bind fun _ => leavesSuffix_pure _
    · exact leavesSuffix_readUnknown tag

theorem agreeUpTo_readPayload {n : Nat} (hsuffix : nested.LeavesSuffix)
    (h : AgreeUpTo n nested nested') (tag : Nat) :
    AgreeUpTo n (readPayload nested tag) (readPayload nested' tag) := by
  rw [readPayload, readPayload]
  split
  · exact .refl n _
  · split
    · exact .bind (Record.leavesSuffix_read hsuffix _) (Record.agreeUpTo_read hsuffix h _)
        fun _ => .refl n _
    · exact .refl n _

/-- Levels of operations whose last level is some other reader. -/
def readWith (bottom : Reader Operation) : (depth : Nat) → Reader Operation
  | 0 => bottom
  | depth + 1 => do
    let tag ← Reader.varint
    readPayload (readWith bottom depth) tag

theorem readWith_add (bottom : Reader Operation) (k depth : Nat) :
    readWith (readWith bottom k) depth = readWith bottom (k + depth) := by
  induction depth with
  | zero => rfl
  | succ depth ih => rw [readWith, ih, Nat.add_succ, readWith]

theorem leavesSuffix_readAt : ∀ depth, (readAt depth).LeavesSuffix := by
  intro depth
  induction depth with
  | zero => exact leavesSuffix_throw _
  | succ depth ih => exact leavesSuffix_varint.bind (leavesSuffix_readPayload ih)

/-- Whatever becomes of reading an operation, a suffix of the input is left. -/
theorem leavesSuffix_codec_read : codec.read.LeavesSuffix :=
  leavesSuffix_remaining.bind leavesSuffix_readAt

end Operation

end Level

/-! ### The recursion ends -/

namespace Operation

/-- There is a level for every byte. What lies beyond is not reached: when the bytes have run out,
the next level already fails at the number of its operation. -/
theorem agreeUpTo_readAt (bottom : Reader Operation) :
    ∀ n, AgreeUpTo n (readAt n) (readWith bottom (n + 1)) := by
  intro n
  induction n with
  | zero =>
    intro bytes hle
    obtain rfl := List.length_eq_zero_iff.mp (Nat.le_zero.mp hle)
    rfl
  | succ n ih =>
    exact agreeUpTo_varint_bind fun tag => agreeUpTo_readPayload (leavesSuffix_readAt n) ih tag

/-- **Levels.** With more levels than there are bytes, operations are read as the codec reads them,
whatever stands at the end of the levels. -/
theorem runOn_readWith (bottom : Reader Operation) {bytes : Bytes} {depth : Nat}
    (h : bytes.length < depth) : (readWith bottom depth).runOn bytes = codec.read.runOn bytes := by
  -- The levels that are too many are moved into what stands at the end.
  obtain ⟨k, rfl⟩ : ∃ k, depth = k + (bytes.length + 1) := ⟨depth - (bytes.length + 1), by omega⟩
  have hagree := agreeUpTo_readAt (readWith bottom k) bytes.length bytes (Nat.le_refl _)
  have hremaining : remaining.runOn bytes = (.ok bytes.length, bytes) := rfl
  rw [← readWith_add, ← hagree, codec, runOn_bind_of_ok hremaining]

theorem agreeUpTo_readWith (bottom : Reader Operation) (n : Nat) :
    AgreeUpTo n codec.read (readWith bottom (n + 1)) :=
  fun _ hle => (runOn_readWith bottom (Nat.lt_succ_of_le hle)).symm

/-- **The recursion.** An operation is read as its number and then as the payload of this number, in
which operations are read in the same way. No levels are left in this equation. -/
theorem runOn_codec_read_eq (bytes : Bytes) :
    codec.read.runOn bytes = runOn (varint >>= readPayload codec.read) bytes := by
  -- One more level than the codec has for these bytes, with the codec itself at the end.
  have hlevel : AgreeUpTo (bytes.length + 1) (varint >>= readPayload codec.read)
      (readWith codec.read (bytes.length + 2)) :=
    agreeUpTo_varint_bind fun tag =>
      agreeUpTo_readPayload leavesSuffix_codec_read (agreeUpTo_readWith codec.read bytes.length) tag
  rw [hlevel bytes (Nat.le_succ _)]
  exact (runOn_readWith codec.read (by omega)).symm

end Operation

/-! ### Levels and numbers of operations -/

mutual

/-- The number of proposals on the longest way down through the operations of a record. -/
def Record.levels : {layout : Layout} → Record layout → Nat
  | _, .empty => 0
  | _, .field _ rest => rest.levels
  | _, .operations ops rest => max (Operation.levelsList ops) rest.levels

/-- The number of proposals on the longest way down through some operations. -/
def Operation.levelsList : List Operation → Nat
  | [] => 0
  | op :: ops => max op.levels (Operation.levelsList ops)

/-- The number of proposals on the longest way down through an operation, which counts itself if it
is a proposal. -/
def Operation.levels : Operation → Nat
  | .known kind _ payload => (if kind = .proposalCreate then 1 else 0) + payload.levels
  | .unknown _ => 0

end

/-- A number of bytes that every value of the shape takes. -/
def Shape.leastWidth : Shape → Nat
  | timestamp => 4
  | _ => 1

/-- A number of bytes that the fields of the layout take besides the operations in them. -/
def Layout.leastWidth : Layout → Nat
  | [] => 0
  | .field _ shape :: layout => shape.leastWidth + Layout.leastWidth layout
  | .operations _ :: layout => 1 + Layout.leastWidth layout

theorem Shape.leastWidth_le_length (s : Shape) {v : s.Carrier} {bytes : Bytes}
    (h : s.codec.write v = .ofBytes bytes) : s.leastWidth ≤ bytes.length := by
  cases s with
  | timestamp =>
    obtain rfl := (Output.mk.inj h).1
    exact Nat.le_of_eq (length_littleEndian 4 _).symm
  | _ => exact (codec_bounds _ _ _ h).1

/-- Fields that hold no operations have none among their parts. -/
theorem Shape.filterMap_operation?_parts :
    (s : Shape) → (v : s.Carrier) → (s.parts v).filterMap Part.operation? = []
  | text, _ | asset, _ => rfl
  | timestamp, _ | key, _ | u16, _ | i16, _ | u32, _ | flag, _ | sequence, _ => rfl
  | extension, _ => rfl
  | authority, a => by simp [parts, Part.operation?]
  | beneficiary, b => by simp [parts, Part.operation?]
  | contentExtension, e => by simp [parts, Part.operation?]
  | list item, xs => by
    rw [parts, List.filterMap_cons_none rfl, List.filterMap_flatMap]
    simp only [filterMap_operation?_parts item, List.flatMap_eq_nil_iff, implies_true]
  | option item, x => by
    rw [parts, List.filterMap_flatMap]
    simp only [filterMap_operation?_parts item, List.flatMap_eq_nil_iff, implies_true]

mutual

/-- What is written for a record is as many bytes as there are operations in it, and eleven bytes
for each of its levels besides those that its own fields take. -/
theorem Record.levels_le_of_write : {layout : Layout} → (r : Record layout) → ∀ ⦃bytes⦄,
    r.write = .ofBytes bytes → layout.leastWidth + 11 * r.levels ≤ bytes.length ∧
      (r.parts.filterMap Part.operation?).length ≤ bytes.length
  | _, .empty => fun _ _ => ⟨Nat.zero_le _, Nat.zero_le _⟩
  | _, @Record.field _ shape _ value rest => by
    intro bytes hwrite
    obtain ⟨first, others, hfirst, hothers, rfl⟩ := Output.append_eq_ofBytes hwrite
    obtain ⟨hlevels, hcount⟩ := rest.levels_le_of_write hothers
    have hwidth := shape.leastWidth_le_length hfirst
    rw [Layout.leastWidth, Record.levels, Record.parts, List.filterMap_append,
      shape.filterMap_operation?_parts, List.length_append, List.nil_append]
    omega
  | _, .operations ops rest => by
    intro bytes hwrite
    obtain ⟨front, others, hfront, hothers, rfl⟩ := Output.append_eq_ofBytes hwrite
    obtain ⟨count, nested, hcount, hnested, rfl⟩ := Output.append_eq_ofBytes hfront
    obtain ⟨hlevels, hops⟩ := Operation.levels_le_of_writeList ops hnested
    obtain ⟨hlevels', hops'⟩ := rest.levels_le_of_write hothers
    -- The number of operations takes a byte of its own, which the layout counts.
    have hpos : 0 < count.length := by
      rw [← (Output.mk.inj hcount).1]
      exact length_varintBytes_pos _
    rw [Layout.leastWidth, Record.levels, Record.parts, List.filterMap_cons_none rfl,
      List.filterMap_append, List.length_append, List.length_append, List.length_append]
    omega

theorem Operation.levels_le_of_writeList : (ops : List Operation) → ∀ ⦃bytes⦄,
    Operation.writeList ops = .ofBytes bytes → 11 * Operation.levelsList ops ≤ bytes.length ∧
      ((Operation.partsList ops).filterMap Part.operation?).length ≤ bytes.length
  | [] => fun _ _ => ⟨Nat.zero_le _, Nat.zero_le _⟩
  | op :: ops => by
    intro bytes hwrite
    obtain ⟨first, others, hfirst, hothers, rfl⟩ := Output.append_eq_ofBytes hwrite
    obtain ⟨hlevels, hop⟩ := op.levels_le_of_write hfirst
    obtain ⟨hlevels', hops⟩ := Operation.levels_le_of_writeList ops hothers
    rw [Operation.levelsList, Operation.partsList, List.filterMap_append, List.length_append,
      List.length_append]
    rw [Operation.within] at hop
    omega

/-- What is written for an operation is eleven bytes for each of its levels, and one for each of the
operations at any depth of it. -/
theorem Operation.levels_le_of_write : (op : Operation) → ∀ ⦃bytes⦄, op.write = .ofBytes bytes →
    11 * op.levels ≤ bytes.length ∧ op.within.length ≤ bytes.length
  | .known kind supported payload => by
    intro bytes hwrite
    obtain ⟨tag, fields, htag, hfields, rfl⟩ := Output.append_eq_ofBytes hwrite
    obtain ⟨hlevels, hcount⟩ := payload.levels_le_of_write hfields
    have hpos : 0 < tag.length := by
      rw [← (Output.mk.inj htag).1]
      exact length_varintBytes_pos _
    have hwithin : (Operation.known kind supported payload).within.length =
        (payload.parts.filterMap Part.operation?).length + 1 := by
      simp [Operation.within, Operation.parts, Part.operation?]
    -- The fields of a proposal take ten bytes without the operations, and its number takes one.
    have hwidth : kind = .proposalCreate → kind.layout.leastWidth = 10 := by
      rintro rfl
      rfl
    rw [Operation.levels, hwithin, List.length_append]
    split
    · rename_i hproposal
      have hten := hwidth hproposal
      omega
    · omega
  | .unknown u => fun _ hwrite => absurd (Output.mk.inj hwrite).2 (by simp)

end

namespace Operation

/-- **What is read is small.** Reading an operation takes eleven bytes for each of its levels, and
one for each of the operations at any depth of it. -/
theorem levels_le_of_runOn {bytes rest : Bytes} {op : Operation}
    (hread : codec.read.runOn bytes = (.ok op, rest)) :
    ∃ used, bytes = used ++ rest ∧ 11 * op.levels ≤ used.length ∧
      op.within.length ≤ used.length := by
  rcases isGivenBy_or_of_runOn hread with
    ⟨-, own, used, hown, rfl, -, hencodes⟩ | ⟨rfl, tag, raw, rfl, -⟩
  · obtain ⟨hlevels, hcount⟩ := op.levels_le_of_write hown
    have hle := hencodes.lengthens.length_le
    exact ⟨used, rfl, by omega, by omega⟩
  · -- An unknown operation has taken everything, and its number is there to be taken.
    have hne : bytes ≠ [] := by
      rintro rfl
      cases hread
    have hpos := List.length_pos_iff.mpr hne
    exact ⟨bytes, (List.append_nil bytes).symm, Nat.zero_le _, hpos⟩

end Operation

end LedgerClient
