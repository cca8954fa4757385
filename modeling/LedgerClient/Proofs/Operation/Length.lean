import LedgerClient.Proofs.Operation.Parts
import LedgerClient.Proofs.Wire.Separation
import LedgerClient.Operation.Wire

/-!
# Lengths are bounded by the bytes that are written

Every value is written as one byte or more, so the members of a list take at least as many bytes as
there are members, and a text takes its own. A count on the wire is therefore never larger than the
number of bytes written, which is what a reader relies on when it refuses a count that exceeds the
bytes that remain.

`Codec.Bounds c counts` states this for a codec and the lengths that occur in a value, and
`Operation.codec_bounds` proves it of operations and the lengths at any depth of them. So these
lengths fit the numbers that precede them as soon as the number of all bytes does.
-/

namespace LedgerClient

open Wire Wire.Codec

/-! ### Codecs -/

namespace Wire

/-- What is written for a member of a list is a part of what is written for the list. -/
theorem Output.exists_of_ofList {α : Type} {write : α → Output} : ∀ {xs : List α} {bytes : Bytes},
    ofList write xs = .ofBytes bytes →
      ∀ x ∈ xs, ∃ own, write x = .ofBytes own ∧ own.length ≤ bytes.length := by
  intro xs
  induction xs with
  | nil => exact fun _ => nofun
  | cons y ys ih =>
    intro bytes hwrite
    obtain ⟨first, others, hfirst, hothers, rfl⟩ := append_eq_ofBytes hwrite
    rw [List.length_append, List.forall_mem_cons]
    refine ⟨⟨first, hfirst, Nat.le_add_right _ _⟩, fun x hx => ?_⟩
    obtain ⟨own, hown, hle⟩ := ih hothers x hx
    exact ⟨own, hown, Nat.le_add_left_of_le hle⟩

namespace Codec

variable {α β : Type}

/-- What is written for a value is at least one byte, and as many bytes as each of its lengths. -/
def Bounds (c : Codec α) (counts : α → List Nat) : Prop :=
  ∀ x bytes, c.write x = .ofBytes bytes → 0 < bytes.length ∧ ∀ n ∈ counts x, n ≤ bytes.length

variable {c : Codec α} {d : Codec β} {f : α → List Nat} {g : β → List Nat}

theorem Bounds.mono (h : c.Bounds f) {f' : α → List Nat} (hf : ∀ x, f' x ⊆ f x) : c.Bounds f' := by
  intro x bytes hwrite
  obtain ⟨hpos, hle⟩ := h x bytes hwrite
  exact ⟨hpos, fun n hn => hle n (hf x hn)⟩

/-- Values of a fixed width of at least one byte have no lengths. -/
theorem bounds_of_length {width : Nat} (hwidth : 0 < width)
    (h : ∀ x bytes, c.write x = .ofBytes bytes → bytes.length = width) : c.Bounds fun _ => [] := by
  intro x bytes hwrite
  rw [h x bytes hwrite]
  exact ⟨hwidth, nofun⟩

theorem bounds_fixed {width : Nat} (hwidth : 0 < width) (toNat : α → Nat) (ofNat : Nat → α) :
    (fixed width toNat ofNat).Bounds fun _ => [] := by
  refine bounds_of_length hwidth ?_
  rintro x _ ⟨rfl⟩
  exact length_littleEndian width (toNat x)

theorem bounds_u16 : u16.Bounds fun _ => [] := bounds_fixed (by omega) _ _

theorem bounds_i16 : i16.Bounds fun _ => [] := bounds_fixed (by omega) _ _

theorem bounds_u32 : u32.Bounds fun _ => [] := bounds_fixed (by omega) _ _

theorem bounds_u64 : u64.Bounds fun _ => [] := bounds_fixed (by omega) _ _

theorem bounds_i64 : i64.Bounds fun _ => [] := bounds_fixed (by omega) _ _

theorem bounds_vector {n : Nat} (hn : 0 < n) : (vector n).Bounds fun _ => [] := by
  refine bounds_of_length hn ?_
  rintro v _ ⟨rfl⟩
  exact Vector.length_toList

theorem bounds_flag : flag.Bounds fun _ => [] := by
  refine bounds_of_length Nat.one_pos ?_
  rintro b _ ⟨rfl⟩
  rfl

theorem bounds_text : text.Bounds fun s => [(Utf8.encode s).length] := by
  rintro s _ ⟨rfl⟩
  have hpos := length_varintBytes_pos (Utf8.encode s).length
  rw [List.forall_mem_singleton, List.length_append]
  omega

theorem Bounds.via (h : c.Bounds f) (parts : β → α) (mk : α → β) :
    (c.via parts mk).Bounds fun x => f (parts x) :=
  fun x => h (parts x)

theorem Bounds.pair (hc : c.Bounds f) (hd : d.Bounds g) :
    (c.pair d).Bounds fun p => f p.1 ++ g p.2 := by
  intro p bytes hwrite
  obtain ⟨first, second, hfirst, hsecond, rfl⟩ := Output.append_eq_ofBytes hwrite
  obtain ⟨hpos, hle⟩ := hc _ _ hfirst
  obtain ⟨-, hle'⟩ := hd _ _ hsecond
  rw [List.length_append, List.forall_mem_append]
  exact ⟨by omega, fun n hn => Nat.le_add_right_of_le (hle n hn),
    fun n hn => Nat.le_add_left_of_le (hle' n hn)⟩

theorem Bounds.option (h : c.Bounds f) : c.option.Bounds fun x => x.toList.flatMap f := by
  rintro (_ | x) bytes hwrite
  · obtain rfl : [0] = bytes := (Output.mk.inj hwrite).1
    exact ⟨Nat.one_pos, nofun⟩
  · obtain ⟨mark, own, hmark, hown, rfl⟩ := Output.append_eq_ofBytes hwrite
    obtain ⟨hpos, hle⟩ := h _ _ hown
    rw [List.length_append]
    exact ⟨by omega, fun n hn => Nat.le_add_left_of_le (hle n (by simpa using hn))⟩

/-- The members of a list take at least as many bytes as there are members. -/
theorem Bounds.ofList (h : c.Bounds f) : ∀ {xs : List α} {bytes : Bytes},
    Output.ofList c.write xs = .ofBytes bytes →
      xs.length ≤ bytes.length ∧ ∀ n ∈ xs.flatMap f, n ≤ bytes.length := by
  intro xs
  induction xs with
  | nil => exact fun _ => ⟨Nat.zero_le _, nofun⟩
  | cons x xs ih =>
    intro bytes hwrite
    obtain ⟨first, others, hfirst, hothers, rfl⟩ := Output.append_eq_ofBytes hwrite
    obtain ⟨hpos, hle⟩ := h _ _ hfirst
    obtain ⟨hlen, hle'⟩ := ih hothers
    rw [List.length_cons, List.length_append, List.flatMap_cons, List.forall_mem_append]
    exact ⟨by omega, fun n hn => Nat.le_add_right_of_le (hle n hn),
      fun n hn => Nat.le_add_left_of_le (hle' n hn)⟩

theorem Bounds.list (h : c.Bounds f) : c.list.Bounds fun xs => xs.length :: xs.flatMap f := by
  intro xs bytes hwrite
  obtain ⟨count, members, hcount, hmembers, rfl⟩ := Output.append_eq_ofBytes hwrite
  obtain rfl : varintBytes xs.length = count := (Output.mk.inj hcount).1
  have hpos := length_varintBytes_pos xs.length
  obtain ⟨hlen, hle⟩ := h.ofList hmembers
  rw [List.length_append, List.forall_mem_cons]
  exact ⟨by omega, by omega, fun n hn => Nat.le_add_left_of_le (hle n hn)⟩

end Codec

end Wire

/-! ### Fields -/

theorem PublicKey.codec_bounds : PublicKey.codec.Bounds fun _ => [] :=
  fun k => bounds_vector (n := 33) (by omega) k.bytes

theorem Asset.codec_bounds : Asset.codec.Bounds fun _ => [] := by
  intro a bytes hwrite
  simp only [codec] at hwrite
  split at hwrite
  · -- A name that does not fit its field is not written.
    exact absurd (Output.mk.inj hwrite).2 (by simp)
  · obtain ⟨number, name, hnumber, -, rfl⟩ := Output.append_eq_ofBytes hwrite
    obtain ⟨amount, places, hamount, -, rfl⟩ := Output.append_eq_ofBytes hnumber
    obtain ⟨hpos, -⟩ := bounds_i64 _ _ hamount
    rw [List.length_append, List.length_append]
    exact ⟨by omega, fun n hn => absurd hn List.not_mem_nil⟩

theorem Authority.codec_bounds : Authority.codec.Bounds Authority.counts := by
  have haccounts := (bounds_text.pair bounds_u16).list
  have hkeys := (PublicKey.codec_bounds.pair bounds_u16).list
  refine ((bounds_u32.pair (haccounts.pair hkeys)).via _ _).mono fun a n hn => ?_
  simp only [counts, List.mem_cons, List.mem_map] at hn
  rcases hn with rfl | rfl | ⟨p, hp, rfl⟩
  · simp
  · simp
  · simpa using .inr (.inl ⟨p.1, ⟨p.2, hp⟩, rfl⟩)

theorem Beneficiary.codec_bounds : Beneficiary.codec.Bounds Beneficiary.counts :=
  ((bounds_text.pair bounds_u16).via _ _).mono fun b => by simp [counts]

theorem Extension.codec_bounds : Extension.codec.Bounds fun _ => [] := by
  refine bounds_of_length Nat.one_pos ?_
  rintro ⟨⟩ bytes hwrite
  obtain rfl : varintBytes 0 = bytes := (Output.mk.inj hwrite).1
  rw [varintBytes_of_lt (by omega)]
  rfl

theorem ContentExtension.codec_bounds :
    ContentExtension.codec.Bounds ContentExtension.counts := by
  rintro ⟨list⟩ bytes hwrite
  obtain ⟨tag, body, -, hbody, rfl⟩ := Output.append_eq_ofBytes hwrite
  obtain ⟨hpos, hle⟩ := Beneficiary.codec_bounds.list _ _ hbody
  rw [List.length_append]
  exact ⟨by omega, fun n hn => Nat.le_add_left_of_le (hle n hn)⟩

theorem Part.filterMap_count?_map (ns : List Nat) :
    (ns.map Part.count).filterMap Part.count? = ns := by
  rw [List.filterMap_map]
  exact List.filterMap_some

/-- What is written for a value of any shape is as many bytes as each of its lengths. -/
theorem Shape.codec_bounds :
    (s : Shape) → s.codec.Bounds fun v => (s.parts v).filterMap Part.count?
  | text => bounds_text
  | asset => Asset.codec_bounds
  | timestamp => bounds_u32.via _ _
  | key => PublicKey.codec_bounds
  | u16 => bounds_u16
  | i16 => bounds_i16
  | u32 => bounds_u32
  | flag => bounds_flag
  | sequence => bounds_u64
  | authority => Authority.codec_bounds.mono fun a => by
    rw [parts, Part.filterMap_count?_map]
    exact List.Subset.refl _
  | beneficiary => Beneficiary.codec_bounds
  | extension => Extension.codec_bounds
  | contentExtension => ContentExtension.codec_bounds.mono fun e => by
    rw [parts, Part.filterMap_count?_map]
    exact List.Subset.refl _
  | list item => (codec_bounds item).list.mono fun xs => by
    simp [parts, List.filterMap_flatMap, Part.count?]
  | option item => (codec_bounds item).option.mono fun x => by
    simp [parts, List.filterMap_flatMap]

/-! ### Operations -/

mutual

/-- The lengths in a record are at most the number of bytes that are written for it. -/
theorem Record.count_le_of_write : {layout : Layout} → (r : Record layout) → ∀ ⦃bytes⦄,
    r.write = .ofBytes bytes → ∀ n, .count n ∈ r.parts → n ≤ bytes.length
  | _, .empty => fun _ _ _ hn => absurd hn List.not_mem_nil
  | _, @Record.field _ shape _ value rest => by
    intro bytes hwrite n hn
    obtain ⟨first, others, hfirst, hothers, rfl⟩ := Output.append_eq_ofBytes hwrite
    rw [List.length_append]
    rcases List.mem_append.mp hn with hn | hn
    · have hcount : n ∈ (shape.parts value).filterMap Part.count? :=
        List.mem_filterMap.mpr ⟨_, hn, rfl⟩
      exact Nat.le_add_right_of_le ((shape.codec_bounds _ _ hfirst).2 n hcount)
    · exact Nat.le_add_left_of_le (rest.count_le_of_write hothers n hn)
  | _, .operations ops rest => by
    intro bytes hwrite n hn
    obtain ⟨front, others, hfront, hothers, rfl⟩ := Output.append_eq_ofBytes hwrite
    obtain ⟨count, nested, -, hnested, rfl⟩ := Output.append_eq_ofBytes hfront
    obtain ⟨hlen, hle⟩ := Operation.count_le_of_writeList ops hnested
    simp only [Record.parts, List.mem_cons, List.mem_append] at hn
    simp only [List.length_append]
    rcases hn with hn | hn | hn
    · cases hn
      omega
    · exact Nat.le_add_right_of_le (Nat.le_add_left_of_le (hle n hn))
    · exact Nat.le_add_left_of_le (rest.count_le_of_write hothers n hn)

/-- Operations take at least one byte each, and the lengths in them are at most the number of bytes
that are written. -/
theorem Operation.count_le_of_writeList : (ops : List Operation) → ∀ ⦃bytes⦄,
    Operation.writeList ops = .ofBytes bytes →
      ops.length ≤ bytes.length ∧ ∀ n, .count n ∈ Operation.partsList ops → n ≤ bytes.length
  | [] => fun _ _ => ⟨Nat.zero_le _, fun _ hn => absurd hn List.not_mem_nil⟩
  | op :: ops => by
    intro bytes hwrite
    obtain ⟨first, others, hfirst, hothers, rfl⟩ := Output.append_eq_ofBytes hwrite
    obtain ⟨hpos, hle⟩ := op.count_le_of_write hfirst
    obtain ⟨hlen, hle'⟩ := Operation.count_le_of_writeList ops hothers
    rw [List.length_cons, List.length_append]
    refine ⟨by omega, fun n hn => ?_⟩
    rcases List.mem_append.mp hn with hn | hn
    · exact Nat.le_add_right_of_le (hle n hn)
    · exact Nat.le_add_left_of_le (hle' n hn)

/-- An operation takes at least one byte, and the lengths in it are at most the number of bytes that
are written for it. -/
theorem Operation.count_le_of_write : (op : Operation) → ∀ ⦃bytes⦄, op.write = .ofBytes bytes →
    0 < bytes.length ∧ ∀ n, .count n ∈ op.parts → n ≤ bytes.length
  | .known kind supported payload => by
    intro bytes hwrite
    obtain ⟨tag, fields, htag, hfields, rfl⟩ := Output.append_eq_ofBytes hwrite
    obtain rfl : varintBytes kind.tag = tag := (Output.mk.inj htag).1
    have hpos := length_varintBytes_pos kind.tag
    rw [List.length_append]
    refine ⟨by omega, fun n hn => ?_⟩
    rcases List.mem_cons.mp hn with hn | hn
    · cases hn
    · exact Nat.le_add_left_of_le (payload.count_le_of_write hfields n hn)
  | .unknown u => fun _ hwrite => absurd (Output.mk.inj hwrite).2 (by simp)

end

/-- **Operations.** What is written for an operation is at least one byte, and as many bytes as each
of the lengths at any depth of it. -/
theorem Operation.codec_bounds : Operation.codec.Bounds Operation.counts := by
  intro op bytes hwrite
  obtain ⟨hpos, hle⟩ := op.count_le_of_write hwrite
  exact ⟨hpos, fun n hn => hle n (mem_counts_iff.mp hn)⟩

end LedgerClient
