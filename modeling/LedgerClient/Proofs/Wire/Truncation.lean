import LedgerClient.Proofs.Wire.Reader

/-!
# Readers that notice where their input is cut off

`Reader.Delimits r used x` sharpens `Reader.Takes`: the reader takes exactly the bytes `used`,
whatever follows, and on every proper front part of them it reports that the input is truncated,
never another fault and never a value. Like `Takes` the relation composes along binds. A cut in the
first part is noticed by the first reader, and a cut behind it by the second.

Operations are read with a bound on their nesting that is the number of bytes at hand, so that a
reader of a front part is given a smaller bound. The relation is therefore stated for a family of
readers, one for each bound, and speaks of the bounds that are not below the length of the input. A
reader without a bound is a constant family.
-/

namespace LedgerClient.Wire

/-- The result says that fewer bytes remain than are needed. -/
def IsTruncated {α : Type} (result : Except Fault α) : Prop :=
  ∃ needed remaining, result = .error (.truncated needed remaining) ∧ remaining < needed

/-- A cut through two strings of bytes leaves all of the first and a part of the second, or loses
some bytes of the first. -/
theorem exists_of_append_eq_append {used more front back : Bytes}
    (h : used ++ more = front ++ back) :
    (∃ mid, front = used ++ mid ∧ more = mid ++ back) ∨ ∃ mid, mid ≠ [] ∧ used = front ++ mid := by
  rcases List.append_eq_append_iff.mp h with h | ⟨mid, hused, hback⟩
  · exact .inl h
  · cases mid with
    | nil => exact .inl ⟨[], by simpa using hused.symm, hback.symm⟩
    | cons b mid => exact .inr ⟨b :: mid, List.cons_ne_nil _ _, hused⟩

namespace Reader

variable {α β : Type}

@[simp]
theorem runOn_throw (fault : Fault) (bytes : Bytes) :
    runOn (throw fault : Reader α) bytes = (.error fault, bytes) := rfl

theorem isTruncated_runOn_bind {r : Reader α} {bytes : Bytes} (f : α → Reader β)
    (h : IsTruncated (r.runOn bytes).1) : IsTruncated (runOn (r >>= f) bytes).1 := by
  obtain ⟨needed, left, hresult, hlt⟩ := h
  refine ⟨needed, left, ?_, hlt⟩
  rw [runOn_bind]
  rcases hrun : r.runOn bytes with ⟨result, rest⟩
  rw [hrun] at hresult
  cases hresult
  rfl

/-- Each reader of the family takes exactly `used` and gives `x`, and finds a proper front part of
`used` truncated, if its bound is at least the number of these bytes. -/
structure Delimits (r : Nat → Reader α) (used : Bytes) (x : α) : Prop where
  /-- The bytes are taken, whatever follows them. -/
  takes : ∀ ⦃depth⦄, used.length ≤ depth → (r depth).Takes used x
  /-- Without the last of the bytes the input is truncated. -/
  truncated : ∀ ⦃depth front back⦄, used = front ++ back → back ≠ [] → front.length ≤ depth →
    IsTruncated ((r depth).runOn front).1

namespace Delimits

/-- A whole input that is cut off somewhere is truncated. -/
theorem isTruncated_readAll {r : Reader α} {bytes front back : Bytes} {x : α}
    (h : Delimits (fun _ => r) bytes x) (hbytes : bytes = front ++ back) (hback : back ≠ []) :
    IsTruncated (r.readAll front) :=
  isTruncated_runOn_bind _ (h.truncated hbytes hback (Nat.le_refl _))

theorem pure (x : α) : Delimits (fun _ => Pure.pure x) [] x where
  takes _ _ := takes_pure x
  truncated _ _ _ hused hback := absurd (List.append_eq_nil_iff.mp hused.symm).2 hback

/-- A cut through the bytes of two readers is a cut through the bytes of one of them. -/
theorem bind {r : Nat → Reader α} {f : Nat → α → Reader β} {used more : Bytes} {x : α} {y : β}
    (hr : Delimits r used x) (hf : Delimits (fun depth => f depth x) more y) :
    Delimits (fun depth => r depth >>= f depth) (used ++ more) y where
  takes depth hdepth := by
    rw [List.length_append] at hdepth
    exact (hr.takes (by omega)).bind (hf.takes (by omega))
  truncated depth front back hcut hback hdepth := by
    rcases exists_of_append_eq_append hcut with ⟨mid, rfl, hmore⟩ | ⟨mid, hmid, hused⟩
    · rw [List.length_append] at hdepth
      rw [runOn_bind_of_ok (hr.takes (by omega) mid)]
      exact hf.truncated hmore hback (by omega)
    · exact isTruncated_runOn_bind _ (hr.truncated hused hmid hdepth)

/-- A family of readers that read with a smaller bound after their first part: the first part takes
at least the byte by which the bound is smaller. -/
theorem nest {r : Reader α} {f : Nat → α → Reader β} {g : Nat → Reader β} {used more : Bytes}
    {x : α} {y : β} (hzero : IsTruncated ((g 0).runOn []).1)
    (hsucc : ∀ depth, g (depth + 1) = r >>= f depth)
    (hr : Delimits (fun _ => r) used x) (hused : 0 < used.length)
    (hf : Delimits (fun depth => f depth x) more y) : Delimits g (used ++ more) y where
  takes depth hdepth := by
    rw [List.length_append] at hdepth
    obtain ⟨depth, rfl⟩ : ∃ d, depth = d + 1 := ⟨depth - 1, by omega⟩
    rw [hsucc]
    exact (hr.takes (Nat.le_refl _)).bind (hf.takes (by omega))
  truncated depth front back hcut hback hdepth := by
    cases depth with
    | zero =>
      obtain rfl := List.length_eq_zero_iff.mp (Nat.le_zero.mp hdepth)
      exact hzero
    | succ depth =>
      rw [hsucc]
      rcases exists_of_append_eq_append hcut with ⟨mid, rfl, hmore⟩ | ⟨mid, hmid, hcut'⟩
      · rw [List.length_append] at hdepth
        rw [runOn_bind_of_ok (hr.takes (Nat.le_refl _) mid)]
        exact hf.truncated hmore hback (by omega)
      · exact isTruncated_runOn_bind _ (hr.truncated hcut' hmid (Nat.le_refl _))

theorem map {r : Nat → Reader α} {used : Bytes} {x : α} (h : Delimits r used x) (f : α → β) :
    Delimits (fun depth => r depth >>= fun a => Pure.pure (f a)) used (f x) := by
  simpa using h.bind (f := fun _ a => Pure.pure (f a)) (.pure (f x))

/-- A reader that is bounded by the bytes that remain. -/
theorem remaining_bind {r : Nat → Reader α} {used : Bytes} {x : α} (h : Delimits r used x) :
    Delimits (fun _ => remaining >>= r) used x where
  takes _ _ := takes_remaining_bind h.takes
  truncated _ front _ hused hback _ := by
    have hremaining : remaining.runOn front = (.ok front.length, front) := rfl
    rw [runOn_bind_of_ok hremaining]
    exact h.truncated hused hback (Nat.le_refl _)

theorem times_succ {r : Nat → Reader α} {n : Nat} {used more : Bytes} {x : α} {xs : List α}
    (hr : Delimits r used x) (hn : Delimits (fun depth => (r depth).times n) more xs) :
    Delimits (fun depth => (r depth).times (n + 1)) (used ++ more) (x :: xs) :=
  hr.bind (hn.map (List.cons x))

end Delimits

/-! ### Bytes and numbers -/

theorem delimits_byte (b : UInt8) : Delimits (fun _ => byte) [b] b where
  takes _ _ := takes_byte b
  truncated _ front back hused hback _ := by
    obtain rfl : front = [] := by
      cases back with
      | nil => exact absurd rfl hback
      | cons c back => cases front <;> simp_all
    exact ⟨1, 0, rfl, Nat.one_pos⟩

theorem delimits_take (used : Bytes) : Delimits (fun _ => take used.length) used used where
  takes _ _ := takes_take used
  truncated _ front back hused hback _ := by
    have hlt : front.length < used.length := by
      have := List.length_pos_iff.mpr hback
      rw [hused, List.length_append]
      omega
    refine ⟨used.length, front.length, ?_, hlt⟩
    rw [take, runOn_ofFun, if_neg (Nat.not_le.mpr hlt)]

theorem delimits_vector {n : Nat} (v : Vector UInt8 n) :
    Delimits (fun _ => vector n) v.toList v where
  takes _ _ := takes_vector v
  truncated _ _ _ hused hback hdepth := by
    have htake : Delimits (fun _ => take n) v.toList v.toList := by
      simpa using delimits_take v.toList
    exact isTruncated_runOn_bind _ (htake.truncated hused hback hdepth)

/-- A group without the mark ends the number. -/
theorem delimits_groups_last (left : Nat) {b : UInt8} (hb : b.toNat < 128)
    (hroom : left = 0 → b.toNat ≤ 1) :
    Delimits (fun _ => groups (left + 1)) [b] b.toNat where
  takes _ _ := takes_groups_last left hb hroom
  truncated _ _ _ hused hback hdepth :=
    isTruncated_runOn_bind _ ((delimits_byte b).truncated hused hback hdepth)

/-- A group with the mark is followed by the higher groups. -/
theorem delimits_groups_more {left : Nat} {b : UInt8} {used : Bytes} {high : Nat}
    (hb : 128 ≤ b.toNat) (hleft : left ≠ 0) (h : Delimits (fun _ => groups left) used high) :
    Delimits (fun _ => groups (left + 1)) (b :: used) (b.toNat % 128 + 128 * high) := by
  refine (delimits_byte b).bind ?_
  simpa only [hleft, false_and, if_false, if_neg (Nat.not_lt.mpr hb)] using
    h.map fun high => b.toNat % 128 + 128 * high

/-! ### Counts -/

/-- What follows a count is read if at least as many bytes remain as it announces. -/
theorem runOn_count_bind {n : Nat} {f : Nat → Reader α} {bytes rest : Bytes}
    (h : varint.runOn bytes = (.ok n, rest)) :
    runOn (count >>= f) bytes =
      if rest.length < n then (.error (.truncated n rest.length), rest) else (f n).runOn rest := by
  have hremaining : remaining.runOn rest = (.ok rest.length, rest) := rfl
  rw [count, runOn_bind, runOn_bind_of_ok h, runOn_bind_of_ok hremaining]
  by_cases hfew : rest.length < n
  · simp only [if_pos hfew, runOn_throw]
  · simp only [if_neg hfew, runOn_pure]

/-- A count whose things take at least as many bytes as it announces: a cut behind the count is
noticed by the count itself or by what reads the things. -/
theorem Delimits.count_bind {n : Nat} {f : Nat → Nat → Reader α} {used more : Bytes} {x : α}
    (hn : Delimits (fun _ => varint) used n) (hf : Delimits (fun depth => f depth n) more x)
    (hmore : n ≤ more.length) : Delimits (fun depth => count >>= f depth) (used ++ more) x where
  takes depth hdepth rest := by
    rw [List.length_append] at hdepth
    have henough : ¬(more ++ rest).length < n := by rw [List.length_append]; omega
    rw [List.append_assoc, runOn_count_bind (hn.takes (Nat.le_refl _) _), if_neg henough]
    exact hf.takes (by omega) rest
  truncated depth front back hcut hback hdepth := by
    rcases exists_of_append_eq_append hcut with ⟨mid, rfl, hmore'⟩ | ⟨mid, hmid, hused⟩
    · rw [List.length_append] at hdepth
      rw [runOn_count_bind (hn.takes (Nat.le_refl _) mid)]
      split
      · exact ⟨_, _, rfl, ‹_›⟩
      · exact hf.truncated hmore' hback (by omega)
    · exact isTruncated_runOn_bind _
        (isTruncated_runOn_bind _ (hn.truncated hused hmid (Nat.le_refl _)))

end Reader

end LedgerClient.Wire
