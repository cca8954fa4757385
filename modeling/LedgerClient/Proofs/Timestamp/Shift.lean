import Mathlib.Algebra.Group.Nat.Defs
import LedgerClient.Timestamp.Basic

/-!
# Earlier and later times

A time is shifted by a number of seconds in two steps, each of which may fail: the number has to fit
32 bits, and so has the result. Together they say no more than that the result is a time
(`add?_eq_some_iff`, `sub?_eq_some_iff`), so that shifting one way and the other are opposites
(`sub?_eq_some_iff_add?`).
-/

namespace LedgerClient.Timestamp

variable {t t' : Timestamp} {seconds : Nat}

theorem shift?_eq_some_iff {shift : UInt32} :
    shift? seconds = some shift ↔ shift.toNat = seconds := by
  have hlt := shift.toNat_lt
  rw [shift?]
  constructor
  · intro h
    split at h
    · rename_i hfits
      obtain rfl := Option.some.inj h
      exact UInt32.toNat_ofNat_of_lt' hfits
    · cases h
  · rintro rfl
    rw [if_pos hlt, UInt32.ofNat_toNat]

/-- A time is found that many seconds later if the sum fits 32 bits. The number of seconds fits them
as well then, so the first of the two checks refuses nothing more. -/
theorem add?_eq_some_iff :
    t.add? seconds = some t' ↔ t.seconds.toNat + seconds < 2 ^ 32 ∧
      t'.seconds.toNat = t.seconds.toNat + seconds := by
  have hsize : UInt32.size = 2 ^ 32 := rfl
  rw [add?, Option.bind_eq_some_iff, hsize]
  constructor
  · rintro ⟨shift, hshift, h⟩
    rw [← shift?_eq_some_iff.mp hshift]
    split at h
    · rename_i hfits
      obtain rfl := Option.some.inj h
      exact ⟨hfits, (UInt32.toNat_add _ _).trans (Nat.mod_eq_of_lt hfits)⟩
    · cases h
  · rintro ⟨hfits, h⟩
    have hshift : (UInt32.ofNat seconds).toNat = seconds := UInt32.toNat_ofNat_of_lt (by omega)
    refine ⟨.ofNat seconds, shift?_eq_some_iff.mpr hshift, ?_⟩
    rw [hshift, if_pos hfits, Option.some_inj, mk.injEq, ← UInt32.toNat_inj, h,
      UInt32.toNat_add, hshift, Nat.mod_eq_of_lt hfits]

/-- A time is found that many seconds earlier if it is not before 1970. -/
theorem sub?_eq_some_iff :
    t.sub? seconds = some t' ↔ t'.seconds.toNat + seconds = t.seconds.toNat := by
  have hlt := t.seconds.toNat_lt
  have hsize : UInt32.size = 2 ^ 32 := rfl
  rw [sub?, Option.bind_eq_some_iff]
  constructor
  · rintro ⟨shift, hshift, h⟩
    rw [← shift?_eq_some_iff.mp hshift]
    split at h
    · rename_i hle
      obtain rfl := Option.some.inj h
      rw [UInt32.toNat_sub_of_le _ _ hle]
      exact Nat.sub_add_cancel (UInt32.le_iff_toNat_le.mp hle)
    · cases h
  · intro h
    have hshift : (UInt32.ofNat seconds).toNat = seconds := UInt32.toNat_ofNat_of_lt (by omega)
    have hle : UInt32.ofNat seconds ≤ t.seconds := UInt32.le_iff_toNat_le.mpr (by omega)
    refine ⟨.ofNat seconds, shift?_eq_some_iff.mpr hshift, ?_⟩
    rw [if_pos hle, Option.some_inj, mk.injEq, ← UInt32.toNat_inj, UInt32.toNat_sub_of_le _ _ hle,
      hshift]
    omega

/-- A time is later than another by a number of seconds if the other is earlier by it. -/
theorem sub?_eq_some_iff_add? : t'.sub? seconds = some t ↔ t.add? seconds = some t' := by
  have hlt := t'.seconds.toNat_lt
  rw [sub?_eq_some_iff, add?_eq_some_iff]
  omega

end LedgerClient.Timestamp
