import LedgerClient.Json.Form
import LedgerClient.Proofs.Json.Sorted

/-!
# Values without fractions

The only numbers that the forms of this library write are whole numbers of 64 bits, with or without
sign. A value whose numbers are all of this kind is *whole*; sorting keeps it so and does not make
it nest deeper. The basic forms write whole values, and the compound ones do if their parts do.
-/

namespace LedgerClient.Json

/-- The number is a whole number of 64 bits, with or without sign. -/
def Number.IsWhole : Number → Prop
  | .int i => -(UInt64.size / 2 : Nat) ≤ i ∧ i < UInt64.size
  | .real _ => False

mutual

/-- All numbers in the value are whole numbers of 64 bits, with or without sign. -/
def IsWhole : Json → Prop
  | .num n => n.IsWhole
  | .arr xs => IsWholeItems xs
  | .obj ms => IsWholeMembers ms
  | _ => True

/-- All values of a list are whole. -/
def IsWholeItems : List Json → Prop
  | [] => True
  | x :: xs => x.IsWhole ∧ IsWholeItems xs

/-- The values of all members of a list are whole. -/
def IsWholeMembers : List (String × Json) → Prop
  | [] => True
  | (_, v) :: ms => v.IsWhole ∧ IsWholeMembers ms

end

theorem isWholeItems_iff {xs : List Json} : IsWholeItems xs ↔ ∀ x ∈ xs, x.IsWhole := by
  induction xs with
  | nil => simp [IsWholeItems]
  | cons x xs ih => rw [IsWholeItems, ih, List.forall_mem_cons]

theorem isWholeMembers_iff {ms : List (String × Json)} :
    IsWholeMembers ms ↔ ∀ m ∈ ms, m.2.IsWhole := by
  induction ms with
  | nil => simp [IsWholeMembers]
  | cons m ms ih => rw [IsWholeMembers, ih, List.forall_mem_cons]

theorem depthItems_le_iff {xs : List Json} {n : Nat} :
    depthItems xs ≤ n ↔ ∀ x ∈ xs, x.depth ≤ n := by
  induction xs with
  | nil => simp [depthItems]
  | cons x xs ih => rw [depthItems, Nat.max_le, ih, List.forall_mem_cons]

theorem depthMembers_le_iff {ms : List (String × Json)} {n : Nat} :
    depthMembers ms ≤ n ↔ ∀ m ∈ ms, m.2.depth ≤ n := by
  induction ms with
  | nil => simp [depthMembers]
  | cons m ms ih => rw [depthMembers, Nat.max_le, ih, List.forall_mem_cons]

/-! ### Sorting -/

mutual

/-- Sorting keeps a value whole. -/
theorem IsWhole.sorted : {v : Json} → v.IsWhole → v.sorted.IsWhole
  | .null, h | .bool _, h | .num _, h | .str _, h => h
  | .arr xs, h => by
    rw [Json.sorted]
    exact isWholeItems_sortedItems xs h
  | .obj ms, h => by
    rw [Json.sorted, IsWhole, isWholeMembers_iff]
    have hsorted := isWholeMembers_iff.mp (isWholeMembers_sortedMembers ms h)
    exact fun m hm => hsorted m ((isOrdered_sortMembers _).2 m hm)

theorem isWholeItems_sortedItems :
    (xs : List Json) → IsWholeItems xs → IsWholeItems (sortedItems xs)
  | [], _ => trivial
  | _ :: xs, ⟨hx, hxs⟩ => ⟨hx.sorted, isWholeItems_sortedItems xs hxs⟩

theorem isWholeMembers_sortedMembers :
    (ms : List (String × Json)) → IsWholeMembers ms → IsWholeMembers (sortedMembers ms)
  | [], _ => trivial
  | (_, _) :: ms, ⟨hv, hms⟩ => ⟨hv.sorted, isWholeMembers_sortedMembers ms hms⟩

end

mutual

/-- Sorting does not make a value nest deeper. -/
theorem depth_sorted_le : (v : Json) → v.sorted.depth ≤ v.depth
  | .null | .bool _ | .num _ | .str _ => Nat.le_refl _
  | .arr xs => by
    rw [sorted, depth, depth]
    exact Nat.succ_le_succ (depthItems_sortedItems_le xs)
  | .obj ms => by
    rw [sorted, depth, depth]
    have hsorted := depthMembers_le_iff.mp (depthMembers_sortedMembers_le ms)
    exact Nat.succ_le_succ (depthMembers_le_iff.mpr fun m hm =>
      hsorted m ((isOrdered_sortMembers _).2 m hm))

theorem depthItems_sortedItems_le :
    (xs : List Json) → depthItems (sortedItems xs) ≤ depthItems xs
  | [] => Nat.le_refl _
  | x :: xs => by
    have hx := depth_sorted_le x
    have hxs := depthItems_sortedItems_le xs
    rw [sortedItems, depthItems, depthItems]
    omega

theorem depthMembers_sortedMembers_le :
    (ms : List (String × Json)) → depthMembers (sortedMembers ms) ≤ depthMembers ms
  | [] => Nat.le_refl _
  | (_, v) :: ms => by
    have hv := depth_sorted_le v
    have hms := depthMembers_sortedMembers_le ms
    rw [sortedMembers, depthMembers, depthMembers]
    omega

end

/-! ### What forms write -/

theorem isWhole_nat {n : Nat} (h : n < UInt64.size) : (nat n).IsWhole := by
  refine ⟨?_, Int.ofNat_lt.mpr h⟩
  have hn : (0 : Int) ≤ n := Int.natCast_nonneg n
  omega

namespace Form

variable {α β : Type}

/-- What is written for the value is whole. -/
def WritesWhole (f : Form α) (x : α) : Prop :=
  (f.write x).IsWhole

theorem writesWhole_u16 (n : UInt16) : u16.WritesWhole n :=
  isWhole_nat (Nat.lt_trans n.toNat_lt (by decide))

theorem writesWhole_u32 (n : UInt32) : u32.WritesWhole n :=
  isWhole_nat (Nat.lt_trans n.toNat_lt (by decide))

theorem writesWhole_i16 (n : Int16) : i16.WritesWhole n := by
  have hlow : -2 ^ 15 ≤ n.toInt := n.le_toInt
  have hhigh : n.toInt < 2 ^ 15 := n.toInt_lt
  exact ⟨Int.le_trans (by decide) hlow, Int.lt_trans hhigh (by decide)⟩

theorem writesWhole_i64 (n : Int64) : i64.WritesWhole n := by
  have hlow : -2 ^ 63 ≤ n.toInt := n.le_toInt
  have hhigh : n.toInt < 2 ^ 63 := n.toInt_lt
  exact ⟨Int.le_trans (by decide) hlow, Int.lt_trans hhigh (by decide)⟩

theorem writesWhole_flexU64 (n : UInt64) : flexU64.WritesWhole n := by
  show IsWhole (if _ then _ else _)
  split
  · exact isWhole_nat n.toNat_lt
  · trivial

/-- A text is written for every value of a type that is written as a text. -/
theorem writesWhole_ofText {toText : α → String} {parse : String → Except Misfit α} (x : α) :
    (ofText toText parse).WritesWhole x := trivial

theorem WritesWhole.list {f : Form α} {xs : List α} (h : ∀ x ∈ xs, f.WritesWhole x) :
    f.list.WritesWhole xs := by
  refine isWholeItems_iff.mpr fun v hv => ?_
  obtain ⟨x, hx, rfl⟩ := List.mem_map.mp hv
  exact h x hx

theorem WritesWhole.option {f : Form α} {x : Option α} (h : ∀ y ∈ x, f.WritesWhole y) :
    f.option.WritesWhole x := by
  cases x with
  | none => trivial
  | some y => exact h y rfl

theorem WritesWhole.pair {f : Form α} {g : Form β} {p : α × β} (hf : f.WritesWhole p.1)
    (hg : g.WritesWhole p.2) : (f.pair g).WritesWhole p :=
  ⟨hf, hg, trivial⟩

end Form

namespace Fields

variable {σ τ α : Type}

/-- What the description of fields writes is whole. -/
def WritesWhole (fs : Fields σ τ) (s : σ) : Prop :=
  ∀ m ∈ fs.write s, m.2.IsWhole

theorem writesWhole_start (mk : τ) (s : σ) : (start mk : Fields σ τ).WritesWhole s :=
  fun _ hm => nomatch hm

/-- With one more field, what is written is whole if the field is. -/
theorem WritesWhole.field {fs : Fields σ (α → τ)} {s : σ} (h : fs.WritesWhole s) {name : String}
    {f : Form α} {get : σ → α} {presence : Presence α} (hf : f.WritesWhole (get s)) :
    (fs.field name f get presence).WritesWhole s :=
  List.forall_mem_append.mpr ⟨h, List.forall_mem_singleton.mpr hf⟩

/-- A record is whole if its fields are. -/
theorem WritesWhole.record {fs : Fields α α} {x : α} (h : fs.WritesWhole x) :
    (Form.record fs).WritesWhole x :=
  isWholeMembers_iff.mpr h

end Fields

end LedgerClient.Json
