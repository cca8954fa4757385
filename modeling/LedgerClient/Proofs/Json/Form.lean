import Mathlib.Data.List.Forall2
import LedgerClient.Json.Form
import LedgerClient.Proofs.Json.Sorted
import LedgerClient.Proofs.Text.Blank
import LedgerClient.Proofs.Text.Numeral

/-!
# Forms read back what they write

A form *reads back* a value if what it writes for the value is read as the value, and a form
*yields* a property if every value that is read has it. Each way to make a form from others has one
lemma for either notion, so that the two are settled for a type by naming its parts.

Both notions speak of a function that tidies a JSON value on its way to the reader: what is written
is tidied before it is read back, and only tidied values are read at all.
-/

namespace LedgerClient.Json

variable {α β σ τ : Type} {tidy : Json → Json}

theorem bind_eq_ok_iff {ε : Type} {x : Except ε α} {f : α → Except ε β} {y : β} :
    (x >>= f) = .ok y ↔ ∃ a, x = .ok a ∧ f a = .ok y := by
  cases x with
  | error e => exact ⟨nofun, nofun⟩
  | ok a => exact ⟨fun h => ⟨a, rfl, h⟩, fun ⟨_, ha, h⟩ => Except.ok.inj ha ▸ h⟩

theorem bind_eq_error_iff {ε : Type} {x : Except ε α} {f : α → Except ε β} {e : ε} :
    (x >>= f) = .error e ↔ x = .error e ∨ ∃ a, x = .ok a ∧ f a = .error e := by
  cases x with
  | error e' => simp [Bind.bind, Except.bind]
  | ok a => simp [Bind.bind, Except.bind]

theorem map_eq_ok_iff {ε : Type} {x : Except ε α} {f : α → β} {y : β} :
    x.map f = .ok y ↔ ∃ a, x = .ok a ∧ f a = y := by
  cases x with
  | error e => exact ⟨nofun, nofun⟩
  | ok a => exact ⟨fun h => ⟨a, rfl, Except.ok.inj h⟩, fun ⟨_, ha, h⟩ => by rw [ha, ← h]; rfl⟩

theorem mapError_eq_ok_iff {ε ε' : Type} {x : Except ε α} {f : ε → ε'} {y : α} :
    x.mapError f = .ok y ↔ x = .ok y := by
  cases x with
  | error e => exact ⟨nofun, nofun⟩
  | ok a => exact ⟨fun h => congrArg _ (Except.ok.inj h), fun h => by rw [h]; rfl⟩

theorem mapError_eq_error_iff {ε ε' : Type} {x : Except ε α} {f : ε → ε'} {e' : ε'} :
    x.mapError f = .error e' ↔ ∃ e, x = .error e ∧ f e = e' := by
  cases x with
  | error e => exact ⟨fun h => ⟨e, rfl, Except.error.inj h⟩, fun ⟨_, he, h⟩ => by rw [he, ← h]; rfl⟩
  | ok a => exact ⟨nofun, nofun⟩

theorem toOption_eq_some_iff {ε : Type} {x : Except ε α} {y : α} :
    x.toOption = some y ↔ x = .ok y := by
  cases x with
  | error e => exact ⟨nofun, nofun⟩
  | ok a => exact ⟨fun h => congrArg _ (Option.some.inj h), fun h => by rw [h]; rfl⟩

namespace Form

/-- What is written for the value is read, once it is tidied, as the value. -/
def ReadsBack (f : Form α) (tidy : Json → Json) (x : α) : Prop :=
  f.read (tidy (f.write x)) = .ok x

/-- Whatever is read from a tidied value has the property. -/
def Yields (f : Form α) (tidy : Json → Json) (p : α → Prop) : Prop :=
  ∀ ⦃v x⦄, tidy v = v → f.read v = .ok x → p x

/-- Nothing is read from `null`. -/
def RejectsNull (f : Form α) : Prop :=
  ∀ x, f.read .null ≠ .ok x

/-! ### Basic forms -/

theorem readsBack_text (ht : IsTidying tidy) (s : String) : text.ReadsBack tidy s := by
  rw [ReadsBack, text, ht.str]

theorem readsBack_flag (ht : IsTidying tidy) (b : Bool) : flag.ReadsBack tidy b := by
  rw [ReadsBack, flag, ht.bool]

theorem readsBack_integer (ht : IsTidying tidy) {name : String} {toInt : α → Int} {ofInt : Int → α}
    {low high : Int} {x : α} (hrange : low ≤ toInt x ∧ toInt x < high) (hx : ofInt (toInt x) = x) :
    (integer name toInt ofInt low high).ReadsBack tidy x := by
  simp only [ReadsBack, integer, Json.int, ht.num, if_pos hrange, hx]

theorem readsBack_u16 (ht : IsTidying tidy) (n : UInt16) : u16.ReadsBack tidy n :=
  readsBack_integer ht ⟨Int.natCast_nonneg _, Int.ofNat_lt.mpr n.toNat_lt⟩
    (by rw [Int.toNat_natCast, UInt16.ofNat_toNat])

theorem readsBack_u32 (ht : IsTidying tidy) (n : UInt32) : u32.ReadsBack tidy n :=
  readsBack_integer ht ⟨Int.natCast_nonneg _, Int.ofNat_lt.mpr n.toNat_lt⟩
    (by rw [Int.toNat_natCast, UInt32.ofNat_toNat])

theorem readsBack_u64 (ht : IsTidying tidy) (n : UInt64) : u64.ReadsBack tidy n :=
  readsBack_integer ht ⟨Int.natCast_nonneg _, Int.ofNat_lt.mpr n.toNat_lt⟩
    (by rw [Int.toNat_natCast, UInt64.ofNat_toNat])

theorem readsBack_i16 (ht : IsTidying tidy) (n : Int16) : i16.ReadsBack tidy n :=
  readsBack_integer ht ⟨n.minValue_le_toInt, Int.lt_add_one_of_le n.toInt_le⟩ (Int16.ofInt_toInt n)

theorem readsBack_i64 (ht : IsTidying tidy) (n : Int64) : i64.ReadsBack tidy n :=
  readsBack_integer ht ⟨n.minValue_le_toInt, Int.lt_add_one_of_le n.toInt_le⟩ (Int64.ofInt_toInt n)

/-- A number in the range is read back, a large one from its digits. -/
theorem readsBack_flexible (ht : IsTidying tidy) {toInt : α → Int} {ofInt : Int → α}
    {low high : Int} {parse? : List Char → Option Int} {x : α}
    (hrange : low ≤ toInt x ∧ toInt x < high) (hx : ofInt (toInt x) = x)
    (hparse : smallLimit < (toInt x).natAbs → parse? (Numeral.ofInt (toInt x)) = some (toInt x)) :
    (flexible toInt ofInt low high parse?).ReadsBack tidy x := by
  by_cases hsmall : (toInt x).natAbs ≤ smallLimit
  · simp only [ReadsBack, flexible, if_pos hsmall, Json.int, ht.num, if_pos hrange, hx]
  · have htrim : trimBlank (Numeral.ofInt (toInt x)) = Numeral.ofInt (toInt x) :=
      trimBlank_of_forall fun _ => Numeral.isBlank_of_mem_ofInt
    simp only [ReadsBack, flexible, if_neg hsmall, ht.str, String.toList_ofList, htrim,
      hparse (Nat.lt_of_not_le hsmall), hx]

theorem readsBack_flexU64 (ht : IsTidying tidy) (n : UInt64) : flexU64.ReadsBack tidy n := by
  have hlt : n.toNat < UInt64.size := n.toNat_lt
  have hdigits : Numeral.ofInt n.toNat = Numeral.digits n.toNat := by
    rw [Numeral.ofInt, if_neg (by omega), Int.natAbs_natCast]
  refine readsBack_flexible ht ⟨Int.natCast_nonneg _, Int.ofNat_lt.mpr hlt⟩
    (by rw [Int.toNat_natCast, UInt64.ofNat_toNat]) fun _ => ?_
  rw [hdigits, Numeral.unsigned?_digits hlt]
  rfl

theorem readsBack_flexI64 (ht : IsTidying tidy) (n : Int64) : flexI64.ReadsBack tidy n :=
  readsBack_flexible ht ⟨n.minValue_le_toInt, Int.lt_add_one_of_le n.toInt_le⟩
    (Int64.ofInt_toInt n) fun _ => Numeral.signed?_ofInt n.le_toInt n.toInt_lt

theorem readsBack_ofText (ht : IsTidying tidy) {toText : α → String}
    {parse : String → Except Misfit α} {x : α} (h : parse (toText x) = .ok x) :
    (ofText toText parse).ReadsBack tidy x := by
  simp only [ReadsBack, ofText, ht.str, h]

theorem Yields.ofText {toText : α → String} {parse : String → Except Misfit α} {p : α → Prop}
    (h : ∀ s x, parse s = .ok x → p x) : (Form.ofText toText parse).Yields tidy p := by
  intro v x _ hread
  cases v with
  | str s => exact h s x hread
  | _ => cases hread

theorem Yields.imp {f : Form α} {p q : α → Prop} (h : f.Yields tidy p) (hpq : ∀ x, p x → q x) :
    f.Yields tidy q :=
  fun _ x hv hread => hpq x (h hv hread)

/-! ### Lists, options and pairs -/

/-- Values are read in turn exactly if each is read. -/
theorem readAll_eq_ok_iff {read : Json → Except Misfit α} {vs : List Json} {xs : List α} :
    readAll read vs = .ok xs ↔ List.Forall₂ (fun v x => read v = .ok x) vs xs := by
  induction vs generalizing xs with
  | nil =>
    rw [List.forall₂_nil_left_iff, readAll]
    exact ⟨fun h => (Except.ok.inj h).symm, fun h => congrArg _ h.symm⟩
  | cons v vs ih =>
    simp only [readAll, bind_eq_ok_iff, List.forall₂_cons_left_iff, ih]
    exact ⟨fun ⟨x, hx, ys, hys, h⟩ => ⟨x, ys, hx, hys, (Except.ok.inj h).symm⟩,
      fun ⟨x, ys, hx, hys, h⟩ => ⟨x, hx, ys, hys, congrArg _ h.symm⟩⟩

theorem ReadsBack.list (ht : IsTidying tidy) {f : Form α} {xs : List α}
    (h : ∀ x ∈ xs, f.ReadsBack tidy x) : f.list.ReadsBack tidy xs := by
  simp only [ReadsBack, Form.list, ht.arr, List.map_map, readAll_eq_ok_iff,
    List.forall₂_map_left_iff, List.forall₂_same]
  exact h

theorem Yields.list (ht : IsTidying tidy) {f : Form α} {p : α → Prop} (h : f.Yields tidy p) :
    f.list.Yields tidy fun xs => ∀ x ∈ xs, p x := by
  intro v xs hv hread x hx
  cases v with
  | arr vs =>
    -- The item is read from the value at its position.
    obtain ⟨i, hi, rfl⟩ := List.getElem_of_mem hx
    have hall := List.forall₂_iff_get.mp (readAll_eq_ok_iff.mp hread)
    have hlt : i < vs.length := hall.1 ▸ hi
    exact h (ht.item hv _ (List.getElem_mem hlt)) (hall.2 i hlt hi)
  | _ => cases hread

theorem ReadsBack.option (ht : IsTidying tidy) {f : Form α} (hnull : f.RejectsNull) :
    {x : Option α} → (∀ y ∈ x, f.ReadsBack tidy y) → f.option.ReadsBack tidy x
  | none, _ => by rw [ReadsBack, Form.option, ht.null]
  | some x, h => by
    have hx : f.read (tidy (f.write x)) = .ok x := h x rfl
    -- Were it written as `null`, nothing would be read from it.
    have hne : tidy (f.write x) ≠ .null := fun heq => hnull x (heq ▸ hx)
    simp only [ReadsBack, Form.option, hx]
    rfl

theorem Yields.option {f : Form α} {p : α → Prop} (h : f.Yields tidy p) :
    f.option.Yields tidy fun x => ∀ y ∈ x, p y := by
  intro v x hv hread y hy
  simp only [Form.option] at hread
  split at hread
  · cases hread
    cases hy
  · obtain ⟨z, hz, rfl⟩ := map_eq_ok_iff.mp hread
    obtain rfl : z = y := Option.some.inj hy
    exact h hv hz

theorem ReadsBack.pair (ht : IsTidying tidy) {f : Form α} {g : Form β} {x : α} {y : β}
    (hx : f.ReadsBack tidy x) (hy : g.ReadsBack tidy y) : (f.pair g).ReadsBack tidy (x, y) := by
  rw [ReadsBack] at hx hy
  simp only [ReadsBack, Form.pair, ht.arr, List.map_cons, List.map_nil, hx, hy]
  rfl

end Form

/-! ### Records -/

/-- From members that hold, tidied, what is written for the fields of the first value, the fields of
the second are read. -/
def Fields.ReadsBack (fs : Fields σ τ) (tidy : Json → Json) (s : σ) (t : τ) : Prop :=
  ∀ members : String → Option Json, (∀ m ∈ fs.write s, members m.1 = some (tidy m.2)) →
    fs.ofMembers members = .ok t

/-- Whatever is read from tidied members or items has the property, and the items that are left are
tidied. -/
structure Fields.Yields (fs : Fields σ τ) (tidy : Json → Json) (p : τ → Prop) : Prop where
  members {members : String → Option Json} {t : τ}
    (h : ∀ name v, members name = some v → tidy v = v) (hread : fs.ofMembers members = .ok t) : p t
  items {vs rest : List Json} {t : τ} (h : ∀ v ∈ vs, tidy v = v)
    (hread : fs.ofItems vs = .ok (t, rest)) : p t ∧ ∀ v ∈ rest, tidy v = v

theorem both_eq_ok_iff {x : Except RecordFault α} {y : Except RecordFault β} {p : α × β} :
    both x y = .ok p ↔ x = .ok p.1 ∧ y = .ok p.2 := by
  obtain ⟨a, b⟩ := p
  cases x <;> cases y <;> simp [both]

/-- A member that is there is read by its form. -/
theorem readMember_of_eq_some {name : String} {f : Form α} {presence : Presence α}
    {members : String → Option Json} {v : Json} (h : members name = some v) {x : α} :
    readMember name f.read presence members = .ok x ↔ f.read v = .ok x := by
  rw [readMember, h]
  exact mapError_eq_ok_iff

/-- What is read for a member comes from its form or stands for the absent member. -/
theorem of_readMember {name : String} {f : Form α} {presence : Presence α}
    {members : String → Option Json} {x : α}
    (h : readMember name f.read presence members = .ok x) :
    (∃ v, members name = some v ∧ f.read v = .ok x) ∨ presence.absentMember = some x := by
  rw [readMember] at h
  split at h
  · rename_i v hv
    exact .inl ⟨v, hv, mapError_eq_ok_iff.mp h⟩
  · rename_i y hy
    exact .inr (Except.ok.inj h ▸ hy)
  · cases h

/-- What is read for an item comes from its form or stands for the absent item. -/
theorem of_readItem {f : Form α} {presence : Presence α} {vs rest : List Json} {x : α}
    (h : readItem f.read presence vs = .ok (x, rest)) :
    (∃ v, vs = v :: rest ∧ f.read v = .ok x) ∨ (presence.absentItem = some x ∧ rest = []) := by
  cases vs with
  | cons v vs =>
    obtain ⟨y, hy, heq⟩ := map_eq_ok_iff.mp h
    obtain ⟨rfl, rfl⟩ := Prod.mk.inj heq
    exact .inl ⟨v, rfl, hy⟩
  | nil =>
    rw [readItem] at h
    split at h
    · rename_i y hy
      obtain ⟨rfl, rfl⟩ := Prod.mk.inj (Except.ok.inj h)
      exact .inr ⟨hy, rfl⟩
    · cases h

namespace Fields

theorem readsBack_start (mk : τ) (s : σ) : (start mk : Fields σ τ).ReadsBack tidy s mk :=
  fun _ _ => rfl

/-- With one more field that is there, a record is read exactly if the others and the field are. -/
theorem ofMembers_field_eq_ok_iff {fs : Fields σ (α → τ)} {name : String} {f : Form α}
    {get : σ → α} {presence : Presence α} {members : String → Option Json} {v : Json}
    (hv : members name = some v) {t : τ} :
    (fs.field name f get presence).ofMembers members = .ok t ↔
      ∃ g x, fs.ofMembers members = .ok g ∧ f.read v = .ok x ∧ g x = t := by
  simp only [Fields.field, map_eq_ok_iff, both_eq_ok_iff, readMember_of_eq_some hv, Prod.exists,
    and_assoc]

/-- With one more field that is read, be it from its member or as absent, more of a record is
read. -/
theorem ofMembers_field {fs : Fields σ (α → τ)} {name : String} {f : Form α} {get : σ → α}
    {presence : Presence α} {members : String → Option Json} {g : α → τ} {x : α}
    (hfs : fs.ofMembers members = .ok g) (hx : readMember name f.read presence members = .ok x) :
    (fs.field name f get presence).ofMembers members = .ok (g x) := by
  simp only [Fields.field, hfs, hx, both]
  rfl

theorem ReadsBack.field {fs : Fields σ (α → τ)} {name : String} {f : Form α} {get : σ → α}
    {presence : Presence α} {s : σ} {g : α → τ} (hfs : fs.ReadsBack tidy s g)
    (hf : f.ReadsBack tidy (get s)) :
    (fs.field name f get presence).ReadsBack tidy s (g (get s)) := by
  intro members hmembers
  simp only [Fields.field, List.forall_mem_append, List.forall_mem_singleton] at hmembers
  obtain ⟨hothers, hmember⟩ := hmembers
  exact (ofMembers_field_eq_ok_iff hmember).mpr ⟨g, get s, hfs members hothers, hf, rfl⟩

theorem yields_start {mk : τ} {p : τ → Prop} (h : p mk) :
    (start mk : Fields σ τ).Yields tidy p where
  members _ hread := Except.ok.inj hread ▸ h
  items hvs hread := by
    obtain ⟨rfl, rfl⟩ := Prod.mk.inj (Except.ok.inj hread)
    exact ⟨h, hvs⟩

theorem Yields.imp {fs : Fields σ τ} {p q : τ → Prop} (h : fs.Yields tidy p)
    (hpq : ∀ t, p t → q t) : fs.Yields tidy q where
  members hmembers hread := hpq _ (h.members hmembers hread)
  items hvs hread := (h.items hvs hread).imp_left (hpq _)

theorem Yields.field {fs : Fields σ (α → τ)} {name : String} {f : Form α} {get : σ → α}
    {presence : Presence α} {p : τ → Prop} {q : α → Prop}
    (hfs : fs.Yields tidy fun g => ∀ x, q x → p (g x)) (hf : f.Yields tidy q)
    (hmember : ∀ x ∈ presence.absentMember, q x) (hitem : ∀ x ∈ presence.absentItem, q x) :
    (fs.field name f get presence).Yields tidy p where
  members hmembers hread := by
    obtain ⟨⟨g, x⟩, hboth, rfl⟩ := map_eq_ok_iff.mp hread
    obtain ⟨hg, hx⟩ := both_eq_ok_iff.mp hboth
    refine hfs.members hmembers hg x ?_
    rcases of_readMember hx with ⟨v, hv, hreadv⟩ | habsent
    · exact hf (hmembers _ v hv) hreadv
    · exact hmember x habsent
  items hvs hread := by
    obtain ⟨⟨g, mid⟩, hg, hread⟩ := bind_eq_ok_iff.mp hread
    obtain ⟨⟨x, rest⟩, hx, heq⟩ := bind_eq_ok_iff.mp hread
    obtain ⟨rfl, rfl⟩ := Prod.mk.inj (Except.ok.inj heq)
    obtain ⟨hp, hmid⟩ := hfs.items hvs hg
    rcases of_readItem hx with ⟨v, rfl, hreadv⟩ | ⟨habsent, rfl⟩
    · obtain ⟨hv, hrest⟩ := List.forall_mem_cons.mp hmid
      exact ⟨hp x (hf hv hreadv), hrest⟩
    · exact ⟨hp x (hitem x habsent), by simp⟩

/-- A field that must be stated is read by its form. -/
theorem Yields.required {fs : Fields σ (α → τ)} {name : String} {f : Form α} {get : σ → α}
    {p : τ → Prop} {q : α → Prop} (hfs : fs.Yields tidy fun g => ∀ x, q x → p (g x))
    (hf : f.Yields tidy q) : (fs.field name f get).Yields tidy p :=
  hfs.field hf (fun _ h => nomatch h) fun _ h => nomatch h

end Fields

namespace Form

/-- A record is read from an object exactly if its fields are read from the members. -/
theorem read_record_obj_eq_ok_iff {fs : Fields α α} {ms : List (String × Json)} {x : α} :
    (record fs).read (.obj ms) = .ok x ↔ fs.ofMembers (find? ms) = .ok x := by
  simp only [record]
  exact mapError_eq_ok_iff

/-- A record whose fields have different names is read from members that hold, tidied, what is
written for the fields. -/
theorem exists_read_record (ht : IsTidying tidy) {fs : Fields α α} {x : α}
    (hnames : ((fs.write x).map Prod.fst).Nodup) :
    ∃ members : String → Option Json, (∀ m ∈ fs.write x, members m.1 = some (tidy m.2)) ∧
      ∀ y, (record fs).read (tidy ((record fs).write x)) = .ok y ↔
        fs.ofMembers members = .ok y := by
  obtain ⟨ms, htidy, hmembers⟩ := ht.obj (fs.write x)
  refine ⟨find? ms, hmembers hnames, fun y => ?_⟩
  rw [← read_record_obj_eq_ok_iff, ← htidy]
  rfl

theorem ReadsBack.record (ht : IsTidying tidy) {fs : Fields α α} {x : α}
    (h : fs.ReadsBack tidy x x) (hnames : ((fs.write x).map Prod.fst).Nodup) :
    (Form.record fs).ReadsBack tidy x := by
  obtain ⟨members, hmembers, hread⟩ := exists_read_record ht hnames
  exact (hread x).mpr (h members hmembers)

/-- The members of a tidied object are tidied. -/
theorem tidied_of_find? (ht : IsTidying tidy) {ms : List (String × Json)}
    (h : tidy (.obj ms) = .obj ms) {name : String} {v : Json} (hv : find? ms name = some v) :
    tidy v = v :=
  ht.member h _ (mem_of_find? hv)

theorem Yields.record (ht : IsTidying tidy) {fs : Fields α α} {p : α → Prop}
    (h : fs.Yields tidy p) : (Form.record fs).Yields tidy p := by
  intro v x hv hread
  cases v with
  | obj ms =>
    exact h.members (fun _ _ => tidied_of_find? ht hv) (mapError_eq_ok_iff.mp hread)
  | arr vs =>
    obtain ⟨⟨y, rest⟩, hy, hread⟩ := bind_eq_ok_iff.mp hread
    have hx : y = x := by
      dsimp only at hread
      split at hread
      · exact Except.ok.inj hread
      · cases hread
    exact hx ▸ (h.items (ht.item hv) hy).1
  | _ => cases hread

end Form

end LedgerClient.Json
