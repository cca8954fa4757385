import LedgerClient.Proofs.Operation.Resolved
import LedgerClient.Proofs.Wire.Separation

/-!
# What JSON transfers of the wire form

A value is *transferred* if the value that is read from its JSON form has the same wire form. An
operation is transferred exactly if all its amounts are readable, at any depth. One direction is
about the resolved operation, which shares both forms with it and is read back. For the other, a
value that is read from the JSON form of `x` and written anew is compared with `x` field by field:
`TransfersOnlyIf` is the notion that composes, because wire forms that agree as a whole agree in
each field.
-/

namespace LedgerClient

open Wire Wire.Codec Json Json.Form

variable {tidy : Json → Json}

/-! ### Transfers of compound values -/

namespace Wire.Output

theorem agreeOnlyIf_self (a : Output) {p : Prop} (hp : p) : a.AgreeOnlyIf a p := by
  rintro x y r s rfl hb heq
  obtain rfl : x = y := (Output.mk.inj hb).1
  exact ⟨hp, List.append_cancel_left heq⟩

/-- Lists agree only under what their members agree under, one by one. -/
theorem agreeOnlyIf_ofList_of_forall₂ {α : Type} {write : α → Output} {p : α → Prop}
    {xs ys : List α}
    (h : List.Forall₂ (fun x y => (write x).AgreeOnlyIf (write y) (p x)) xs ys) :
    (ofList write xs).AgreeOnlyIf (ofList write ys) (∀ x ∈ xs, p x) := by
  induction h with
  | nil => exact agreeOnlyIf_self _ (by simp)
  | cons hxy _ ih => exact (hxy.append fun _ => ih).imp fun h => List.forall_mem_cons.mpr h

end Wire.Output

section

variable {α : Type} {c : Codec α} {f : Form α}

/-- A value that is read from the JSON form of `x` has the wire form of `x` only if `p` holds. -/
def TransfersOnlyIf (c : Codec α) (f : Form α) (tidy : Json → Json) (x : α) (p : Prop) : Prop :=
  ∀ y, f.read (tidy (f.write x)) = .ok y → (c.write x).AgreeOnlyIf (c.write y) p

namespace TransfersOnlyIf

theorem imp {x : α} {p q : Prop} (h : TransfersOnlyIf c f tidy x p) (hpq : p → q) :
    TransfersOnlyIf c f tidy x q :=
  fun y hy => (h y hy).imp hpq

theorem of_readsBack {x : α} {p : Prop} (h : f.ReadsBack tidy x) (hp : p) :
    TransfersOnlyIf c f tidy x p := by
  intro y hy
  obtain rfl : x = y := Except.ok.inj (h.symm.trans hy)
  exact Output.agreeOnlyIf_self _ hp

theorem list (ht : IsTidying tidy) {p : α → Prop} (h : ∀ x, TransfersOnlyIf c f tidy x (p x))
    (xs : List α) : TransfersOnlyIf c.list f.list tidy xs (∀ x ∈ xs, p x) := by
  intro ys hys
  simp only [Form.list, ht.arr, List.map_map, readAll_eq_ok_iff, List.forall₂_map_left_iff] at hys
  have hitems := Output.agreeOnlyIf_ofList_of_forall₂ (hys.imp fun x y hy => h x y hy)
  exact ((Output.agreeOnlyIf_varintBytes xs.length ys.length).append fun _ => hitems).imp And.right

theorem option (ht : IsTidying tidy) {p : α → Prop} (h : ∀ x, TransfersOnlyIf c f tidy x (p x)) :
    (x : Option α) → TransfersOnlyIf c.option f.option tidy x (∀ y ∈ x, p y)
  | none => of_readsBack (by rw [ReadsBack, Form.option, ht.null]) nofun
  | some x => by
    intro y hy
    simp only [Form.option] at hy
    split at hy
    · -- A value that comes back as an absent one has another mark.
      obtain rfl : none = y := Except.ok.inj hy
      exact agreeOnlyIf_of_mark_ne (by decide) (c.write x) .empty _
    · obtain ⟨z, hz, rfl⟩ := map_eq_ok_iff.mp hy
      have hmark := Output.agreeOnlyIf_of_length (x := [1]) (y := [1]) rfl
      refine (hmark.append fun _ => h x z hz).imp fun hboth w hw => ?_
      rw [← Option.some.inj hw]
      exact hboth.2

end TransfersOnlyIf

end

/-! ### Fields -/

namespace Asset

/-- An amount that is read from the text of another and has its field for the name has its name. -/
theorem name_eq_of_paddedName {a b : Asset} (h : ofText a.text = .ok b)
    (hname : paddedName (Utf8.encode a.symbol.name) = paddedName (Utf8.encode b.symbol.name)) :
    a.symbol.name = b.symbol.name := by
  obtain ⟨hwords, hchars⟩ := name_of_ofText h
  have hb : 0 ∉ Utf8.encode b.symbol.name := fun hzero =>
    absurd (hchars _ (Utf8.zero_mem_of_mem_encode hzero)) (by decide)
  have ha : 0 ∉ Utf8.encode a.symbol.name := fun hzero => by
    -- A zero is no blank, so that it would be part of the word that was read.
    obtain ⟨w, hw, hmem⟩ := exists_mem_words (Utf8.zero_mem_of_mem_encode hzero) (by decide)
    rw [hwords, List.mem_singleton] at hw
    exact absurd (hchars _ (hw ▸ hmem)) (by decide)
  have hcut := congrArg (List.takeWhile (· ≠ 0)) hname
  rw [takeWhile_paddedName ha, takeWhile_paddedName hb] at hcut
  exact Utf8.encode_injective hcut

/-- **Amounts.** An amount is transferred only if it is readable. -/
theorem transfersOnlyIf (ht : IsTidying tidy) (a : Asset) :
    TransfersOnlyIf codec form tidy a a.IsReadable := by
  -- Both fields for the name have seven bytes, unless one of the names does not fit.
  intro b hb
  simp only [form, Form.ofText, ht.str, mapError_eq_ok_iff] at hb
  simp only [codec]
  split
  · exact Output.agreeOnlyIf_ofFault _ _ _
  · rename_i hfits
    split
    · exact (Output.agreeOnlyIf_ofFault _ _ _).symm
    · rename_i hfits'
      have hamount := (carries_i64 a.amount).separates (carries_i64 b.amount)
      have hplaces := (carries_u8 a.precision).separates (carries_u8 b.precision)
      have hlen := (length_paddedName (Nat.not_lt.mp hfits)).trans
        (length_paddedName (Nat.not_lt.mp hfits')).symm
      have hall := (hamount.append fun _ => hplaces).append fun _ =>
        Output.agreeOnlyIf_of_length hlen
      exact hall.imp fun h => isReadable_of_ofText hb (name_eq_of_paddedName hb h.2).symm

end Asset

/-- A value of any plain shape is transferred only if its amounts are readable. -/
theorem Shape.transfersOnlyIf (ht : IsTidying tidy) : (s : Shape) → s.isPlain = true →
    (v : s.Carrier) → TransfersOnlyIf s.codec s.form tidy v (∀ p ∈ s.parts v, p.IsReadable)
  | asset, _, a => (a.transfersOnlyIf ht).imp fun h => by simpa [parts, Part.IsReadable] using h
  | list item, hplain, xs => (TransfersOnlyIf.list ht (transfersOnlyIf ht item hplain) xs).imp
    fun h => by
      simpa only [parts, List.forall_mem_cons, List.forall_mem_flatMap, Part.IsReadable, true_and]
        using h
  | option item, hplain, x => by
    have hitem : item.isPlain = true := (Bool.and_eq_true_iff.mp hplain).2
    refine (TransfersOnlyIf.option ht (transfersOnlyIf ht item hitem) x).imp fun h => ?_
    simpa only [parts, List.forall_mem_flatMap, Option.mem_toList, Option.mem_def] using h
  | text, hplain, v | timestamp, hplain, v | key, hplain, v | u16, hplain, v | i16, hplain, v
  | u32, hplain, v | flag, hplain, v | sequence, hplain, v | authority, hplain, v
  | beneficiary, hplain, v | extension, hplain, v | contentExtension, hplain, v =>
    .of_readsBack (form_readsBack ht _ hplain v (by simp [parts, Part.IsTextSafe]))
      (by simp [parts, Part.IsReadable])

/-! ### Records and operations -/

/-- What is read for an operation within an object is read for the operation. -/
theorem Operation.of_read_wrappedForm (ht : IsTidying tidy) {op op' : Operation}
    (h : wrappedForm.read (tidy (wrappedForm.write op)) = .ok op') :
    form.read (tidy (form.write op)) = .ok op' := by
  have hnames : (((Fields.start id |>.field "op" form id : Fields Operation Operation).write
      op).map Prod.fst).Nodup := List.nodup_singleton _
  obtain ⟨members, hmembers, hread⟩ := exists_read_record ht hnames
  have hfield := (hread op').mp h
  rw [Fields.ofMembers_field_eq_ok_iff (hmembers _ List.mem_cons_self)] at hfield
  obtain ⟨g, x, hg, hx, rfl⟩ := hfield
  obtain rfl : id = g := Except.ok.inj hg
  exact hx

mutual

theorem Record.agreeOnlyIf_of_ofMembers (ht : IsTidying tidy) : {layout : Layout} →
    (r r' : Record layout) → Layout.isPlain layout = true → (members : String → Option Json) →
    (∀ m ∈ r.members, members m.1 = some (tidy m.2)) →
    Record.ofMembers Operation.ofJson layout members = .ok r' →
      r.write.AgreeOnlyIf r'.write (∀ p ∈ r.parts, p.IsReadable)
  | _, .empty, .empty, _, _, _, _ => Output.agreeOnlyIf_self _ (by simp [Record.parts])
  | _, @Record.field name shape _ value rest, r', hplain, members, hmembers, hread => by
    simp only [Record.members, List.forall_mem_cons] at hmembers
    obtain ⟨hshape, hlayout⟩ := Bool.and_eq_true_iff.mp hplain
    obtain ⟨⟨value', rest'⟩, hboth, rfl⟩ := map_eq_ok_iff.mp hread
    obtain ⟨hvalue, hrest⟩ := both_eq_ok_iff.mp hboth
    have hfirst := shape.transfersOnlyIf ht hshape value value'
      ((readMember_of_eq_some hmembers.1).mp hvalue)
    have hothers := rest.agreeOnlyIf_of_ofMembers ht rest' hlayout members hmembers.2 hrest
    exact (hfirst.append fun _ => hothers).imp fun h => by
      rwa [Record.parts, List.forall_mem_append]
  | _, @Record.operations name _ ops rest, r', hplain, members, hmembers, hread => by
    simp only [Record.members, Operation.wrapAll_eq_map, List.forall_mem_cons] at hmembers
    rw [Record.ofMembers, Operation.readWrappedList_ofJson] at hread
    obtain ⟨⟨ops', rest'⟩, hboth, rfl⟩ := map_eq_ok_iff.mp hread
    obtain ⟨hops, hrest⟩ := both_eq_ok_iff.mp hboth
    have hitems := (readMember_of_eq_some hmembers.1).mp hops
    simp only [Form.list, ht.arr, List.map_map, readAll_eq_ok_iff, List.forall₂_map_left_iff]
      at hitems
    have hcount := Output.agreeOnlyIf_varintBytes ops.length ops'.length
    have hlist := Operation.agreeOnlyIf_writeList ht ops ops'
      (hitems.imp fun _ _ => Operation.of_read_wrappedForm ht)
    have hothers := rest.agreeOnlyIf_of_ofMembers ht rest' hplain members hmembers.2 hrest
    exact ((hcount.append fun _ => hlist).append fun _ => hothers).imp fun h => by
      rw [Record.parts, List.forall_mem_cons, List.forall_mem_append]
      exact ⟨trivial, h.1.2, h.2⟩

theorem Operation.agreeOnlyIf_writeList (ht : IsTidying tidy) : (ops ops' : List Operation) →
    List.Forall₂ (fun op op' => Operation.form.read (tidy (Operation.form.write op)) = .ok op')
      ops ops' → (Operation.writeList ops).AgreeOnlyIf (Operation.writeList ops')
        (∀ p ∈ Operation.partsList ops, p.IsReadable)
  | [], _, .nil => Output.agreeOnlyIf_self _ (by simp [Operation.partsList])
  | op :: ops, op' :: ops', .cons hop hops => by
    have hfirst := op.transfersOnlyIf ht op' hop
    have hothers := Operation.agreeOnlyIf_writeList ht ops ops' hops
    exact (hfirst.append fun _ => hothers).imp fun h => by
      rwa [Operation.partsList, List.forall_mem_append]

/-- **Operations.** An operation is transferred only if its amounts are readable, at any depth. -/
theorem Operation.transfersOnlyIf (ht : IsTidying tidy) : (op : Operation) →
    TransfersOnlyIf Operation.codec Operation.form tidy op (∀ p ∈ op.parts, p.IsReadable)
  | .known kind supported payload, op', hread => by
    obtain ⟨ms, htidy, hmembers⟩ := ht.obj payload.members
    have hfound := hmembers (by rw [payload.map_fst_members]; exact kind.nodup_layout)
    simp only [Operation.form, Operation.toJson, ht.arr, List.map_cons, List.map_nil, ht.str,
      Operation.ofJson_pair, Operation.ofPair, kind.ofName?_name, htidy] at hread
    -- The name of the kind leads back to it, so that both payloads have one layout.
    rcases Operation.of_readTagged hread with ⟨k, supported', payload', hkind, hpayload, rfl⟩ |
      ⟨hreserved, -⟩
    · obtain rfl : kind = k := Option.some.inj hkind
      have hrecord := payload.agreeOnlyIf_of_ofMembers ht payload' kind.isPlain_layout (find? ms)
        hfound (mapError_eq_ok_iff.mp hpayload)
      have hkind := Output.agreeOnlyIf_varintBytes kind.tag kind.tag
      exact (hkind.append fun _ => hrecord).imp fun h => by
        rw [Operation.parts, List.forall_mem_cons]
        exact ⟨trivial, h.2⟩
    · rw [hreserved kind rfl] at supported
      cases supported
  | .unknown _, op', _ => Output.agreeOnlyIf_ofFault _ op'.write _

end

end LedgerClient
