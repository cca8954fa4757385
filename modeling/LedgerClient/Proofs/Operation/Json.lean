import LedgerClient.Proofs.Asset.Text
import LedgerClient.Proofs.Json.Form
import LedgerClient.Proofs.Key.Text
import LedgerClient.Proofs.Operation.Depth
import LedgerClient.Proofs.Operation.Wire
import LedgerClient.Proofs.Timestamp.Text

/-!
# Operations are read back from JSON

The JSON form carries every operation of a known kind whose amounts their text carries, and every
unknown one that was found in JSON, with proposals nested to any depth (`Operation.form_readsBack`);
and it yields no others (`Operation.form_yields`).

The layouts are treated as on the wire: a record is read back because every shape of field is, and
because no two of its fields have the same name. The one thing that `null` could confuse, an absent
value of a shape that is itself written as `null`, occurs in no layout (`Kind.isPlain_layout`).
-/

namespace LedgerClient

open Json Json.Form

variable {tidy : Json → Json}

/-! ### Text-safe operations -/

/-- An unknown operation that JSON holds: it was named by a text or by a number, neither of which
leads to a kind with a payload, and has no bytes. -/
inductive UnknownOperation.IsTextSafe : UnknownOperation → Prop
  /-- It was named by a text. -/
  | named {name : String} {body : Json} (h : ∀ k ∈ Kind.ofName? name, k.isReserved = true) :
    IsTextSafe ⟨none, some name, [], body⟩
  /-- It was named by a number. -/
  | numbered {id : UInt64} {body : Json} (h : ∀ k ∈ Kind.ofTag? id.toNat, k.isReserved = true) :
    IsTextSafe ⟨some id, none, [], body⟩

/-- The text of the part carries it, if it is an amount, and JSON holds it with a tidied payload, if
it is an unknown operation. -/
def Part.IsTextSafe (tidy : Json → Json) : Part → Prop
  | operation (.unknown u) => u.IsTextSafe ∧ tidy u.body = u.body
  | asset a => a.IsTextSafe
  | _ => True

/-- At any depth, every amount is carried by its text and every unknown operation is one that JSON
holds. -/
structure Operation.IsTextSafe (op : Operation) : Prop where
  /-- Every amount is carried by its text. -/
  assets : ∀ a ∈ op.assets, a.IsTextSafe
  /-- Every unknown operation is one that JSON holds. -/
  unknown : ∀ u, .unknown u ∈ op.within → u.IsTextSafe

/-- At any depth, the payloads of unknown operations are tidied. -/
def Operation.IsTidied (tidy : Json → Json) (op : Operation) : Prop :=
  ∀ u, .unknown u ∈ op.within → tidy u.body = u.body

theorem Operation.forall_parts_isTextSafe_iff {op : Operation} :
    (∀ p ∈ op.parts, p.IsTextSafe tidy) ↔ op.IsTextSafe ∧ op.IsTidied tidy := by
  constructor
  · intro h
    exact ⟨⟨fun a ha => h _ (mem_assets_iff.mp ha), fun u hu => (h _ (mem_within_iff.mp hu)).1⟩,
      fun u hu => (h _ (mem_within_iff.mp hu)).2⟩
  · rintro ⟨⟨hassets, hunknown⟩, htidied⟩ p hp
    match p with
    | .operation (.unknown u) =>
      exact ⟨hunknown u (mem_within_iff.mpr hp), htidied u (mem_within_iff.mpr hp)⟩
    | .operation (.known _ _ _) | .count _ => trivial
    | .asset a => exact hassets a (mem_assets_iff.mpr hp)

/-! ### Amounts, times, keys and authorities -/

theorem Asset.form_readsBack (ht : IsTidying tidy) {a : Asset} (h : a.IsTextSafe) :
    Asset.form.ReadsBack tidy a :=
  readsBack_ofText ht (mapError_eq_ok_iff.mpr h.ofText_text)

theorem Asset.form_yields : Asset.form.Yields tidy Asset.IsTextSafe :=
  Yields.ofText fun _ _ h => isTextSafe_of_ofText (mapError_eq_ok_iff.mp h)

theorem Timestamp.form_readsBack (ht : IsTidying tidy) (t : Timestamp) :
    Timestamp.form.ReadsBack tidy t :=
  readsBack_ofText ht (mapError_eq_ok_iff.mpr t.ofText_text)

theorem PublicKey.form_readsBack (ht : IsTidying tidy) (k : PublicKey) :
    PublicKey.form.ReadsBack tidy k :=
  readsBack_ofText ht (mapError_eq_ok_iff.mpr k.ofText_text)

theorem Signature.form_readsBack (ht : IsTidying tidy) (s : Signature) :
    Signature.form.ReadsBack tidy s :=
  readsBack_ofText ht (mapError_eq_ok_iff.mpr s.ofText_text)

theorem Identifier.form_readsBack (ht : IsTidying tidy) {n : Named} (i : Identifier n) :
    Identifier.form.ReadsBack tidy i :=
  readsBack_ofText ht (mapError_eq_ok_iff.mpr i.ofText_text)

theorem Authority.form_readsBack (ht : IsTidying tidy) (a : Authority) :
    Authority.form.ReadsBack tidy a := by
  have haccounts : (Form.text.pair .u16).list.ReadsBack tidy a.accounts :=
    .list ht fun p _ => (readsBack_text ht p.1).pair ht (readsBack_u16 ht p.2)
  have hkeys : (PublicKey.form.pair .u16).list.ReadsBack tidy a.keys :=
    .list ht fun p _ => (PublicKey.form_readsBack ht p.1).pair ht (readsBack_u16 ht p.2)
  refine ReadsBack.record ht ((((Fields.readsBack_start mk a).field
    (readsBack_u32 ht a.threshold)).field haccounts).field hkeys) ?_
  show ["weight_threshold", "account_auths", "key_auths"].Nodup
  decide

theorem Beneficiary.form_readsBack (ht : IsTidying tidy) (b : Beneficiary) :
    Beneficiary.form.ReadsBack tidy b := by
  refine ReadsBack.record ht (((Fields.readsBack_start mk b).field
    (readsBack_text ht b.account)).field (readsBack_u16 ht b.weight)) ?_
  show ["account", "weight"].Nodup
  decide

theorem Extension.form_readsBack (ht : IsTidying tidy) : (e : Extension) →
    Extension.form.ReadsBack tidy e
  | void => by
    have htag : Form.u64.read (tidy (.nat 0)) = .ok 0 := readsBack_u64 ht 0
    simp only [ReadsBack, Extension.form, ht.arr, List.map_cons, List.map_nil, Form.pair, htag]
    rfl

theorem ContentExtension.form_readsBack (ht : IsTidying tidy) : (e : ContentExtension) →
    ContentExtension.form.ReadsBack tidy e
  | beneficiaries list => by
    have htag : Form.u64.read (tidy (.nat 0)) = .ok 0 := readsBack_u64 ht 0
    have hlist : Beneficiary.form.list.ReadsBack tidy list :=
      .list ht fun b _ => b.form_readsBack ht
    have hbody : bodyForm.ReadsBack tidy list :=
      .record ht ((Fields.readsBack_start id list).field hlist) (List.nodup_singleton _)
    rw [ReadsBack] at hbody
    simp only [ReadsBack, ContentExtension.form, ht.arr, List.map_cons, List.map_nil, htag]
    simp only [bind, Except.bind, ContentExtension.readBody, hbody]
    rfl

/-! ### Fields -/

namespace Shape

/-- A value of the shape may be absent. -/
def isOption : Shape → Bool
  | option _ => true
  | _ => false

/-- Nothing that may be absent is in turn a value that may be absent. -/
def isPlain : Shape → Bool
  | option item => !item.isOption && item.isPlain
  | list item => item.isPlain
  | _ => true

/-- A value that may not be absent is not written as `null`. -/
theorem form_rejectsNull {s : Shape} (h : s.isOption = false) : s.form.RejectsNull := by
  intro x hx
  cases s with
  | option item => cases h
  | _ => cases hx

/-- A value of any plain shape with text-safe parts is read back. -/
theorem form_readsBack (ht : IsTidying tidy) : (s : Shape) → s.isPlain = true → (v : s.Carrier) →
    (∀ p ∈ s.parts v, p.IsTextSafe tidy) → s.form.ReadsBack tidy v
  | text, _, t, _ => readsBack_text ht t
  | asset, _, _, h => Asset.form_readsBack ht (h _ List.mem_cons_self)
  | timestamp, _, t, _ => t.form_readsBack ht
  | key, _, k, _ => k.form_readsBack ht
  | u16, _, x, _ => readsBack_u16 ht x
  | i16, _, x, _ => readsBack_i16 ht x
  | u32, _, x, _ => readsBack_u32 ht x
  | flag, _, b, _ => readsBack_flag ht b
  | sequence, _, x, _ => readsBack_flexU64 ht x
  | authority, _, a, _ => a.form_readsBack ht
  | beneficiary, _, b, _ => b.form_readsBack ht
  | extension, _, e, _ => e.form_readsBack ht
  | contentExtension, _, e, _ => e.form_readsBack ht
  | list item, hplain, xs, h => by
    simp only [parts, List.forall_mem_cons, List.forall_mem_flatMap] at h
    exact ReadsBack.list ht fun x hx => form_readsBack ht item hplain x (h.2 x hx)
  | option item, hplain, x, h => by
    simp only [parts, List.forall_mem_flatMap, Option.mem_toList] at h
    obtain ⟨hsolid, hitem⟩ : item.isOption = false ∧ item.isPlain = true := by
      simpa [isPlain] using hplain
    exact ReadsBack.option ht (form_rejectsNull hsolid) fun y hy =>
      form_readsBack ht item hitem y (h y hy)

/-- The parts of a value of any shape that is read are text-safe. -/
theorem form_yields (ht : IsTidying tidy) : (s : Shape) →
    s.form.Yields tidy fun v => ∀ p ∈ s.parts v, p.IsTextSafe tidy
  | text => fun _ _ _ _ => by simp [parts, Part.IsTextSafe]
  | asset => Asset.form_yields.imp fun a h => by simpa [parts, Part.IsTextSafe] using h
  | timestamp | key | u16 | i16 | u32 | flag | sequence | extension => fun _ _ _ _ => by
    simp [parts]
  | authority | beneficiary | contentExtension => fun _ _ _ _ => by simp [parts, Part.IsTextSafe]
  | list item => ((form_yields ht item).list ht).imp fun xs h => by
    simpa only [parts, List.forall_mem_cons, List.forall_mem_flatMap, Part.IsTextSafe, true_and]
      using h
  | option item => (form_yields ht item).option.imp fun x h => by
    simpa only [parts, List.forall_mem_flatMap, Option.mem_toList, Option.mem_def] using h

/-- What stands for an absent field has no parts. -/
theorem parts_of_absent : {s : Shape} → ∀ x ∈ s.presence.absentMember, s.parts x = []
  | option _, _, rfl => rfl

end Shape

/-! ### Layouts -/

/-- The name of a field. -/
def Entry.name : Entry → String
  | field name _ => name
  | operations name => name

/-- The shapes of all fields are plain. -/
def Layout.isPlain : Layout → Bool
  | [] => true
  | .field _ shape :: layout => shape.isPlain && Layout.isPlain layout
  | .operations _ :: layout => Layout.isPlain layout

theorem Kind.isPlain_layout (k : Kind) : Layout.isPlain k.layout = true := by
  cases k <;> rfl

/-- No two fields of a kind have the same name. -/
theorem Kind.nodup_layout (k : Kind) : (k.layout.map Entry.name).Nodup := by
  cases k <;> decide

/-- The name of a kind leads back to the kind. -/
theorem Kind.ofName?_name (k : Kind) : ofName? k.name = some k :=
  have hall : ∀ k ∈ all, ofName? k.name = some k := by decide +kernel
  hall k k.mem_all

/-- The members of a record have the names of its fields. -/
theorem Record.map_fst_members {layout : Layout} (r : Record layout) :
    r.members.map Prod.fst = layout.map Entry.name := by
  cases r with
  | empty => rfl
  | field value rest | operations ops rest =>
    rw [Record.members, List.map_cons, List.map_cons, rest.map_fst_members]
    rfl

/-! ### Pairs under an unknown tag -/

namespace Operation

/-- A payload under a tag that leads to no kind with a payload is kept as it is. -/
theorem readTagged_of_isReserved {nested : Json → Except Misfit Operation} {kind : Option Kind}
    (h : ∀ k ∈ kind, k.isReserved = true) (id : Option UInt64) (name : Option String)
    (body : Json) : readTagged nested kind id name body = .ok (.unknown ⟨id, name, [], body⟩) := by
  cases kind with
  | none => rfl
  | some kind =>
    have hreserved : ¬kind.isReserved = false := by rw [h kind rfl]; decide
    rw [readTagged, dif_neg hreserved]

theorem ofJson_named {name : String} (h : ∀ k ∈ Kind.ofName? name, k.isReserved = true)
    (body : Json) :
    ofJson (.arr [.str name, body]) = .ok (.unknown ⟨none, some name, [], body⟩) := by
  rw [ofJson_pair]
  exact readTagged_of_isReserved h none (some name) body

theorem ofJson_numbered {id : UInt64} (h : ∀ k ∈ Kind.ofTag? id.toNat, k.isReserved = true)
    (body : Json) :
    ofJson (.arr [.nat id.toNat, body]) = .ok (.unknown ⟨some id, none, [], body⟩) := by
  have hrange : (0 : Int) ≤ id.toNat ∧ (id.toNat : Int) < UInt64.size :=
    ⟨Int.natCast_nonneg _, Int.ofNat_lt.mpr id.toNat_lt⟩
  rw [ofJson_pair, Json.nat, ofPair, if_pos hrange, Int.toNat_natCast, UInt64.ofNat_toNat]
  exact readTagged_of_isReserved h (some id) none body

/-! ### Reading back -/

theorem wrapAll_eq_map (ops : List Operation) : wrapAll ops = ops.map wrappedForm.write := by
  induction ops with
  | nil => rfl
  | cons op ops ih =>
    rw [wrapAll, ih]
    rfl

theorem readWrappedList_ofJson : readWrappedList ofJson = wrappedForm.list.read := by
  funext v
  cases v <;> rfl

/-- An operation is read back within an object if it is read back. -/
theorem wrappedForm_readsBack (ht : IsTidying tidy) {op : Operation} (h : form.ReadsBack tidy op) :
    wrappedForm.ReadsBack tidy op :=
  .record ht ((Fields.readsBack_start id op).field h) (List.nodup_singleton _)

end Operation

mutual

/-- A record with text-safe parts is read from tidied members. -/
theorem Record.ofMembers_members (ht : IsTidying tidy) : {layout : Layout} → (r : Record layout) →
    Layout.isPlain layout = true → (∀ p ∈ r.parts, p.IsTextSafe tidy) →
    ∀ members : String → Option Json, (∀ m ∈ r.members, members m.1 = some (tidy m.2)) →
      Record.ofMembers Operation.ofJson layout members = .ok r
  | _, .empty, _, _, _, _ => rfl
  | _, @Record.field name shape _ value rest, hplain, h, members, hmembers => by
    simp only [Record.parts, List.forall_mem_append] at h
    simp only [Record.members, List.forall_mem_cons] at hmembers
    obtain ⟨hshape, hlayout⟩ := Bool.and_eq_true_iff.mp hplain
    have hvalue : readMember name shape.form.read shape.presence members = .ok value :=
      (readMember_of_eq_some hmembers.1).mpr (shape.form_readsBack ht hshape value h.1)
    have hrest := rest.ofMembers_members ht hlayout h.2 members hmembers.2
    rw [Record.ofMembers, hvalue, hrest]
    rfl
  | _, @Record.operations name _ ops rest, hplain, h, members, hmembers => by
    simp only [Record.parts, List.forall_mem_cons, List.forall_mem_append] at h
    simp only [Record.members, Operation.wrapAll_eq_map, List.forall_mem_cons] at hmembers
    have hlist : Operation.wrappedForm.list.ReadsBack tidy ops := .list ht fun op hop =>
      Operation.wrappedForm_readsBack ht (Operation.readsBack_of_mem ht ops h.2.1 op hop)
    have hops : readMember name Operation.wrappedForm.list.read .required members = .ok ops :=
      (readMember_of_eq_some hmembers.1).mpr hlist
    have hrest := rest.ofMembers_members ht hplain h.2.2 members hmembers.2
    rw [Record.ofMembers, Operation.readWrappedList_ofJson, hops, hrest]
    rfl

/-- Operations with text-safe parts are read back. -/
theorem Operation.readsBack_of_mem (ht : IsTidying tidy) : (ops : List Operation) →
    (∀ p ∈ Operation.partsList ops, p.IsTextSafe tidy) →
    ∀ op ∈ ops, Operation.form.ReadsBack tidy op
  | [], _, _, hop => nomatch hop
  | op :: ops, h, o, ho => by
    simp only [Operation.partsList, List.forall_mem_append] at h
    rcases List.mem_cons.mp ho with heq | ho
    · exact heq ▸ op.form_readsBack ht h.1
    · exact Operation.readsBack_of_mem ht ops h.2 o ho

/-- **Operations.** An operation with text-safe parts is read back. -/
theorem Operation.form_readsBack (ht : IsTidying tidy) : (op : Operation) →
    (∀ p ∈ op.parts, p.IsTextSafe tidy) → Operation.form.ReadsBack tidy op
  | .known kind supported payload, h => by
    simp only [Operation.parts, List.forall_mem_cons] at h
    -- Tidying may have moved the members, but no two have the same name, so that each is found.
    obtain ⟨ms, htidy, hmembers⟩ := ht.obj payload.members
    have hpayload := payload.ofMembers_members ht kind.isPlain_layout h.2 (find? ms)
      (hmembers (by rw [payload.map_fst_members]; exact kind.nodup_layout))
    simp only [ReadsBack, Operation.form, Operation.toJson, ht.arr, List.map_cons, List.map_nil,
      ht.str, Operation.ofJson_pair, Operation.ofPair, kind.ofName?_name, Operation.readTagged,
      dif_pos supported, Operation.readBody, htidy, Record.ofJson, hpayload]
    rfl
  | .unknown u, h => by
    obtain ⟨hsafe, hbody⟩ : u.IsTextSafe ∧ tidy u.body = u.body := h _ List.mem_cons_self
    cases hsafe with
    | @named name body hname =>
      have hread := Operation.ofJson_named hname body
      simpa only [ReadsBack, Operation.form, Operation.toJson, ht.arr, List.map_cons, List.map_nil,
        ht.str, hbody] using hread
    | @numbered id body hid =>
      have hread := Operation.ofJson_numbered hid body
      simpa only [ReadsBack, Operation.form, Operation.toJson, ht.arr, List.map_cons, List.map_nil,
        Json.nat, ht.num, hbody] using hread

end

/-! ### What is read -/

/-- All that a reader of operations gives is text-safe. -/
def YieldsTextSafe (tidy : Json → Json) (nested : Json → Except Misfit Operation) : Prop :=
  ∀ ⦃v op⦄, tidy v = v → nested v = .ok op → ∀ p ∈ op.parts, p.IsTextSafe tidy

section

variable {nested : Json → Except Misfit Operation}

theorem forall_partsList_of_readWrappedList (ht : IsTidying tidy)
    (hn : YieldsTextSafe tidy nested) {v : Json} {ops : List Operation} (hv : tidy v = v)
    (hread : readWrappedList nested v = .ok ops) :
    ∀ p ∈ Operation.partsList ops, p.IsTextSafe tidy := by
  let wrapped : Form Operation :=
    .record (Fields.start id |>.field "op" ⟨Operation.toJson, nested⟩ id)
  have hwrapped : wrapped.Yields tidy fun op => ∀ p ∈ op.parts, p.IsTextSafe tidy :=
    .record ht (.required (Fields.yields_start fun _ h => h) hn)
  have hlist : wrapped.list.read v = .ok ops := by
    cases v <;> exact hread
  rw [Operation.partsList_eq_flatMap, List.forall_mem_flatMap]
  exact hwrapped.list ht hv hlist

namespace Record

theorem forall_parts_of_ofMembers (ht : IsTidying tidy) (hn : YieldsTextSafe tidy nested)
    {members : String → Option Json} (hmembers : ∀ name v, members name = some v → tidy v = v) :
    {layout : Layout} → {r : Record layout} → ofMembers nested layout members = .ok r →
      ∀ p ∈ r.parts, p.IsTextSafe tidy
  | [], _, rfl => by simp [parts]
  | .field name shape :: layout, r, h => by
    obtain ⟨⟨value, rest⟩, hboth, rfl⟩ := map_eq_ok_iff.mp h
    obtain ⟨hvalue, hrest⟩ := both_eq_ok_iff.mp hboth
    rw [parts, List.forall_mem_append]
    refine ⟨?_, forall_parts_of_ofMembers ht hn hmembers hrest⟩
    rcases of_readMember hvalue with ⟨v, hv, hread⟩ | habsent
    · exact shape.form_yields ht (hmembers name v hv) hread
    · rw [Shape.parts_of_absent value habsent]
      simp
  | .operations name :: layout, r, h => by
    obtain ⟨⟨ops, rest⟩, hboth, rfl⟩ := map_eq_ok_iff.mp h
    obtain ⟨hops, hrest⟩ := both_eq_ok_iff.mp hboth
    rw [parts, List.forall_mem_cons, List.forall_mem_append]
    refine ⟨trivial, ?_, forall_parts_of_ofMembers ht hn hmembers hrest⟩
    -- Members are read by forms; of this one only the reader matters.
    rcases of_readMember (f := ⟨.arr ∘ Operation.wrapAll, readWrappedList nested⟩) hops with
      ⟨v, hv, hread⟩ | habsent
    · exact forall_partsList_of_readWrappedList ht hn (hmembers name v hv) hread
    · cases habsent

theorem forall_parts_of_ofItems (ht : IsTidying tidy) (hn : YieldsTextSafe tidy nested) :
    {layout : Layout} → {vs : List Json} → (∀ v ∈ vs, tidy v = v) → {r : Record layout} →
      ofItems nested layout vs = .ok r → ∀ p ∈ r.parts, p.IsTextSafe tidy
  | [], vs, _, r, h => by
    rw [ofItems] at h
    split at h <;> cases h
    simp [parts]
  | .field name shape :: layout, v :: vs, hvs, r, h => by
    obtain ⟨hv, hvs⟩ := List.forall_mem_cons.mp hvs
    obtain ⟨value, hvalue, h⟩ := bind_eq_ok_iff.mp h
    obtain ⟨rest, hrest, h⟩ := bind_eq_ok_iff.mp h
    obtain rfl : .field value rest = r := Except.ok.inj h
    rw [parts, List.forall_mem_append]
    exact ⟨shape.form_yields ht hv hvalue, forall_parts_of_ofItems ht hn hvs hrest⟩
  | .operations name :: layout, v :: vs, hvs, r, h => by
    obtain ⟨hv, hvs⟩ := List.forall_mem_cons.mp hvs
    obtain ⟨ops, hops, h⟩ := bind_eq_ok_iff.mp h
    obtain ⟨rest, hrest, h⟩ := bind_eq_ok_iff.mp h
    obtain rfl : .operations ops rest = r := Except.ok.inj h
    rw [parts, List.forall_mem_cons, List.forall_mem_append]
    exact ⟨trivial, forall_partsList_of_readWrappedList ht hn hv hops,
      forall_parts_of_ofItems ht hn hvs hrest⟩

theorem forall_parts_of_ofJson (ht : IsTidying tidy) (hn : YieldsTextSafe tidy nested)
    {layout : Layout} {v : Json} (hv : tidy v = v) {r : Record layout}
    (h : ofJson nested layout v = .ok r) : ∀ p ∈ r.parts, p.IsTextSafe tidy := by
  cases v with
  | obj ms =>
    exact forall_parts_of_ofMembers ht hn (fun _ _ => tidied_of_find? ht hv)
      (mapError_eq_ok_iff.mp h)
  | arr vs => exact forall_parts_of_ofItems ht hn (ht.item hv) h
  | _ => cases h

end Record

namespace Operation

/-- A tagged payload is read by the layout of the kind that its tag leads to, or kept as it is. -/
theorem of_readTagged {kind : Option Kind} {id : Option UInt64} {name : Option String}
    {body : Json} {op : Operation} (h : readTagged nested kind id name body = .ok op) :
    (∃ k supported payload, kind = some k ∧ Record.ofJson nested k.layout body = .ok payload ∧
      op = .known k supported payload) ∨
    ((∀ k ∈ kind, k.isReserved = true) ∧ op = .unknown ⟨id, name, [], body⟩) := by
  cases kind with
  | none => exact .inr ⟨nofun, (Except.ok.inj h).symm⟩
  | some k =>
    rw [readTagged] at h
    split at h
    · rename_i supported
      rw [readBody] at h
      split at h
      · rename_i payload hpayload
        exact .inl ⟨k, supported, payload, rfl, hpayload, (Except.ok.inj h).symm⟩
      · cases h
    · rename_i hreserved
      refine .inr ⟨fun l hl => ?_, (Except.ok.inj h).symm⟩
      rw [← Option.some.inj hl]
      simpa using hreserved

theorem forall_parts_of_readTagged (ht : IsTidying tidy) (hn : YieldsTextSafe tidy nested)
    {kind : Option Kind} {id : Option UInt64} {name : Option String} {body : Json}
    (hbody : tidy body = body)
    (hsafe : (∀ k ∈ kind, k.isReserved = true) →
      UnknownOperation.IsTextSafe ⟨id, name, [], body⟩)
    {op : Operation} (h : readTagged nested kind id name body = .ok op) :
    ∀ p ∈ op.parts, p.IsTextSafe tidy := by
  rcases of_readTagged h with ⟨k, supported, payload, -, hpayload, rfl⟩ | ⟨hreserved, rfl⟩
  · rw [parts, List.forall_mem_cons]
    exact ⟨trivial, Record.forall_parts_of_ofJson ht hn hbody hpayload⟩
  · rw [parts, List.forall_mem_singleton]
    exact ⟨hsafe hreserved, hbody⟩

theorem forall_parts_of_ofPair (ht : IsTidying tidy) (hn : YieldsTextSafe tidy nested)
    {tag body : Json} (hbody : tidy body = body) {op : Operation}
    (h : ofPair nested tag body = .ok op) : ∀ p ∈ op.parts, p.IsTextSafe tidy := by
  unfold ofPair at h
  split at h
  · exact forall_parts_of_readTagged ht hn hbody .named h
  · rename_i i
    split at h
    · rename_i hrange
      have hid : (UInt64.ofNat i.toNat).toNat = i.toNat :=
        UInt64.toNat_ofNat_of_lt (by omega)
      exact forall_parts_of_readTagged ht hn hbody (fun hk => .numbered (by rwa [hid])) h
    · cases h
  · cases h
  · cases h

theorem yieldsTextSafe_ofJsonAt (ht : IsTidying tidy) :
    (depth : Nat) → YieldsTextSafe tidy (ofJsonAt depth)
  | 0 => fun v op _ h => by cases v <;> cases h
  | depth + 1 => fun v op hv h => by
    match v with
    | .arr (tag :: body :: rest) =>
      obtain ⟨o, ho, h⟩ := bind_eq_ok_iff.mp h
      have heq : o = op := by
        split at h
        · exact Except.ok.inj h
        · cases h
      exact heq ▸ forall_parts_of_ofPair ht (yieldsTextSafe_ofJsonAt ht depth)
        (ht.item hv body (by simp)) ho
    | .arr [] | .arr [_] | .null | .bool _ | .num _ | .str _ | .obj _ => cases h

/-- **What is read.** Every operation that is read has text-safe parts. -/
theorem form_yields (ht : IsTidying tidy) :
    Operation.form.Yields tidy fun op => ∀ p ∈ op.parts, p.IsTextSafe tidy :=
  fun v _ hv h => yieldsTextSafe_ofJsonAt ht v.depth hv h

end Operation

end

end LedgerClient
