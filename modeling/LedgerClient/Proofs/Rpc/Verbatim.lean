import LedgerClient.Proofs.Rpc.Local
import LedgerClient.Sandbox.Script

/-!
# Nothing is changed on the way

What is called at a local node arrives there as it was called, and what the node answers comes back
as it was answered, whatever texts and names stand in it: a value that `FitsWithin` the envelope in
which it travels is printed and read on either way without being changed.

* `Answer.resolve_of_fits` is the way back: a result is returned, and a refusal fails the call with
  the code, the words and the details that the node states;
* `LocalNode.perform_invoke_verbatim` is a whole call. It depends on the time that the node takes: a
  call that is not answered in time fails, and the node notes nothing.

Details that are `null` are the only thing that does not come back: they are read as none, which is
what `Refusal.stated` says.
-/

namespace LedgerClient

open Json

namespace Json

/-- The value passes a reader unchanged that finds it within so many lists and objects: the members
of its objects are in order, its numbers are whole numbers of 64 bits, and it does not nest too
deep. -/
structure FitsWithin (v : Json) (levels : Nat) : Prop where
  /-- The members of its objects are in order. -/
  sorted : v.sorted = v
  /-- The numbers are whole numbers of 64 bits. -/
  whole : v.IsWhole
  /-- The value does not nest too deep. -/
  depth_le : v.depth + levels ≤ nestingLimit

/-- To say `null` and to say nothing is the same. -/
theorem unlessNull_getD_null (v : Option Json) :
    unlessNull (some (v.getD .null)) = unlessNull v := by
  cases v <;> rfl

end Json

namespace Rpc

/-! ### Calls -/

/-- The parameters of the call pass the reader of envelopes unchanged. -/
def Invocation.Fits (call : Invocation) : Prop :=
  ∀ p ∈ call.params, p.FitsWithin envelopeDepth

namespace Invocation.Fits

variable {call : Invocation}

theorem isReadable (h : call.Fits) : call.IsReadable where
  whole := isWholeItems_iff.mpr fun p hp => (h p hp).whole
  depth_le := by
    have hdepth : depthItems call.params ≤ nestingLimit - envelopeDepth :=
      depthItems_le_iff.mpr fun p hp => Nat.le_sub_of_add_le (h p hp).depth_le
    exact Nat.add_le_of_le_sub (by decide) hdepth

theorem sorted_eq (h : call.Fits) : call.sorted = call := by
  have hparams : sortedItems call.params = call.params := by
    rw [sortedItems_eq_map]
    exact (List.map_congr_left fun p hp => (h p hp).sorted).trans (List.map_id' _)
  rw [sorted, hparams]

end Invocation.Fits

/-! ### Refusals -/

namespace Refusal

/-- The levels of lists and objects of the envelope in which the details stand. -/
def envelopeDepth : Nat := 2

/-- The refusal as it is read: details that are `null` are none. -/
def stated (r : Refusal) : Refusal :=
  { r with data := unlessNull r.data }

/-- The details of the refusal pass the reader of envelopes unchanged. -/
def Fits (r : Refusal) : Prop :=
  ∀ v ∈ r.data, v.FitsWithin envelopeDepth

theorem form_write (r : Refusal) : form.write r =
    obj [("code", .int r.code.toInt), ("message", .str r.message),
      ("data", r.data.getD .null)] := by
  obtain ⟨code, message, data⟩ := r
  cases data <;> rfl

theorem Fits.getD {r : Refusal} (h : r.Fits) : (r.data.getD .null).FitsWithin envelopeDepth := by
  cases hdata : r.data with
  | none => exact ⟨rfl, trivial, by decide⟩
  | some v => exact h v hdata

/-- What is written for a refusal is read as what the refusal states. -/
theorem form_readsAs_sorted {r : Refusal} (h : r.Fits) :
    form.ReadsAs (some (form.write r).sorted) (some r.stated) := by
  obtain ⟨ms, hsorted, hfind⟩ := isTidying_sorted.obj
    [("code", .int r.code.toInt), ("message", .str r.message), ("data", r.data.getD .null)]
  have hmembers := hfind (by simp)
  simp only [List.forall_mem_cons] at hmembers
  obtain ⟨hcode, hmessage, hdata, -⟩ := hmembers
  -- Details that are `null` are written like details that there are not, and both are read as none.
  have hreadCode : readMember "code" Form.i64.read .required (find? ms) = .ok r.code :=
    (readMember_of_eq_some hcode).mpr (Form.readsBack_i64 isTidying_sorted r.code)
  have hreadMessage : readMember "message" Form.text.read .required (find? ms) = .ok r.message :=
    (readMember_of_eq_some hmessage).mpr (Form.readsBack_text isTidying_sorted r.message)
  have hreadData : Form.any.ReadsAs (find? ms "data") (unlessNull r.data) := by
    rw [hdata, h.getD.sorted, Form.readsAs_any_iff, unlessNull_getD_null]
  have hread : form.read (.obj ms) = .ok r.stated :=
    Form.read_record_obj_eq_ok_iff.mpr (Fields.ofMembers_optional_eq_ok_iff.mpr
      ⟨_, _, Fields.ofMembers_field (Fields.ofMembers_field rfl hreadCode) hreadMessage,
        hreadData, rfl⟩)
  rw [form_write, hsorted, Form.readsAs_some_iff]
  exact map_eq_ok_iff.mpr ⟨_, hread, rfl⟩

/-- In order, the details stand before the words. -/
theorem form_write_sorted (r : Refusal) : (form.write r).sorted =
    obj [("code", .int r.code.toInt), ("data", (r.data.getD .null).sorted),
      ("message", .str r.message)] := by
  have hlast : ¬"message" < "code" := by decide
  have hbefore : "data" < "message" ∧ ¬"data" < "code" := by decide
  simp [form_write, sorted, sortedMembers, sortMembers, insertMember, hlast, hbefore, Json.int]

theorem Fits.isWhole_sorted {r : Refusal} (h : r.Fits) : (form.write r).sorted.IsWhole := by
  rw [form_write_sorted, h.getD.sorted]
  exact ⟨Form.writesWhole_i64 r.code, h.getD.whole, trivial, trivial⟩

/-- What is written for a refusal is read in full, as the part of an envelope that is asked for. -/
theorem evaluate_form_sorted {r : Refusal} (h : r.Fits) :
    (Document.ofJson (form.write r).sorted).evaluate (nestingLimit - 1)
      (.record [("code", .all), ("message", .all), ("data", .all)]) =
        some (form.write r).sorted := by
  have hwhole := h.isWhole_sorted
  have hdepth : (form.write r).sorted.depth ≤ nestingLimit - 1 := by
    have hle := h.getD.depth_le
    simp only [envelopeDepth, nestingLimit] at hle
    simp only [form_write_sorted, h.getD.sorted, depth, depthMembers, Json.int, nestingLimit]
    omega
  -- What travels is sorted already, so that sorting it on reading changes nothing.
  have hsorted := sorted_sorted (form.write r)
  rw [form_write_sorted] at hwhole hdepth hsorted ⊢
  exact (evaluate_record_ofJson (by simp) (by simp [List.lookup_cons]) hwhole hdepth).trans
    (congrArg some hsorted)

end Refusal

/-! ### Answers -/

namespace Answer

/-- What the node says passes the reader of envelopes unchanged. -/
def Fits : Answer → Prop
  | result v => v.FitsWithin 1
  | refusal r => r.Fits
  | raw _ => True

/-- What a call makes of an answer: it returns a result, fails over a refusal, and resolves a reply
that is sent as it is. -/
def outcome (id : UInt64) : Answer → Except Fault Json
  | result v => .ok v
  | refusal r => .error (.refused r.stated)
  | raw reply => reply.resolve id

/-- The envelope of a refusal has its members in order already. -/
theorem reply_refusal (id : Json) (r : Refusal) : (refusal r).reply id =
    .ok (obj [("error", (Refusal.form.write r).sorted), ("id", id.sorted),
      ("jsonrpc", .str "2.0")]).text := by
  have hnames : ["error", "id", "jsonrpc"].Pairwise (· < ·) := by decide
  have hsorted :
      (obj [("error", Refusal.form.write r), ("id", id), ("jsonrpc", .str "2.0")]).sorted =
        obj [("error", (Refusal.form.write r).sorted), ("id", id.sorted),
          ("jsonrpc", .str "2.0")] :=
    sorted_obj_of_names hnames
  exact congrArg (fun v => Reply.ok v.text) hsorted

/-- The members of the envelope of a refusal that a caller asks for are read from its text. -/
theorem exists_evaluate?_refusal {r : Refusal} (h : r.Fits) (id : UInt64) :
    ∃ vs, evaluate? Response.demand ((refusal r).reply (.nat id.toNat)).body = some (.obj vs) ∧
      find? vs "id" = some (.nat id.toNat) ∧ find? vs "result" = none ∧
      find? vs "error" = some (Refusal.form.write r).sorted := by
  have hid : (Json.nat id.toNat).IsWhole := isWhole_nat id.toNat_lt
  have hwhole : (Refusal.form.write r).sorted.IsWhole := h.isWhole_sorted
  have hvalues : ∀ m ∈ [("error", (Refusal.form.write r).sorted), ("id", Json.nat id.toNat),
      ("jsonrpc", .str "2.0")], ∀ inner ∈ [("id", Demand.all), ("result", .all),
        ("error", .record [("code", .all), ("message", .all), ("data", .all)])].lookup m.1,
          (Document.ofJson m.2).evaluate (nestingLimit - 1) inner = some m.2.sorted := by
    have hevaluateId := (evaluate_ofJson _ hid (nestingLimit - 1)).trans (if_pos (Nat.zero_le _))
    have hevaluateError := Refusal.evaluate_form_sorted h
    simp [hevaluateId, hevaluateError, List.lookup_cons, sorted_sorted]
  obtain ⟨vs, hvs, hfind⟩ :=
    exists_evaluate?_text (by simp) (by simp [hid, hwhole, IsWhole]) hvalues
  refine ⟨vs, ?_, (hfind "id").trans rfl, (hfind "result").trans rfl, ?_⟩
  · rw [reply_refusal]
    exact hvs
  · exact (hfind "error").trans (congrArg some (sorted_sorted _))

/-- The caller takes the refusal that is answered under the number of the call. -/
theorem resolve_refusal {r : Refusal} (h : r.Fits) (id : UInt64) :
    ((refusal r).reply (.nat id.toNat)).resolve id = .error (.refused r.stated) := by
  obtain ⟨vs, hvs, hid, hresult, herror⟩ := exists_evaluate?_refusal h id
  have hstated : Response.IsStatedBy ⟨some (.nat id.toNat), none, some r.stated⟩ (.obj vs) := by
    refine .object vs ?_ ?_ ?_
    · rw [hid]
      rfl
    · rw [hresult]
      rfl
    · rw [herror]
      exact Refusal.form_readsAs_sorted h
  have hblank : ¬((refusal r).reply (.nat id.toNat)).IsBlank := by
    rw [reply_refusal]
    exact Reply.not_isBlank_object _ _
  exact Reply.resolve_eq_error_iff.mpr
    (.refused _ r.stated ⟨rfl, hblank, _, hvs, hstated⟩ rfl)

/-- An answer that passes the reader of envelopes comes back as it was given. -/
theorem resolve_of_fits {answer : Answer} (h : answer.Fits) (id : UInt64) :
    (answer.reply (.nat id.toNat)).resolve id = answer.outcome id := by
  cases answer with
  | result v =>
    have hreadable : IsReadable v := ⟨h.whole, h.depth_le⟩
    rw [resolve_result hreadable, h.sorted]
    rfl
  | refusal r => exact resolve_refusal h id
  | raw reply => rfl

end Answer

/-! ### A call and its answer -/

section Answered

variable {σ : Type} {n : LocalNode σ} {c : Connection (LocalNetwork σ)} {call : Invocation}

/-- A call that is not answered in time does not reach the node. -/
theorem LocalNode.perform_invoke_of_lt (htransport : c.transport = n.transport)
    (hcall : call.IsReadable)
    (hdelay : c.config.timeout.milliseconds < n.delay.milliseconds) :
    c.perform (.invoke call) =
      (.error (.network (.timeout call.method c.config.timeout)),
        { c with ids := c.ids.take.2 }) := by
  -- The text is a call, so the node is on its way to answer when the time has run out.
  have hwait : (c.delivery call).wait = n.delay := by
    rw [Connection.delivery, htransport, LocalNode.transport, Received.ofText_text hcall]
  have hposted : (c.delivery call).posted = c.network := by
    rw [Connection.delivery, htransport, LocalNode.transport, Received.ofText_text hcall]
  rw [Connection.perform_invoke_of_lt (hwait ▸ hdelay), hposted]

/-- **Calls of a local node.** A node that takes no longer than a call may take receives and notes
exactly the call that is made, under the number that the call has taken, and what it answers is what
the call makes of the answer. A call of a slower node fails, and the node notes nothing.

A node that takes exactly as long as a call may take is in time: whoever waits looks for the answer
first and at the clock only if there is none, so that of two that are due at once the answer counts.
-/
theorem LocalNode.perform_invoke_verbatim (htransport : c.transport = n.transport)
    (hcall : call.Fits) {answer : Answer} {node : σ}
    (hanswer : n.answer ⟨.nat c.ids.take.1.toNat, call⟩ c.network.node = (answer, node))
    (hfits : answer.Fits) :
    (n.delay.milliseconds ≤ c.config.timeout.milliseconds →
      c.perform (.invoke call) = (answer.outcome c.ids.take.1,
        { c with
          ids := c.ids.take.2
          network := ⟨node, c.network.calls ++ [⟨.nat c.ids.take.1.toNat, call⟩]⟩ })) ∧
    (c.config.timeout.milliseconds < n.delay.milliseconds →
      c.perform (.invoke call) =
        (.error (.network (.timeout call.method c.config.timeout)),
          { c with ids := c.ids.take.2 })) := by
  refine ⟨fun hdelay => ?_, LocalNode.perform_invoke_of_lt htransport hcall.isReadable⟩
  -- The node reads the call with its members sorted, which is the call itself.
  have hserves : n.Serves c := ⟨htransport, hdelay⟩
  have hreceived : n.answer ⟨.nat c.ids.take.1.toNat, call.sorted⟩ c.network.node =
      (answer, node) := by
    rw [hcall.sorted_eq]
    exact hanswer
  rw [hserves.perform_invoke hcall.isReadable hreceived, Answer.resolve_of_fits hfits,
    Connection.served, hcall.sorted_eq]

end Answered

/-- A connection to a node that follows a script and takes some time, over which a call may take 20
milliseconds. -/
def Connection.scripted (script : Sandbox.Script) (delay : Duration) :
    Connection (LocalNetwork Sandbox.Script) :=
  .new { timeout := ⟨20⟩ } (Sandbox.Script.node delay).transport ⟨script, []⟩

/-- A value with a member without a name, with texts that are printed with escapes, and with the
least and the largest whole number. -/
def escapedValue : Json :=
  .obj [("", .null), ("\"\n", .arr [.int (-9223372036854775808), .nat 18446744073709551615]),
    ("\u00e9\u0001", .obj [("\\", .str "\u20ac/")])]

theorem fitsWithin_escapedValue {levels : Nat} (h : 2 + levels ≤ nestingLimit) :
    escapedValue.FitsWithin levels where
  sorted := by decide
  whole := by
    simp [escapedValue, IsWhole, IsWholeMembers, IsWholeItems, Number.IsWhole, Json.int, Json.nat]
  depth_le := by
    have hdepth : escapedValue.depth = 2 := by decide
    rw [hdepth]
    exact h

/-- A node that answers after five milliseconds returns such a value, and it refuses a call with the
value for details or with `null`; after 21 milliseconds it is too late. -/
theorem LocalNode.perform_invoke_verbatim_escapedValue :
    (∃ c, (Connection.scripted (.always escapedValue) ⟨5⟩).perform
        (.invoke ⟨"plugin", "method", [escapedValue]⟩) = (.ok escapedValue, c) ∧
      c.network.calls = [⟨.nat 1, ⟨"plugin", "method", [escapedValue]⟩⟩]) ∧
    ((Connection.scripted (.lines [.answer (.refusal ⟨-1, "no", some escapedValue⟩)]) ⟨5⟩).perform
      (.invoke ⟨"plugin", "method", []⟩)).1 = .error (.refused ⟨-1, "no", some escapedValue⟩) ∧
    ((Connection.scripted (.lines [.answer (.refusal ⟨-1, "no", some .null⟩)]) ⟨5⟩).perform
      (.invoke ⟨"plugin", "method", []⟩)).1 = .error (.refused ⟨-1, "no", none⟩) ∧
    ((Connection.scripted (.always escapedValue) ⟨21⟩).perform
      (.invoke ⟨"plugin", "method", []⟩)).1 = .error (.network (.timeout "method" ⟨20⟩)) := by
  have hcall : Invocation.Fits ⟨"plugin", "method", [escapedValue]⟩ :=
    List.forall_mem_singleton.mpr (fitsWithin_escapedValue (by decide))
  have hempty : Invocation.Fits ⟨"plugin", "method", []⟩ := nofun
  have hresult : (Answer.result escapedValue).Fits := fitsWithin_escapedValue (by decide)
  have hrefusal : (Answer.refusal ⟨-1, "no", some escapedValue⟩).Fits := by
    rintro v ⟨rfl⟩
    exact fitsWithin_escapedValue (by decide)
  have hnull : (Answer.refusal ⟨-1, "no", some .null⟩).Fits := by
    rintro v ⟨rfl⟩
    exact ⟨rfl, trivial, by decide⟩
  have hreturned := (LocalNode.perform_invoke_verbatim
    (c := .scripted (.always escapedValue) ⟨5⟩) rfl hcall rfl hresult).1 (by decide)
  have hrefused := (LocalNode.perform_invoke_verbatim
    (c := .scripted (.lines [.answer (.refusal ⟨-1, "no", some escapedValue⟩)]) ⟨5⟩)
    rfl hempty rfl hrefusal).1 (by decide)
  have hunexplained := (LocalNode.perform_invoke_verbatim
    (c := .scripted (.lines [.answer (.refusal ⟨-1, "no", some .null⟩)]) ⟨5⟩)
    rfl hempty rfl hnull).1 (by decide)
  have hlate := (LocalNode.perform_invoke_verbatim
    (c := .scripted (.always escapedValue) ⟨21⟩) rfl hempty rfl hresult).2 (by decide)
  exact ⟨⟨_, hreturned, rfl⟩, congrArg Prod.fst hrefused, congrArg Prod.fst hunexplained,
    congrArg Prod.fst hlate⟩

/-- A node that takes half a second would return 1 for a call with one text, but the call fails
after 20 milliseconds, and the node has noted nothing. -/
theorem LocalNode.perform_invoke_slow :
    Invocation.Fits ⟨"n", "m", [.str "x"]⟩ ∧ (Answer.result (.nat 1)).Fits ∧
    (Sandbox.Script.node ⟨500⟩).answer ⟨.nat 1, ⟨"n", "m", [.str "x"]⟩⟩ (.always (.nat 1)) =
      (.result (.nat 1), .always (.nat 1)) ∧
    ∃ c, (Connection.scripted (.always (.nat 1)) ⟨500⟩).perform
        (.invoke ⟨"n", "m", [.str "x"]⟩) = (.error (.network (.timeout "m" ⟨20⟩)), c) ∧
      c.network.calls = [] := by
  have hcall : Invocation.Fits ⟨"n", "m", [.str "x"]⟩ :=
    List.forall_mem_singleton.mpr ⟨rfl, trivial, by decide⟩
  have hresult : (Answer.result (.nat 1)).Fits := ⟨rfl, isWhole_nat (by decide), by decide⟩
  exact ⟨hcall, hresult, rfl, _, LocalNode.perform_invoke_of_lt (n := Sandbox.Script.node ⟨500⟩) rfl
    hcall.isReadable (by decide), rfl⟩

end Rpc

end LedgerClient
