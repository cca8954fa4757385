import LedgerClient.Proofs.Json.Text
import LedgerClient.Proofs.Rpc.Reply
import LedgerClient.Rpc.Local

/-!
# Calls of a local node

A call of a local node is printed and read twice: its envelope on the way out, and the envelope of
the answer on the way back. Neither changes more than the order of members, as long as the numbers
are whole numbers of 64 bits and nothing nests too deep once it stands in the envelope:

* `Received.ofText_text`: the node receives the call that was made, with its number;
* `Answer.resolve_result`: the caller takes the result that the node answers;
* `LocalNode.Serves.perform_call`: a request returns what it decodes of the result.
-/

namespace LedgerClient.Rpc

open Json

/-! ### The way out -/

namespace Invocation

/-- The call with the members of its parameters sorted, as it is read from its text. -/
def sorted (call : Invocation) : Invocation :=
  { call with params := sortedItems call.params }

/-- The levels of lists and objects of the envelope in which the parameters stand. -/
def envelopeDepth : Nat := 3

/-- The text of the call can be read: the numbers of the parameters are whole numbers of 64 bits,
and within the envelope they do not nest too deep. -/
structure IsReadable (call : Invocation) : Prop where
  /-- The numbers are whole numbers of 64 bits. -/
  whole : IsWholeItems call.params
  /-- The parameters do not nest too deep within the envelope. -/
  depth_le : depthItems call.params + envelopeDepth ≤ nestingLimit

/-- A call is read from its list of three items. -/
theorem form_read_sorted (call : Invocation) :
    form.read (form.write call).sorted = .ok call.sorted := by
  have hparams : Form.readAll Form.any.read (sortedItems call.params) =
      .ok (sortedItems call.params) :=
    Form.readAll_eq_ok_iff.mpr (List.forall₂_same.mpr fun _ _ => rfl)
  show form.read (.arr [.str call.plugin, .str call.method, .arr (sortedItems call.params)]) = _
  simp only [form, Form.list, hparams]
  rfl

end Invocation

/-- The members of the envelope that a node asks for are read from the text of the call. -/
theorem Invocation.exists_evaluate?_text {call : Invocation} (h : call.IsReadable) (id : UInt64) :
    ∃ vs, evaluate? (.record [("id", .all), ("params", .all)]) (call.text id) = some (.obj vs) ∧
      find? vs "id" = some (.nat id.toNat) ∧ find? vs "params" = some (form.write call).sorted := by
  have hid : (Json.nat id.toNat).IsWhole := isWhole_nat id.toNat_lt
  have hparams : (form.write call).IsWhole := ⟨trivial, trivial, h.whole, trivial⟩
  have hdepth : (form.write call).depth ≤ nestingLimit - 1 := by
    have hle := h.depth_le
    simp only [envelopeDepth, nestingLimit] at hle
    simp only [form, depth, depthItems, nestingLimit]
    omega
  -- The node asks for two of the four members and skips the others.
  have hvalues : ∀ m ∈ [("id", Json.nat id.toNat), ("jsonrpc", .str "2.0"), ("method", .str "call"),
      ("params", form.write call)], ∀ inner ∈ [("id", Demand.all), ("params", .all)].lookup m.1,
        (Document.ofJson m.2).evaluate (nestingLimit - 1) inner = some m.2.sorted := by
    have hevaluateId := (evaluate_ofJson _ hid (nestingLimit - 1)).trans (if_pos (Nat.zero_le _))
    have hevaluateParams := (evaluate_ofJson _ hparams (nestingLimit - 1)).trans (if_pos hdepth)
    simp [hevaluateId, hevaluateParams, List.lookup_cons]
  obtain ⟨vs, hvs, hfind⟩ :=
    Json.exists_evaluate?_text (by simp) (by simp [hid, hparams, IsWhole]) hvalues
  exact ⟨vs, hvs, (hfind "id").trans rfl, (hfind "params").trans rfl⟩

/-- What is posted for a call is received as the call, under its number. -/
theorem Received.ofText_text {call : Invocation} (h : call.IsReadable) (id : UInt64) :
    Received.ofText (call.text id) = .ok ⟨.nat id.toNat, call.sorted⟩ := by
  obtain ⟨vs, hvs, hid, hparams⟩ := Invocation.exists_evaluate?_text h id
  have hread : form.read (.obj vs) = .ok ⟨.nat id.toNat, call.sorted⟩ := by
    refine Form.read_record_obj_eq_ok_iff.mpr ?_
    refine Fields.ofMembers_field ?_ ((readMember_of_eq_some hparams).mpr call.form_read_sorted)
    exact Fields.ofMembers_field rfl ((readMember_of_eq_some hid).mpr rfl)
  rw [ofText, hvs, Option.bind_some, hread]
  rfl

/-! ### The way back -/

/-- The text of an object is not blank. -/
theorem Reply.not_isBlank_object (m : String × Json) (ms : List (String × Json)) :
    ¬(Reply.ok (obj (m :: ms)).text).IsBlank := by
  intro hblank
  have hbrace : '\x7b' ∈ (obj (m :: ms)).text.toList := by
    rw [Json.text, String.toList_ofList, chars]
    exact List.mem_cons_self
  exact absurd (hblank _ hbrace) (by decide)

namespace Answer

/-- A result that is answered can be read: its numbers are whole numbers of 64 bits, and within the
envelope of the reply it does not nest too deep. -/
structure IsReadable (value : Json) : Prop where
  /-- The numbers are whole numbers of 64 bits. -/
  whole : value.IsWhole
  /-- The result does not nest too deep within the envelope. -/
  depth_lt : value.depth < nestingLimit

/-- The envelope of a result has its members in order already. -/
theorem reply_result (id value : Json) : (result value).reply id =
    .ok (obj [("id", id.sorted), ("jsonrpc", .str "2.0"), ("result", value.sorted)]).text := by
  have hnames : ["id", "jsonrpc", "result"].Pairwise (· < ·) := by decide
  have hsorted : (obj [("id", id), ("jsonrpc", .str "2.0"), ("result", value)]).sorted =
      obj [("id", id.sorted), ("jsonrpc", .str "2.0"), ("result", value.sorted)] :=
    sorted_obj_of_names hnames
  exact congrArg (fun v => Reply.ok v.text) hsorted

/-- The members of the envelope that a caller asks for are read from its text. -/
theorem exists_evaluate?_reply {value : Json} (h : IsReadable value) (id : UInt64) :
    ∃ vs, evaluate? Response.demand ((result value).reply (.nat id.toNat)).body = some (.obj vs) ∧
      find? vs "id" = some (.nat id.toNat) ∧ find? vs "result" = some value.sorted ∧
      find? vs "error" = none := by
  have hid : (Json.nat id.toNat).IsWhole := isWhole_nat id.toNat_lt
  have hdepth : value.sorted.depth ≤ nestingLimit - 1 :=
    Nat.le_trans (depth_sorted_le value) (Nat.le_sub_one_of_lt h.depth_lt)
  have hvalues : ∀ m ∈ [("id", Json.nat id.toNat), ("jsonrpc", .str "2.0"),
      ("result", value.sorted)], ∀ inner ∈ [("id", Demand.all), ("result", .all),
        ("error", .record [("code", .all), ("message", .all), ("data", .all)])].lookup m.1,
          (Document.ofJson m.2).evaluate (nestingLimit - 1) inner = some m.2.sorted := by
    have hevaluateId := (evaluate_ofJson _ hid (nestingLimit - 1)).trans (if_pos (Nat.zero_le _))
    have hevaluateValue :=
      (evaluate_ofJson _ h.whole.sorted (nestingLimit - 1)).trans (if_pos hdepth)
    simp [hevaluateId, hevaluateValue, List.lookup_cons]
  obtain ⟨vs, hvs, hfind⟩ :=
    exists_evaluate?_text (by simp) (by simp [hid, h.whole.sorted, IsWhole]) hvalues
  refine ⟨vs, ?_, (hfind "id").trans rfl, ?_, (hfind "error").trans rfl⟩
  · rw [reply_result]
    exact hvs
  · exact (hfind "result").trans (congrArg some (sorted_sorted value))

/-- The caller takes the result that is answered under the number of the call. -/
theorem resolve_result {value : Json} (h : IsReadable value) (id : UInt64) :
    ((result value).reply (.nat id.toNat)).resolve id = .ok value.sorted := by
  obtain ⟨vs, hvs, hid, hresult, herror⟩ := exists_evaluate?_reply h id
  have hstated : Response.IsStatedBy ⟨some (.nat id.toNat), unlessNull (some value.sorted), none⟩
      (.obj vs) := by
    refine .object vs ?_ ?_ ?_
    · rw [hid]
      rfl
    · rw [hresult]
    · rw [herror]
      exact Form.readsAs_none_iff.mpr rfl
  have hblank : ¬((result value).reply (.nat id.toNat)).IsBlank := by
    rw [reply_result]
    exact Reply.not_isBlank_object _ _
  exact Reply.resolve_eq_ok_iff.mpr
    ⟨_, ⟨rfl, hblank, _, hvs, hstated⟩, rfl, .number rfl, unlessNull_getD _⟩

end Answer

/-! ### A call and its answer -/

section Served

variable {σ : Type} {n : LocalNode σ} {c : Connection (LocalNetwork σ)}

/-- The connection to a local node once the node has answered a call and is in a new state. -/
def Connection.served (c : Connection (LocalNetwork σ)) (call : Invocation) (node : σ) :
    Connection (LocalNetwork σ) :=
  { c with
    ids := c.ids.take.2
    network := ⟨node, c.network.calls ++ [⟨.nat c.ids.take.1.toNat, call.sorted⟩]⟩ }

/-- The connection leads to the local node, which answers in time. -/
structure LocalNode.Serves (n : LocalNode σ) (c : Connection (LocalNetwork σ)) : Prop where
  /-- The texts go to the node. -/
  transport : c.transport = n.transport
  /-- The node takes no longer than a call may take. -/
  delay_le : n.delay.milliseconds ≤ c.config.timeout.milliseconds

namespace LocalNode.Serves

/-- The node still serves a connection once it has answered a call. -/
theorem served (h : n.Serves c) (call : Invocation) (node : σ) : n.Serves (c.served call node) :=
  ⟨h.transport, h.delay_le⟩

/-- A call is answered by the node as it receives the call. -/
theorem perform_invoke (h : n.Serves c) {call : Invocation} (hcall : call.IsReadable)
    {answer : Answer} {node : σ}
    (hanswer : n.answer ⟨.nat c.ids.take.1.toNat, call.sorted⟩ c.network.node = (answer, node)) :
    c.perform (.invoke call) =
      ((answer.reply (.nat c.ids.take.1.toNat)).resolve c.ids.take.1, c.served call node) := by
  have hdelivery : c.delivery call = ⟨c.network, n.delay,
      .ok (answer.reply (.nat c.ids.take.1.toNat)), (c.served call node).network⟩ := by
    rw [Connection.delivery, h.transport, LocalNode.transport, Received.ofText_text hcall]
    simp only [hanswer, Connection.served]
  have hreceives : c.Receives call (answer.reply (.nat c.ids.take.1.toNat)) := by
    refine ⟨?_, ?_⟩
    · rw [hdelivery]
    · rw [hdelivery]
      exact h.delay_le
  rw [hreceives.perform_invoke, Connection.after, hdelivery]
  rfl

/-- **Requests of a local node.** A request decodes the result that the node answers. -/
theorem perform_call (h : n.Serves c) {r : Request} (hcall : r.invocation.IsReadable)
    {value : Json} (hvalue : Answer.IsReadable value) {node : σ}
    (hanswer : n.answer ⟨.nat c.ids.take.1.toNat, r.invocation.sorted⟩ c.network.node =
      (.result value, node)) :
    c.perform (.call r) = (r.decode value.sorted, c.served r.invocation node) := by
  rw [Action.call, Connection.perform_bind, h.perform_invoke hcall hanswer,
    Answer.resolve_result hvalue]
  exact Connection.perform_ofExcept _ _

end LocalNode.Serves

end Served

end LedgerClient.Rpc
