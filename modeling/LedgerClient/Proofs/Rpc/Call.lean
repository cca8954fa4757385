import LedgerClient.Rpc.Request

/-!
# How a call runs

A call takes a number, posts its envelope and makes something of the reply. What it makes of it is
the matter of other modules; this one says that all of the call but that is settled by the delivery:
`Connection.Receives.perform_invoke` and `Connection.Receives.perform_call` give the result of a
call whose reply comes in time, and the connection after it, whatever the reply is worth.
-/

namespace LedgerClient.Rpc

variable {σ α β : Type}

namespace Connection

/-- The result of an action and the connection after it. -/
def perform (c : Connection σ) (action : Action σ α) : Except Fault α × Connection σ :=
  ExceptT.run action c

/-! ### Running actions -/

/-- An action runs its first half and, if that succeeds, the second half on the connection that it
left. -/
theorem perform_bind (action : Action σ α) (f : α → Action σ β) (c : Connection σ) :
    c.perform (action >>= f) =
      match c.perform action with
      | (.ok x, c') => c'.perform (f x)
      | (.error fault, c') => (.error fault, c') := by
  show (ExceptT.bindCont f (c.perform action).1).run (c.perform action).2 = _
  rcases c.perform action with ⟨_ | _, _⟩ <;> rfl

theorem perform_ofExcept (r : Except Fault α) (c : Connection σ) :
    c.perform (Action.ofExcept r) = (r, c) := by
  cases r <;> rfl

theorem perform_get (c : Connection σ) : c.perform get = (.ok c, c) := rfl

theorem perform_set (c c' : Connection σ) : c.perform (set c') = (.ok ⟨⟩, c') := rfl

/-- Taking a number uses it up. -/
theorem perform_takeId (c : Connection σ) :
    c.perform .takeId = (.ok c.ids.take.1, { c with ids := c.ids.take.2 }) := rfl

/-- A reply that comes in time is handed on, or the reason why there is none. -/
theorem perform_post_of_le {c : Connection σ} {method body : String}
    (h : (c.transport body c.network).wait.milliseconds ≤ c.config.timeout.milliseconds) :
    c.perform (.post method body) =
      ((c.transport body c.network).reply,
        { c with network := (c.transport body c.network).answered }) := by
  have hnot : ¬c.config.timeout.milliseconds <
      (c.transport body c.network).wait.milliseconds := Nat.not_lt.mpr h
  rw [Action.post, perform_bind, perform_get]
  simp only [if_neg hnot]
  rw [perform_bind, perform_set]
  exact perform_ofExcept _ _

/-- A reply that does not come in time is not waited for. -/
theorem perform_post_of_lt {c : Connection σ} {method body : String}
    (h : c.config.timeout.milliseconds < (c.transport body c.network).wait.milliseconds) :
    c.perform (.post method body) =
      (.error (.network (.timeout method c.config.timeout)),
        { c with network := (c.transport body c.network).posted }) := by
  rw [Action.post, perform_bind, perform_get]
  simp only [if_pos h]
  rw [perform_bind, perform_set]
  rfl

/-! ### Calls -/

/-- What comes of posting a call. -/
def delivery (c : Connection σ) (call : Invocation) : Delivery σ :=
  c.transport (call.text c.ids.take.1) c.network

/-- The reply comes in time when the call is made. -/
structure Receives (c : Connection σ) (call : Invocation) (reply : Reply) : Prop where
  /-- The reply is what comes of posting the call. -/
  reply_eq : (c.delivery call).reply = .ok reply
  /-- It takes no longer than a call may take. -/
  wait_le : (c.delivery call).wait.milliseconds ≤ c.config.timeout.milliseconds

/-- The connection after a call whose reply comes in time. -/
def after (c : Connection σ) (call : Invocation) : Connection σ :=
  { c with ids := c.ids.take.2, network := (c.delivery call).answered }

/-- A call resolves the reply with the number that it has taken. -/
theorem Receives.perform_invoke {c : Connection σ} {call : Invocation} {reply : Reply}
    (h : c.Receives call reply) :
    c.perform (.invoke call) = (reply.resolve c.ids.take.1, c.after call) := by
  have hpost : Connection.perform { c with ids := c.ids.take.2 }
      (.post call.method (call.text c.ids.take.1)) =
        ((c.delivery call).reply, c.after call) := perform_post_of_le h.wait_le
  rw [Action.invoke, perform_bind, perform_takeId]
  simp only [perform_bind, hpost, h.reply_eq, perform_ofExcept]

/-- A call whose reply does not come in time fails, has used up its number, and leaves the network
as it was when the text was on its way. -/
theorem perform_invoke_of_lt {c : Connection σ} {call : Invocation}
    (h : c.config.timeout.milliseconds < (c.delivery call).wait.milliseconds) :
    c.perform (.invoke call) =
      (.error (.network (.timeout call.method c.config.timeout)),
        { c with ids := c.ids.take.2, network := (c.delivery call).posted }) := by
  have hpost : Connection.perform { c with ids := c.ids.take.2 }
      (.post call.method (call.text c.ids.take.1)) =
        (.error (.network (.timeout call.method c.config.timeout)),
          { c with ids := c.ids.take.2, network := (c.delivery call).posted }) :=
    perform_post_of_lt h
  rw [Action.invoke, perform_bind, perform_takeId]
  simp only [perform_bind, hpost]

/-- A request decodes what its call returns. -/
theorem Receives.perform_call {c : Connection σ} {r : Request} {reply : Reply}
    (h : c.Receives r.invocation reply) :
    c.perform (.call r) = (reply.resolve c.ids.take.1 >>= r.decode, c.after r.invocation) := by
  rw [Action.call, perform_bind, h.perform_invoke]
  cases reply.resolve c.ids.take.1 with
  | error fault => rfl
  | ok v => exact perform_ofExcept (r.decode v) _

end Connection

end LedgerClient.Rpc
