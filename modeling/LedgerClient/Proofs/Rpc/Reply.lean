import LedgerClient.Proofs.Json.Form
import LedgerClient.Proofs.Rpc.Call

/-!
# A call takes only its own answer

A reply is whatever text comes back, and nothing but the number that it repeats ties it to a call.
`reply_taken_iff` says which replies a call takes as its answer and what it makes of all others:

* `Reply.Answers` is the condition under which a result is returned;
* `Reply.Objection` lists the faults in the order in which they are looked for, each under the
  condition that none before it applies.

Both speak of the response that a body states (`Response.IsStatedBy`), field by field: where a field
stands in an object or in a list, and that `null` states nothing.
-/

namespace LedgerClient

open Json

namespace Json

/-! ### Optional fields -/

section Optional

variable {σ τ α : Type} {f : Form α}

/-- What a value says, if `null` says nothing. -/
def unlessNull (v : Option Json) : Option Json :=
  v.filter (· ≠ .null)

theorem unlessNull_some {v : Json} (hv : v ≠ .null) : unlessNull (some v) = some v := by
  simp [unlessNull, hv]

/-- What is said stands for the value, as `null` stands for what is not said. -/
theorem unlessNull_getD (v : Json) : (unlessNull (some v)).getD .null = v := by
  by_cases hv : v = .null
  · rw [hv]
    rfl
  · rw [unlessNull_some hv]
    rfl

/-- What is read of a value that may be absent: nothing if nothing is said, and else what the form
reads. -/
def Form.ReadsAs (f : Form α) (v : Option Json) (x : Option α) : Prop :=
  Option.Rel (fun w y => f.read w = .ok y) (unlessNull v) x

theorem Form.readsAs_none_iff {x : Option α} : f.ReadsAs none x ↔ x = none := by
  rw [ReadsAs]
  constructor
  · intro h
    cases h
    rfl
  · rintro rfl
    exact .none

/-- A form that keeps every value as it is reads what is said. -/
theorem Form.readsAs_any_iff {v x : Option Json} : Form.any.ReadsAs v x ↔ x = unlessNull v := by
  rw [ReadsAs]
  generalize unlessNull v = w
  constructor
  · intro h
    cases h with
    | some h => exact congrArg some (Except.ok.inj h).symm
    | none => rfl
  · rintro rfl
    cases x with
    | none => exact .none
    | some w => exact .some rfl

theorem Form.readsAs_some_iff {v : Json} {x : Option α} :
    f.ReadsAs (some v) x ↔ f.option.read v = .ok x := by
  by_cases hv : v = .null
  · subst hv
    show f.ReadsAs none x ↔ Except.ok none = .ok x
    rw [readsAs_none_iff, Except.ok.injEq, eq_comm]
  · have hread : f.option.read v = (f.read v).map some := by
      cases v <;> first | rfl | exact absurd rfl hv
    rw [ReadsAs, unlessNull_some hv, hread, map_eq_ok_iff]
    constructor
    · intro h
      cases h with
      | some h => exact ⟨_, h, rfl⟩
    · rintro ⟨y, hy, rfl⟩
      exact .some hy

namespace Fields

variable {fs : Fields σ (Option α → τ)} {name : String} {get : σ → Option α}

/-- With one more optional field, a record is read from members exactly if the others are and the
field is read of the member, or as absent if there is none. -/
theorem ofMembers_optional_eq_ok_iff {members : String → Option Json} {t : τ} :
    (fs.optional name f get).ofMembers members = .ok t ↔
      ∃ g x, fs.ofMembers members = .ok g ∧ f.ReadsAs (members name) x ∧ g x = t := by
  have hread : ∀ x, readMember name f.option.read (.default none) members = .ok x ↔
      f.ReadsAs (members name) x := by
    intro x
    cases hv : members name with
    | none =>
      rw [readMember, hv, Form.readsAs_none_iff]
      exact ⟨fun h => (Except.ok.inj h).symm, fun h => congrArg _ h.symm⟩
    | some v => rw [readMember_of_eq_some hv, Form.readsAs_some_iff]
  simp only [Fields.optional, Fields.default, Fields.field, map_eq_ok_iff, both_eq_ok_iff,
    Prod.exists, hread, and_assoc]

/-- A record is read from items exactly if none is left over. -/
theorem readItems_eq_ok_iff {fs : Fields σ τ} {vs : List Json} {t : τ} :
    fs.readItems vs = .ok t ↔ fs.ofItems vs = .ok (t, []) := by
  rw [readItems, bind_eq_ok_iff]
  constructor
  · rintro ⟨⟨x, rest⟩, hx, h⟩
    dsimp only at h
    split at h
    · rename_i hrest
      obtain rfl : x = t := Except.ok.inj h
      rw [hx, List.isEmpty_iff.mp hrest]
    · cases h
  · exact fun h => ⟨(t, []), h, rfl⟩

/-- With one more optional field, a record is read from items exactly if the others are and the
field is read of the next item, or as absent if there is none. -/
theorem ofItems_optional_eq_ok_iff {vs rest : List Json} {t : τ} :
    (fs.optional name f get).ofItems vs = .ok (t, rest) ↔
      ∃ g ws x, fs.ofItems vs = .ok (g, ws) ∧ f.ReadsAs ws.head? x ∧ ws.tail = rest ∧ g x = t := by
  have hread : ∀ ws x rest, readItem f.option.read (.default none) ws = .ok (x, rest) ↔
      f.ReadsAs ws.head? x ∧ ws.tail = rest := by
    intro ws x rest
    cases ws with
    | nil =>
      rw [List.head?_nil, Form.readsAs_none_iff]
      constructor
      · intro h
        obtain ⟨rfl, rfl⟩ := Prod.mk.inj (Except.ok.inj h)
        exact ⟨rfl, rfl⟩
      · rintro ⟨rfl, rfl⟩
        rfl
    | cons w ws =>
      rw [List.head?_cons, Form.readsAs_some_iff, readItem, map_eq_ok_iff]
      constructor
      · rintro ⟨y, hy, heq⟩
        obtain ⟨rfl, rfl⟩ := Prod.mk.inj heq
        exact ⟨hy, rfl⟩
      · rintro ⟨hx, rfl⟩
        exact ⟨x, hx, rfl⟩
  simp only [Fields.optional, Fields.default, Fields.field, bind_eq_ok_iff, Prod.exists, hread]
  constructor
  · rintro ⟨g, ws, hg, x, rest', ⟨hx, rfl⟩, heq⟩
    obtain ⟨rfl, rfl⟩ := Prod.mk.inj (Except.ok.inj heq)
    exact ⟨g, ws, x, hg, hx, rfl, rfl⟩
  · rintro ⟨g, ws, x, hg, hx, rfl, rfl⟩
    exact ⟨g, ws, hg, x, _, ⟨hx, rfl⟩, rfl⟩

end Fields

end Optional

end Json

namespace Rpc

/-! ### Responses -/

namespace Response

/-- The value says what the response says: it is an object or a list of at most three items, and
each field is what the member of its name or the item at its place says. -/
inductive IsStatedBy (r : Response) : Json → Prop
  /-- The fields are members of an object. -/
  | object (ms : List (String × Json)) (id : r.id = unlessNull (find? ms "id"))
      (result : r.result = unlessNull (find? ms "result"))
      (refusal : Refusal.form.ReadsAs (find? ms "error") r.refusal) : IsStatedBy r (.obj ms)
  /-- The fields are items of a list. -/
  | list (vs : List Json) (length : vs.length ≤ 3) (id : r.id = unlessNull vs[0]?)
      (result : r.result = unlessNull vs[1]?)
      (refusal : Refusal.form.ReadsAs vs[2]? r.refusal) : IsStatedBy r (.arr vs)

/-- A response is read from the values that say what it says. -/
theorem form_read_eq_ok_iff {v : Json} {r : Response} :
    form.read v = .ok r ↔ r.IsStatedBy v := by
  cases v with
  | obj ms =>
    have hread : form.read (.obj ms) = .ok r ↔ ∃ id result refusal,
        id = unlessNull (find? ms "id") ∧ result = unlessNull (find? ms "result") ∧
          Refusal.form.ReadsAs (find? ms "error") refusal ∧ mk id result refusal = r := by
      simp only [form, Form.record, Fields.readMembers, mapError_eq_ok_iff,
        Fields.ofMembers_optional_eq_ok_iff, Form.readsAs_any_iff, Fields.start]
      constructor
      · rintro ⟨_, refusal, ⟨_, result, ⟨_, id, ⟨rfl⟩, hid, rfl⟩, hresult, rfl⟩, hrefusal, rfl⟩
        exact ⟨id, result, refusal, hid, hresult, hrefusal, rfl⟩
      · rintro ⟨id, result, refusal, hid, hresult, hrefusal, rfl⟩
        exact ⟨_, refusal, ⟨_, result, ⟨mk, id, rfl, hid, rfl⟩, hresult, rfl⟩, hrefusal, rfl⟩
    rw [hread]
    constructor
    · rintro ⟨id, result, refusal, hid, hresult, hrefusal, rfl⟩
      exact .object ms hid hresult hrefusal
    · intro h
      cases h with
      | object _ hid hresult hrefusal => exact ⟨_, _, _, hid, hresult, hrefusal, rfl⟩
  | arr vs =>
    have hlength : vs.length ≤ 3 ↔ vs.tail.tail.tail = [] := by
      rw [← List.length_eq_zero_iff]
      simp only [List.length_tail]
      omega
    have hfirst : vs[0]? = vs.head? := List.head?_eq_getElem?.symm
    have hsecond : vs[1]? = vs.tail.head? := by
      rw [List.head?_eq_getElem?, List.getElem?_tail]
    have hthird : vs[2]? = vs.tail.tail.head? := by
      rw [List.head?_eq_getElem?, List.getElem?_tail, List.getElem?_tail]
    have hread : form.read (.arr vs) = .ok r ↔ ∃ id result refusal,
        id = unlessNull vs[0]? ∧ result = unlessNull vs[1]? ∧
          Refusal.form.ReadsAs vs[2]? refusal ∧ vs.length ≤ 3 ∧ mk id result refusal = r := by
      simp only [form, Form.record, Fields.readItems_eq_ok_iff, Fields.ofItems_optional_eq_ok_iff,
        Form.readsAs_any_iff, Fields.start, hlength, hfirst, hsecond, hthird]
      constructor
      · rintro ⟨_, _, refusal, ⟨_, _, result, ⟨_, _, id, ⟨rfl, rfl⟩, hid, rfl, rfl⟩, hresult, rfl,
          rfl⟩, hrefusal, hnil, rfl⟩
        exact ⟨id, result, refusal, hid, hresult, hrefusal, hnil, rfl⟩
      · rintro ⟨id, result, refusal, hid, hresult, hrefusal, hnil, rfl⟩
        exact ⟨_, _, refusal, ⟨_, _, result, ⟨mk, vs, id, rfl, hid, rfl, rfl⟩, hresult, rfl, rfl⟩,
          hrefusal, hnil, rfl⟩
    rw [hread]
    constructor
    · rintro ⟨id, result, refusal, hid, hresult, hrefusal, hle, rfl⟩
      exact .list vs hle hid hresult hrefusal
    · intro h
      cases h with
      | list _ hle hid hresult hrefusal => exact ⟨_, _, _, hid, hresult, hrefusal, hle, rfl⟩
  | _ => exact iff_of_false nofun nofun

/-- The response repeats the number, as a number or as a text that stands for it. -/
inductive Repeats (r : Response) (n : UInt64) : Prop
  /-- It repeats the number as a number. -/
  | number (id : r.id = some (.nat n.toNat)) : Repeats r n
  /-- It repeats the number as a text. -/
  | text (s : String) (id : r.id = some (.str s)) (denotes : Numeral.Denotes s.toList n.toNat) :
      Repeats r n

/-- The test of a response finds out whether the number is repeated. -/
theorem answers_eq_true_iff {r : Response} {n : UInt64} : r.answers n = true ↔ r.Repeats n := by
  constructor
  · intro h
    rw [answers] at h
    split at h
    · rename_i i hid
      rw [of_decide_eq_true h] at hid
      exact .number hid
    · rename_i s hid
      exact .text s hid (Numeral.unsigned?_eq_some_iff.mp (of_decide_eq_true h)).1
    · cases h
  · rintro (hid | ⟨s, hid, hdenotes⟩)
    · simp [answers, hid, Json.nat]
    · have hread : Numeral.unsigned? UInt64.size s.toList = some n.toNat :=
        Numeral.unsigned?_eq_some_iff.mpr ⟨hdenotes, n.toNat_lt⟩
      simp [answers, hid, hread]

/-- A response repeats one number only. -/
theorem Repeats.unique {r : Response} {m n : UInt64} (hm : r.Repeats m) (hn : r.Repeats n) :
    m = n := by
  have hm := answers_eq_true_iff.mpr hm
  have hn := answers_eq_true_iff.mpr hn
  rw [answers] at hm hn
  refine UInt64.toNat_inj.mp ?_
  split at hm
  · rename_i i hid
    simp only [hid, decide_eq_true_eq] at hm hn
    exact Int.ofNat_inj.mp (hm.symm.trans hn)
  · rename_i s hid
    simp only [hid, decide_eq_true_eq] at hm hn
    exact Option.some.inj (hm.symm.trans hn)
  · cases hm

end Response

/-! ### Replies -/

namespace Reply

/-- The body holds no character that is not blank. -/
def IsBlank (reply : Reply) : Prop := ∀ c ∈ reply.body.toList, isBlank c = true

/-- The reply has the status of success, and its body, which is not blank, states the response. -/
structure Holds (reply : Reply) (r : Response) : Prop where
  /-- The status is that of success. -/
  status : reply.status = success
  /-- The body is not blank. -/
  nonblank : ¬reply.IsBlank
  /-- The body states the response. -/
  body : ∃ v, evaluate? Response.demand reply.body = some v ∧ r.IsStatedBy v

/-- The reply answers the call with a number: it holds a response that refuses nothing and repeats
the number, and the result is the one that it states, or else `null`. -/
def Answers (reply : Reply) (n : UInt64) (v : Json) : Prop :=
  ∃ r, reply.Holds r ∧ r.refusal = none ∧ r.Repeats n ∧ r.result.getD .null = v

/-- What there is against a reply as the answer to the call with a number: the first of these faults
that applies. -/
inductive Objection (reply : Reply) (n : UInt64) : Fault → Prop
  /-- The status is not that of success. -/
  | status (failed : reply.status ≠ success) : Objection reply n (.network (.status reply.status))
  /-- The body is blank. -/
  | blank (status : reply.status = success) (blank : reply.IsBlank) :
      Objection reply n (.network .blank)
  /-- The body states no response. -/
  | malformed (status : reply.status = success) (nonblank : ¬reply.IsBlank)
      (malformed : ∀ r, ¬reply.Holds r) : Objection reply n (.coding .envelope)
  /-- The node refuses the call, whatever else the response states. -/
  | refused (r : Response) (refusal : Refusal) (holds : reply.Holds r)
      (refused : r.refusal = some refusal) : Objection reply n (.refused refusal)
  /-- The response repeats another number or none. -/
  | mismatch (r : Response) (holds : reply.Holds r) (taken : r.refusal = none)
      (other : ¬r.Repeats n) : Objection reply n (.network .mismatch)

theorem isEmpty_trimBlank_iff {reply : Reply} :
    (trimBlank reply.body.toList).isEmpty = true ↔ reply.IsBlank := by
  rw [List.isEmpty_iff, trimBlank_eq_nil_iff, IsBlank]

theorem holds_iff {reply : Reply} (hstatus : reply.status = success) (hblank : ¬reply.IsBlank)
    {r : Response} : reply.Holds r ↔ Response.ofText? reply.body = some r := by
  have htext : Response.ofText? reply.body = some r ↔
      ∃ v, evaluate? Response.demand reply.body = some v ∧ r.IsStatedBy v := by
    simp only [Response.ofText?, Option.bind_eq_some_iff, ← Response.form_read_eq_ok_iff,
      toOption_eq_some_iff]
  rw [htext]
  exact ⟨fun h => h.body, fun h => ⟨hstatus, hblank, h⟩⟩

/-- A reply holds one response only. -/
theorem Holds.unique {reply : Reply} {r r' : Response} (h : reply.Holds r) (h' : reply.Holds r') :
    r = r' := by
  have htext := (holds_iff h.status h.nonblank).mp h
  rw [(holds_iff h.status h.nonblank).mp h'] at htext
  exact (Option.some.inj htext).symm

/-- Once a reply holds a response, the response decides. -/
theorem resolve_of_holds {reply : Reply} {r : Response} (h : reply.Holds r) (n : UInt64) :
    reply.resolve n =
      match r.refusal with
      | some refusal => .error (.refused refusal)
      | none => if r.answers n then .ok (r.result.getD .null) else .error (.network .mismatch) := by
  have hblank : ¬(trimBlank reply.body.toList).isEmpty = true :=
    mt isEmpty_trimBlank_iff.mp h.nonblank
  have htext : Response.ofText? reply.body = some r := (holds_iff h.status h.nonblank).mp h
  rw [resolve, if_neg (not_not.mpr h.status), if_neg hblank]
  cases hrefusal : r.refusal <;> simp only [htext, hrefusal]

/-- A reply that answers the call is resolved to the result. -/
theorem Answers.resolve_eq {reply : Reply} {n : UInt64} {v : Json} (h : reply.Answers n v) :
    reply.resolve n = .ok v := by
  obtain ⟨r, hr, htaken, hid, rfl⟩ := h
  rw [resolve_of_holds hr, htaken]
  exact if_pos (Response.answers_eq_true_iff.mpr hid)

/-- A reply to which there is an objection is resolved to this fault. -/
theorem Objection.resolve_eq {reply : Reply} {n : UInt64} {fault : Fault}
    (h : reply.Objection n fault) : reply.resolve n = .error fault := by
  cases h with
  | status hfailed => exact if_pos hfailed
  | blank hstatus hblank =>
    rw [resolve, if_neg (not_not.mpr hstatus), if_pos (isEmpty_trimBlank_iff.mpr hblank)]
  | malformed hstatus hblank hmalformed =>
    have hnone : Response.ofText? reply.body = none :=
      Option.eq_none_iff_forall_ne_some.mpr fun r hr =>
        hmalformed r ((holds_iff hstatus hblank).mpr hr)
    rw [resolve, if_neg (not_not.mpr hstatus), if_neg (mt isEmpty_trimBlank_iff.mp hblank), hnone]
  | refused r refusal hr hrefused => rw [resolve_of_holds hr, hrefused]
  | mismatch r hr htaken hother =>
    rw [resolve_of_holds hr, htaken]
    exact if_neg (mt Response.answers_eq_true_iff.mp hother)

/-- Every reply answers the call or gives reason for an objection. -/
theorem answers_or_objection (reply : Reply) (n : UInt64) :
    (∃ v, reply.Answers n v) ∨ ∃ fault, reply.Objection n fault := by
  by_cases hstatus : reply.status = success
  swap
  · exact .inr ⟨_, .status hstatus⟩
  by_cases hblank : reply.IsBlank
  · exact .inr ⟨_, .blank hstatus hblank⟩
  by_cases hholds : ∃ r, reply.Holds r
  swap
  · exact .inr ⟨_, .malformed hstatus hblank (not_exists.mp hholds)⟩
  -- From here on the response decides: by a refusal if it states one, else by its number.
  obtain ⟨r, hr⟩ := hholds
  cases hrefusal : r.refusal with
  | some refusal => exact .inr ⟨_, .refused r refusal hr hrefusal⟩
  | none =>
    by_cases hid : r.Repeats n
    · exact .inl ⟨_, r, hr, hrefusal, hid, rfl⟩
    · exact .inr ⟨_, .mismatch r hr hrefusal hid⟩

/-- A reply is resolved to a result exactly if it answers the call with this result. -/
theorem resolve_eq_ok_iff {reply : Reply} {n : UInt64} {v : Json} :
    reply.resolve n = .ok v ↔ reply.Answers n v := by
  refine ⟨fun h => ?_, Answers.resolve_eq⟩
  rcases answers_or_objection reply n with ⟨w, hanswers⟩ | ⟨fault, hobjection⟩
  · obtain rfl : w = v := Except.ok.inj (hanswers.resolve_eq.symm.trans h)
    exact hanswers
  · cases hobjection.resolve_eq.symm.trans h

/-- A reply is resolved to a fault exactly if this is the first objection to it. -/
theorem resolve_eq_error_iff {reply : Reply} {n : UInt64} {fault : Fault} :
    reply.resolve n = .error fault ↔ reply.Objection n fault := by
  refine ⟨fun h => ?_, Objection.resolve_eq⟩
  rcases answers_or_objection reply n with ⟨w, hanswers⟩ | ⟨fault', hobjection⟩
  · cases hanswers.resolve_eq.symm.trans h
  · obtain rfl : fault' = fault := Except.error.inj (hobjection.resolve_eq.symm.trans h)
    exact hobjection

/-- An objection that speaks of coding has a cause. -/
theorem Objection.hasCause {reply : Reply} {n : UInt64} {flaw : CodingFlaw}
    (h : reply.Objection n (.coding flaw)) : flaw.hasCause = true := by
  cases h
  rfl

end Reply

/-! ### Calls and requests -/

section Taken

variable {σ : Type} {c : Connection σ} {r : Request} {reply : Reply}

/-- A request returns what is decoded of the value that the reply answers the call with. -/
theorem Connection.Receives.perform_call_eq_ok_iff (h : c.Receives r.invocation reply)
    {x : r.Result} : (c.perform (.call r)).1 = .ok x ↔
      ∃ v, reply.Answers c.ids.take.1 v ∧ r.resultForm.read v = .ok x := by
  have hdecode : ∀ v, r.decode v = .ok x ↔ r.resultForm.read v = .ok x := fun v =>
    mapError_eq_ok_iff
  rw [h.perform_call]
  simp only [bind_eq_ok_iff, Reply.resolve_eq_ok_iff, hdecode]

/-- A request fails over the first objection to the reply, or else over the value that the reply
answers the call with. -/
theorem Connection.Receives.perform_call_eq_error_iff (h : c.Receives r.invocation reply)
    {fault : Fault} : (c.perform (.call r)).1 = .error fault ↔
      reply.Objection c.ids.take.1 fault ∨ ∃ v why, reply.Answers c.ids.take.1 v ∧
        r.resultForm.read v = .error why ∧
        fault = .coding (if v = .null then .noResult r.method why else .result r.method why) := by
  have hdecode : ∀ v, r.decode v = .error fault ↔ ∃ why, r.resultForm.read v = .error why ∧
      fault = .coding (if v = .null then .noResult r.method why else .result r.method why) := by
    intro v
    rw [Request.decode, mapError_eq_error_iff]
    exact exists_congr fun why => and_congr_right fun _ => eq_comm
  rw [h.perform_call, bind_eq_error_iff]
  simp only [Reply.resolve_eq_error_iff, Reply.resolve_eq_ok_iff, hdecode, exists_and_left]

/-- A fault of a request that speaks of coding has a cause. -/
theorem Connection.Receives.hasCause_of_coding (h : c.Receives r.invocation reply)
    {flaw : CodingFlaw} (hfault : (c.perform (.call r)).1 = .error (.coding flaw)) :
    flaw.hasCause = true := by
  rcases h.perform_call_eq_error_iff.mp hfault with hobjection | ⟨v, why, -, -, heq⟩
  · exact hobjection.hasCause
  · rw [Fault.coding.inj heq]
    split <;> rfl

/-- A call returns a value exactly if the reply answers it with this value, and fails exactly over
the first objection to the reply. A request decodes the value; it fails, besides, exactly if the
value does not fit the type of its results, and every fault that speaks of coding has a cause. -/
theorem reply_taken_iff {σ : Type} (c : Connection σ) :
    (∀ call reply, c.Receives call reply →
      (∀ v, (c.perform (.invoke call)).1 = .ok v ↔ reply.Answers c.ids.take.1 v) ∧
      (∀ fault, (c.perform (.invoke call)).1 = .error fault ↔
        reply.Objection c.ids.take.1 fault) ∧
      ∀ flaw, (c.perform (.invoke call)).1 = .error (.coding flaw) → flaw.hasCause = true) ∧
    (∀ r reply, c.Receives (Request.invocation r) reply →
      (∀ x, (c.perform (.call r)).1 = .ok x ↔
        ∃ v, reply.Answers c.ids.take.1 v ∧ r.resultForm.read v = .ok x) ∧
      (∀ fault, (c.perform (.call r)).1 = .error fault ↔
        reply.Objection c.ids.take.1 fault ∨
          ∃ v why, reply.Answers c.ids.take.1 v ∧ r.resultForm.read v = .error why ∧
            fault = .coding
              (if v = .null then .noResult r.method why else .result r.method why)) ∧
      ∀ flaw, (c.perform (.call r)).1 = .error (.coding flaw) → flaw.hasCause = true) ∧
    (Fault.network .mismatch).reason = "Request id mismatch" := by
  refine ⟨fun call reply h => ?_, fun r reply h => ?_, rfl⟩
  · rw [h.perform_invoke]
    exact ⟨fun v => Reply.resolve_eq_ok_iff, fun fault => Reply.resolve_eq_error_iff,
      fun flaw hfault => (Reply.resolve_eq_error_iff.mp hfault).hasCause⟩
  · exact ⟨fun x => h.perform_call_eq_ok_iff, fun fault => h.perform_call_eq_error_iff,
      fun flaw => h.hasCause_of_coding⟩

end Taken

/-- A connection to a node that replies with the same text to everything. -/
def Connection.stubborn (body : String) (ids : Ids) : Connection Unit :=
  ⟨{}, fun _ s => ⟨s, ⟨0⟩, .ok (.ok body), s⟩, ids, ()⟩

theorem Connection.stubborn_receives (body : String) (ids : Ids) (call : Invocation) :
    (stubborn body ids).Receives call (.ok body) :=
  ⟨rfl, Nat.zero_le _⟩

/-- The text of a response that states a result along with a refusal. -/
def refusingText : String :=
  "\x7b\"error\":\x7b\"code\":-32003,\"message\":\"unknown key\"\x7d,\"id\":8,\"result\":1\x7d"

/-- A response may be a list and repeat the number as a text with a sign and a leading zero; what
the node refuses is refused whatever number is repeated. -/
theorem reply_taken_iff_seventh :
    ((Connection.stubborn "[\"+07\",5]" ⟨none, 7⟩).perform (.call .accountCount)).1 = .ok 5 ∧
    ((Connection.stubborn refusingText ⟨none, 7⟩).perform (.invoke ⟨"", "get_accounts", []⟩)).1 =
      .error (.refused ⟨-32003, "unknown key", none⟩) := by
  constructor
  · have htaken := (reply_taken_iff (Connection.stubborn "[\"+07\",5]" ⟨none, 7⟩)).2.1 .accountCount
      _ (Connection.stubborn_receives _ _ _)
    have hbody : evaluate? Response.demand "[\"+07\",5]" = some (.arr [.str "+07", .nat 5]) := by
      decide +kernel
    have hstated : Response.IsStatedBy ⟨some (.str "+07"), some (.nat 5), none⟩
        (.arr [.str "+07", .nat 5]) :=
      .list _ (by decide) rfl rfl (Form.readsAs_none_iff.mpr rfl)
    have hdenotes : Numeral.Denotes "+07".toList 7 :=
      ⟨['0', '7'], .inr (by decide), by decide, List.all_eq_true.mp (by decide), by decide⟩
    refine (htaken.1 5).mpr ⟨.nat 5, ⟨_, ⟨rfl, ?_, _, hbody, hstated⟩, rfl, ?_, rfl⟩, rfl⟩
    · exact fun hblank => absurd (hblank '[' (by decide)) (by decide)
    · exact .text "+07" rfl hdenotes
  · have htaken := (reply_taken_iff (Connection.stubborn refusingText ⟨none, 7⟩)).1
      ⟨"", "get_accounts", []⟩ _ (Connection.stubborn_receives _ _ _)
    have hbody : evaluate? Response.demand refusingText =
        some (.obj [("error", .obj [("code", .int (-32003)), ("message", .str "unknown key")]),
          ("id", .nat 8), ("result", .nat 1)]) := by
      decide +kernel
    have hstated : Response.IsStatedBy
        ⟨some (.nat 8), some (.nat 1), some ⟨-32003, "unknown key", none⟩⟩
        (.obj [("error", .obj [("code", .int (-32003)), ("message", .str "unknown key")]),
          ("id", .nat 8), ("result", .nat 1)]) :=
      .object _ rfl rfl (Form.readsAs_some_iff.mpr rfl)
    refine (htaken.2.1 _).mpr (.refused _ _ ⟨rfl, ?_, _, hbody, hstated⟩ rfl)
    exact fun hblank => absurd (hblank '"' (by decide)) (by decide)

end Rpc

end LedgerClient
