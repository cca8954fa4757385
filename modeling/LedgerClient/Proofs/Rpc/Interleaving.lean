import Mathlib.Data.Fintype.Card
import Mathlib.Logic.Relation
import LedgerClient.Proofs.Rpc.Local

/-!
# Calls that are made at the same time

Calls over one connection share nothing but the source of their numbers. `Exchange` is the state of
so many calls, each of which takes a number, posts its text, receives a reply or a fault and
resolves it; `Exchange.Step` makes one of them do its next step, whichever it is, and leaves it to
the network what is received.

* `Connection.perform_invoke_steps`: what a connection does in one go is four of these steps.
* `Exchange.Step.consistent`: a step keeps `Exchange.Consistent`, which says how the log of the
  numbers, the log of the posted texts and the stages of the calls fit together.
* `Exchange.numbers_unshared`: in every run the numbers are taken in order from one on, no two
  posted texts have the same one, and no call returns a result from a response with the number of
  another. That a text has a number is said of the text itself: it begins with the digits of the
  number, and a node that can read it receives the call under this number.
-/

namespace LedgerClient.Rpc

/-! ### The number in a text -/

/-- The text of a call begins with the digits of its number. -/
theorem Invocation.exists_toList_text (call : Invocation) (id : UInt64) :
    ∃ rest, (call.text id).toList =
      "\x7b\"id\":".toList ++ Numeral.digits id.toNat ++ ',' :: rest := by
  have hdigits : Numeral.ofInt (id.toNat : Int) = Numeral.digits id.toNat :=
    if_neg (Int.not_lt.mpr (Int.natCast_nonneg _))
  have hbegin : "\x7b\"id\":".toList = '\x7b' :: (Json.quoted "id" ++ [':']) := by decide
  obtain ⟨rest, htext⟩ : ∃ rest, (call.text id).toList =
      '\x7b' :: (Json.quoted "id" ++ ':' :: (Numeral.ofInt (id.toNat : Int) ++ ',' :: rest)) :=
    ⟨_, String.toList_ofList⟩
  refine ⟨rest, ?_⟩
  rw [htext, hdigits, hbegin]
  simp only [List.cons_append, List.append_assoc, List.nil_append]

/-! ### Stages of a call -/

/-- How far a call has come. -/
inductive Stage
  /-- It has done nothing yet. -/
  | waiting
  /-- It has taken a number. -/
  | numbered (id : UInt64)
  /-- It has posted its text. -/
  | posted (id : UInt64)
  /-- It has received a reply, or else the reason why there is none. -/
  | received (id : UInt64) (outcome : Except Fault Reply)
  /-- It has returned a result. -/
  | done (id : UInt64) (outcome : Except Fault Reply) (result : Except Fault Json)

namespace Stage

/-- The number that a call has taken. -/
def number : Stage → Option UInt64
  | waiting => none
  | numbered id | posted id | received id _ | done id _ _ => some id

/-- A call that has resolved what it received. -/
def resolved (id : UInt64) (outcome : Except Fault Reply) : Stage :=
  done id outcome (outcome >>= (·.resolve id))

theorem resolved_ok (id : UInt64) (reply : Reply) :
    resolved id (.ok reply) = done id (.ok reply) (reply.resolve id) := rfl

/-- Whether a call has posted its text. -/
def hasPosted : Stage → Bool
  | waiting | numbered _ => false
  | posted _ | received _ _ | done _ _ _ => true

end Stage

/-! ### Exchanges -/

/-- A text that a call has posted. -/
structure Posting (N : Nat) where
  /-- The call. -/
  call : Fin N
  /-- The number that the call has taken. -/
  id : UInt64
  /-- The text. -/
  text : String

/-- The state of calls that are made over one connection. -/
structure Exchange (N : Nat) where
  /-- Where the numbers come from. -/
  ids : Ids
  /-- How far each call has come. -/
  stage : Fin N → Stage
  /-- The numbers that were taken and by which call, the first one first. -/
  taken : List (Fin N × UInt64)
  /-- The texts that were posted, the first one first. -/
  posted : List (Posting N)

namespace Exchange

variable {N : Nat} {calls : Fin N → Invocation} {s s' : Exchange N}

/-- No call has done anything yet. -/
def start (N : Nat) (ids : Ids) : Exchange N :=
  ⟨ids, fun _ => .waiting, [], []⟩

/-- The exchange with a call at another stage. -/
def moved (s : Exchange N) (i : Fin N) (stage : Stage) : Exchange N :=
  { s with stage := Function.update s.stage i stage }

/-- The exchange after a call has taken a number. -/
def taking (s : Exchange N) (i : Fin N) : Exchange N :=
  { s.moved i (.numbered s.ids.take.1) with
    ids := s.ids.take.2
    taken := s.taken ++ [(i, s.ids.take.1)] }

/-- The exchange after a call has posted its text with its number. -/
def posting (calls : Fin N → Invocation) (s : Exchange N) (i : Fin N) (id : UInt64) : Exchange N :=
  { s.moved i (.posted id) with posted := s.posted ++ [⟨i, id, (calls i).text id⟩] }

/-- One call does its next step. -/
inductive Step (calls : Fin N → Invocation) (s : Exchange N) : Exchange N → Prop
  /-- It takes a number. -/
  | take (i : Fin N) (stage : s.stage i = .waiting) : Step calls s (s.taking i)
  /-- It posts its text with the number. -/
  | post (i : Fin N) (id : UInt64) (stage : s.stage i = .numbered id) :
    Step calls s (s.posting calls i id)
  /-- It receives whatever the network replies, or a fault. -/
  | receive (i : Fin N) (id : UInt64) (outcome : Except Fault Reply)
    (stage : s.stage i = .posted id) : Step calls s (s.moved i (.received id outcome))
  /-- It resolves what it has received. -/
  | resolve (i : Fin N) (id : UInt64) (outcome : Except Fault Reply)
    (stage : s.stage i = .received id outcome) :
    Step calls s (s.moved i (.resolved id outcome))

/-- An exchange comes from another by any number of steps. -/
abbrev Steps (calls : Fin N → Invocation) : Exchange N → Exchange N → Prop :=
  Relation.ReflTransGen (Step calls)

@[simp]
theorem stage_moved_self (s : Exchange N) (i : Fin N) (stage : Stage) :
    (s.moved i stage).stage i = stage := by
  simp [moved]

theorem stage_moved_of_ne {i j : Fin N} (h : j ≠ i) (s : Exchange N) (stage : Stage) :
    (s.moved i stage).stage j = s.stage j := by
  simp [moved, h]

end Exchange

/-! ### A call made in one go -/

section OneGo

variable {σ : Type} {N : Nat} {calls : Fin N → Invocation}

/-- Posting a text leaves the numbers alone, whether or not a reply comes in time. -/
theorem Connection.ids_perform_post (c : Connection σ) (method body : String) :
    (c.perform (.post method body)).2.ids = c.ids := by
  rw [Action.post, perform_bind, perform_get]
  dsimp only
  split
  · rfl
  · rw [perform_bind, perform_set]
    dsimp only
    rw [perform_ofExcept]

/-- What a connection does to make a call is what the call does in four steps of its own. -/
theorem Connection.perform_invoke_steps (c : Connection σ) {s : Exchange N} (hids : s.ids = c.ids)
    {i : Fin N} (hstage : s.stage i = .waiting) :
    ∃ s' outcome, Exchange.Steps calls s s' ∧
      s'.stage i = .done c.ids.take.1 outcome (c.perform (.invoke (calls i))).1 ∧
      s'.ids = (c.perform (.invoke (calls i))).2.ids := by
  obtain ⟨outcome, c', hpost⟩ : ∃ outcome c',
      Connection.perform { c with ids := c.ids.take.2 }
        (.post (calls i).method ((calls i).text c.ids.take.1)) = (outcome, c') := ⟨_, _, rfl⟩
  have hkept : c'.ids = c.ids.take.2 := by
    have hids := ids_perform_post { c with ids := c.ids.take.2 } (calls i).method
      ((calls i).text c.ids.take.1)
    rwa [hpost] at hids
  have hperform : c.perform (.invoke (calls i)) =
      (outcome >>= (·.resolve c.ids.take.1), c') := by
    rw [Action.invoke, perform_bind, perform_takeId]
    dsimp only
    rw [perform_bind, hpost]
    cases outcome with
    | error fault => rfl
    | ok reply => exact perform_ofExcept (reply.resolve c.ids.take.1) c'
  rw [hperform]
  rw [← hids] at hkept ⊢
  let numbered := s.taking i
  let sent := numbered.posting calls i s.ids.take.1
  let received := sent.moved i (.received s.ids.take.1 outcome)
  have htaken : Exchange.Step calls s numbered := .take i hstage
  have hsent : Exchange.Step calls numbered sent := .post i _ (s.stage_moved_self i _)
  have hreceived : Exchange.Step calls sent received :=
    .receive i _ outcome (numbered.stage_moved_self i _)
  have hresolved : Exchange.Step calls received (received.moved i (.resolved _ outcome)) :=
    .resolve i _ outcome (sent.stage_moved_self i _)
  exact ⟨_, outcome, .tail (.tail (.tail (.single htaken) hsent) hreceived) hresolved,
    received.stage_moved_self i _, hkept.symm⟩

end OneGo

/-! ### What every step keeps -/

namespace Exchange

variable {N : Nat} {calls : Fin N → Invocation} {s s' : Exchange N}

/-- What the logs say about a call fits the stage of the call. -/
structure Fits (calls : Fin N → Invocation) (taken : List (Fin N × UInt64))
    (posted : List (Posting N)) (i : Fin N) (stage : Stage) : Prop where
  /-- The number that the call has is the only one that it has taken. -/
  taken_iff : ∀ id, (i, id) ∈ taken ↔ stage.number = some id
  /-- The text of the call with this number is the only one that it has posted, if it has. -/
  posted_iff : ∀ id text, ⟨i, id, text⟩ ∈ posted ↔
    stage.hasPosted = true ∧ stage.number = some id ∧ text = (calls i).text id
  /-- If the call is done, it has resolved what it received with its own number. -/
  resolved : ∀ id outcome result, stage = .done id outcome result →
    result = outcome >>= (·.resolve id)

/-- The logs fit together and fit the stages of the calls. -/
structure Consistent (calls : Fin N → Invocation) (s : Exchange N) : Prop where
  /-- The next number is the one after those that were taken. -/
  ids : s.ids = ⟨none, UInt64.ofNat (1 + s.taken.length)⟩
  /-- The numbers were taken in order from one on. -/
  counted : s.taken.map Prod.snd = (List.range' 1 s.taken.length).map UInt64.ofNat
  /-- No call has taken two numbers. -/
  takenOnce : (s.taken.map Prod.fst).Nodup
  /-- No call has posted twice. -/
  postedOnce : (s.posted.map Posting.call).Nodup
  /-- The logs fit the stage of every call. -/
  fits : ∀ i, Fits calls s.taken s.posted i (s.stage i)

theorem consistent_start : (start N { fixed := none }).Consistent calls where
  ids := rfl
  counted := rfl
  takenOnce := .nil
  postedOnce := .nil
  fits _ := ⟨fun _ => iff_of_false List.not_mem_nil nofun,
    fun _ _ => iff_of_false List.not_mem_nil nofun, nofun⟩

/-- The logs fit the stages of all calls after one was moved if they fit its new stage and still fit
the stages of the others. -/
theorem fits_moved {taken : List (Fin N × UInt64)} {posted : List (Posting N)} {i : Fin N}
    {stage : Stage} (hi : Fits calls taken posted i stage)
    (h : ∀ j, j ≠ i → Fits calls taken posted j (s.stage j)) (j : Fin N) :
    Fits calls taken posted j ((s.moved i stage).stage j) := by
  by_cases hj : j = i
  · rw [hj, stage_moved_self]
    exact hi
  · rw [stage_moved_of_ne hj]
    exact h j hj

/-- A call that waits takes the number that is next. -/
theorem Consistent.taking (h : s.Consistent calls) {i : Fin N} (hstage : s.stage i = .waiting) :
    (s.taking i).Consistent calls := by
  have hids : s.ids.take = (UInt64.ofNat (1 + s.taken.length),
      ⟨none, UInt64.ofNat (1 + s.taken.length) + 1⟩) := by
    rw [h.ids]
    rfl
  have hlength : (s.taking i).taken.length = s.taken.length + 1 := by simp [Exchange.taking]
  have hfits := h.fits i
  rw [hstage] at hfits
  have hfresh : ∀ id, (i, id) ∉ s.taken := fun id hmem => nomatch (hfits.taken_iff id).mp hmem
  refine ⟨?_, ?_, ?_, h.postedOnce, fits_moved ⟨fun id => ?_, fun id text => ?_, nofun⟩
    fun j hj => ⟨fun id => ?_, (h.fits j).posted_iff, (h.fits j).resolved⟩⟩
  · rw [hlength, Exchange.taking, hids, ← Nat.add_assoc, UInt64.ofNat_add _ 1]
    rfl
  · rw [hlength, Exchange.taking, hids, List.range'_concat, List.map_append, List.map_append,
      h.counted]
    simp
  · have hnot : i ∉ s.taken.map Prod.fst := by simpa using hfresh
    rw [Exchange.taking, List.map_append]
    exact List.nodup_append'.mpr ⟨h.takenOnce, List.nodup_singleton i,
      List.disjoint_singleton.mpr hnot⟩
  · have hnumber : (i, id) ∈ (s.taking i).taken ↔ id = s.ids.take.1 := by
      simp [Exchange.taking, hfresh]
    rw [hnumber, Stage.number, Option.some_inj, eq_comm]
  · exact (hfits.posted_iff id text).trans (iff_of_false nofun nofun)
  · have hkept : (j, id) ∈ (s.taking i).taken ↔ (j, id) ∈ s.taken := by
      simp [Exchange.taking, hj]
    rw [hkept, (h.fits j).taken_iff]

/-- A call that has a number posts its text with it. -/
theorem Consistent.posting (h : s.Consistent calls) {i : Fin N} {id : UInt64}
    (hstage : s.stage i = .numbered id) : (s.posting calls i id).Consistent calls := by
  have hfits := h.fits i
  rw [hstage] at hfits
  have hfresh : ∀ id text, ⟨i, id, text⟩ ∉ s.posted := fun id text hmem =>
    nomatch ((hfits.posted_iff id text).mp hmem).1
  refine ⟨h.ids, h.counted, h.takenOnce, ?_, fits_moved ⟨hfits.taken_iff, fun id' text => ?_, nofun⟩
    fun j hj => ⟨(h.fits j).taken_iff, fun id' text => ?_, (h.fits j).resolved⟩⟩
  · have hnot : i ∉ s.posted.map Posting.call := by
      intro hmem
      obtain ⟨⟨j, id, text⟩, hp, heq⟩ := List.mem_map.mp hmem
      obtain rfl : j = i := heq
      exact hfresh id text hp
    rw [Exchange.posting, List.map_append]
    exact List.nodup_append'.mpr ⟨h.postedOnce, List.nodup_singleton i,
      List.disjoint_singleton.mpr hnot⟩
  · have hnew : ⟨i, id', text⟩ ∈ (s.posting calls i id).posted ↔
        id' = id ∧ text = (calls i).text id := by
      simp [Exchange.posting, hfresh]
    rw [hnew, Stage.number, Option.some_inj]
    constructor
    · rintro ⟨rfl, rfl⟩
      exact ⟨rfl, rfl, rfl⟩
    · rintro ⟨-, rfl, rfl⟩
      exact ⟨rfl, rfl⟩
  · have hkept : ⟨j, id', text⟩ ∈ (s.posting calls i id).posted ↔ ⟨j, id', text⟩ ∈ s.posted := by
      simp [Exchange.posting, hj]
    rw [hkept, (h.fits j).posted_iff]

/-- A call that has posted goes on without touching the logs. -/
theorem Consistent.moved (h : s.Consistent calls) {i : Fin N} {stage : Stage}
    (hnumber : stage.number = (s.stage i).number)
    (hposted : stage.hasPosted = (s.stage i).hasPosted)
    (hresolved : ∀ id outcome result, stage = .done id outcome result →
      result = outcome >>= (·.resolve id)) : (s.moved i stage).Consistent calls := by
  have hfits := h.fits i
  refine ⟨h.ids, h.counted, h.takenOnce, h.postedOnce,
    fits_moved ⟨fun id => ?_, fun id text => ?_, hresolved⟩ fun j _ => h.fits j⟩
  · rw [hnumber]
    exact hfits.taken_iff id
  · rw [hnumber, hposted]
    exact hfits.posted_iff id text

/-- A step keeps the logs consistent, whichever call does it and whatever it receives. -/
theorem Step.consistent (hstep : Step calls s s') (h : s.Consistent calls) :
    s'.Consistent calls := by
  cases hstep with
  | take i hstage => exact h.taking hstage
  | post i id hstage => exact h.posting hstage
  | receive i id outcome hstage =>
    exact h.moved (by rw [hstage]; rfl) (by rw [hstage]; rfl) nofun
  | resolve i id outcome hstage =>
    refine h.moved (by rw [hstage]; rfl) (by rw [hstage]; rfl) ?_
    intro id' outcome' result heq
    cases heq
    rfl

/-- The logs are consistent in every run. -/
theorem Steps.consistent (hsteps : Steps calls (start N { fixed := none }) s) :
    s.Consistent calls := by
  induction hsteps with
  | refl => exact consistent_start
  | tail _ hstep ih => exact hstep.consistent ih

/-! ### Numbers are not shared -/

namespace Consistent

/-- As no call takes two numbers, there are no more numbers than calls. -/
theorem length_taken_le (h : s.Consistent calls) : s.taken.length ≤ N := by
  have hle := h.takenOnce.length_le_card
  rwa [List.length_map, Fintype.card_fin] at hle

/-- The numbers differ, as they do not run over. -/
theorem nodup_numbers (h : s.Consistent calls) (hN : N < UInt64.size) :
    (s.taken.map Prod.snd).Nodup := by
  have hbound : ∀ n ∈ List.range' 1 s.taken.length, n < UInt64.size := by
    intro n hn
    have hlast := (List.mem_range'_1.mp hn).2
    have hle := h.length_taken_le
    omega
  rw [h.counted]
  refine List.Nodup.map_on (fun m hm n hn heq => ?_) List.nodup_range'
  rw [← UInt64.toNat_ofNat_of_lt' (hbound m hm), heq, UInt64.toNat_ofNat_of_lt' (hbound n hn)]

/-- Two calls have different numbers. -/
theorem eq_of_number_eq (h : s.Consistent calls) (hN : N < UInt64.size) {i j : Fin N} {id : UInt64}
    (hi : (s.stage i).number = some id) (hj : (s.stage j).number = some id) : i = j := by
  have hmemi : (i, id) ∈ s.taken := ((h.fits i).taken_iff id).mpr hi
  have hmemj : (j, id) ∈ s.taken := ((h.fits j).taken_iff id).mpr hj
  exact (Prod.mk.inj (List.inj_on_of_nodup_map (h.nodup_numbers hN) hmemi hmemj rfl)).1

/-- What was posted is the text of a call with the number that it has taken. -/
theorem of_mem_posted (h : s.Consistent calls) {p : Posting N} (hp : p ∈ s.posted) :
    (s.stage p.call).number = some p.id ∧ p.text = (calls p.call).text p.id :=
  (((h.fits p.call).posted_iff p.id p.text).mp hp).2

/-- No two texts were posted with the same number. -/
theorem nodup_posted (h : s.Consistent calls) (hN : N < UInt64.size) :
    (s.posted.map Posting.id).Nodup := by
  refine List.Nodup.map_on (fun p hp q hq hid => ?_) h.postedOnce.of_map
  have hnumber := (h.of_mem_posted hp).1
  rw [hid] at hnumber
  have hcall : p.call = q.call := h.eq_of_number_eq hN hnumber (h.of_mem_posted hq).1
  exact List.inj_on_of_nodup_map h.postedOnce hp hq hcall

/-- Once all calls have taken a number, so many numbers were taken. -/
theorem length_taken_eq (h : s.Consistent calls) (hall : ∀ i, (s.stage i).number ≠ none) :
    s.taken.length = N := by
  have hmem : ∀ i, i ∈ s.taken.map Prod.fst := by
    intro i
    obtain ⟨id, hid⟩ := Option.ne_none_iff_exists'.mp (hall i)
    exact List.mem_map.mpr ⟨(i, id), ((h.fits i).taken_iff id).mpr hid, rfl⟩
  have hperm : (s.taken.map Prod.fst).Perm (List.finRange N) :=
    (List.perm_ext_iff_of_nodup h.takenOnce (List.nodup_finRange N)).mpr fun i =>
      iff_of_true (hmem i) (List.mem_finRange i)
  have hlength := hperm.length_eq
  rwa [List.length_map, List.length_finRange] at hlength

/-- Once all calls have posted, their texts have all the numbers that were taken. -/
theorem perm_posted (h : s.Consistent calls) (hN : N < UInt64.size)
    (hall : ∀ i, (s.stage i).hasPosted = true) :
    (s.posted.map Posting.id).Perm (s.taken.map Prod.snd) := by
  refine (List.perm_ext_iff_of_nodup (h.nodup_posted hN) (h.nodup_numbers hN)).mpr fun id => ?_
  simp only [List.mem_map, Prod.exists, exists_eq_right]
  constructor
  · rintro ⟨p, hp, rfl⟩
    exact ⟨p.call, ((h.fits p.call).taken_iff p.id).mpr (h.of_mem_posted hp).1⟩
  · rintro ⟨i, hi⟩
    have hnumber := ((h.fits i).taken_iff id).mp hi
    exact ⟨⟨i, id, _⟩, ((h.fits i).posted_iff id _).mpr ⟨hall i, hnumber, rfl⟩, rfl⟩

/-- A call that is done with a result has received a reply that answers it, and the response in this
reply repeats the number of no other call. -/
theorem answered (h : s.Consistent calls) (hN : N < UInt64.size) {i : Fin N} {id : UInt64}
    {outcome : Except Fault Reply} {v : Json} (hdone : s.stage i = .done id outcome (.ok v)) :
    ∃ reply, outcome = .ok reply ∧ reply.Answers id v ∧ ∀ r, reply.Holds r →
      ∀ j id', j ≠ i → (s.stage j).number = some id' → ¬r.Repeats id' := by
  have hresolved := (h.fits i).resolved id outcome _ hdone
  cases outcome with
  | error fault => cases hresolved
  | ok reply =>
    have hanswers : reply.Answers id v := Reply.resolve_eq_ok_iff.mp hresolved.symm
    refine ⟨reply, rfl, hanswers, fun r hr j id' hj hnumber hother => hj ?_⟩
    obtain ⟨r', hr', -, hown, -⟩ := hanswers
    obtain rfl : r' = r := hr'.unique hr
    obtain rfl : id' = id := hother.unique hown
    exact h.eq_of_number_eq hN hnumber (by rw [hdone]; rfl)

end Consistent

/-- In every run of so many calls over a connection that counts them, the numbers taken are those
from one on, in order; no two texts are posted with the same number, each being that of a call with
the number that it has taken, which stands at its beginning and under which the call is received if
its text can be read; once all calls have posted, whatever became of them, all numbers up to that of
the calls are in use; and a call that returns a result has received a reply that answers it, with a
response that repeats the number of no other call. -/
theorem numbers_unshared {σ : Type} {config : Config} (hcounted : config.fixedId = none)
    (transport : Transport σ) (network : σ) (hN : N < UInt64.size)
    (hsteps : Steps calls (start N (Connection.new config transport network).ids) s) :
    s.taken.map Prod.snd = (List.range' 1 s.taken.length).map UInt64.ofNat ∧
    (s.taken.map Prod.fst).Nodup ∧
    (s.posted.map Posting.id).Nodup ∧
    (∀ p ∈ s.posted, (p.call, p.id) ∈ s.taken ∧ p.text = (calls p.call).text p.id ∧
      (∃ rest, p.text.toList = "\x7b\"id\":".toList ++ Numeral.digits p.id.toNat ++ ',' :: rest) ∧
      ((calls p.call).IsReadable →
        Received.ofText p.text = .ok ⟨.nat p.id.toNat, (calls p.call).sorted⟩)) ∧
    ((∀ i, (s.stage i).hasPosted = true) → s.taken.length = N ∧
      (s.posted.map Posting.id).Perm (s.taken.map Prod.snd)) ∧
    ∀ i id outcome v, s.stage i = .done id outcome (.ok v) →
      ∃ reply, outcome = .ok reply ∧ reply.Answers id v ∧ ∀ r, reply.Holds r →
        ∀ j id', j ≠ i → (s.stage j).number = some id' → ¬r.Repeats id' := by
  have hids : (Connection.new config transport network).ids = { fixed := none } := by
    rw [Connection.new, hcounted]
  rw [hids] at hsteps
  have h : s.Consistent calls := hsteps.consistent
  refine ⟨h.counted, h.takenOnce, h.nodup_posted hN, fun p hp => ?_, fun hall => ?_,
    fun i id outcome v hdone => h.answered hN hdone⟩
  · obtain ⟨hnumber, htext⟩ := h.of_mem_posted hp
    refine ⟨((h.fits p.call).taken_iff p.id).mpr hnumber, htext, ?_, fun hreadable => ?_⟩
    · rw [htext]
      exact (calls p.call).exists_toList_text p.id
    · rw [htext]
      exact Received.ofText_text hreadable p.id
  · refine ⟨h.length_taken_eq fun i hnone => ?_, h.perm_posted hN hall⟩
    have hposted := hall i
    cases hi : s.stage i with
    | waiting =>
      rw [hi] at hposted
      cases hposted
    | _ =>
      rw [hi] at hnone
      cases hnone

/-- The text of a response to the second call. -/
def secondText : String := "\x7b\"id\":2,\"result\":5\x7d"

theorem resolve_secondText : (Reply.ok secondText).resolve 2 = .ok (.nat 5) := by
  have hbody : Json.evaluate? Response.demand secondText =
      some (.obj [("id", .nat 2), ("result", .nat 5)]) := by
    decide +kernel
  have hholds : (Reply.ok secondText).Holds ⟨some (.nat 2), some (.nat 5), none⟩ := by
    refine ⟨rfl, fun hblank => ?_, _, hbody,
      .object _ rfl rfl (Json.Form.readsAs_none_iff.mpr rfl)⟩
    exact absurd (hblank '"' (by decide)) (by decide)
  exact Reply.resolve_eq_ok_iff.mpr ⟨_, hholds, rfl, .number rfl, rfl⟩

/-- Of two calls that take numbers one after the other, the second may post first; a node receives
each under its own number, and the answer to the second cannot be taken for one to the first. -/
theorem numbers_unshared_two :
    ∃ s : Exchange 2, Steps (fun _ => ⟨"database_api", "get_account_count", []⟩)
        (start 2 { fixed := none }) s ∧
      s.posted.map Posting.id = [2, 1] ∧ (s.posted.map Posting.id).Nodup ∧
      (∀ p ∈ s.posted, Received.ofText p.text =
        .ok ⟨.nat p.id.toNat, ⟨"database_api", "get_account_count", []⟩⟩) ∧
      s.stage 1 = .done 2 (.ok (.ok secondText)) (.ok (.nat 5)) ∧
      ∀ r, (Reply.ok secondText).Holds r → ¬r.Repeats 1 := by
  let calls : Fin 2 → Invocation := fun _ => ⟨"database_api", "get_account_count", []⟩
  let numbered := ((start 2 { fixed := none }).taking 0).taking 1
  let sent := (numbered.posting calls 1 2).posting calls 0 1
  let received := sent.moved 1 (.received 2 (.ok (.ok secondText)))
  let final := received.moved 1 (.resolved 2 (.ok (.ok secondText)))
  have hsecond : numbered.stage 1 = .numbered 2 := by
    simp [numbered, taking, start, Ids.take, moved]
  have hfirst : numbered.stage 0 = .numbered 1 := by
    simp [numbered, taking, start, Ids.take, moved]
  have hsent : Steps calls (start 2 { fixed := none }) sent :=
    .tail (.tail (.tail (.single (.take 0 rfl)) (.take 1 rfl)) (.post 1 2 hsecond))
      (.post 0 1 hfirst)
  have hreceived : Step calls sent received := .receive 1 2 _ rfl
  have hresolved : Step calls received final := .resolve 1 2 _ (sent.stage_moved_self 1 _)
  have hfinal : Steps calls (start 2 { fixed := none }) final :=
    .tail (.tail hsent hreceived) hresolved
  have hdone : final.stage 1 = .done 2 (.ok (.ok secondText)) (.ok (.nat 5)) := by
    rw [received.stage_moved_self 1, Stage.resolved_ok, resolve_secondText]
  have hother : (final.stage 0).number = some 1 := rfl
  have hcounted : ({} : Config).fixedId = none := rfl
  have hreadable : Invocation.IsReadable ⟨"database_api", "get_account_count", []⟩ :=
    ⟨trivial, by decide⟩
  obtain ⟨-, -, hposted, hnumbered, -, hanswered⟩ := numbers_unshared hcounted
    (Connection.stubborn secondText { fixed := none }).transport () (by decide) hfinal
  refine ⟨final, hfinal, rfl, hposted, fun p hp => (hnumbered p hp).2.2.2 hreadable, hdone,
    fun r hr => ?_⟩
  obtain ⟨reply, hreply, -, hunshared⟩ := hanswered 1 2 _ _ hdone
  obtain rfl : Reply.ok secondText = reply := Except.ok.inj hreply
  exact hunshared r hr 0 1 (by decide) hother

end Exchange

end LedgerClient.Rpc
