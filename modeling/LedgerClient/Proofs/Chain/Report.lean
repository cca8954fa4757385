import LedgerClient.Chain.Properties
import LedgerClient.Proofs.Key.Text
import LedgerClient.Proofs.Operation.Json

/-!
# Reports on the chain

A node reports on the chain in one of many fields, of which two matter for a new transaction: the
identifier of the latest block and the time at which it was made. `ChainState.Reports` says what
value reports which head and time, by the texts that stand in their places, and `reports_iff` that
this is what is read from the value. Any head and any time can be reported (`reports_shortReport`).

That a record is read field by field means that the fields which come later make no difference to
those before them; `Fields.forall_reads_field` takes them off one at a time.
-/

namespace LedgerClient

open Json

namespace Json

variable {σ τ α : Type}

/-- A value of a type that is written as texts is read from a text. -/
theorem Form.of_read_ofText {toText : α → String} {parse : String → Except Misfit α} {v : Json}
    {x : α} (h : (Form.ofText toText parse).read v = .ok x) :
    ∃ s, v = .str s ∧ parse s = .ok x := by
  cases v with
  | str s => exact ⟨s, rfl, h⟩
  | _ => cases h

namespace Fields

/-- The fields are read from a value, be it an object that has them as members or a list that begins
with them. -/
inductive Reads (fs : Fields σ τ) : Json → τ → Prop
  /-- The fields are members of an object. -/
  | members {ms : List (String × Json)} {t : τ} (h : fs.ofMembers (find? ms) = .ok t) :
    Reads fs (.obj ms) t
  /-- The fields are the first items of a list. -/
  | items {vs rest : List Json} {t : τ} (h : fs.ofItems vs = .ok (t, rest)) : Reads fs (.arr vs) t

theorem reads_of_read {fs : Fields σ σ} {v : Json} {s : σ} (h : (Form.record fs).read v = .ok s) :
    fs.Reads v s := by
  cases v with
  | obj ms => exact .members (Form.read_record_obj_eq_ok_iff.mp h)
  | arr vs =>
    obtain ⟨⟨x, rest⟩, hx, hrest⟩ := bind_eq_ok_iff.mp h
    dsimp only at hrest
    split at hrest <;> cases hrest
    exact .items hx
  | _ => cases h

variable {fs : Fields σ (α → τ)} {name : String} {f : Form α} {get : σ → α} {presence : Presence α}

/-- What is read with one more field from members is read without it and given the field. -/
theorem exists_of_ofMembers_field {members : String → Option Json} {t : τ}
    (h : (fs.field name f get presence).ofMembers members = .ok t) :
    ∃ g x, fs.ofMembers members = .ok g ∧ readMember name f.read presence members = .ok x ∧
      g x = t := by
  obtain ⟨⟨g, x⟩, hboth, rfl⟩ := map_eq_ok_iff.mp h
  obtain ⟨hg, hx⟩ := both_eq_ok_iff.mp hboth
  exact ⟨g, x, hg, hx, rfl⟩

/-- What is read with one more field from items is read without it, and then the field from the
items that are left. -/
theorem exists_of_ofItems_field {vs rest : List Json} {t : τ}
    (h : (fs.field name f get presence).ofItems vs = .ok (t, rest)) :
    ∃ g x mid, fs.ofItems vs = .ok (g, mid) ∧ readItem f.read presence mid = .ok (x, rest) ∧
      g x = t := by
  obtain ⟨⟨g, mid⟩, hg, h⟩ := bind_eq_ok_iff.mp h
  obtain ⟨⟨x, rest'⟩, hx, h⟩ := bind_eq_ok_iff.mp h
  cases h
  exact ⟨g, x, mid, hg, hx, rfl⟩

/-- One more field makes no difference to what is read for the fields before it. -/
theorem forall_reads_field {v : Json} {p : τ → Prop} (h : ∀ g, fs.Reads v g → ∀ x, p (g x)) :
    ∀ t, (fs.field name f get presence).Reads v t → p t := by
  intro t hread
  cases hread with
  | members hread =>
    obtain ⟨g, x, hg, -, rfl⟩ := exists_of_ofMembers_field hread
    exact h g (.members hg) x
  | items hread =>
    obtain ⟨g, x, mid, hg, -, rfl⟩ := exists_of_ofItems_field hread
    exact h g (.items hg) x

end Fields

end Json

namespace ChainState

/-! ### The head and the time in a report -/

/-- The texts stand in a report where the identifier of the latest block and its time belong. -/
inductive HasTexts : Json → String → String → Prop
  /-- They are members of an object. -/
  | members {ms : List (String × Json)} {head time : String}
    (hhead : find? ms "head_block_id" = some (.str head))
    (htime : find? ms "time" = some (.str time)) : HasTexts (.obj ms) head time
  /-- They are the second and the third item of a list. -/
  | items {number : Json} {rest : List Json} {head time : String} :
    HasTexts (.arr (number :: .str head :: .str time :: rest)) head time

/-- The texts in a report are read as the head and the time. -/
def Shows (v : Json) (head : BlockId) (time : Timestamp) : Prop :=
  ∃ headText timeText, HasTexts v headText timeText ∧
    Identifier.ofText headText = .ok head ∧ Timestamp.ofText timeText = .ok time

/-- The value is read as a state of the chain and shows the head and the time. -/
structure Reports (v : Json) (head : BlockId) (time : Timestamp) : Prop where
  exists_read : ∃ state, form.read v = .ok state
  shows : Shows v head time

/-- There is one text in either place. -/
theorem HasTexts.unique {v : Json} {head head' time time' : String} (h : HasTexts v head time)
    (h' : HasTexts v head' time') : head = head' ∧ time = time' := by
  cases h with
  | members hhead htime =>
    cases h' with
    | members hhead' htime' =>
      exact ⟨Json.str.inj (Option.some.inj (hhead.symm.trans hhead')),
        Json.str.inj (Option.some.inj (htime.symm.trans htime'))⟩
  | items =>
    cases h'
    exact ⟨rfl, rfl⟩

/-- The head and the time are read from their texts, whatever is made of them. -/
theorem of_reads_firstFields {σ τ : Type} {mk : UInt32 → BlockId → Timestamp → τ}
    {number : σ → UInt32} {head : σ → BlockId} {time : σ → Timestamp} {v : Json} {t : τ}
    (h : (((Fields.start mk).field "head_block_number" .u32 number).field "head_block_id"
      Identifier.form head |>.field "time" Timestamp.form time).Reads v t) :
    ∃ n i time, mk n i time = t ∧ Shows v i time := by
  cases h with
  | members h =>
    obtain ⟨g, time, hg, htime, rfl⟩ := Fields.exists_of_ofMembers_field h
    obtain ⟨g', i, hg', hhead, rfl⟩ := Fields.exists_of_ofMembers_field hg
    obtain ⟨g'', n, hg'', -, rfl⟩ := Fields.exists_of_ofMembers_field hg'
    cases hg''
    obtain ⟨w, hw, hread⟩ := (of_readMember hhead).resolve_right nofun
    obtain ⟨w', hw', hread'⟩ := (of_readMember htime).resolve_right nofun
    obtain ⟨headText, rfl, hi⟩ := Form.of_read_ofText hread
    obtain ⟨timeText, rfl, ht⟩ := Form.of_read_ofText hread'
    exact ⟨n, i, time, rfl, headText, timeText, .members hw hw', mapError_eq_ok_iff.mp hi,
      mapError_eq_ok_iff.mp ht⟩
  | items h =>
    obtain ⟨g, time, mid, hg, htime, rfl⟩ := Fields.exists_of_ofItems_field h
    obtain ⟨g', i, mid', hg', hhead, rfl⟩ := Fields.exists_of_ofItems_field hg
    obtain ⟨g'', n, mid'', hg'', hnumber, rfl⟩ := Fields.exists_of_ofItems_field hg'
    cases hg''
    obtain ⟨_, rfl, -⟩ := (of_readItem hnumber).resolve_right nofun
    obtain ⟨w, rfl, hread⟩ := (of_readItem hhead).resolve_right nofun
    obtain ⟨w', rfl, hread'⟩ := (of_readItem htime).resolve_right nofun
    obtain ⟨headText, rfl, hi⟩ := Form.of_read_ofText hread
    obtain ⟨timeText, rfl, ht⟩ := Form.of_read_ofText hread'
    exact ⟨n, i, time, rfl, headText, timeText, .items, mapError_eq_ok_iff.mp hi,
      mapError_eq_ok_iff.mp ht⟩

/-- The head and the time of a state that is read stand in it as texts. -/
theorem reports_of_read {v : Json} {state : ChainState} (h : form.read v = .ok state) :
    Reports v state.head state.time := by
  refine ⟨⟨state, h⟩, ?_⟩
  suffices hall : ∀ s : ChainState, Fields.Reads _ v s → Shows v s.head s.time from
    hall state (Fields.reads_of_read h)
  -- All the fields behind the time are taken off, the last one first.
  iterate 14 refine Fields.forall_reads_field ?_
  intro g hg
  obtain ⟨n, i, time, rfl, hshows⟩ := of_reads_firstFields hg
  intros
  exact hshows

/-- **Reports.** A value reports a head and a time if and only if they are those of the state that
is read from it. -/
theorem reports_iff {v : Json} {head : BlockId} {time : Timestamp} : Reports v head time ↔
    ∃ state, form.read v = .ok state ∧ state.head = head ∧ state.time = time := by
  constructor
  · rintro ⟨⟨state, hread⟩, headText, timeText, htexts, hhead, htime⟩
    obtain ⟨-, headText', timeText', htexts', hhead', htime'⟩ := reports_of_read hread
    obtain ⟨rfl, rfl⟩ := htexts.unique htexts'
    exact ⟨state, hread, Except.ok.inj (hhead'.symm.trans hhead),
      Except.ok.inj (htime'.symm.trans htime)⟩
  · rintro ⟨state, hread, rfl, rfl⟩
    exact reports_of_read hread

/-- A report with the members that there have to be. -/
def shortReport (number : UInt32) (head : BlockId) (time : Timestamp) : Json :=
  .obj [("current_witness", .str "witness"), ("head_block_id", .str head.text),
    ("head_block_number", .nat number.toNat), ("last_irreversible_block_num", .nat 0),
    ("time", .str time.text)]

/-- Any head and any time can be reported. -/
theorem reports_shortReport (number : UInt32) (head : BlockId) (time : Timestamp) :
    Reports (shortReport number head time) head time := by
  have hnumber : Form.u32.read (.nat number.toNat) = .ok number :=
    Form.readsBack_u32 isTidying_id number
  have hhead : Identifier.form.read (.str head.text) = .ok head :=
    head.form_readsBack isTidying_id
  have htime : Timestamp.form.read (.str time.text) = .ok time :=
    time.form_readsBack isTidying_id
  refine reports_iff.mpr ⟨⟨number, head, time, none, "witness", 0, none, none, none, none, none,
    0, 0, 0, 0, 0, 0⟩, Form.read_record_obj_eq_ok_iff.mpr ?_, rfl, rfl⟩
  -- What is not reported is absent or has its default.
  iterate 11 refine Fields.ofMembers_field ?_ rfl
  refine Fields.ofMembers_field ?_ ((readMember_of_eq_some rfl).mpr rfl)
  iterate 2 refine Fields.ofMembers_field ?_ rfl
  refine Fields.ofMembers_field ?_ ((readMember_of_eq_some rfl).mpr htime)
  refine Fields.ofMembers_field ?_ ((readMember_of_eq_some rfl).mpr hhead)
  exact Fields.ofMembers_field rfl ((readMember_of_eq_some rfl).mpr hnumber)

end ChainState

end LedgerClient
