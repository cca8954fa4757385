import LedgerClient.Proofs.Json.Form

/-!
# Reading, writing and reading again

A form is *stable* if whatever it reads is read again from what it writes. A form that reads back
every value is stable; one that does not, such as that of amounts, may still be, because no value
that it fails to read back is ever read. Lists and options of stable forms are stable.

A record is stable if its fields are, and if the defaults of absent fields are read back. The fields
are taken one at a time, in the order of the description, and what has been read so far is only a
function that awaits the others. `Fields.Restores` therefore speaks of all records that agree with
what has been read in the fields so far, and asks at the end that the record itself is among them.
-/

namespace LedgerClient.Json

variable {α σ τ : Type} {tidy : Json → Json}

namespace Form

/-- Whatever is read from a tidied value is read again from what is written for it. -/
def IsStable (f : Form α) (tidy : Json → Json) : Prop :=
  f.Yields tidy (f.ReadsBack tidy)

theorem isStable_of_forall {f : Form α} (h : ∀ x, f.ReadsBack tidy x) : f.IsStable tidy :=
  fun _ x _ _ => h x

/-- A value that stands for itself is tidied if it was read. -/
theorem isStable_any : any.IsStable tidy := by
  intro v w hv hread
  obtain rfl : v = w := Except.ok.inj hread
  exact congrArg Except.ok hv

theorem IsStable.list (ht : IsTidying tidy) {f : Form α} (h : f.IsStable tidy) :
    f.list.IsStable tidy :=
  fun _ _ hv hread => ReadsBack.list ht (Yields.list ht h hv hread)

theorem IsStable.option (ht : IsTidying tidy) {f : Form α} (hnull : f.RejectsNull)
    (h : f.IsStable tidy) : f.option.IsStable tidy :=
  fun _ _ hv hread => ReadsBack.option ht hnull (Yields.option h hv hread)

theorem rejectsNull_ofText {toText : α → String} {parse : String → Except Misfit α} :
    (ofText toText parse).RejectsNull := nofun

theorem rejectsNull_record {fs : Fields α α} : (record fs).RejectsNull := nofun

end Form

namespace Fields

/-- The description writes members of the given names, and from what is written for a record that
agrees with what was read, the same is read again. Of this agreement, as a property of records, and
of what was read `p` holds. -/
structure Restores (fs : Fields σ τ) (tidy : Json → Json) (names : List String)
    (p : (σ → Prop) → τ → Prop) : Prop where
  /-- The names of the members. -/
  names_eq (s : σ) : (fs.write s).map Prod.fst = names
  /-- What is read is read again. -/
  yields : fs.Yields tidy fun t => ∃ agrees, p agrees t ∧ ∀ s, agrees s → fs.ReadsBack tidy s t

/-- All of a record is read again from what is written for the record. -/
def IsStable (fs : Fields σ σ) (tidy : Json → Json) (names : List String) : Prop :=
  fs.Restores tidy names fun agrees s => agrees s

theorem restores_start {mk : τ} {p : (σ → Prop) → τ → Prop} (h : p (fun _ => True) mk) :
    (start mk).Restores tidy [] p where
  names_eq _ := rfl
  yields := yields_start ⟨fun _ => True, h, fun s _ => readsBack_start mk s⟩

namespace Restores

variable {fs : Fields σ (α → τ)} {name : String} {f : Form α} {get : σ → α} {names : List String}
  {p : (σ → Prop) → τ → Prop}

/-- With one more field, a record has to agree in this field too. -/
theorem field {presence : Presence α}
    (h : fs.Restores tidy names fun agrees g => ∀ x, p (fun s => agrees s ∧ get s = x) (g x))
    (hf : f.IsStable tidy) (hmember : ∀ x ∈ presence.absentMember, f.ReadsBack tidy x)
    (hitem : ∀ x ∈ presence.absentItem, f.ReadsBack tidy x) :
    (fs.field name f get presence).Restores tidy (names ++ [name]) p where
  names_eq s := by
    rw [Fields.field, List.map_append, h.names_eq]
    rfl
  yields := by
    refine Yields.field (h.yields.imp ?_) hf hmember hitem
    rintro g ⟨agrees, hp, hback⟩ x hx
    refine ⟨fun s => agrees s ∧ get s = x, hp x, ?_⟩
    rintro s ⟨hs, rfl⟩
    exact (hback s hs).field hx

variable (h : fs.Restores tidy names fun agrees g => ∀ x, p (fun s => agrees s ∧ get s = x) (g x))

include h

/-- A field whose form reads back every value may be stated or have a default. -/
theorem always {presence : Presence α} (hf : ∀ x, f.ReadsBack tidy x) :
    (fs.field name f get presence).Restores tidy (names ++ [name]) p :=
  h.field (Form.isStable_of_forall hf) (fun x _ => hf x) fun x _ => hf x

/-- A field that must be stated. -/
theorem required (hf : f.IsStable tidy) : (fs.field name f get).Restores tidy (names ++ [name]) p :=
  h.field hf (fun _ hx => nomatch hx) fun _ hx => nomatch hx

/-- A field with a default. -/
theorem default {x : α} (hf : f.IsStable tidy) (hx : f.ReadsBack tidy x) :
    (fs.default name f get x).Restores tidy (names ++ [name]) p :=
  h.field hf (fun _ hy => Option.some.inj hy ▸ hx) fun _ hy => Option.some.inj hy ▸ hx

end Restores

/-- A field that may be left out. -/
theorem Restores.optional (ht : IsTidying tidy) {fs : Fields σ (Option α → τ)} {name : String}
    {f : Form α} {get : σ → Option α} {names : List String} {p : (σ → Prop) → τ → Prop}
    (h : fs.Restores tidy names fun agrees g => ∀ x, p (fun s => agrees s ∧ get s = x) (g x))
    (hnull : f.RejectsNull) (hf : f.IsStable tidy) :
    (fs.optional name f get).Restores tidy (names ++ [name]) p :=
  h.default (hf.option ht hnull) (.option ht hnull (by simp))

/-- A list that is empty if it is left out. -/
theorem Restores.list (ht : IsTidying tidy) {fs : Fields σ (List α → τ)} {name : String}
    {f : Form α} {get : σ → List α} {names : List String} {p : (σ → Prop) → τ → Prop}
    (h : fs.Restores tidy names fun agrees g => ∀ x, p (fun s => agrees s ∧ get s = x) (g x))
    (hf : f.IsStable tidy) :
    (fs.default name f.list get []).Restores tidy (names ++ [name]) p :=
  h.default (hf.list ht) (.list ht (by simp))

/-- What is read for the fields of a record is read again. -/
theorem IsStable.yields_readsBack {fs : Fields σ σ} {names : List String}
    (h : fs.IsStable tidy names) : fs.Yields tidy fun s => fs.ReadsBack tidy s s := by
  refine h.yields.imp ?_
  rintro s ⟨agrees, hs, hback⟩
  exact hback s hs

end Fields

/-- A record is stable if its fields are and have different names. -/
theorem Form.IsStable.record (ht : IsTidying tidy) {fs : Fields σ σ} {names : List String}
    (h : fs.IsStable tidy names) (hnames : names.Nodup) : (Form.record fs).IsStable tidy := by
  refine (Form.Yields.record ht h.yields_readsBack).imp fun s hs => ?_
  exact .record ht hs (by rwa [h.names_eq])

end LedgerClient.Json
