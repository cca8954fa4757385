import LedgerClient.Operation.Json
import LedgerClient.Proofs.Json.Sorted

/-!
# The bound on nesting never shows

The reader of operations bounds the nesting by the depth of the value it is given, so that it ends.
Levels beyond this depth make no difference: what is nested in a payload nests less deep than the
operation, and readers that agree on all values that are not as deep as the payload read the payload
alike. Hence `Operation.ofJson_pair`: reading a pair asks the reader itself for what is nested, and
the proofs about it never speak of levels again.
-/

namespace LedgerClient

open Json Json.Form

namespace Json

/-! ### Depth -/

theorem depth_le_depthItems : {xs : List Json} → ∀ x ∈ xs, x.depth ≤ depthItems xs
  | y :: ys, x, h => by
    rw [depthItems]
    rcases List.mem_cons.mp h with rfl | h
    · exact Nat.le_max_left _ _
    · exact Nat.le_trans (depth_le_depthItems x h) (Nat.le_max_right _ _)

theorem depth_le_depthMembers : {ms : List (String × Json)} → ∀ m ∈ ms, m.2.depth ≤ depthMembers ms
  | (k, v) :: ms, m, h => by
    rw [depthMembers]
    rcases List.mem_cons.mp h with rfl | h
    · exact Nat.le_max_left _ _
    · exact Nat.le_trans (depth_le_depthMembers m h) (Nat.le_max_right _ _)

/-! ### Readers that agree -/

theorem readMember_congr {α : Type} {name : String} {read read' : Json → Except Misfit α}
    {presence : Presence α} {members : String → Option Json}
    (h : ∀ v, members name = some v → read v = read' v) :
    readMember name read presence members = readMember name read' presence members := by
  cases hv : members name with
  | none => cases hdefault : presence.absentMember <;> simp only [readMember, hv, hdefault]
  | some v => simp only [readMember, hv, h v hv]

theorem Form.readAll_congr {α : Type} {read read' : Json → Except Misfit α} :
    {vs : List Json} → (∀ v ∈ vs, read v = read' v) → readAll read vs = readAll read' vs
  | [], _ => rfl
  | v :: vs, h => by
    obtain ⟨hv, hvs⟩ := List.forall_mem_cons.mp h
    rw [readAll, readAll, hv, readAll_congr hvs]

end Json

/-- The readers agree on values that nest no deeper than the given one. -/
def AgreeBelow (nested nested' : Json → Except Misfit Operation) (v : Json) : Prop :=
  ∀ w, w.depth ≤ v.depth → nested w = nested' w

namespace AgreeBelow

variable {nested nested' : Json → Except Misfit Operation}

theorem of_item {xs : List Json} (h : AgreeBelow nested nested' (.arr xs)) :
    ∀ x ∈ xs, AgreeBelow nested nested' x := by
  intro x hx w hw
  have hle := depth_le_depthItems x hx
  exact h w (by rw [depth]; omega)

theorem of_member {ms : List (String × Json)} (h : AgreeBelow nested nested' (.obj ms))
    {name : String} {v : Json} (hv : find? ms name = some v) : AgreeBelow nested nested' v := by
  intro w hw
  have hle : v.depth ≤ depthMembers ms := depth_le_depthMembers _ (mem_of_find? hv)
  exact h w (by rw [depth]; omega)

theorem readWrapped_eq {v : Json} (h : AgreeBelow nested nested' v) :
    readWrapped nested v = readWrapped nested' v := by
  cases v with
  | obj ms =>
    have hop : readMember "op" nested .required (find? ms) =
        readMember "op" nested' .required (find? ms) :=
      readMember_congr fun v hv => h.of_member hv v (Nat.le_refl _)
    simp only [readWrapped, Form.record, Fields.readMembers, Fields.field, hop]
  | arr xs =>
    cases xs with
    | nil => rfl
    | cons x xs =>
      have hx : nested x = nested' x := h.of_item x List.mem_cons_self x (Nat.le_refl _)
      simp only [readWrapped, Form.record, Fields.readItems, Fields.field, Fields.start, readItem,
        bind, Except.bind, hx]
  | _ => rfl

theorem readWrappedList_eq {v : Json} (h : AgreeBelow nested nested' v) :
    readWrappedList nested v = readWrappedList nested' v := by
  cases v with
  | arr xs => exact readAll_congr fun x hx => (h.of_item x hx).readWrapped_eq
  | _ => rfl

theorem ofMembers_eq {ms : List (String × Json)} (h : AgreeBelow nested nested' (.obj ms)) :
    (layout : Layout) →
      Record.ofMembers nested layout (find? ms) = Record.ofMembers nested' layout (find? ms)
  | [] => rfl
  | .field name shape :: layout => by
    rw [Record.ofMembers, Record.ofMembers, h.ofMembers_eq layout]
  | .operations name :: layout => by
    have hops : readMember name (readWrappedList nested) .required (find? ms) =
        readMember name (readWrappedList nested') .required (find? ms) :=
      readMember_congr fun v hv => (h.of_member hv).readWrappedList_eq
    rw [Record.ofMembers, Record.ofMembers, hops, h.ofMembers_eq layout]

theorem ofItems_eq : (layout : Layout) → {xs : List Json} →
    (∀ x ∈ xs, AgreeBelow nested nested' x) →
      Record.ofItems nested layout xs = Record.ofItems nested' layout xs
  | [], _, _ => rfl
  | .field _ _ :: _, [], _ | .operations _ :: _, [], _ => rfl
  | .field _ shape :: layout, x :: xs, h => by
    obtain ⟨-, hxs⟩ := List.forall_mem_cons.mp h
    rw [Record.ofItems, Record.ofItems, ofItems_eq layout hxs]
  | .operations _ :: layout, x :: xs, h => by
    obtain ⟨hx, hxs⟩ := List.forall_mem_cons.mp h
    rw [Record.ofItems, Record.ofItems, hx.readWrappedList_eq, ofItems_eq layout hxs]

theorem recordOfJson_eq {v : Json} (h : AgreeBelow nested nested' v) (layout : Layout) :
    Record.ofJson nested layout v = Record.ofJson nested' layout v := by
  cases v with
  | obj ms => simp only [Record.ofJson, h.ofMembers_eq layout]
  | arr xs => exact ofItems_eq layout h.of_item
  | _ => rfl

theorem ofPair_eq {body : Json} (h : AgreeBelow nested nested' body) (tag : Json) :
    Operation.ofPair nested tag body = Operation.ofPair nested' tag body := by
  simp only [Operation.ofPair, Operation.readTagged, Operation.readBody, h.recordOfJson_eq]

end AgreeBelow

namespace Operation

/-- Levels beyond the depth of a value make no difference. -/
theorem ofJsonAt_eq {d d' : Nat} {v : Json} (h : v.depth ≤ d) (h' : v.depth ≤ d') :
    ofJsonAt d v = ofJsonAt d' v := by
  induction d generalizing d' v with
  | zero =>
    cases v with
    | arr xs => rw [depth] at h; omega
    | _ => cases d' <;> rfl
  | succ d ih =>
    cases v with
    | arr xs =>
      rw [depth] at h h'
      obtain ⟨d', rfl⟩ : ∃ n, d' = n + 1 := ⟨d' - 1, by omega⟩
      obtain _ | ⟨tag, _ | ⟨body, rest⟩⟩ := xs
      · rfl
      · rfl
      · -- The payload is an item of the list, which has one level more.
        have hbody : body.depth ≤ depthItems (tag :: body :: rest) :=
          depth_le_depthItems body (by simp)
        have hagree : AgreeBelow (ofJsonAt d) (ofJsonAt d') body := fun w hw =>
          ih (by omega) (by omega)
        rw [ofJsonAt, ofJsonAt, hagree.ofPair_eq]
    | _ => cases d' <;> rfl

/-- What is nested in a pair is read like the pair itself. -/
theorem ofJson_pair (tag body : Json) : ofJson (.arr [tag, body]) = ofPair ofJson tag body := by
  have hbody : body.depth ≤ depthItems [tag, body] := depth_le_depthItems body (by simp)
  have hagree : AgreeBelow (ofJsonAt (depthItems [tag, body])) ofJson body := fun w hw =>
    ofJsonAt_eq (by omega) (Nat.le_refl _)
  rw [ofJson, depth, ofJsonAt, hagree.ofPair_eq]
  cases ofPair ofJson tag body <;> rfl

end Operation

end LedgerClient
