import LedgerClient.Proofs.Wire.Codec

/-!
# Wire forms tell values apart

`Output.AgreeOnlyIf a b p` says that two outputs without a fault, whatever is put after each, are
the same bytes only if `p` holds, and that then the same follows both. It is the form of "no wire
form is the beginning of another" that composes: of two outputs each, the first parts settle where
the second parts begin.

A codec *separates* two values if their wire forms agree only if the values are equal. No length is
bounded here, unlike for reading back: a count tells a longer list from a shorter one even where it
exceeds the numbers that a reader accepts.
-/

namespace LedgerClient.Wire

/-! ### Outputs -/

/-- Without faults, and whatever follows, the outputs are the same bytes only if `p` holds and the
same follows. -/
def Output.AgreeOnlyIf (a b : Output) (p : Prop) : Prop :=
  ∀ x y r s, a = .ofBytes x → b = .ofBytes y → x ++ r = y ++ s → p ∧ r = s

namespace Output

/-- An output in two parts has no fault only if neither part has. -/
theorem append_eq_ofBytes {a b : Output} {z : Bytes} (h : a ++ b = .ofBytes z) :
    ∃ x y, a = .ofBytes x ∧ b = .ofBytes y ∧ z = x ++ y := by
  obtain ⟨x, _ | f⟩ := a
  · obtain ⟨y, g⟩ := b
    obtain ⟨rfl, rfl⟩ := Output.mk.inj h
    exact ⟨x, y, rfl, rfl, rfl⟩
  · exact absurd (Output.mk.inj h).2 (by simp)

theorem AgreeOnlyIf.imp {a b : Output} {p q : Prop} (h : a.AgreeOnlyIf b p) (hpq : p → q) :
    a.AgreeOnlyIf b q :=
  fun x y r s ha hb heq => (h x y r s ha hb heq).imp_left hpq

theorem AgreeOnlyIf.symm {a b : Output} {p : Prop} (h : a.AgreeOnlyIf b p) : b.AgreeOnlyIf a p :=
  fun x y r s hb ha heq => (h y x s r ha hb heq.symm).imp_right Eq.symm

/-- If the first parts agree, the second parts are compared under what this entails. -/
theorem AgreeOnlyIf.append {a a' b b' : Output} {p q : Prop} (h : a.AgreeOnlyIf b p)
    (h' : p → a'.AgreeOnlyIf b' q) : (a ++ a').AgreeOnlyIf (b ++ b') (p ∧ q) := by
  intro x y r s ha hb heq
  obtain ⟨x₁, x₂, hx₁, hx₂, rfl⟩ := append_eq_ofBytes ha
  obtain ⟨y₁, y₂, hy₁, hy₂, rfl⟩ := append_eq_ofBytes hb
  rw [List.append_assoc, List.append_assoc] at heq
  obtain ⟨hp, hrest⟩ := h x₁ y₁ _ _ hx₁ hy₁ heq
  obtain ⟨hq, hrs⟩ := h' hp x₂ y₂ r s hx₂ hy₂ hrest
  exact ⟨⟨hp, hq⟩, hrs⟩

/-- Bytes of one length agree only if they are the same. -/
theorem agreeOnlyIf_of_length {x y : Bytes} (h : x.length = y.length) :
    (ofBytes x).AgreeOnlyIf (ofBytes y) (x = y) := by
  rintro _ _ r s ⟨rfl⟩ ⟨rfl⟩ heq
  exact List.append_inj heq h

/-- A fault agrees with nothing. -/
theorem agreeOnlyIf_ofFault (fault : Fault) (b : Output) (p : Prop) :
    (ofFault fault).AgreeOnlyIf b p :=
  fun _ _ _ _ ha => absurd (Output.mk.inj ha).2 (by simp)

/-- Counts of different numbers differ, whatever follows. -/
theorem agreeOnlyIf_varintBytes (m n : Nat) :
    (ofBytes (varintBytes m)).AgreeOnlyIf (ofBytes (varintBytes n)) (m = n) := by
  rintro _ _ r s ⟨rfl⟩ ⟨rfl⟩ heq
  -- A reader that may take as many groups as the larger number reads both back.
  have hfits : ∀ k, k ≤ m + n → k < 2 ^ (7 * (m + n) + 1) := fun k hk =>
    Nat.lt_of_le_of_lt hk (Nat.lt_trans Nat.lt_two_pow_self
      (Nat.pow_lt_pow_right (by omega) (by omega)))
  have hm := Reader.takes_groups (m + n) m (hfits m (by omega)) r
  have hn := Reader.takes_groups (m + n) n (hfits n (by omega)) s
  rw [heq, hn] at hm
  obtain ⟨hvalue, hrest⟩ := Prod.mk.inj hm
  exact ⟨(Except.ok.inj hvalue).symm, hrest.symm⟩

end Output

namespace Codec

variable {α β : Type}

/-- The wire forms of the two values agree only if the values are equal. -/
def Separates (c : Codec α) (x y : α) : Prop :=
  (c.write x).AgreeOnlyIf (c.write y) (x = y)

/-- Values that are read back are told apart. -/
theorem Carries.separates {c : Codec α} {x y : α} (hx : c.Carries x) (hy : c.Carries y) :
    c.Separates x y := by
  obtain ⟨bytes, hwrite, -, htakes⟩ := hx
  obtain ⟨bytes', hwrite', -, htakes'⟩ := hy
  intro b b' r s hb hb' heq
  obtain rfl : bytes = b := (Output.mk.inj (hwrite.symm.trans hb)).1
  obtain rfl : bytes' = b' := (Output.mk.inj (hwrite'.symm.trans hb')).1
  have hread := htakes r
  rw [heq, htakes' s] at hread
  obtain ⟨hvalue, hrest⟩ := Prod.mk.inj hread
  exact ⟨(Except.ok.inj hvalue).symm, hrest.symm⟩

theorem separates_text (s t : String) : text.Separates s t := by
  have hcount := Output.agreeOnlyIf_varintBytes (Utf8.encode s).length (Utf8.encode t).length
  have hboth := hcount.append fun h => Output.agreeOnlyIf_of_length h
  exact hboth.imp fun h => Utf8.encode_injective h.2

/-- Lists of one length agree only if they are the same, if their members are told apart. -/
theorem agreeOnlyIf_ofList {write : α → Output} : {xs ys : List α} → xs.length = ys.length →
    (∀ x ∈ xs, ∀ y ∈ ys, (write x).AgreeOnlyIf (write y) (x = y)) →
    (Output.ofList write xs).AgreeOnlyIf (Output.ofList write ys) (xs = ys)
  | [], [], _, _ => by
    rintro _ _ r s ⟨rfl⟩ ⟨rfl⟩ heq
    exact ⟨rfl, heq⟩
  | x :: xs, y :: ys, hlen, h => by
    have hhead := h x List.mem_cons_self y List.mem_cons_self
    have htail := agreeOnlyIf_ofList (Nat.succ.inj hlen) fun v hv w hw =>
      h v (List.mem_cons_of_mem x hv) w (List.mem_cons_of_mem y hw)
    exact (hhead.append fun _ => htail).imp fun ⟨hxy, htails⟩ => by rw [hxy, htails]

theorem Separates.list {c : Codec α} {xs ys : List α}
    (h : ∀ x ∈ xs, ∀ y ∈ ys, c.Separates x y) : c.list.Separates xs ys := by
  have hcount := Output.agreeOnlyIf_varintBytes xs.length ys.length
  exact (hcount.append fun hlen => agreeOnlyIf_ofList hlen h).imp fun hboth => hboth.2

/-- Outputs that begin with different marks never agree. -/
theorem agreeOnlyIf_of_mark_ne {i j : UInt8} (h : i ≠ j) (a b : Output) (p : Prop) :
    (.ofBytes [i] ++ a : Output).AgreeOnlyIf (.ofBytes [j] ++ b) p := by
  have hmark := Output.agreeOnlyIf_of_length (x := [i]) (y := [j]) rfl
  have hne : ¬[i] = [j] := fun heq => h (List.cons.inj heq).1
  exact (hmark.append (q := p) fun heq => absurd heq hne).imp fun hboth => absurd hboth.1 hne

theorem Separates.option {c : Codec α} : {x y : Option α} →
    (∀ v ∈ x, ∀ w ∈ y, c.Separates v w) → c.option.Separates x y
  | none, none, _ => (carries_none c).separates (carries_none c)
  | some v, some w, h => by
    have hmark := Output.agreeOnlyIf_of_length (x := [1]) (y := [1]) rfl
    exact (hmark.append fun _ => h v rfl w rfl).imp fun hboth => by rw [hboth.2]
  | none, some w, _ => agreeOnlyIf_of_mark_ne (by decide) .empty (c.write w) _
  | some v, none, _ => agreeOnlyIf_of_mark_ne (by decide) (c.write v) .empty _

theorem Separates.pair {c : Codec α} {d : Codec β} {x x' : α} {y y' : β} (hx : c.Separates x x')
    (hy : d.Separates y y') : (c.pair d).Separates (x, y) (x', y') :=
  (Output.AgreeOnlyIf.append hx fun _ => hy).imp fun h => Prod.ext h.1 h.2

/-- A type with the parts of another is told apart if the parts are and determine the value. -/
theorem Separates.via {c : Codec α} {parts : β → α} {mk : α → β} {x y : β}
    (h : c.Separates (parts x) (parts y)) (hmk : ∀ z, mk (parts z) = z) :
    (c.via parts mk).Separates x y :=
  Output.AgreeOnlyIf.imp h fun heq => by rw [← hmk x, ← hmk y, heq]

end Codec

end LedgerClient.Wire
