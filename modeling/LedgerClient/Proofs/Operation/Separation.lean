import LedgerClient.Proofs.Operation.Wire
import LedgerClient.Proofs.Wire.Separation

/-!
# Wire forms tell operations apart

Two operations whose symbols are canonical have wire forms that agree, whatever follows each, only
if they are the same operation. Neither the depth of nested proposals nor any length is bounded, and
the operations need not be known: an unknown one has no wire form that could agree with another.

The number in front of an operation settles its kind, and the kind settles which fields follow, so
that the induction runs over two records of one layout at once.
-/

namespace LedgerClient

open Wire Wire.Codec

/-! ### Authorities and extensions -/

theorem Authority.codec_separates (a b : Authority) : Authority.codec.Separates a b := by
  refine Separates.via (Separates.pair ?_ (Separates.pair ?_ ?_)) fun _ => rfl
  · exact (carries_u32 _).separates (carries_u32 _)
  · exact Separates.list fun p _ q _ =>
      (separates_text p.1 q.1).pair ((carries_u16 p.2).separates (carries_u16 q.2))
  · exact Separates.list fun p _ q _ =>
      ((PublicKey.codec_carries p.1).separates (PublicKey.codec_carries q.1)).pair
        ((carries_u16 p.2).separates (carries_u16 q.2))

theorem Beneficiary.codec_separates (b c : Beneficiary) : Beneficiary.codec.Separates b c :=
  Separates.via ((separates_text b.account c.account).pair
    ((carries_u16 b.weight).separates (carries_u16 c.weight))) fun _ => rfl

theorem ContentExtension.codec_separates : (e f : ContentExtension) →
    ContentExtension.codec.Separates e f
  | beneficiaries list, beneficiaries list' => by
    have hlist : Beneficiary.codec.list.Separates list list' :=
      Separates.list fun b _ c _ => b.codec_separates c
    exact ((Output.agreeOnlyIf_varintBytes 0 0).append fun _ => hlist).imp fun h => by rw [h.2]

/-! ### Fields -/

/-- The symbol of the part is canonical, if the part is an amount. -/
def Part.HasCanonicalSymbol : Part → Prop
  | asset a => a.symbol.IsCanonical
  | _ => True

/-- Two values of any shape are told apart if all symbols in them are canonical. -/
theorem Shape.codec_separates : (s : Shape) → (v w : s.Carrier) →
    (∀ p ∈ s.parts v, p.HasCanonicalSymbol) → (∀ p ∈ s.parts w, p.HasCanonicalSymbol) →
    s.codec.Separates v w
  | text, s, t, _, _ => separates_text s t
  | asset, _, _, h, h' => (Asset.codec_carries (h _ List.mem_cons_self)).separates
      (Asset.codec_carries (h' _ List.mem_cons_self))
  | timestamp, t, u, _, _ => (Timestamp.codec_carries t).separates (Timestamp.codec_carries u)
  | key, k, l, _, _ => (PublicKey.codec_carries k).separates (PublicKey.codec_carries l)
  | u16, x, y, _, _ => (carries_u16 x).separates (carries_u16 y)
  | i16, x, y, _, _ => (carries_i16 x).separates (carries_i16 y)
  | u32, x, y, _, _ => (carries_u32 x).separates (carries_u32 y)
  | flag, b, c, _, _ => (carries_flag b).separates (carries_flag c)
  | sequence, x, y, _, _ => (carries_u64 x).separates (carries_u64 y)
  | authority, a, b, _, _ => a.codec_separates b
  | beneficiary, b, c, _, _ => b.codec_separates c
  | extension, e, f, _, _ => (Extension.codec_carries e).separates (Extension.codec_carries f)
  | contentExtension, e, f, _, _ => e.codec_separates f
  | list item, xs, ys, h, h' => by
    simp only [parts, List.forall_mem_cons, List.forall_mem_flatMap] at h h'
    exact Separates.list fun x hx y hy => codec_separates item x y (h.2 x hx) (h'.2 y hy)
  | option item, x, y, h, h' => by
    simp only [parts, List.forall_mem_flatMap, Option.mem_toList] at h h'
    exact Separates.option fun v hv w hw => codec_separates item v w (h v hv) (h' w hw)

/-! ### Records and operations -/

mutual

/-- Records of one layout agree only if they are the same. -/
theorem Record.separates : {layout : Layout} → (r s : Record layout) →
    (∀ p ∈ r.parts, p.HasCanonicalSymbol) → (∀ p ∈ s.parts, p.HasCanonicalSymbol) →
    r.write.AgreeOnlyIf s.write (r = s)
  | _, .empty, .empty, _, _ => by
    rintro _ _ t u ⟨rfl⟩ ⟨rfl⟩ heq
    exact ⟨rfl, heq⟩
  | _, @Record.field _ shape _ v r, .field w s, h, h' => by
    simp only [Record.parts, List.forall_mem_append] at h h'
    have hvalue : shape.codec.Separates v w := shape.codec_separates v w h.1 h'.1
    exact (hvalue.append fun _ => r.separates s h.2 h'.2).imp fun heq => by rw [heq.1, heq.2]
  | _, .operations ops r, .operations ops' s, h, h' => by
    simp only [Record.parts, List.forall_mem_cons, List.forall_mem_append] at h h'
    have hcount := Output.agreeOnlyIf_varintBytes ops.length ops'.length
    have hops := hcount.append fun hlen =>
      Operation.separates_list ops ops' hlen h.2.1 h'.2.1
    exact (hops.append fun _ => r.separates s h.2.2 h'.2.2).imp fun heq => by
      rw [heq.1.2, heq.2]

/-- Operations, one after another, agree with as many others only if they are the same. -/
theorem Operation.separates_list : (ops ops' : List Operation) → ops.length = ops'.length →
    (∀ p ∈ Operation.partsList ops, p.HasCanonicalSymbol) →
    (∀ p ∈ Operation.partsList ops', p.HasCanonicalSymbol) →
    (Operation.writeList ops).AgreeOnlyIf (Operation.writeList ops') (ops = ops')
  | [], [], _, _, _ => by
    rintro _ _ t u ⟨rfl⟩ ⟨rfl⟩ heq
    exact ⟨rfl, heq⟩
  | op :: ops, op' :: ops', hlen, h, h' => by
    simp only [Operation.partsList, List.forall_mem_append] at h h'
    have hhead := op.separates op' h.1 h'.1
    have htail := Operation.separates_list ops ops' (Nat.succ.inj hlen) h.2 h'.2
    exact (hhead.append fun _ => htail).imp fun heq => by rw [heq.1, heq.2]

/-- Operations agree only if they are the same. -/
theorem Operation.separates : (op op' : Operation) → (∀ p ∈ op.parts, p.HasCanonicalSymbol) →
    (∀ p ∈ op'.parts, p.HasCanonicalSymbol) → op.write.AgreeOnlyIf op'.write (op = op')
  | .known kind supported payload, .known kind' supported' payload', h, h' => by
    simp only [Operation.parts, List.forall_mem_cons] at h h'
    have hkind := (Output.agreeOnlyIf_varintBytes kind.tag kind'.tag).imp Kind.tag_injective
    have hpayload : kind = kind' → payload.write.AgreeOnlyIf payload'.write
        (Operation.known kind supported payload = .known kind' supported' payload') := by
      rintro rfl
      exact (payload.separates payload' h.2 h'.2).imp fun heq => by rw [heq]
    exact (hkind.append hpayload).imp And.right
  | .unknown _, op', _, _ => Output.agreeOnlyIf_ofFault _ op'.write _
  | .known kind supported payload, .unknown _, _, _ =>
    (Output.agreeOnlyIf_ofFault _ (Operation.known kind supported payload).write _).symm

end

end LedgerClient
