import LedgerClient.Json.Value

/-!
# Sorting loses no member

Of several members of one name, sorting keeps the last (`find?_sortMembers`), so that members of
different names are all found again. A value that is sorted is not changed by sorting it once more,
and neither are the values in it.

A reader cannot tell a value from its sorted form, because it asks an object for members by their
names only. What the readers' proofs need to know is collected in `IsTidying`, which sorting
satisfies and leaving a value as it is as well: one proof serves both ways in which a value reaches
a reader.
-/

namespace LedgerClient.Json

/-! ### Looking up a member -/

theorem find?_cons (m : String × Json) (ms : List (String × Json)) (name : String) :
    find? (m :: ms) name = if name = m.1 then some m.2 else find? ms name := by
  rw [find?, List.lookup_cons]
  by_cases h : name = m.1
  · rw [if_pos h, beq_iff_eq.mpr h]
  · rw [if_neg h, beq_eq_false_iff_ne.mpr h, find?]

theorem find?_append (ms ns : List (String × Json)) (name : String) :
    find? (ms ++ ns) name = (find? ms name).or (find? ns name) :=
  List.lookup_append

/-- Of members with different names, each is found by its name. -/
theorem find?_of_mem {ms : List (String × Json)} (hnames : (ms.map Prod.fst).Nodup)
    {m : String × Json} (hm : m ∈ ms) : find? ms m.1 = some m.2 := by
  induction ms with
  | nil => cases hm
  | cons n ms ih =>
    rw [List.map_cons, List.nodup_cons] at hnames
    rw [find?_cons]
    rcases List.mem_cons.mp hm with rfl | hm
    · rw [if_pos rfl]
    · have hne : m.1 ≠ n.1 := fun heq => hnames.1 (heq ▸ List.mem_map_of_mem hm)
      rw [if_neg hne, ih hnames.2 hm]

/-- A member that is found is one of them. -/
theorem mem_of_find? {ms : List (String × Json)} {name : String} {v : Json}
    (h : find? ms name = some v) : (name, v) ∈ ms := by
  induction ms with
  | nil => cases h
  | cons m ms ih =>
    rw [find?_cons] at h
    split at h
    · rename_i heq
      rw [← Option.some.inj h, heq]
      exact List.mem_cons_self
    · exact List.mem_cons_of_mem _ (ih h)

/-! ### Sorting members -/

theorem find?_insertMember (name : String) (value : Json) (ms : List (String × Json))
    (other : String) :
    find? (insertMember name value ms) other = find? ((name, value) :: ms) other := by
  induction ms with
  | nil => rfl
  | cons m ms ih =>
    obtain ⟨k, v⟩ := m
    rw [insertMember]
    split
    · rfl
    · split
      · rename_i heq
        simp only [find?_cons, heq]
        split <;> rfl
      · rename_i hne
        simp only [find?_cons] at ih ⊢
        rw [ih]
        split
        · rename_i hk
          have hother : ¬other = name := fun h => hne (h.symm.trans hk)
          rw [if_neg hother]
        · rfl

/-- Sorting keeps the last of several members of one name. -/
theorem find?_sortMembers (ms : List (String × Json)) (name : String) :
    find? (sortMembers ms) name = find? ms.reverse name := by
  -- What is put in later hides what was sorted before, as if it stood in front.
  have hfold : ∀ ms sofar : List (String × Json),
      find? (ms.foldl (fun sorted m => insertMember m.1 m.2 sorted) sofar) name =
        find? (ms.reverse ++ sofar) name := by
    intro ms
    induction ms with
    | nil => exact fun _ => rfl
    | cons m ms ih =>
      intro sofar
      rw [List.foldl_cons, ih, List.reverse_cons, List.append_assoc, find?_append, find?_append,
        find?_insertMember]
      rfl
  rw [sortMembers, hfold, List.append_nil]

theorem mem_insertMember {name : String} {value : Json} {ms : List (String × Json)}
    {m : String × Json} (h : m ∈ insertMember name value ms) : m = (name, value) ∨ m ∈ ms := by
  induction ms with
  | nil => exact .inl (List.mem_singleton.mp h)
  | cons n ms ih =>
    rw [insertMember] at h
    split at h
    · exact List.mem_cons.mp h
    · split at h
      · exact (List.mem_cons.mp h).imp_right (List.mem_cons_of_mem n)
      · rcases List.mem_cons.mp h with rfl | h
        · exact .inr List.mem_cons_self
        · exact (ih h).imp_right (List.mem_cons_of_mem n)

/-- The names of the members increase. -/
def IsOrdered (ms : List (String × Json)) : Prop :=
  ms.Pairwise fun m n => m.1 < n.1

theorem isOrdered_insertMember {ms : List (String × Json)} (h : IsOrdered ms) (name : String)
    (value : Json) : IsOrdered (insertMember name value ms) := by
  induction ms with
  | nil => exact List.pairwise_singleton _ _
  | cons n ms ih =>
    obtain ⟨hn, hms⟩ := List.pairwise_cons.mp h
    rw [insertMember]
    split
    · rename_i hlt
      refine List.pairwise_cons.mpr ⟨fun m hm => ?_, h⟩
      rcases List.mem_cons.mp hm with rfl | hm
      · exact hlt
      · exact String.lt_trans hlt (hn m hm)
    · split
      · rename_i heq
        exact List.pairwise_cons.mpr ⟨fun m hm => by rw [heq]; exact hn m hm, hms⟩
      · rename_i hle hne
        have hlt : n.1 < name := Std.lt_of_le_of_ne hle (Ne.symm hne)
        refine List.pairwise_cons.mpr ⟨fun m hm => ?_, ih hms⟩
        rcases mem_insertMember hm with rfl | hm
        · exact hlt
        · exact hn m hm

/-- Sorting puts members in order and takes them from those that there are. -/
theorem isOrdered_sortMembers (ms : List (String × Json)) :
    IsOrdered (sortMembers ms) ∧ ∀ m ∈ sortMembers ms, m ∈ ms := by
  -- The members sorted so far are in order, whatever they are, and each further one keeps them so.
  have hfold : ∀ ms sofar : List (String × Json), IsOrdered sofar →
      IsOrdered (ms.foldl (fun sorted m => insertMember m.1 m.2 sorted) sofar) ∧
        ∀ m ∈ ms.foldl (fun sorted m => insertMember m.1 m.2 sorted) sofar, m ∈ ms ∨ m ∈ sofar := by
    intro ms
    induction ms with
    | nil => exact fun _ h => ⟨h, fun _ hm => .inr hm⟩
    | cons n ms ih =>
      intro sofar h
      obtain ⟨hordered, hmem⟩ := ih _ (isOrdered_insertMember h n.1 n.2)
      refine ⟨hordered, fun m hm => ?_⟩
      rcases hmem m hm with hm | hm
      · exact .inl (List.mem_cons_of_mem n hm)
      · exact (mem_insertMember hm).imp_left fun heq => List.mem_cons.mpr (.inl heq)
  obtain ⟨hordered, hmem⟩ := hfold ms [] List.Pairwise.nil
  exact ⟨hordered, fun m hm => (hmem m hm).resolve_right (by simp)⟩

/-- A member whose name comes after all others is put at the end. -/
theorem insertMember_of_forall_lt {name : String} (value : Json) {ms : List (String × Json)}
    (h : ∀ m ∈ ms, m.1 < name) : insertMember name value ms = ms ++ [(name, value)] := by
  induction ms with
  | nil => rfl
  | cons n ms ih =>
    obtain ⟨hn, hms⟩ := List.forall_mem_cons.mp h
    have hne : name ≠ n.1 := fun heq => String.lt_irrefl name (heq ▸ hn)
    rw [insertMember, if_neg (String.lt_asymm hn), if_neg hne, ih hms, List.cons_append]

/-- Sorting leaves members as they are that are in order. -/
theorem IsOrdered.sortMembers_eq {ms : List (String × Json)} (h : IsOrdered ms) :
    sortMembers ms = ms := by
  -- Each member comes after all that are sorted so far, so that it is put at the end.
  have hfold : ∀ ms sofar : List (String × Json), IsOrdered (sofar ++ ms) →
      ms.foldl (fun sorted m => insertMember m.1 m.2 sorted) sofar = sofar ++ ms := by
    intro ms
    induction ms with
    | nil => exact fun sofar _ => (List.append_nil sofar).symm
    | cons n ms ih =>
      intro sofar h
      have hbefore : ∀ m ∈ sofar, m.1 < n.1 := fun m hm =>
        (List.pairwise_append.mp h).2.2 m hm n List.mem_cons_self
      rw [List.foldl_cons, insertMember_of_forall_lt n.2 hbefore, ih, List.append_assoc,
        List.singleton_append]
      rwa [List.append_assoc, List.singleton_append]
  exact hfold ms [] h

/-! ### Sorting values -/

theorem sortedItems_eq_map : (xs : List Json) → sortedItems xs = xs.map sorted
  | [] => rfl
  | x :: xs => by rw [sortedItems, sortedItems_eq_map xs, List.map_cons]

theorem sortedMembers_eq_map :
    (ms : List (String × Json)) → sortedMembers ms = ms.map fun m => (m.1, m.2.sorted)
  | [] => rfl
  | (k, v) :: ms => by rw [sortedMembers, sortedMembers_eq_map ms, List.map_cons]

/-- The members of an object whose names increase stay where they are. -/
theorem sorted_obj_of_names {ms : List (String × Json)}
    (h : (ms.map Prod.fst).Pairwise (· < ·)) :
    (obj ms).sorted = obj (ms.map fun m => (m.1, m.2.sorted)) := by
  have hordered : IsOrdered (ms.map fun m => (m.1, m.2.sorted)) :=
    List.pairwise_map.mpr (List.pairwise_map.mp h)
  rw [sorted, sortedMembers_eq_map, hordered.sortMembers_eq]

/-- Members are sorted already if their names increase and their values are sorted. -/
theorem sortMembers_sortedMembers {ms : List (String × Json)} (h : IsOrdered ms)
    (hvalues : ∀ m ∈ ms, m.2.sorted = m.2) : sortMembers (sortedMembers ms) = ms := by
  have hmap : ms.map (fun m => (m.1, m.2.sorted)) = ms.map id :=
    List.map_congr_left fun m hm => by rw [hvalues m hm]; rfl
  rw [sortedMembers_eq_map, hmap, List.map_id, h.sortMembers_eq]

mutual

/-- Sorting once more changes nothing. -/
theorem sorted_sorted : (v : Json) → v.sorted.sorted = v.sorted
  | .arr xs => by rw [sorted, sorted, sortedItems_sortedItems xs]
  | .obj ms => by
    obtain ⟨hordered, hmem⟩ := isOrdered_sortMembers (sortedMembers ms)
    rw [sorted, sorted,
      sortMembers_sortedMembers hordered fun m hm => sorted_of_mem_sortedMembers ms m (hmem m hm)]
  | .null | .bool _ | .num _ | .str _ => rfl

theorem sortedItems_sortedItems : (xs : List Json) → sortedItems (sortedItems xs) = sortedItems xs
  | [] => rfl
  | x :: xs => by
    rw [sortedItems, sortedItems, sorted_sorted x, sortedItems_sortedItems xs]

theorem sorted_of_mem_sortedMembers : (ms : List (String × Json)) →
    ∀ m ∈ sortedMembers ms, m.2.sorted = m.2
  | [], _, h => nomatch h
  | (k, v) :: ms, m, h => by
    rw [sortedMembers] at h
    rcases List.mem_cons.mp h with rfl | h
    · exact sorted_sorted v
    · exact sorted_of_mem_sortedMembers ms m h

end

/-! ### What a reader cannot tell apart -/

/-- The function leaves basic values as they are, acts on lists item by item, and keeps every member
of an object whose names differ; what it leaves as it is holds no value that it changes. -/
structure IsTidying (tidy : Json → Json) : Prop where
  null : tidy .null = .null
  bool (b : Bool) : tidy (.bool b) = .bool b
  num (n : Number) : tidy (.num n) = .num n
  str (s : String) : tidy (.str s) = .str s
  arr (xs : List Json) : tidy (.arr xs) = .arr (xs.map tidy)
  obj (ms : List (String × Json)) : ∃ ns, tidy (.obj ms) = .obj ns ∧
    ((ms.map Prod.fst).Nodup → ∀ m ∈ ms, find? ns m.1 = some (tidy m.2))
  member {ms : List (String × Json)} (h : tidy (.obj ms) = .obj ms) : ∀ m ∈ ms, tidy m.2 = m.2

/-- The items of a list that is left as it is are left as they are. -/
theorem IsTidying.item {tidy : Json → Json} (ht : IsTidying tidy) {xs : List Json}
    (h : tidy (.arr xs) = .arr xs) : ∀ x ∈ xs, tidy x = x := by
  rw [ht.arr] at h
  exact List.map_inj_left.mp ((Json.arr.inj h).trans (List.map_id xs).symm)

theorem isTidying_id : IsTidying id where
  null := rfl
  bool _ := rfl
  num _ := rfl
  str _ := rfl
  arr xs := by rw [List.map_id]; rfl
  obj ms := ⟨ms, rfl, fun hnames _ hm => find?_of_mem hnames hm⟩
  member _ _ _ := rfl

theorem isTidying_sorted : IsTidying sorted where
  null := rfl
  bool _ := rfl
  num _ := rfl
  str _ := rfl
  arr xs := by rw [sorted, sortedItems_eq_map]
  obj ms := by
    refine ⟨_, rfl, fun hnames m hm => ?_⟩
    have hmem : (m.1, m.2.sorted) ∈ (sortedMembers ms).reverse := by
      rw [sortedMembers_eq_map, List.mem_reverse]
      exact List.mem_map_of_mem (f := fun m : String × Json => (m.1, m.2.sorted)) hm
    have hnames' : ((sortedMembers ms).reverse.map Prod.fst).Nodup := by
      rw [List.map_reverse, (List.reverse_perm _).nodup_iff, sortedMembers_eq_map, List.map_map]
      exact hnames
    rw [find?_sortMembers]
    exact find?_of_mem hnames' hmem
  member h m hm := by
    -- The members are the sorted ones, and their values have been sorted.
    rw [sorted] at h
    rw [← Json.obj.inj h] at hm
    exact sorted_of_mem_sortedMembers _ m ((isOrdered_sortMembers _).2 m hm)

end LedgerClient.Json
