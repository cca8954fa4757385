import Mathlib.Data.List.TakeWhile
import LedgerClient.Text.Blank

/-!
# Words of a text

A text that starts with a run of characters without a blank has this run as its first word if a
blank or nothing follows, and no other character than a blank is lost when a text is cut into words.
Leading blanks belong to no word, so a text has exactly two words if it consists of two such runs,
blanks between them, and perhaps blanks around them (`words_eq_pair_iff`).
-/

namespace LedgerClient

/-- Characters without a blank extend the word under way. -/
theorem wordsFrom_append {cs : List Char} (h : ∀ c ∈ cs, isBlank c = false)
    (word rest : List Char) : wordsFrom word (cs ++ rest) = wordsFrom (word ++ cs) rest := by
  induction cs generalizing word with
  | nil => simp
  | cons c cs ih =>
    obtain ⟨hc, hcs⟩ := List.forall_mem_cons.mp h
    rw [List.cons_append, wordsFrom, hc, if_neg (by decide), ih hcs, List.append_assoc,
      List.singleton_append]

/-- A run without a blank is the only word of itself. -/
theorem words_of_forall {cs : List Char} (hne : cs ≠ []) (h : ∀ c ∈ cs, isBlank c = false) :
    words cs = [cs] := by
  have hwords := wordsFrom_append h [] []
  rw [List.append_nil, List.nil_append] at hwords
  rw [words, hwords, wordsFrom, if_neg (by simpa using hne)]

/-- A run without a blank, followed by a blank, is the first word. -/
theorem words_append_blank {cs : List Char} (hne : cs ≠ []) (h : ∀ c ∈ cs, isBlank c = false)
    {b : Char} (hb : isBlank b = true) (rest : List Char) :
    words (cs ++ b :: rest) = cs :: words rest := by
  rw [words, wordsFrom_append h, List.nil_append, wordsFrom, if_pos hb, if_neg (by simpa using hne),
    words]

/-- Leading blanks belong to no word. -/
theorem words_append_of_blank {before : List Char} (h : ∀ c ∈ before, isBlank c = true)
    (rest : List Char) : words (before ++ rest) = words rest := by
  induction before with
  | nil => rfl
  | cons c before ih =>
    obtain ⟨hc, hbefore⟩ := List.forall_mem_cons.mp h
    have hskip : words (c :: (before ++ rest)) = words (before ++ rest) := by
      rw [words, wordsFrom, if_pos hc, if_pos (by rfl), words]
    rw [List.cons_append, hskip, ih hbefore]

/-- A run without a blank that is followed by a blank or by nothing is the first word. -/
theorem words_append {cs : List Char} (hne : cs ≠ []) (h : ∀ c ∈ cs, isBlank c = false)
    {rest : List Char} (hrest : ∀ b ∈ rest.head?, isBlank b = true) :
    words (cs ++ rest) = cs :: words rest := by
  cases rest with
  | nil => rw [List.append_nil, words_of_forall hne h, words, wordsFrom, if_pos (by rfl)]
  | cons b rest =>
    have hb : isBlank b = true := hrest b rfl
    have hskip : words (b :: rest) = words rest :=
      words_append_of_blank (by simpa using hb : ∀ c ∈ [b], isBlank c = true) rest
    rw [words_append_blank hne h hb, hskip]

/-- A text that is not all blank consists of blanks, its first word, and what follows this word. -/
theorem exists_words_eq_cons {s : List Char} (h : ∃ c ∈ s, isBlank c = false) :
    ∃ before word rest, s = before ++ (word ++ rest) ∧ (∀ c ∈ before, isBlank c = true) ∧
      word ≠ [] ∧ (∀ c ∈ word, isBlank c = false) ∧ (∀ b ∈ rest.head?, isBlank b = true) ∧
        words s = word :: words rest := by
  let tail := s.dropWhile isBlank
  let word := tail.takeWhile (!isBlank ·)
  let rest := tail.dropWhile (!isBlank ·)
  have hsplit : s = s.takeWhile isBlank ++ (word ++ rest) := by
    rw [List.takeWhile_append_dropWhile, List.takeWhile_append_dropWhile]
  have hbefore : ∀ c ∈ s.takeWhile isBlank, isBlank c = true := fun c => List.mem_takeWhile_imp
  have hword : ∀ c ∈ word, isBlank c = false := fun c hc => by
    simpa using List.mem_takeWhile_imp hc
  have hrest : ∀ b ∈ rest.head?, isBlank b = true := by
    intro b hb
    have hnot := List.head?_dropWhile_not (!isBlank ·) tail
    rw [Option.mem_def.mp hb] at hnot
    simpa using hnot
  have hne : word ≠ [] := by
    intro hnil
    obtain ⟨c, hc, hc'⟩ := h
    have htail : tail ≠ [] := fun h => by
      rw [List.dropWhile_eq_nil_iff.mp h c hc] at hc'
      cases hc'
    -- What is left once the leading blanks are gone starts with no blank.
    have hhead : ∀ b ∈ tail.head?, isBlank b = false := by
      intro b hb
      have hnot := List.head?_dropWhile_not isBlank s
      rw [Option.mem_def.mp hb] at hnot
      exact hnot
    obtain ⟨b, rest', htail'⟩ := List.exists_cons_of_ne_nil htail
    have hb : isBlank b = false := hhead b (by rw [htail']; rfl)
    simp [word, htail', hb] at hnil
  refine ⟨s.takeWhile isBlank, word, rest, hsplit, hbefore, hne, hword, hrest, ?_⟩
  rw [← words_append hne hword hrest, ← words_append_of_blank hbefore (word ++ rest), ← hsplit]

theorem words_eq_nil_iff {s : List Char} : words s = [] ↔ ∀ c ∈ s, isBlank c = true := by
  constructor
  · intro h
    by_contra hblank
    obtain ⟨before, word, rest, -, -, -, -, -, hwords⟩ :=
      exists_words_eq_cons (by simpa using hblank)
    rw [h] at hwords
    cases hwords
  · intro h
    rw [← List.append_nil s, words_append_of_blank h, words, wordsFrom, if_pos (by rfl)]

/-- **Two words.** A text has exactly two words if it consists of two runs without a blank, with
blanks between them and perhaps around them. -/
theorem words_eq_pair_iff {s first second : List Char} : words s = [first, second] ↔
    first ≠ [] ∧ second ≠ [] ∧ (∀ c ∈ first ++ second, isBlank c = false) ∧
      ∃ before between after, s = before ++ (first ++ (between ++ (second ++ after))) ∧
        between ≠ [] ∧ ∀ c ∈ before ++ between ++ after, isBlank c = true := by
  constructor
  · intro h
    have hblank : ∀ t, words t ≠ [] → ∃ c ∈ t, isBlank c = false := by
      intro t ht
      by_contra hall
      exact ht (words_eq_nil_iff.mpr (by simpa using hall))
    obtain ⟨before, word, rest, rfl, hbefore, hne, hword, hrest, hwords⟩ :=
      exists_words_eq_cons (hblank s (h ▸ List.cons_ne_nil first [second]))
    obtain ⟨rfl, htail⟩ := List.cons.inj (h.symm.trans hwords)
    obtain ⟨between, word', after, rfl, hbetween, hne', hword', -, hwords'⟩ :=
      exists_words_eq_cons (hblank rest (htail ▸ List.cons_ne_nil second []))
    obtain ⟨rfl, hend⟩ := List.cons.inj (htail.trans hwords')
    have hafter : ∀ c ∈ after, isBlank c = true := words_eq_nil_iff.mp hend.symm
    refine ⟨hne, hne', ?_, before, between, after, rfl, ?_, ?_⟩
    · exact fun c hc => (List.mem_append.mp hc).elim (hword c) (hword' c)
    · rintro rfl
      -- Without a blank between them, the first word would go on with the second.
      obtain ⟨c, cs, rfl⟩ := List.exists_cons_of_ne_nil hne'
      have hc := hrest c (by rfl)
      rw [hword' c List.mem_cons_self] at hc
      cases hc
    · simp only [List.mem_append]
      rintro c ((hc | hc) | hc)
      exacts [hbefore c hc, hbetween c hc, hafter c hc]
  · rintro ⟨hne, hne', hword, before, between, after, rfl, hbetween, hblank⟩
    simp only [List.forall_mem_append] at hword hblank
    obtain ⟨⟨hbefore, hbetween'⟩, hafter⟩ := hblank
    obtain ⟨b, bs, rfl⟩ := List.exists_cons_of_ne_nil hbetween
    rw [words_append_of_blank hbefore, words_append hne hword.1, words_append_of_blank hbetween',
      words_append hne' hword.2, words_eq_nil_iff.mpr hafter]
    · exact fun c hc => hafter c (List.mem_of_mem_head? hc)
    · intro c hc
      obtain rfl : b = c := by simpa using hc
      exact hbetween' b List.mem_cons_self

theorem mem_wordsFrom : ∀ {cs : List Char} {word : List Char} {c : Char},
    c ∈ word ∨ (c ∈ cs ∧ isBlank c = false) → ∃ w ∈ wordsFrom word cs, c ∈ w
  | [], word, c, h => by
    have hc : c ∈ word := by simpa using h
    have hne : word ≠ [] := List.ne_nil_of_mem hc
    rw [wordsFrom, if_neg (by simpa using hne)]
    exact ⟨word, List.mem_singleton_self word, hc⟩
  | d :: cs, word, c, h => by
    rw [wordsFrom]
    split
    · rename_i hd
      have hrest : c ∈ word ∨ (c ∈ cs ∧ isBlank c = false) := by
        rcases h with h | ⟨h, hc⟩
        · exact .inl h
        · rcases List.mem_cons.mp h with rfl | h
          · rw [hd] at hc
            cases hc
          · exact .inr ⟨h, hc⟩
      split
      · rename_i hempty
        have hnil : word = [] := by simpa using hempty
        exact mem_wordsFrom (hnil ▸ hrest)
      · rcases hrest with hrest | hrest
        · exact ⟨word, List.mem_cons_self, hrest⟩
        · have hrest' : c ∈ [] ∨ c ∈ cs ∧ isBlank c = false := .inr hrest
          obtain ⟨w, hw, hc⟩ := mem_wordsFrom hrest'
          exact ⟨w, List.mem_cons_of_mem word hw, hc⟩
    · apply mem_wordsFrom
      rcases h with h | ⟨h, hc⟩
      · exact .inl (List.mem_append_left _ h)
      · rcases List.mem_cons.mp h with rfl | h
        · exact .inl (List.mem_append_right _ (List.mem_singleton_self c))
        · exact .inr ⟨h, hc⟩

/-- Every character that is not blank is in some word. -/
theorem exists_mem_words {cs : List Char} {c : Char} (h : c ∈ cs) (hc : isBlank c = false) :
    ∃ w ∈ words cs, c ∈ w :=
  mem_wordsFrom (.inr ⟨h, hc⟩)

/-- Trimming leaves nothing of a text exactly if all its characters are blank. -/
theorem trimBlank_eq_nil_iff {cs : List Char} :
    trimBlank cs = [] ↔ ∀ c ∈ cs, isBlank c = true := by
  rw [trimBlank, List.reverse_eq_nil_iff, List.dropWhile_eq_nil_iff]
  constructor
  · intro h
    -- What is left once the leading blanks are gone starts with no blank, so nothing is left.
    have hnil : cs.dropWhile isBlank = [] := by
      by_contra hne
      have hpos := List.length_pos_iff.mpr hne
      exact List.dropWhile_get_zero_not isBlank cs hpos
        (h _ (List.mem_reverse.mpr (List.get_mem _ _)))
    exact List.dropWhile_eq_nil_iff.mp hnil
  · intro h c hc
    rw [List.dropWhile_eq_nil_iff.mpr h] at hc
    cases hc

/-- Trimming leaves a text without blanks as it is. -/
theorem trimBlank_of_forall {cs : List Char} (h : ∀ c ∈ cs, isBlank c = false) :
    trimBlank cs = cs := by
  have hdrop : ∀ ds : List Char, (∀ c ∈ ds, isBlank c = false) → ds.dropWhile isBlank = ds := by
    intro ds hds
    cases ds with
    | nil => rfl
    | cons d ds => rw [List.dropWhile_cons, hds d List.mem_cons_self, if_neg (by decide)]
  rw [trimBlank, hdrop cs h, hdrop cs.reverse (by simpa using h), List.reverse_reverse]

end LedgerClient
