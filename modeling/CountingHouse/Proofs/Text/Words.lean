/-
CountingHouse.Proofs.Text.Words — trimming and splitting of lines.

A word is a text that is not empty and holds no blank. Words that were
joined by single spaces are found again by splitting, and a line that
begins and ends with something else than a blank is not changed by
trimming. Of any line, trimming leaves the words (`words_trimStart`,
`words_trimEnd`). The words of any line are those that it can be cut into,
and there is only one way to cut it (`words_eq_iff`).
-/
import CountingHouse.Text.Blank

namespace CountingHouse.Text

/-! ## Words -/

/-- Can the text be a word of a line? -/
structure IsWord (w : List Char) : Prop where
  ne_nil : w ≠ []
  notBlank : ∀ c ∈ w, isBlank c = false

/-- Of a fixed text it can be computed whether it is a word. -/
theorem isWord_of_all {w : List Char} (h : (!w.isEmpty && w.all (!isBlank ·)) = true) :
    IsWord w := by
  simp only [Bool.and_eq_true, Bool.not_eq_true', List.isEmpty_eq_false_iff, List.all_eq_true] at h
  exact ⟨h.1, h.2⟩

theorem isBlank_space : isBlank ' ' = true := by decide

theorem words_cons_blank {c : Char} (hc : isBlank c = true) (s : List Char) :
    words (c :: s) = words s := by
  rw [words.eq_def]
  exact if_pos hc

/-- A word ends where the line ends or a blank begins. -/
theorem words_append {w : List Char} (hw : IsWord w) {rest : List Char}
    (hrest : ∀ c ∈ rest.head?, isBlank c = true) : words (w ++ rest) = w :: words rest := by
  obtain ⟨hne, hnb⟩ := hw
  induction w with
  | nil => exact absurd rfl hne
  | cons c w ih =>
    have hc : isBlank c = false := hnb c List.mem_cons_self
    rw [List.cons_append, words.eq_def]
    simp only [hc, Bool.false_eq_true, if_false]
    cases w with
    | nil =>
      cases rest with
      | nil => rfl
      | cons d rest => simp [hrest d rfl]
    | cons d w =>
      have hd : isBlank d = false := hnb d (by simp)
      have ih := ih (by simp) fun e he => hnb e (List.mem_cons_of_mem c he)
      rw [List.cons_append] at ih ⊢
      simp only [hd, Bool.false_eq_true, if_false, ih]

/-- Words with a space before each. -/
def spaced (ws : List (List Char)) : List Char :=
  ws.flatMap (' ' :: ·)

theorem spaced_cons (w : List Char) (ws : List (List Char)) :
    spaced (w :: ws) = ' ' :: (w ++ spaced ws) := rfl

theorem spaced_append (vs ws : List (List Char)) :
    spaced (vs ++ ws) = spaced vs ++ spaced ws :=
  List.flatMap_append

theorem spaced_singleton (w : List Char) : spaced [w] = ' ' :: w := by
  simp [spaced]

theorem head?_spaced {ws : List (List Char)} : ∀ c ∈ (spaced ws).head?, isBlank c = true := by
  intro c hc
  cases ws with
  | nil => simp [spaced] at hc
  | cons w ws =>
    rw [spaced_cons, List.head?_cons, Option.mem_some_iff] at hc
    exact hc ▸ isBlank_space

theorem words_spaced {ws : List (List Char)} (h : ∀ w ∈ ws, IsWord w) :
    words (spaced ws) = ws := by
  induction ws with
  | nil => rfl
  | cons w ws ih =>
    rw [spaced_cons, words_cons_blank isBlank_space, words_append (h w List.mem_cons_self)
      head?_spaced, ih fun v hv => h v (List.mem_cons_of_mem w hv)]

/-- Splitting finds the words that were joined. -/
theorem words_joined {w : List Char} {ws : List (List Char)} (hw : IsWord w)
    (h : ∀ v ∈ ws, IsWord v) : words (w ++ spaced ws) = w :: ws := by
  rw [words_append hw head?_spaced, words_spaced h]

/-! ## Trimming -/

theorem trimStart_cons {c : Char} (hc : isBlank c = false) (s : List Char) :
    trimStart (c :: s) = c :: s := by
  rw [trimStart, List.dropWhile_cons, hc]
  rfl

theorem trimStart_cons_blank {c : Char} (hc : isBlank c = true) (s : List Char) :
    trimStart (c :: s) = trimStart s := by
  rw [trimStart, trimStart, List.dropWhile_cons, hc]
  rfl

theorem trimStart_blanks {s : List Char} (h : ∀ c ∈ s, isBlank c = true) (t : List Char) :
    trimStart (s ++ t) = trimStart t :=
  List.dropWhile_append_of_pos h

/-- What is left of a text that holds more than blanks begins with
something else, and nothing behind the text matters for that. -/
theorem trimStart_append {s : List Char} (h : ∃ c ∈ s, isBlank c = false) (t : List Char) :
    ∃ c rest, isBlank c = false ∧ trimStart (s ++ t) = c :: rest ++ t := by
  induction s with
  | nil => obtain ⟨c, hc, _⟩ := h; exact absurd hc List.not_mem_nil
  | cons d s ih =>
    cases hd : isBlank d with
    | false => exact ⟨d, s, hd, by rw [List.cons_append, trimStart_cons hd]⟩
    | true =>
      rw [List.cons_append, trimStart_cons_blank hd]
      refine ih ?_
      obtain ⟨c, hc, hnb⟩ := h
      rcases List.mem_cons.mp hc with rfl | hc
      · rw [hd] at hnb; contradiction
      · exact ⟨c, hc, hnb⟩

/-- Trimming the end of a text does not go beyond a character that is
not blank. -/
theorem trimEnd_append {c : Char} (hc : isBlank c = false) (s t : List Char) :
    trimEnd (s ++ c :: t) = s ++ c :: trimEnd t := by
  have hsplit : (s ++ c :: t).reverse = t.reverse ++ (c :: s.reverse) := by simp
  have hkeep : (c :: s.reverse).dropWhile isBlank = c :: s.reverse := trimStart_cons hc _
  rw [trimEnd, trimEnd, hsplit, List.dropWhile_append, hkeep]
  split
  · next hempty => simp [List.isEmpty_iff.mp hempty]
  · simp

theorem trim_cons {c : Char} (hc : isBlank c = false) (s : List Char) :
    trim (c :: s) = c :: trimEnd s := by
  rw [trim, trimStart_cons hc]
  exact trimEnd_append hc [] s

/-- A text that ends with a word has nothing to trim there. -/
theorem trimEnd_append_word {w : List Char} (hw : IsWord w) (s : List Char) :
    trimEnd (s ++ w) = s ++ w := by
  obtain ⟨init, c, rfl⟩ : ∃ init c, w = init ++ [c] :=
    ⟨_, _, (List.dropLast_concat_getLast hw.ne_nil).symm⟩
  have hc : isBlank c = false := hw.notBlank c (by simp)
  rw [← List.append_assoc, trimEnd_append hc]
  rfl

/-- A text with no blank at its ends is not changed by trimming. -/
theorem trim_eq_self {c d : Char} {s : List Char} (hc : isBlank c = false)
    (hd : isBlank d = false) (hs : (c :: s).getLast? = some d) : trim (c :: s) = c :: s := by
  obtain ⟨init, hinit⟩ := List.getLast?_eq_some_iff.mp hs
  rw [trim, trimStart_cons hc, hinit, trimEnd_append hd]
  rfl

theorem trimEnd_blanks {s : List Char} (h : ∀ c ∈ s, isBlank c = true) : trimEnd s = [] := by
  have hdrop := trimStart_blanks (s := s.reverse) (fun c hc => h c (List.mem_reverse.mp hc)) []
  rw [List.append_nil] at hdrop
  rw [trimEnd, ← trimStart, hdrop]
  rfl

/-- A text that begins and ends with something else than a blank is what
is left of it when blanks are put around it. -/
theorem trim_between {c d : Char} {s init before after : List Char} (hc : isBlank c = false)
    (hd : isBlank d = false) (hs : c :: s = init ++ [d]) (hbefore : ∀ b ∈ before, isBlank b = true)
    (hafter : ∀ b ∈ after, isBlank b = true) : trim (before ++ (c :: s ++ after)) = c :: s := by
  have hend : c :: s ++ after = init ++ d :: after := by
    rw [hs, List.append_assoc, List.singleton_append]
  rw [trim, trimStart_blanks hbefore, List.cons_append, trimStart_cons hc, ← List.cons_append, hend,
    trimEnd_append hd, trimEnd_blanks hafter, hs]

/-- Trimming leaves no blank at the beginning of a text. -/
theorem isBlank_of_head?_trimStart {s : List Char} {c : Char}
    (h : (trimStart s).head? = some c) : isBlank c = false := by
  have hhead := List.head?_dropWhile_not isBlank s
  rw [← trimStart, h] at hhead
  exact hhead

/-- Trimming leaves no blank at the end of a text. -/
theorem isBlank_of_getLast?_trim {s : List Char} {c : Char}
    (h : (trim s).getLast? = some c) : isBlank c = false := by
  rw [trim, trimEnd, List.getLast?_reverse] at h
  exact isBlank_of_head?_trimStart h

/-! ## Words of any line -/

theorem isWord_singleton {c : Char} (hc : isBlank c = false) : IsWord [c] :=
  ⟨List.cons_ne_nil _ _, fun _ hd => List.mem_singleton.mp hd ▸ hc⟩

theorem IsWord.cons {c : Char} {w : List Char} (hc : isBlank c = false) (hw : IsWord w) :
    IsWord (c :: w) := by
  refine ⟨List.cons_ne_nil _ _, fun d hd => ?_⟩
  rcases List.mem_cons.mp hd with rfl | hd
  · exact hc
  · exact hw.notBlank d hd

/-- A word is made of characters of the line, and none of them is blank. -/
theorem mem_words {s w : List Char} (h : w ∈ words s) : IsWord w ∧ w ⊆ s := by
  fun_induction words s generalizing w with
  | case1 => exact absurd h List.not_mem_nil
  | case2 c s hc ih => exact ⟨(ih h).1, List.subset_cons_of_subset c (ih h).2⟩
  | case3 c hc =>
    rw [List.mem_singleton.mp h]
    exact ⟨isWord_singleton (Bool.eq_false_iff.mpr hc), List.Subset.refl _⟩
  | case4 c hc d s hd ih =>
    rcases List.mem_cons.mp h with rfl | h
    · exact ⟨isWord_singleton (Bool.eq_false_iff.mpr hc), by simp⟩
    · exact ⟨(ih h).1, List.subset_cons_of_subset c (ih h).2⟩
  | case5 c hc d s hd hnone ih =>
    rw [hnone, List.mem_singleton] at h
    rw [h]
    exact ⟨isWord_singleton (Bool.eq_false_iff.mpr hc), by simp⟩
  | case6 c hc d s hd v vs hsome ih =>
    rw [hsome] at h ih
    rcases List.mem_cons.mp h with rfl | h
    · obtain ⟨hv, hsub⟩ := ih List.mem_cons_self
      exact ⟨hv.cons (Bool.eq_false_iff.mpr hc), List.cons_subset_cons c hsub⟩
    · obtain ⟨hw, hsub⟩ := ih (List.mem_cons_of_mem v h)
      exact ⟨hw, List.subset_cons_of_subset c hsub⟩

/-- A text without blanks is one word, if it is not empty. -/
theorem words_of_notBlank {s : List Char} (h : ∀ c ∈ s, isBlank c = false) :
    words s = if s = [] then [] else [s] := by
  cases s with
  | nil => rfl
  | cons c s =>
    have hend : ∀ d ∈ ([] : List Char).head?, isBlank d = true := nofun
    have hword := words_append ⟨List.cons_ne_nil c s, h⟩ hend
    rw [List.append_nil] at hword
    exact hword

theorem words_blanks {s : List Char} (h : ∀ c ∈ s, isBlank c = true) : words s = [] := by
  induction s with
  | nil => rfl
  | cons c s ih =>
    rw [words_cons_blank (h c List.mem_cons_self), ih fun d hd => h d (List.mem_cons_of_mem c hd)]

/-- Blanks at the end of a line make no words. -/
theorem words_append_blanks (s : List Char) {t : List Char} (h : ∀ c ∈ t, isBlank c = true) :
    words (s ++ t) = words s := by
  have hhead : ∀ c ∈ t.head?, isBlank c = true := fun c hc => h c (List.mem_of_mem_head? hc)
  fun_induction words s with
  | case1 => exact words_blanks h
  | case2 c s hc ih => rw [List.cons_append, words_cons_blank hc, ih]
  | case3 c hc =>
    rw [words_append (isWord_singleton (Bool.eq_false_iff.mpr hc)) hhead, words_blanks h]
  | case4 c hc d s hd ih =>
    rw [List.cons_append, words.eq_def]
    simp only [hc, hd, List.cons_append, if_true]
    rw [← List.cons_append, ih]
    rfl
  | case5 c hc d s hd hnone ih =>
    rw [List.cons_append, words.eq_def]
    simp only [hc, hd, List.cons_append]
    rw [← List.cons_append, ih, hnone]
    rfl
  | case6 c hc d s hd v vs hsome ih =>
    rw [List.cons_append, words.eq_def]
    simp only [hc, hd, List.cons_append]
    rw [← List.cons_append, ih, hsome]
    rfl

theorem words_trimStart (s : List Char) : words (trimStart s) = words s := by
  induction s with
  | nil => rfl
  | cons c s ih =>
    cases hc : isBlank c with
    | true => rw [trimStart_cons_blank hc, words_cons_blank hc, ih]
    | false => rw [trimStart_cons hc]

theorem words_trimEnd (s : List Char) : words (trimEnd s) = words s := by
  have hsplit : s = trimEnd s ++ (s.reverse.takeWhile isBlank).reverse := by
    rw [trimEnd, ← List.reverse_append, List.takeWhile_append_dropWhile, List.reverse_reverse]
  have hblank : ∀ c ∈ (s.reverse.takeWhile isBlank).reverse, isBlank c = true := by
    have hall : (s.reverse.takeWhile isBlank).all isBlank = true := List.all_takeWhile
    intro c hc
    exact List.all_eq_true.mp hall c (List.mem_reverse.mp hc)
  conv => rhs; rw [hsplit]
  exact (words_append_blanks _ hblank).symm

/-! ## How a line is cut -/

/-- A line is cut into words: blanks, then a word up to the next blank or the
end of the line, and so on. -/
inductive Splits : List Char → List (List Char) → Prop where
  /-- Blanks make no word. -/
  | blanks {s : List Char} (hs : ∀ c ∈ s, isBlank c = true) : Splits s []
  /-- Blanks before a word belong to no word. -/
  | word {before w rest : List Char} {ws : List (List Char)}
    (hbefore : ∀ c ∈ before, isBlank c = true) (hw : IsWord w)
    (hend : ∀ c ∈ rest.head?, isBlank c = true) (hrest : Splits rest ws) :
    Splits (before ++ (w ++ rest)) (w :: ws)

theorem words_blanks_append {s : List Char} (h : ∀ c ∈ s, isBlank c = true) (t : List Char) :
    words (s ++ t) = words t := by
  rw [← words_trimStart, trimStart_blanks h, words_trimStart]

theorem exists_splits (s : List Char) : ∃ ws, Splits s ws := by
  induction hn : s.length using Nat.strongRecOn generalizing s with
  | ind n ih =>
    have hblank : ∀ c ∈ s.takeWhile isBlank, isBlank c = true :=
      List.all_eq_true.mp List.all_takeWhile
    cases hword : s.dropWhile isBlank with
    | nil =>
      have hall := List.takeWhile_append_dropWhile (p := isBlank) (l := s)
      rw [hword, List.append_nil] at hall
      exact ⟨[], .blanks (hall ▸ hblank)⟩
    | cons c t =>
      -- the word that begins with `c`, and what is behind it
      have hc : isBlank c = false :=
        isBlank_of_head?_trimStart (s := s) (by rw [trimStart, hword]; rfl)
      have hline := List.takeWhile_append_dropWhile (p := isBlank) (l := s)
      have hcut := List.takeWhile_append_dropWhile (p := (!isBlank ·)) (l := c :: t)
      have hnot : ∀ d ∈ (c :: t).takeWhile (!isBlank ·), isBlank d = false := by
        intro d hd
        simpa using List.all_eq_true.mp List.all_takeWhile d hd
      have hne : (c :: t).takeWhile (!isBlank ·) ≠ [] := by simp [hc]
      have hend : ∀ d ∈ ((c :: t).dropWhile (!isBlank ·)).head?, isBlank d = true := by
        intro d hd
        have hhead := List.head?_dropWhile_not (!isBlank ·) (c :: t)
        rw [hd] at hhead
        simpa using hhead
      have hshorter : ((c :: t).dropWhile (!isBlank ·)).length < n := by
        have htotal := congrArg List.length hline
        have hparts := congrArg List.length hcut
        have hword' := List.length_pos_iff.mpr hne
        rw [List.length_append, hword] at htotal
        rw [List.length_append] at hparts
        omega
      obtain ⟨ws, hws⟩ := ih _ hshorter _ rfl
      have hsplits := Splits.word hblank ⟨hne, hnot⟩ hend hws
      rw [hcut, ← hword, hline] at hsplits
      exact ⟨_, hsplits⟩

/-- Splitting cuts a line into its words. -/
theorem words_eq_iff {s : List Char} {ws : List (List Char)} : words s = ws ↔ Splits s ws := by
  have hwords : ∀ {s ws}, Splits s ws → words s = ws := by
    intro s ws h
    induction h with
    | blanks hs => exact words_blanks hs
    | word hbefore hw hend _ ih => rw [words_blanks_append hbefore, words_append hw hend, ih]
  refine ⟨?_, hwords⟩
  rintro rfl
  obtain ⟨ws, hws⟩ := exists_splits s
  rwa [hwords hws]

end CountingHouse.Text
