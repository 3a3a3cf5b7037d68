/-
  File:      ProxmoxMcp/Lib/Lines.lean
  Subject:   LINES, AND THE PATHS ON THEM: what trimming leaves, what a search finds, texts that end
             in newlines, and where a path leads. Nothing here names the repository.

  * `trim_of_parts`   -- a text between spaces;
  * `includes_iff`    -- a search finds exactly the infixes;
  * `splitOn_lines`   -- lines that were printed are read back;
  * `prefix_resolve`  -- a path without `..` does not leave its directory.
-/
import ProxmoxMcp.Lib.Text

namespace Text

/-! ## 1. Trimming -/

/-- Nothing but spaces. -/
def Blank (s : List Char) : Prop := ∀ c ∈ s, isSpace c = true

/-- No space at either end. -/
structure Trimmed (s : List Char) : Prop where
  head : ∀ c ∈ s.head?, isSpace c = false
  last : ∀ c ∈ s.getLast?, isSpace c = false

theorem blank_nil : Blank [] := fun _ h => absurd h List.not_mem_nil

theorem Blank.append {s t : List Char} (hs : Blank s) (ht : Blank t) : Blank (s ++ t) := by
  intro c hc
  rcases List.mem_append.mp hc with hc | hc
  · exact hs c hc
  · exact ht c hc

theorem Trimmed.trim_eq {s : List Char} (h : Trimmed s) : trim s = s := trim_eq_self h.head h.last

/-- Spaces in front go. -/
theorem dropWhile_space {a s : List Char} (ha : Blank a) (hs : ∀ c ∈ s.head?, isSpace c = false) :
    (a ++ s).dropWhile isSpace = s := by
  rw [List.dropWhile_append_of_pos ha]
  cases s with
  | nil => rfl
  | cons c s => rw [List.dropWhile_cons_of_neg (by simp [hs c rfl])]

theorem trimEnd_of_parts {s b : List Char} (hb : Blank b)
    (hs : ∀ c ∈ s.getLast?, isSpace c = false) : trimEnd (s ++ b) = s := by
  have hb' : Blank b.reverse := fun c hc => hb c (List.mem_reverse.mp hc)
  rw [trimEnd, List.reverse_append, dropWhile_space hb' (by rwa [List.head?_reverse]),
    List.reverse_reverse]

/-- What begins with no space keeps its beginning. -/
theorem head_trimEnd {c : Char} {s : List Char} (hc : isSpace c = false) :
    (trimEnd (c :: s)).head? = some c := by
  rw [trimEnd, List.reverse_cons, List.dropWhile_append]
  split
  · rw [List.dropWhile_cons_of_neg (by simp [hc])]
    rfl
  · rw [List.reverse_append]
    rfl

/-- **What stands between spaces is what trimming leaves.** -/
theorem trim_of_parts {a s b : List Char} (ha : Blank a) (hs : Trimmed s) (hb : Blank b) :
    trim (a ++ s ++ b) = s := by
  cases s with
  | nil =>
    have hblank : ∀ c ∈ a ++ [] ++ b, isSpace c = true := by
      rw [List.append_nil]
      exact ha.append hb
    rw [trim, List.dropWhile_eq_nil_iff.mpr hblank]
    rfl
  | cons c s =>
    have hhead : ∀ d ∈ (c :: s ++ b).head?, isSpace d = false := hs.head
    rw [trim, List.append_assoc, dropWhile_space ha hhead, trimEnd_of_parts hb hs.last]

/-- **A text is what trimming leaves of it, between spaces.** -/
theorem trim_parts (s : List Char) :
    ∃ a b, s = a ++ trim s ++ b ∧ Blank a ∧ Blank b ∧ Trimmed (trim s) := by
  have hfront := List.takeWhile_append_dropWhile (p := isSpace) (l := s)
  generalize hr : s.dropWhile isSpace = r at hfront
  have hback := List.takeWhile_append_dropWhile (p := isSpace) (l := r.reverse)
  have htrim : trim s = (r.reverse.dropWhile isSpace).reverse := by rw [trim, hr, trimEnd]
  have hparts : r = trim s ++ (r.reverse.takeWhile isSpace).reverse := by
    rw [htrim, ← List.reverse_append, hback, List.reverse_reverse]
  have hnot : ∀ {t : List Char}, ∀ c ∈ (t.dropWhile isSpace).head?, isSpace c = false := by
    intro t c hc
    have hhead := List.head?_dropWhile_not isSpace t
    rw [hc] at hhead
    simpa using hhead
  refine ⟨s.takeWhile isSpace, (r.reverse.takeWhile isSpace).reverse, ?_, ?_, ?_, ?_, ?_⟩
  · rw [List.append_assoc, ← hparts, hfront]
  · exact fun c hc => List.mem_takeWhile_imp hc
  · exact fun c hc => List.mem_takeWhile_imp (List.mem_reverse.mp hc)
  · intro c hc
    have hhead : c ∈ r.head? := by
      rw [hparts, List.head?_append, Option.mem_def.mp hc]
      rfl
    exact hnot c (hr ▸ hhead)
  · intro c hc
    rw [htrim, List.getLast?_reverse] at hc
    exact hnot c hc

theorem trimmed_trim (s : List Char) : Trimmed (trim s) := by
  obtain ⟨_, _, _, _, _, h⟩ := trim_parts s
  exact h

theorem trim_trim (s : List Char) : trim (trim s) = trim s := (trimmed_trim s).trim_eq

/-- A text without spaces is trimmed. -/
theorem trimmed_of_no_space {s : List Char} (h : ∀ c ∈ s, isSpace c = false) : Trimmed s :=
  ⟨fun c hc => h c (List.mem_of_mem_head? hc), fun c hc => h c (List.mem_of_mem_getLast? hc)⟩

/-- Spaces around a text are trimmed with those at its ends. -/
theorem trim_blank_append {a s b : List Char} (ha : Blank a) (hb : Blank b) :
    trim (a ++ s ++ b) = trim s := by
  obtain ⟨a', b', hs, ha', hb', htrimmed⟩ := trim_parts s
  have hparts : a ++ s ++ b = (a ++ a') ++ trim s ++ (b' ++ b) := by
    conv_lhs => rw [hs]
    simp only [List.append_assoc]
  rw [hparts, trim_of_parts (ha.append ha') htrimmed (hb'.append hb)]

/-- Only spaces are trimmed to nothing. -/
theorem trim_eq_nil_iff {s : List Char} : trim s = [] ↔ Blank s := by
  constructor
  · intro h
    obtain ⟨a, b, hs, ha, hb, _⟩ := trim_parts s
    rw [h, List.append_nil] at hs
    rw [hs]
    exact ha.append hb
  · intro h
    rw [trim, List.dropWhile_eq_nil_iff.mpr h]
    rfl

/-- The characters that are no spaces. -/
def ink (s : List Char) : Nat := s.countP fun c => !isSpace c

@[simp] theorem ink_append (s t : List Char) : ink (s ++ t) = ink s + ink t := List.countP_append

@[simp] theorem ink_nil : ink [] = 0 := rfl

theorem ink_eq_zero_iff {s : List Char} : ink s = 0 ↔ Blank s := by
  simp [ink, Blank, List.countP_eq_zero]

/-- Trimming keeps the ink. -/
theorem ink_trim (s : List Char) : ink (trim s) = ink s := by
  obtain ⟨a, b, hs, ha, hb, _⟩ := trim_parts s
  have hink := congrArg ink hs
  rw [ink_append, ink_append, ink_eq_zero_iff.mpr ha, ink_eq_zero_iff.mpr hb] at hink
  omega

/-- So does a join with newlines. -/
theorem ink_joinWith (ls : List (List Char)) :
    ink (joinWith ['\n'] ls) = (ls.map ink).sum := by
  induction ls with
  | nil => rfl
  | cons l ls ih =>
    cases ls with
    | nil => simp [joinWith]
    | cons l' ls =>
      have hnewline : ink ['\n'] = 0 := by decide
      show ink (l ++ ['\n'] ++ joinWith ['\n'] (l' :: ls)) = ink l + ((l' :: ls).map ink).sum
      rw [ink_append, ink_append, ih, hnewline, Nat.add_zero]

/-! ## 2. Searching -/

/-- **A search finds exactly the infixes.** -/
theorem includes_iff {t s : List Char} : includes t s = true ↔ t <:+: s := by
  induction s with
  | nil =>
    rw [includes, List.isEmpty_iff, List.infix_nil]
  | cons c s ih =>
    rw [includes, Bool.or_eq_true, List.isPrefixOf_iff_prefix, ih, List.infix_cons_iff]

theorem isPrefixOf_append_sep {t : List Char} {sep : Char} (h : sep ∉ t) :
    ∀ u v : List Char, t.isPrefixOf (u ++ sep :: v) = t.isPrefixOf u := by
  induction t with
  | nil => exact fun u v => rfl
  | cons c t ih =>
    intro u v
    cases u with
    | nil =>
      have hc : (c == sep) = false := beq_eq_false_iff_ne.mpr fun e => h (e ▸ List.mem_cons_self)
      show (c == sep && t.isPrefixOf v) = false
      rw [hc, Bool.false_and]
    | cons d u =>
      rw [List.cons_append, List.isPrefixOf, List.isPrefixOf,
        ih fun hm => h (List.mem_cons_of_mem _ hm)]

/-- **A search for a text without the separator** finds it on one of its two sides. -/
theorem includes_append_sep {t : List Char} {sep : Char} (hne : t ≠ []) (h : sep ∉ t)
    (u v : List Char) : includes t (u ++ sep :: v) = (includes t u || includes t v) := by
  induction u with
  | nil =>
    have hpre := isPrefixOf_append_sep h [] v
    rw [List.nil_append] at hpre
    cases t with
    | nil => exact absurd rfl hne
    | cons c t =>
      show ((c :: t).isPrefixOf (sep :: v) || includes (c :: t) v) = _
      rw [hpre]
      rfl
  | cons d u ih =>
    have hpre := isPrefixOf_append_sep h (d :: u) v
    rw [List.cons_append] at hpre ⊢
    rw [includes, includes, hpre, ih, Bool.or_assoc]

/-- A part of a split text is an infix of it. -/
theorem infix_of_mem_splitOn {sep : Char} {w : List Char} : ∀ {s : List Char},
    w ∈ splitOn sep s → w <:+: s
  | [], h => by
      rw [splitOn, List.mem_singleton] at h
      subst h
      exact List.nil_infix
  | c :: s, h => by
      have hcons : ∀ {w : List Char}, w ∈ splitOn sep s → w <:+: c :: s := fun hw =>
        (infix_of_mem_splitOn hw).trans (List.suffix_cons c s).isInfix
      rw [splitOn] at h
      split at h
      · rcases List.mem_cons.mp h with rfl | h
        · exact List.nil_infix
        · exact hcons h
      · split at h
        · rw [List.mem_singleton] at h
          rw [h]
          exact ⟨[], s, rfl⟩
        · rename_i w' ws e
          rcases List.mem_cons.mp h with rfl | h
          · -- the first part of the rest is a prefix of it
            have hjoin := joinWith_splitOn sep s
            rw [e] at hjoin
            have hpre : w' <+: s := by
              rw [← hjoin]
              cases ws with
              | nil => exact List.prefix_rfl
              | cons v ws =>
                show w' <+: w' ++ [sep] ++ joinWith [sep] (v :: ws)
                rw [List.append_assoc]
                exact List.prefix_append _ _
            exact (List.cons_prefix_cons.mpr ⟨rfl, hpre⟩).isInfix
          · exact hcons (e ▸ List.mem_cons_of_mem _ h)

/-- **The first part of a split text**, and what is split then. -/
theorem splitOn_parts {sep : Char} {s w : List Char} {ws : List (List Char)}
    (h : splitOn sep s = w :: ws) :
    sep ∉ w ∧ ((s = w ∧ ws = []) ∨ ∃ rest, s = w ++ sep :: rest ∧ ws = splitOn sep rest) := by
  have hnot : ∀ v ∈ w :: ws, sep ∉ v := fun v hv => not_mem_of_mem_splitOn (s := s) (h ▸ hv)
  have hjoin := joinWith_splitOn sep s
  rw [h] at hjoin
  refine ⟨hnot w List.mem_cons_self, ?_⟩
  cases ws with
  | nil => exact .inl ⟨hjoin.symm, rfl⟩
  | cons v ws =>
    have hsplit : splitOn sep (joinWith [sep] (v :: ws)) = v :: ws :=
      splitOn_joinWith (List.cons_ne_nil v ws) fun u hu => hnot u (List.mem_cons_of_mem _ hu)
    refine .inr ⟨joinWith [sep] (v :: ws), ?_, hsplit.symm⟩
    rw [← hjoin]
    show w ++ [sep] ++ joinWith [sep] (v :: ws) = _
    rw [List.append_assoc, List.singleton_append]

/-- A text in front goes to the first part. -/
theorem splitOn_prefix {sep : Char} {w s u : List Char} {us : List (List Char)} (hw : sep ∉ w)
    (h : splitOn sep s = u :: us) : splitOn sep (w ++ s) = (w ++ u) :: us := by
  induction w with
  | nil => exact h
  | cons c w ih =>
    have hc : c ≠ sep := fun e => hw (e ▸ List.mem_cons_self)
    rw [List.cons_append, splitOn, if_neg hc, ih fun hm => hw (List.mem_cons_of_mem _ hm)]
    rfl

/-! ## 3. Lines -/

/-- Each line with its newline. -/
def lines (ls : List (List Char)) : List Char := ls.flatMap fun l => l ++ ['\n']

/-- **Lines that were printed are read back**, with what follows the last newline. -/
theorem splitOn_lines {ls : List (List Char)} (h : ∀ l ∈ ls, '\n' ∉ l) (rest : List Char) :
    splitOn '\n' (lines ls ++ rest) = ls ++ splitOn '\n' rest := by
  induction ls with
  | nil => rfl
  | cons l ls ih =>
    have hl := h l List.mem_cons_self
    have hls := ih fun l' hl' => h l' (List.mem_cons_of_mem _ hl')
    have hparts : lines (l :: ls) ++ rest = l ++ '\n' :: (lines ls ++ rest) := by
      simp [lines]
    rw [hparts, splitOn_append _ hl, hls, List.cons_append]

/-- Lines with their newlines are the lines joined. -/
theorem lines_eq_joinWith {ls : List (List Char)} (h : ls ≠ []) :
    lines ls = joinWith ['\n'] ls ++ ['\n'] := by
  induction ls with
  | nil => exact absurd rfl h
  | cons l ls ih =>
    cases ls with
    | nil => simp [lines, joinWith]
    | cons l' ls =>
      have ih := ih (List.cons_ne_nil _ _)
      rw [lines, List.flatMap_cons]
      change l ++ ['\n'] ++ lines (l' :: ls) = l ++ ['\n'] ++ joinWith ['\n'] (l' :: ls) ++ ['\n']
      rw [ih]
      simp only [List.append_assoc]

/-- Trimming takes the last newline with the spaces. -/
theorem trim_lines (ls : List (List Char)) : trim (lines ls) = trim (joinWith ['\n'] ls) := by
  cases ls with
  | nil => rfl
  | cons l ls =>
    have hnewline : Blank ['\n'] := by
      intro c hc
      rw [List.mem_singleton.mp hc]
      decide
    have htrim := trim_blank_append (s := joinWith ['\n'] (l :: ls)) blank_nil hnewline
    rw [lines_eq_joinWith (List.cons_ne_nil l ls), ← htrim, List.nil_append]

/-- A carriage return in front of a newline is dropped. -/
def dropCr : List Char → List Char
  | [] => []
  | c :: s => if c = '\r' ∧ s.head? = some '\n' then dropCr s else c :: dropCr s

/-- `s.split(/\r?\n/)`. -/
def splitLines (s : List Char) : List (List Char) := splitOn '\n' (dropCr s)

/-- The lines of a text that are ended by a newline. -/
def endedLines (s : List Char) : List (List Char) := (splitLines s).dropLast

/-- What stands behind the last newline of a text. -/
def openLine (s : List Char) : List Char := (splitLines s).getLastD []

theorem splitLines_eq (s : List Char) : splitLines s = endedLines s ++ [openLine s] := by
  have hne : splitLines s ≠ [] := splitOn_ne_nil _ _
  rw [endedLines, openLine, List.getLastD_eq_getLast?, List.getLast?_eq_some_getLast hne,
    Option.getD_some, List.dropLast_append_getLast hne]

theorem joinWith_concat (ls : List (List Char)) (l : List Char) :
    joinWith ['\n'] (ls ++ [l]) = lines ls ++ l := by
  induction ls with
  | nil => rfl
  | cons l' ls ih =>
    cases ls with
    | nil => simp [lines, joinWith]
    | cons l'' ls =>
      show l' ++ ['\n'] ++ joinWith ['\n'] (l'' :: ls ++ [l]) = l' ++ ['\n'] ++ lines (l'' :: ls) ++ l
      rw [ih, List.append_assoc, List.append_assoc, List.append_assoc]

/-- A text is its lines, and what stands behind them. -/
theorem dropCr_eq_lines (s : List Char) : dropCr s = lines (endedLines s) ++ openLine s := by
  rw [← joinWith_concat, ← splitLines_eq, splitLines, joinWith_splitOn]

theorem newline_not_mem {s l : List Char} (h : l ∈ splitLines s) : '\n' ∉ l :=
  not_mem_of_mem_splitOn h

theorem newline_not_mem_ended {s l : List Char} (h : l ∈ endedLines s) : '\n' ∉ l :=
  newline_not_mem (List.dropLast_subset _ h)

theorem newline_not_mem_open (s : List Char) : '\n' ∉ openLine s := by
  refine newline_not_mem (s := s) ?_
  rw [splitLines_eq]
  exact List.mem_append_right _ List.mem_cons_self

theorem dropCr_append {s t : List Char} (h : s.getLast? = some '\r' → t.head? ≠ some '\n') :
    dropCr (s ++ t) = dropCr s ++ dropCr t := by
  induction s with
  | nil => rfl
  | cons c s ih =>
    rw [List.cons_append, dropCr, dropCr]
    cases s with
    | nil =>
      have hkeep : ¬ (c = '\r' ∧ t.head? = some '\n') := by
        intro hparts
        obtain ⟨hc, ht⟩ := hparts
        exact h (by rw [hc]; rfl) ht
      rw [List.nil_append, if_neg hkeep, if_neg (by simp)]
      rfl
    | cons d s =>
      have ih := ih fun hl => h (by rw [List.getLast?_cons_cons]; exact hl)
      rw [List.cons_append, List.head?_cons, List.head?_cons]
      rw [List.cons_append] at ih
      split
      · exact ih
      · rw [ih, List.cons_append]

theorem dropCr_of_not_mem {s : List Char} (h : '\r' ∉ s) : dropCr s = s := by
  induction s with
  | nil => rfl
  | cons c s ih =>
    have hc : ¬ (c = '\r' ∧ s.head? = some '\n') := fun hc => h (hc.1 ▸ List.mem_cons_self)
    rw [dropCr, if_neg hc, ih fun hm => h (List.mem_cons_of_mem _ hm)]

theorem length_dropCr_le (s : List Char) : (dropCr s).length ≤ s.length := by
  induction s with
  | nil => exact Nat.le_refl _
  | cons c s ih =>
    rw [dropCr]
    split
    · exact Nat.le_succ_of_le ih
    · exact Nat.succ_le_succ ih

/-- The last character stays. -/
theorem getLast?_dropCr (s : List Char) : (dropCr s).getLast? = s.getLast? := by
  induction s with
  | nil => rfl
  | cons c s ih =>
    cases s with
    | nil => rw [dropCr, if_neg (by simp)]; rfl
    | cons d s =>
      rw [List.getLast?_cons_cons, ← ih, dropCr]
      split
      · rfl
      · rw [List.getLast?_cons]
        cases hl : (dropCr (d :: s)).getLast? with
        | none =>
          rw [ih] at hl
          simp at hl
        | some e => rfl

theorem ink_dropCr (s : List Char) : ink (dropCr s) = ink s := by
  induction s with
  | nil => rfl
  | cons c s ih =>
    have hcons : ∀ t : List Char, ink (c :: t) = ink [c] + ink t := fun t => ink_append [c] t
    rw [dropCr, hcons]
    split
    · rename_i hc
      have hspace : ink [c] = 0 := by rw [hc.1]; decide
      rw [ih, hspace, Nat.zero_add]
    · rw [hcons, ih]

/-- **Nothing is dropped exactly if no newline has a carriage return in front.** -/
theorem dropCr_eq_self_iff {s : List Char} : dropCr s = s ↔ ¬ ['\r', '\n'] <:+: s := by
  induction s with
  | nil => simp [dropCr]
  | cons c s ih =>
    have hprefix : ['\r', '\n'] <+: c :: s ↔ c = '\r' ∧ s.head? = some '\n' := by
      rw [List.cons_prefix_cons]
      refine and_congr eq_comm ?_
      cases s with
      | nil => simp
      | cons d s =>
        rw [List.cons_prefix_cons, List.head?_cons, Option.some_inj]
        exact ⟨fun h => h.1.symm, fun h => ⟨h.symm, List.nil_prefix⟩⟩
    rw [List.infix_cons_iff, hprefix, not_or, dropCr, ← ih]
    split
    · rename_i hc
      refine iff_of_false (fun h => ?_) fun h => h.1 hc
      have hlength := length_dropCr_le s
      rw [h, List.length_cons] at hlength
      omega
    · rename_i hc
      rw [List.cons.injEq]
      exact ⟨fun h => ⟨hc, h.2⟩, fun h => ⟨rfl, h.2⟩⟩

/-- Nothing stands behind the last newline of a text that is empty or ends with it. -/
theorem openLine_eq_nil_iff {s : List Char} :
    openLine s = [] ↔ s = [] ∨ s.getLast? = some '\n' := by
  have hnil : s = [] ↔ dropCr s = [] := by
    rw [← List.getLast?_eq_none_iff, ← getLast?_dropCr, List.getLast?_eq_none_iff]
  have hlines := dropCr_eq_lines s
  have hopen := newline_not_mem_open s
  rw [hnil, ← getLast?_dropCr, hlines]
  generalize endedLines s = ls
  generalize openLine s = tail at hopen
  constructor
  · intro h
    rw [h, List.append_nil]
    rcases List.eq_nil_or_concat ls with h | ⟨ls, l, h⟩
    · rw [h]
      exact .inl rfl
    · right
      rw [h, lines, List.concat_eq_append, List.flatMap_append]
      simp
  · intro h
    by_contra hne
    rcases h with h | h
    · exact hne (List.append_eq_nil_iff.mp h).2
    · rw [List.getLast?_append_of_ne_nil _ hne] at h
      exact hopen (List.mem_of_mem_getLast? h)

/-- The ink of a text is that of its lines. -/
theorem ink_splitLines (s : List Char) :
    ink s = ((endedLines s).map ink).sum + ink (openLine s) := by
  have hink := ink_joinWith (splitLines s)
  rw [splitLines, joinWith_splitOn, ink_dropCr] at hink
  rw [hink]
  change ((splitLines s).map ink).sum = _
  rw [splitLines_eq, List.map_append, List.sum_append, List.map_singleton, List.sum_singleton]

/-- **Lines without their carriage returns** leave the same text behind, trimmed, exactly if the
    trimmed text has none in front of a newline. -/
theorem trim_dropCr_iff {s : List Char} :
    trim (dropCr s) = trim s ↔ ¬ ['\r', '\n'] <:+: trim s := by
  obtain ⟨a, b, hs, ha, hb, hw⟩ := trim_parts s
  generalize trim s = w at hs hw ⊢
  have hblank : ∀ {a : List Char}, Blank a → Blank (dropCr a) := by
    intro a ha
    rw [← ink_eq_zero_iff, ink_dropCr]
    exact ink_eq_zero_iff.mpr ha
  cases w with
  | nil =>
    refine iff_of_true (trim_eq_nil_iff.mpr (hblank ?_)) (by simp)
    rw [hs, List.append_nil]
    exact ha.append hb
  | cons c w =>
    have hc := hw.head c rfl
    have hfront : dropCr (a ++ (c :: w)) = dropCr a ++ dropCr (c :: w) := by
      refine dropCr_append fun _ he => ?_
      cases he
      cases hc
    have hback : dropCr (a ++ (c :: w) ++ b) = dropCr (a ++ (c :: w)) ++ dropCr b := by
      refine dropCr_append fun he => ?_
      have hspace := hw.last '\r' (by
        rw [List.getLast?_append] at he
        rw [List.getLast?_cons] at he ⊢
        simpa using he)
      cases hspace
    have hkept : Trimmed (dropCr (c :: w)) := by
      constructor
      · intro d hd
        have hne : ¬ (c = '\r' ∧ w.head? = some '\n') := by
          intro he
          rw [he.1] at hc
          cases hc
        rw [dropCr, if_neg hne] at hd
        cases hd
        exact hc
      · rw [getLast?_dropCr]
        exact hw.last
    rw [hs, hback, hfront, trim_of_parts (hblank ha) hkept (hblank hb)]
    exact dropCr_eq_self_iff

/-! ## 4. Paths -/

/-- Where the segments lead from a directory. -/
def resolve (dir : List (List Char)) : List (List Char) → List (List Char)
  | [] => dir
  | segment :: segments =>
      if segment = [] ∨ segment = ['.'] then resolve dir segments
      else if segment = ['.', '.'] then resolve dir.dropLast segments
      else resolve (dir ++ [segment]) segments

/-- Where an absolute path leads. -/
def resolvePath (path : List Char) : List (List Char) := resolve [] (splitOn '/' path)

theorem resolve_append (dir s t : List (List Char)) :
    resolve dir (s ++ t) = resolve (resolve dir s) t := by
  induction s generalizing dir with
  | nil => rfl
  | cons segment s ih =>
    rw [List.cons_append, resolve, resolve]
    split
    · exact ih _
    · split
      · exact ih _
      · exact ih _

/-- **Without `..` a path does not leave its directory.** -/
theorem prefix_resolve {segments : List (List Char)} (h : ∀ s ∈ segments, s ≠ ['.', '.']) :
    ∀ dir : List (List Char), dir <+: resolve dir segments := by
  induction segments with
  | nil => exact fun dir => List.prefix_rfl
  | cons segment segments ih =>
    intro dir
    have hrest := ih fun s hs => h s (List.mem_cons_of_mem _ hs)
    rw [resolve]
    split
    · exact hrest dir
    · rw [if_neg (h segment List.mem_cons_self)]
      exact (List.prefix_append dir [segment]).trans (hrest _)

theorem splitOn_slash_append (sep : Char) (s t : List Char) :
    splitOn sep (s ++ sep :: t) = splitOn sep s ++ splitOn sep t := by
  induction s with
  | nil =>
    show splitOn sep (sep :: t) = [] :: splitOn sep t
    rw [splitOn, if_pos rfl]
  | cons c s ih =>
    rw [List.cons_append, splitOn, splitOn]
    split
    · rw [ih, List.cons_append]
    · rw [ih]
      cases hs : splitOn sep s with
      | nil => exact absurd hs (splitOn_ne_nil sep s)
      | cons w ws => rfl

end Text
