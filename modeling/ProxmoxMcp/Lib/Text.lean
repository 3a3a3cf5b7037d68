/-
  File:      ProxmoxMcp/Lib/Text.lean
  Subject:   TEXT AS A LIST OF CHARACTERS: the string functions of ECMAScript that programs use on
             short protocol texts, written by structural recursion so that they evaluate. Nothing
             here names the repository.

  A string is a sequence of Unicode scalar values; a lone surrogate is no text here.

  * `isSpace`, `trim` -- WhiteSpace and LineTerminator of the language;
  * `splitOn`, `joinWith` -- `split` and `join` at one character, inverse to each other;
  * `replaceChar` -- `replace(/c/g, t)`;
  * `splitRuns`, `IsWord` -- `split` at runs of separators, and the words it finds;
  * `Unicode` -- the case tables, of which only the ASCII part is fixed.
-/
import ProxmoxMcp.Lib.Regex

namespace Text

/-- Texts are compared by their characters. -/
instance lawfulBEq : LawfulBEq (List Char) := inferInstance

/-! ## 1. Spaces -/

/-- `WhiteSpace` or `LineTerminator`: what `trim` removes and `\s` matches. -/
def isSpace (c : Char) : Bool :=
  c ∈ ['\t', '\n', '\u000b', '\u000c', '\r', ' ', '\u00a0', '\u1680', '\u2000', '\u2001', '\u2002',
    '\u2003', '\u2004', '\u2005', '\u2006', '\u2007', '\u2008', '\u2009', '\u200a', '\u2028',
    '\u2029', '\u202f', '\u205f', '\u3000', '\ufeff']

/-- `s.trimEnd()`. -/
def trimEnd (s : List Char) : List Char := (s.reverse.dropWhile isSpace).reverse

/-- `s.trim()`. -/
def trim (s : List Char) : List Char := trimEnd (s.dropWhile isSpace)

/-- Nothing is removed from a text whose first and last characters are no spaces. -/
theorem trim_eq_self {s : List Char} (hh : ∀ c ∈ s.head?, isSpace c = false)
    (hl : ∀ c ∈ s.getLast?, isSpace c = false) : trim s = s := by
  have h1 : s.dropWhile isSpace = s := by
    cases s with
    | nil => rfl
    | cons c s => rw [List.dropWhile_cons_of_neg (by simp [hh c (by simp)])]
  have h2 : s.reverse.dropWhile isSpace = s.reverse := by
    rcases hs : s.reverse with _ | ⟨c, r⟩
    · rfl
    · have : s.getLast? = some c := by rw [← List.head?_reverse, hs]; rfl
      rw [List.dropWhile_cons_of_neg (by simp [hl c (by simp [this])])]
  rw [trim, trimEnd, h1, h2, List.reverse_reverse]

/-! ## 2. Splitting and joining -/

/-- `s.split(sep)` for a separator of one character; never empty. -/
def splitOn (sep : Char) : List Char → List (List Char)
  | [] => [[]]
  | c :: s =>
      if c = sep then [] :: splitOn sep s
      else
        match splitOn sep s with
        | [] => [[c]]
        | w :: ws => (c :: w) :: ws

/-- `ws.join(sep)`. -/
def joinWith (sep : List Char) : List (List Char) → List Char
  | [] => []
  | [w] => w
  | w :: ws => w ++ sep ++ joinWith sep ws

theorem splitOn_ne_nil (sep : Char) : ∀ s : List Char, splitOn sep s ≠ []
  | [] => by simp [splitOn]
  | c :: s => by
      unfold splitOn
      split
      · simp
      · split <;> simp

/-- A word without the separator is one part. -/
theorem splitOn_of_not_mem {sep : Char} : ∀ {s : List Char}, sep ∉ s → splitOn sep s = [s]
  | [], _ => rfl
  | c :: s, h => by
      have hc : c ≠ sep := fun e => h (e ▸ List.mem_cons_self)
      rw [splitOn, if_neg hc, splitOn_of_not_mem fun hm => h (List.mem_cons_of_mem _ hm)]

/-- The first part ends at the first separator. -/
theorem splitOn_append {sep : Char} : ∀ {w : List Char} (s : List Char), sep ∉ w →
    splitOn sep (w ++ sep :: s) = w :: splitOn sep s
  | [], s, _ => by rw [List.nil_append, splitOn, if_pos rfl]
  | c :: w, s, h => by
      have hc : c ≠ sep := fun e => h (e ▸ List.mem_cons_self)
      rw [List.cons_append, splitOn, if_neg hc,
        splitOn_append s fun hm => h (List.mem_cons_of_mem _ hm)]

/-- No part holds the separator. -/
theorem not_mem_of_mem_splitOn {sep : Char} : ∀ {s w : List Char}, w ∈ splitOn sep s → sep ∉ w
  | [], w, h => by
      rw [splitOn, List.mem_singleton] at h
      simp [h]
  | c :: s, w, h => by
      rw [splitOn] at h
      split at h
      · rcases List.mem_cons.mp h with rfl | h
        · simp
        · exact not_mem_of_mem_splitOn h
      · rename_i hc
        split at h
        · rename_i e
          exact absurd e (splitOn_ne_nil sep s)
        · rename_i w' ws e
          rcases List.mem_cons.mp h with rfl | h
          · have := @not_mem_of_mem_splitOn sep s w' (e ▸ List.mem_cons_self)
            simp only [List.mem_cons, not_or]
            exact ⟨fun e => hc e.symm, this⟩
          · exact not_mem_of_mem_splitOn (e ▸ List.mem_cons_of_mem _ h)

/-- **Joining what was split** gives the text back. -/
theorem joinWith_splitOn (sep : Char) : ∀ s : List Char, joinWith [sep] (splitOn sep s) = s
  | [] => rfl
  | c :: s => by
      have ih := joinWith_splitOn sep s
      rw [splitOn]
      rcases e : splitOn sep s with _ | ⟨w, ws⟩
      · exact absurd e (splitOn_ne_nil sep s)
      · rw [e] at ih
        split
        · rename_i hc
          rw [joinWith, ih, hc]
          · rfl
          · simp
        · cases ws with
          | nil => simpa [joinWith] using ih
          | cons v vs => simpa [joinWith] using ih

/-- A text is cut at its first separator in one way. -/
theorem cut_first {sep : Char} {w w' s s' : List Char} (hw : sep ∉ w) (hw' : sep ∉ w')
    (h : w ++ sep :: s = w' ++ sep :: s') : w = w' ∧ s = s' := by
  have hsplit := congrArg (splitOn sep) h
  rw [splitOn_append s hw, splitOn_append s' hw'] at hsplit
  obtain ⟨hword, hrest⟩ := List.cons_eq_cons.mp hsplit
  refine ⟨hword, ?_⟩
  rw [← joinWith_splitOn sep s, hrest, joinWith_splitOn]

/-- A text is cut at its last separator in one way. -/
theorem cut_last {sep : Char} {w w' s s' : List Char} (hs : sep ∉ s) (hs' : sep ∉ s')
    (h : w ++ sep :: s = w' ++ sep :: s') : w = w' ∧ s = s' := by
  have hrev := congrArg List.reverse h
  simp only [List.reverse_append, List.reverse_cons, List.append_assoc, List.singleton_append] at hrev
  obtain ⟨htail, hhead⟩ := cut_first (by simpa using hs) (by simpa using hs') hrev
  exact ⟨List.reverse_inj.mp hhead, List.reverse_inj.mp htail⟩

/-- What a joined text is made of. -/
theorem mem_joinWith {sep : List Char} {c : Char} : ∀ {ws : List (List Char)},
    c ∈ joinWith sep ws → (∃ w ∈ ws, c ∈ w) ∨ c ∈ sep
  | [], h => nomatch h
  | [w], h => .inl ⟨w, List.mem_cons_self, h⟩
  | w :: v :: ws, h => by
      change c ∈ w ++ sep ++ joinWith sep (v :: ws) at h
      rcases List.mem_append.mp h with h | h
      · rcases List.mem_append.mp h with h | h
        · exact .inl ⟨w, List.mem_cons_self, h⟩
        · exact .inr h
      · rcases mem_joinWith h with ⟨x, hx, hc⟩ | hsep
        · exact .inl ⟨x, List.mem_cons_of_mem _ hx, hc⟩
        · exact .inr hsep

/-- A test holds of a joined text where it holds of its words. -/
theorem all_joinWith {p : Char → Bool} {sep : List Char} (hsep : sep.all p = true) :
    ∀ ws : List (List Char), (joinWith sep ws).all p = ws.all fun w => w.all p
  | [] => rfl
  | [w] => by simp [joinWith]
  | w :: w' :: ws => by
      have hrest := all_joinWith hsep (w' :: ws)
      have hjoin : joinWith sep (w :: w' :: ws) = w ++ sep ++ joinWith sep (w' :: ws) := rfl
      rw [hjoin, List.all_append, List.all_append, hsep, hrest, Bool.and_true]
      rfl

/-- **Splitting what was joined** gives the words back, if no word holds the separator. -/
theorem splitOn_joinWith {sep : Char} : ∀ {ws : List (List Char)}, ws ≠ [] →
    (∀ w ∈ ws, sep ∉ w) → splitOn sep (joinWith [sep] ws) = ws
  | [], h, _ => absurd rfl h
  | [w], _, hw => splitOn_of_not_mem (hw w List.mem_cons_self)
  | w :: v :: ws, _, hw => by
      have hv : v :: ws ≠ [] := by simp
      show splitOn sep (w ++ [sep] ++ joinWith [sep] (v :: ws)) = _
      rw [List.append_assoc, List.singleton_append, splitOn_append _ (hw w List.mem_cons_self),
        splitOn_joinWith hv fun x hx => hw x (List.mem_cons_of_mem _ hx)]

/-! ## 3. Replacing and searching -/

/-- `s.replace(/c/g, t)` for one character. -/
def replaceChar (c : Char) (t : List Char) (s : List Char) : List Char :=
  s.flatMap fun x => if x = c then t else [x]

/-- `s.length`: the UTF-16 code units. -/
def utf16Length (s : String) : Nat := (s.toList.map fun c => if c.toNat < 65536 then 1 else 2).sum

/-- `s.includes(t)`. -/
def includes (t : List Char) : List Char → Bool
  | [] => t.isEmpty
  | c :: s => t.isPrefixOf (c :: s) || includes t s

theorem replaceChar_append (c : Char) (t s s' : List Char) :
    replaceChar c t (s ++ s') = replaceChar c t s ++ replaceChar c t s' := by
  simp [replaceChar]

theorem replaceChar_of_not_mem {c : Char} {t : List Char} : ∀ {s : List Char}, c ∉ s →
    replaceChar c t s = s
  | [], _ => rfl
  | x :: s, h => by
      have hx : x ≠ c := fun e => h (e ▸ List.mem_cons_self)
      have ih : replaceChar c t s = s :=
        replaceChar_of_not_mem fun hm => h (List.mem_cons_of_mem _ hm)
      rw [replaceChar, List.flatMap_cons, if_neg hx]
      show x :: replaceChar c t s = _
      rw [ih]

/-! ## 4. Words -/

/-- A character in front of the first piece. -/
def consFirst (c : Char) : List (List Char) → List (List Char)
  | [] => [[c]]
  | w :: ws => (c :: w) :: ws

/-- `s.split(/[sep]+/)`; `inRun` says that the characters before are a run of separators. -/
def splitRuns (sep : Char → Bool) (inRun : Bool) : List Char → List (List Char)
  | [] => [[]]
  | c :: s =>
      if sep c then if inRun then splitRuns sep true s else [] :: splitRuns sep true s
      else consFirst c (splitRuns sep false s)

/-- `w` is a word of `s`: it holds no separator, and what is around it ends and begins with one. -/
structure IsWord (sep : Char → Bool) (w s : List Char) : Prop where
  ne_nil : w ≠ []
  plain : ∀ c ∈ w, sep c = false
  delimited : ∃ before after, s = before ++ w ++ after ∧
    (∀ c ∈ before.getLast?, sep c = true) ∧ ∀ c ∈ after.head?, sep c = true

/-- A word that something comes before. -/
structure LaterWord (sep : Char → Bool) (w s : List Char) : Prop where
  plain : ∀ c ∈ w, sep c = false
  delimited : ∃ before c after, s = before ++ c :: (w ++ after) ∧ sep c = true ∧
    ∀ c ∈ after.head?, sep c = true

section Words

variable {sep : Char → Bool} {w s : List Char} {c : Char}

/-- A word is what the text begins with, or comes later. -/
theorem isWord_iff (hw : w ≠ []) :
    IsWord sep w s ↔ w = s.takeWhile (!sep ·) ∨ LaterWord sep w s := by
  constructor
  · intro h
    obtain ⟨before, after, hs, hbefore, hafter⟩ := h.delimited
    rcases List.eq_nil_or_concat' before with hnil | ⟨front, c, hconcat⟩
    · refine Or.inl ?_
      have hplain : ∀ c ∈ w, (!sep c) = true := fun c hc => by rw [h.plain c hc]; rfl
      have hend : after.takeWhile (!sep ·) = [] := by
        cases after with
        | nil => rfl
        | cons d after => rw [List.takeWhile_cons_of_neg (by rw [hafter d rfl]; decide)]
      rw [hs, hnil, List.nil_append, List.takeWhile_append_of_pos hplain, hend, List.append_nil]
    · rw [hconcat] at hs hbefore
      refine Or.inr ⟨h.plain, front, c, after, ?_, hbefore c List.getLast?_concat, hafter⟩
      rw [hs, List.append_assoc, List.append_assoc]
      rfl
  · intro h
    rcases h with h | h
    · refine ⟨hw, fun c hc => ?_, [], s.dropWhile (!sep ·), ?_, fun c hc => (nomatch hc), ?_⟩
      · rw [h] at hc
        simpa using List.mem_takeWhile_imp hc
      · rw [h, List.nil_append, List.takeWhile_append_dropWhile]
      · intro c hc
        have hhead := List.head?_dropWhile_not (!sep ·) s
        rw [Option.mem_def.mp hc] at hhead
        simpa using hhead
    · obtain ⟨before, c, after, hs, hc, hafter⟩ := h.delimited
      refine ⟨hw, h.plain, before ++ [c], after, ?_, fun d hd => ?_, hafter⟩
      · rw [hs, List.append_assoc, List.append_assoc]
        rfl
      · rw [List.getLast?_concat, Option.mem_some_iff] at hd
        rw [← hd]
        exact hc

/-- After a separator, every word comes later. -/
theorem laterWord_cons_sep (hw : w ≠ []) (hc : sep c = true) :
    LaterWord sep w (c :: s) ↔ IsWord sep w s := by
  constructor
  · intro h
    obtain ⟨before, d, after, hs, hd, hafter⟩ := h.delimited
    cases before with
    | nil =>
      obtain ⟨rfl, rfl⟩ := List.cons.inj hs
      exact ⟨hw, h.plain, [], after, rfl, fun c hc => (nomatch hc), hafter⟩
    | cons e before =>
      obtain ⟨rfl, rfl⟩ := List.cons.inj hs
      exact (isWord_iff hw).mpr (Or.inr ⟨h.plain, before, d, after, rfl, hd, hafter⟩)
  · intro h
    obtain ⟨before, after, hs, hbefore, hafter⟩ := h.delimited
    rcases List.eq_nil_or_concat' before with hnil | ⟨front, d, hconcat⟩
    · refine ⟨h.plain, [], c, after, ?_, hc, hafter⟩
      rw [hs, hnil]
      rfl
    · rw [hconcat] at hs hbefore
      refine ⟨h.plain, c :: front, d, after, ?_, hbefore d List.getLast?_concat, hafter⟩
      rw [hs, List.append_assoc, List.append_assoc]
      rfl

/-- Any other character changes nothing for them. -/
theorem laterWord_cons_plain (hc : sep c = false) :
    LaterWord sep w (c :: s) ↔ LaterWord sep w s := by
  constructor
  · intro h
    obtain ⟨before, d, after, hs, hd, hafter⟩ := h.delimited
    cases before with
    | nil =>
      rw [(List.cons.inj hs).1, hd] at hc
      cases hc
    | cons e before => exact ⟨h.plain, before, d, after, (List.cons.inj hs).2, hd, hafter⟩
  · intro h
    obtain ⟨before, d, after, hs, hd, hafter⟩ := h.delimited
    exact ⟨h.plain, c :: before, d, after, by rw [hs]; rfl, hd, hafter⟩

/-- The pieces of a text: its beginning, and then its later words. -/
theorem splitRuns_pieces : ∀ s : List Char,
    (∃ ws, splitRuns sep false s = s.takeWhile (!sep ·) :: ws ∧
      ∀ w, w ≠ [] → (w ∈ ws ↔ LaterWord sep w s)) ∧
    ∀ w, w ≠ [] → (w ∈ splitRuns sep true s ↔ IsWord sep w s)
  | [] => by
      have hlater : ∀ w, ¬LaterWord sep w [] := by
        intro w h
        obtain ⟨before, c, after, hs, -⟩ := h.delimited
        exact List.append_ne_nil_of_right_ne_nil before (List.cons_ne_nil c _) hs.symm
      refine ⟨⟨[], rfl, fun w _ => ⟨fun h => (nomatch h), fun h => absurd h (hlater w)⟩⟩,
        fun w hw => ?_⟩
      rw [isWord_iff hw, splitRuns, List.mem_singleton]
      exact ⟨Or.inl, fun h => h.resolve_right (hlater w)⟩
  | c :: s => by
      obtain ⟨⟨ws, hws, hfalse⟩, htrue⟩ := splitRuns_pieces s
      cases hc : sep c with
      | true =>
        have htake : (c :: s).takeWhile (!sep ·) = [] :=
          List.takeWhile_cons_of_neg (by rw [hc]; decide)
        refine ⟨⟨splitRuns sep true s, ?_, fun w hw => ?_⟩, fun w hw => ?_⟩
        · rw [splitRuns, if_pos hc, if_neg Bool.false_ne_true, htake]
        · rw [htrue w hw, laterWord_cons_sep hw hc]
        · rw [splitRuns, if_pos hc, if_pos rfl, htrue w hw, isWord_iff (s := c :: s) hw, htake,
            laterWord_cons_sep hw hc]
          exact ⟨Or.inr, fun h => h.resolve_left hw⟩
      | false =>
        have htake : (c :: s).takeWhile (!sep ·) = c :: s.takeWhile (!sep ·) :=
          List.takeWhile_cons_of_pos (by rw [hc]; rfl)
        have hpieces : ∀ inRun, splitRuns sep inRun (c :: s) =
            (c :: s.takeWhile (!sep ·)) :: ws := by
          intro inRun
          rw [splitRuns, hc, if_neg Bool.false_ne_true, hws]
          rfl
        refine ⟨⟨ws, ?_, fun w hw => ?_⟩, fun w hw => ?_⟩
        · rw [hpieces, htake]
        · rw [hfalse w hw, laterWord_cons_plain hc]
        · rw [hpieces, isWord_iff hw, htake, laterWord_cons_plain hc, List.mem_cons, hfalse w hw]

/-- **`split` on runs of separators finds the words.** -/
theorem mem_splitRuns (hw : w ≠ []) : w ∈ splitRuns sep false s ↔ IsWord sep w s := by
  obtain ⟨⟨ws, hws, hlater⟩, -⟩ := @splitRuns_pieces sep s
  rw [hws, List.mem_cons, hlater w hw, isWord_iff hw]

end Words
/-! ## 5. Case -/

/-- The case tables of `toUpperCase`, `toLowerCase` and the `i` flag. The ASCII part is fixed,
    the rest is Unicode's. -/
class Unicode extends Regex.CaseFold where
  upper : Char → List Char
  lower : Char → List Char
  upper_ascii : ∀ c, c.toNat < 128 → upper c = [c.toUpper]
  lower_ascii : ∀ c, c.toNat < 128 → lower c = [c.toLower]

/-- Tables that know ASCII letters only. -/
@[reducible] def asciiCase : Unicode where
  toCaseFold := Regex.asciiFold
  upper c := [c.toUpper]
  lower c := [c.toLower]
  upper_ascii _ _ := rfl
  lower_ascii _ _ := rfl

variable [Unicode]

/-- `s.toUpperCase()`. -/
def toUpperCase (s : String) : String := String.ofList (s.toList.flatMap Unicode.upper)

/-- `s.toLowerCase()`, up to the final sigma. -/
def toLowerCase (s : String) : String := String.ofList (s.toList.flatMap Unicode.lower)

omit [Unicode] in
/-- A text that can be seen to be ASCII. -/
theorem ascii_of_all {s : List Char} (h : s.all (fun c => decide (c.toNat < 128)) = true) :
    ∀ c ∈ s, c.toNat < 128 := fun c hc => of_decide_eq_true (List.all_eq_true.mp h c hc)

/-- On ASCII text, upper-casing is the letter-wise one. -/
theorem flatMap_upper_ascii : ∀ {s : List Char}, (∀ c ∈ s, c.toNat < 128) →
    s.flatMap Unicode.upper = s.map Char.toUpper
  | [], _ => rfl
  | c :: s, h => by
      rw [List.flatMap_cons, Unicode.upper_ascii c (h c List.mem_cons_self),
        flatMap_upper_ascii fun d hd => h d (List.mem_cons_of_mem _ hd)]
      rfl

end Text
