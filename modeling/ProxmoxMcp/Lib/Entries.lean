/-
  File:      ProxmoxMcp/Lib/Entries.lean
  Subject:   PROPERTY STRINGS: entries `key=value`, joined by commas, and what a reader makes of them.
             Nothing here names the repository.

  * `readEntries_iff` -- what was printed is read back exactly if no value has a comma.
-/
import ProxmoxMcp.Lib.Text

namespace Text

/-- An entry as it is printed. -/
def printEntry (p : List Char × List Char) : List Char := p.1 ++ '=' :: p.2

/-- A part, cut at its first `=`. -/
def readEntry (part : List Char) : List Char × Option (List Char) :=
  match part.dropWhile (· ≠ '=') with
  | _ :: value => (part.takeWhile (· ≠ '='), some value)
  | [] => (part, none)

def printEntries (ps : List (List Char × List Char)) : List Char :=
  joinWith [','] (ps.map printEntry)

def readEntries (s : List Char) : List (List Char × Option (List Char)) :=
  (splitOn ',' s).map readEntry

/-- A key has no separator. -/
structure EntryKey (key : List Char) : Prop where
  comma : ',' ∉ key
  equals : '=' ∉ key

theorem readEntry_printEntry {key : List Char} (h : '=' ∉ key) (value : List Char) :
    readEntry (printEntry (key, value)) = (key, some value) := by
  have hkey : ∀ c ∈ key, decide (c ≠ '=') = true := by
    intro c hc
    rw [decide_eq_true_eq]
    exact fun e => h (e ▸ hc)
  have hdrop : (key ++ '=' :: value).dropWhile (· ≠ '=') = '=' :: value := by
    rw [List.dropWhile_append_of_pos hkey]
    rfl
  have htake : (key ++ '=' :: value).takeWhile (· ≠ '=') = key := by
    rw [List.takeWhile_append_of_pos hkey]
    exact List.append_nil key
  rw [printEntry, readEntry, hdrop, htake]

/-- There is one part more than separators. -/
theorem length_splitOn (sep : Char) (s : List Char) :
    (splitOn sep s).length = s.count sep + 1 := by
  induction s with
  | nil => rfl
  | cons c s ih =>
    rw [splitOn]
    split
    · rename_i hc
      rw [List.length_cons, ih, hc, List.count_cons_self]
    · rename_i hc
      rw [List.count_cons_of_ne hc, ← ih]
      cases hs : splitOn sep s with
      | nil => exact absurd hs (splitOn_ne_nil sep s)
      | cons w ws => rfl

/-- A join has the separators of its words, and one between every two. -/
theorem count_joinWith (sep : Char) {ws : List (List Char)} (h : ws ≠ []) :
    (joinWith [sep] ws).count sep + 1 = (ws.map (List.count sep)).sum + ws.length := by
  induction ws with
  | nil => exact absurd rfl h
  | cons w ws ih =>
    cases ws with
    | nil => rw [joinWith, List.map_singleton, List.sum_singleton, List.length_singleton]
    | cons v ws =>
      have ih := ih (List.cons_ne_nil v ws)
      have hone : List.count sep [sep] = 1 := List.count_singleton_self
      show (w ++ [sep] ++ joinWith [sep] (v :: ws)).count sep + 1 = _
      rw [List.count_append, List.count_append, hone, List.map_cons, List.sum_cons,
        List.length_cons]
      omega

/-- **What was printed is read back**, in any order, exactly if no value has a comma. -/
theorem readEntries_iff {ps : List (List Char × List Char)} (hne : ps ≠ [])
    (hkeys : ∀ p ∈ ps, EntryKey p.1) :
    (readEntries (printEntries ps)).Perm (ps.map fun p => (p.1, some p.2)) ↔
      ∀ p ∈ ps, ',' ∉ p.2 := by
  have hprinted : ps.map printEntry ≠ [] := by
    intro h
    exact hne (List.map_eq_nil_iff.mp h)
  constructor
  · intro h p hp hcomma
    have hlength := h.length_eq
    have hcount := count_joinWith ',' hprinted
    rw [readEntries, List.length_map, length_splitOn, printEntries, List.length_map] at hlength
    rw [List.map_map, List.length_map] at hcount
    -- a value with a comma makes one part more than there are entries
    have hsum : ((ps.map (List.count ',' ∘ printEntry)).sum) = 0 := by omega
    have hzero := List.sum_eq_zero_iff_forall_eq_nat.mp hsum _ (List.mem_map_of_mem hp)
    rw [Function.comp_apply, List.count_eq_zero] at hzero
    exact hzero (List.mem_append_right _ (List.mem_cons_of_mem _ hcomma))
  · intro h
    have hsplit : splitOn ',' (printEntries ps) = ps.map printEntry := by
      refine splitOn_joinWith hprinted fun w hw hm => ?_
      obtain ⟨p, hp, hw⟩ := List.mem_map.mp hw
      rw [← hw, printEntry] at hm
      rcases List.mem_append.mp hm with hm | hm
      · exact (hkeys p hp).comma hm
      · rcases List.mem_cons.mp hm with hm | hm
        · exact absurd hm (by decide)
        · exact h p hp hm
    rw [readEntries, hsplit, List.map_map]
    refine List.Perm.of_eq (List.map_congr_left fun p hp => ?_)
    exact readEntry_printEntry (hkeys p hp).equals p.2

end Text
