/-
  File:      ProxmoxMcp/Lib/JsonLines.lean
  Subject:   JSON LINES: `JSON.stringify` writes no line break, so values that are written one to a
             line are told apart again. Nothing here names the repository.
-/
import ProxmoxMcp.Lib.JsonText
import ProxmoxMcp.Lib.Lines

namespace Js

/-! ## 1. A value is one line -/

theorem hexDigit_ne_newline : ∀ n < 16, hexDigit n ≠ '\n' := by decide

theorem newline_not_mem_quoteChar (c : Char) : '\n' ∉ quoteChar c := by
  unfold quoteChar
  split
  · decide
  split
  · decide
  split
  · decide
  split
  · decide
  split
  · decide
  rename_i hnewline
  split
  · decide
  split
  · decide
  split
  · rename_i hcontrol
    have hhigh := hexDigit_ne_newline (c.toNat / 16) (by omega)
    have hlow := hexDigit_ne_newline (c.toNat % 16) (by omega)
    simp [hhigh.symm, hlow.symm]
  · exact fun h => hnewline (List.mem_singleton.mp h).symm

theorem newline_not_mem_quoteText (s : String) : '\n' ∉ quoteText s := by
  intro h
  rw [quoteText, List.cons_append, List.mem_cons, List.mem_append, List.mem_flatMap] at h
  rcases h with h | hquoted | h
  · exact absurd h (by decide)
  · obtain ⟨c, -, hc⟩ := hquoted
    exact newline_not_mem_quoteChar c hc
  · exact absurd h (by decide)

/-- Texts without a line break between commas. -/
theorem newline_not_mem_joined {ws : List (List Char)} (h : ∀ w ∈ ws, '\n' ∉ w) :
    '\n' ∉ Text.joinWith [','] ws := by
  intro hmem
  rcases Text.mem_joinWith hmem with hword | hsep
  · obtain ⟨w, hw, hn⟩ := hword
    exact h w hw hn
  · exact absurd hsep (by decide)

theorem newline_not_mem_enclosed {a b : Char} {s : List Char} (ha : a ≠ '\n') (hb : b ≠ '\n')
    (hs : '\n' ∉ s) : '\n' ∉ a :: s ++ [b] := by
  intro h
  rw [List.cons_append, List.mem_cons, List.mem_append, List.mem_singleton] at h
  rcases h with h | h | h
  · exact ha h.symm
  · exact hs h
  · exact hb h.symm

mutual

/-- **The text of a value has no line break.** -/
theorem newline_not_mem_stringify : ∀ {v : Value} {t : List Char}, stringifyValue v = some t →
    '\n' ∉ t
  | .undefined, t, h => by cases h
  | .null, t, h => by
      cases h
      decide
  | .bool true, t, h => by
      cases h
      decide
  | .bool false, t, h => by
      cases h
      decide
  | .num (.rat q), t, h => by
      cases h
      exact newline_not_mem_number (.rat q)
  | .num .nan, t, h => by
      cases h
      decide
  | .num (.infinity _), t, h => by
      cases h
      decide
  | .str s, t, h => by
      cases h
      exact newline_not_mem_quoteText s
  | .arr vs, t, h => by
      cases h
      exact newline_not_mem_enclosed (by decide) (by decide)
        (newline_not_mem_joined (newline_not_mem_elements vs))
  | .obj ps, t, h => by
      cases h
      exact newline_not_mem_enclosed (by decide) (by decide)
        (newline_not_mem_joined (newline_not_mem_members ps))

theorem newline_not_mem_elements : ∀ (vs : List Value), ∀ w ∈ stringifyArray vs, '\n' ∉ w
  | [], w, h => absurd h List.not_mem_nil
  | v :: vs, w, h => by
      rw [stringifyArray, List.mem_cons] at h
      rcases h with rfl | h
      · cases hv : stringifyValue v with
        | none => decide
        | some t => exact newline_not_mem_stringify hv
      · exact newline_not_mem_elements vs w h

theorem newline_not_mem_members : ∀ (ps : List (String × Value)), ∀ w ∈ stringifyProperties ps,
    '\n' ∉ w
  | [], w, h => absurd h List.not_mem_nil
  | (k, v) :: ps, w, h => by
      rw [stringifyProperties] at h
      cases hv : stringifyValue v with
      | none =>
        rw [hv] at h
        exact newline_not_mem_members ps w h
      | some t =>
        rw [hv, List.mem_cons] at h
        rcases h with rfl | h
        · intro hmem
          rw [List.mem_append, List.mem_cons] at hmem
          rcases hmem with hmem | hmem | hmem
          · exact newline_not_mem_quoteText k hmem
          · exact absurd hmem (by decide)
          · exact newline_not_mem_stringify hv hmem
        · exact newline_not_mem_members ps w h

end

theorem newline_not_mem_stringifyText (v : Value) : '\n' ∉ (stringifyText v).toList := by
  unfold stringifyText
  cases hv : stringifyValue v with
  | none => decide
  | some t =>
    rw [String.toList_ofList]
    exact newline_not_mem_stringify hv

/-! ## 2. A file of values -/

/-- The values, one to a line. -/
def jsonLines (vs : List Value) : List Char := Text.lines (vs.map fun v => (stringifyText v).toList)

/-- **The lines of the file are the values.** -/
theorem splitOn_jsonLines (vs : List Value) : Text.splitOn '\n' (jsonLines vs) =
    (vs.map fun v => (stringifyText v).toList) ++ [[]] := by
  have hone : ∀ l ∈ vs.map fun v => (stringifyText v).toList, '\n' ∉ l := by
    intro l hl
    obtain ⟨v, -, rfl⟩ := List.mem_map.mp hl
    exact newline_not_mem_stringifyText v
  have hlines := Text.splitOn_lines hone []
  rw [List.append_nil] at hlines
  exact hlines

end Js
