/-
  File:      ProxmoxMcp/Lib/Wildcard.lean
  Subject:   SIMPLE WILDCARDS: `*` stands for any text, every other character for itself up to letter
             case. Nothing here names the repository.

  * `Matches`   -- what a wildcard matches;
  * `matchB_iff` -- what it matches once `*` has become `.*`: the same, as long as no line terminator
    falls under a `*`.
-/
import ProxmoxMcp.Lib.Regex

namespace Wildcard

open Regex CaseFold

variable [CaseFold]

/-! ## 1. What a wildcard matches -/

/-- The wildcard matches the whole text. -/
inductive Matches : List Char → List Char → Prop where
  | nil : Matches [] []
  | star {p s : List Char} (t : List Char) : Matches p s → Matches ('*' :: p) (t ++ s)
  | char {c d : Char} {p s : List Char} : c ≠ '*' → fold d = fold c → Matches p s →
      Matches (c :: p) (d :: s)

/-- How many line terminators there are. -/
def lines (s : List Char) : Nat := s.countP isLineTerminator

omit [CaseFold] in
@[simp] theorem lines_append (s t : List Char) : lines (s ++ t) = lines s + lines t :=
  List.countP_append

omit [CaseFold] in
theorem lines_cons (c : Char) (s : List Char) :
    lines (c :: s) = lines s + if isLineTerminator c then 1 else 0 :=
  List.countP_cons

omit [CaseFold] in
theorem lines_eq_zero {s : List Char} : lines s = 0 ↔ ∀ c ∈ s, isLineTerminator c = false := by
  simp [lines, List.countP_eq_zero]

/-- Letter case makes no line terminator. -/
theorem isLineTerminator_eq {c d : Char} (h : fold d = fold c) :
    isLineTerminator d = isLineTerminator c := by
  rw [← fold_lineTerminator d, h, fold_lineTerminator]

/-- The line terminators of a wildcard are in every text that it matches. -/
theorem Matches.lines_le {p s : List Char} (h : Matches p s) : lines p ≤ lines s := by
  induction h with
  | nil => exact Nat.le_refl _
  | @star p s t _ ih =>
    have hstar : lines ('*' :: p) = lines p := by rw [lines_cons]; rfl
    rw [hstar, lines_append]
    omega
  | char _ hfold _ ih =>
    rw [lines_cons, lines_cons, isLineTerminator_eq hfold]
    omega

/-- Without a `*`, it matches its own text. -/
theorem matches_self : ∀ {p : List Char}, '*' ∉ p → Matches p p
  | [], _ => .nil
  | c :: p, h => by
      have hc : c ≠ '*' := fun e => h (by rw [e]; exact List.mem_cons_self)
      exact .char hc rfl (matches_self fun hmem => h (List.mem_cons_of_mem _ hmem))

/-- What a wildcard without a `*` in front matches. -/
theorem matches_cons {c : Char} {p s : List Char} (hc : c ≠ '*') :
    Matches (c :: p) s ↔ ∃ d u, s = d :: u ∧ fold d = fold c ∧ Matches p u := by
  constructor
  · intro h
    cases h with
    | star => exact absurd rfl hc
    | char _ hfold h => exact ⟨_, _, rfl, hfold, h⟩
  · intro hparts
    obtain ⟨d, u, hs, hfold, h⟩ := hparts
    rw [hs]
    exact .char hc hfold h

theorem matches_star {p s : List Char} :
    Matches ('*' :: p) s ↔ ∃ t u, s = t ++ u ∧ Matches p u := by
  constructor
  · intro h
    cases h with
    | star t h => exact ⟨t, _, rfl, h⟩
    | char hc => exact absurd rfl hc
  · intro hparts
    obtain ⟨t, u, hs, h⟩ := hparts
    rw [hs]
    exact .star t h

/-! ## 2. Wildcards as expressions -/

/-- The characters that `pattern` reads as `.*`. -/
def isStar (c : Char) : Bool := c == '*'

/-- **As an expression, a wildcard matches the same texts, line by line**: what its `*` stand for
    holds no line terminator. -/
theorem matchB_iff (p : List Char) : ∀ s : List Char,
    matchB (pattern isStar p) s = true ↔ Matches p s ∧ lines s ≤ lines p := by
  induction p with
  | nil =>
    intro s
    cases s with
    | nil => exact ⟨fun _ => ⟨.nil, Nat.le_refl _⟩, fun _ => rfl⟩
    | cons d s => exact ⟨fun h => (by cases h), fun h => (by cases h.1)⟩
  | cons c p ih =>
    intro s
    by_cases hc : c = '*'
    · subst hc
      have hlines : lines ('*' :: p) = lines p := by rw [lines_cons]; rfl
      have hpattern : pattern isStar ('*' :: p) = .many .dot :: pattern isStar p := rfl
      rw [hpattern, matchB_many, matches_star, hlines]
      constructor
      · intro hparts
        obtain ⟨t, u, hs, ht, hu⟩ := hparts
        obtain ⟨hmatches, hle⟩ := (ih u).mp hu
        have hzero : lines t = 0 := lines_eq_zero.mpr fun d hd => by
          simpa [Atom.test] using ht d hd
        refine ⟨⟨t, u, hs, hmatches⟩, ?_⟩
        rw [hs, lines_append, hzero, Nat.zero_add]
        exact hle
      · intro hparts
        obtain ⟨⟨t, u, hs, hmatches⟩, hle⟩ := hparts
        have hge := hmatches.lines_le
        rw [hs, lines_append] at hle
        have hzero : lines t = 0 := by omega
        refine ⟨t, u, hs, fun d hd => ?_, (ih u).mpr ⟨hmatches, by omega⟩⟩
        simp [Atom.test, lines_eq_zero.mp hzero d hd]
    · have hpattern : pattern isStar (c :: p) = .one (.lit c) :: pattern isStar p := by
        rw [pattern, List.map_cons, if_neg (by simpa [isStar] using hc)]
        rfl
      have hlines : ∀ {d u}, fold d = fold c →
          (lines (d :: u) ≤ lines (c :: p) ↔ lines u ≤ lines p) := by
        intro d u hfold
        rw [lines_cons, lines_cons, isLineTerminator_eq hfold]
        omega
      rw [hpattern, matchB_one, matches_cons hc]
      constructor
      · intro hparts
        obtain ⟨d, u, hs, htest, hu⟩ := hparts
        have hfold : fold d = fold c := by simpa [Atom.test] using htest
        obtain ⟨hmatches, hle⟩ := (ih u).mp hu
        refine ⟨⟨d, u, hs, hfold, hmatches⟩, ?_⟩
        rw [hs]
        exact (hlines hfold).mpr hle
      · intro hparts
        obtain ⟨⟨d, u, hs, hfold, hmatches⟩, hle⟩ := hparts
        rw [hs] at hle
        exact ⟨d, u, hs, by simpa [Atom.test] using hfold,
          (ih u).mpr ⟨hmatches, (hlines hfold).mp hle⟩⟩

/-! ## 3. What an expression can match -/

end Wildcard
