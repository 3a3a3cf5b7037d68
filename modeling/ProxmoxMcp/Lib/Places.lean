/-
  File:      ProxmoxMcp/Lib/Places.lean
  Subject:   PLACES IN A JSON VALUE: paths of indices and keys, what two values have in common at
             them, and the values whose objects are as the language keeps them. Nothing here names
             the repository.

  * `SameOutside`     -- two values agree at every place that no hidden key leads to;
  * `sameOutside_arr`, `sameOutside_obj` -- so do their elements and their properties;
  * `inOrder_iff`     -- the order of properties is a matter of their keys alone.
-/
import ProxmoxMcp.Lib.JsonText

namespace Js

/-! ## 1. The order of properties -/

/-- The key `k` stays in front of the key `k'`, which is set later. -/
def StaysBefore (k k' : String) : Prop := k ≠ k' ∧ comesBefore k' k = false

/-- A key is added at the end exactly if all others stay in front of it. -/
theorem setKey_append_iff {key : String} {v : Value} {ps : List (String × Value)} :
    setKey key v ps = ps ++ [(key, v)] ↔ ∀ p ∈ ps, StaysBefore p.1 key := by
  induction ps with
  | nil => simp [setKey]
  | cons p ps ih =>
    obtain ⟨k, w⟩ := p
    rw [List.forall_mem_cons, ← ih, setKey, List.cons_append]
    by_cases hk : k = key
    · rw [if_pos hk]
      refine iff_of_false (fun h => ?_) fun h => h.1.1 hk
      have hlength := congrArg List.length h
      simp at hlength
    · rw [if_neg hk]
      by_cases hkey : hasKey key ps = true
      · -- the key is there already, further back
        rw [if_pos hkey, List.cons.injEq, ih]
        obtain ⟨q, hq, he⟩ := List.mem_map.mp (hasKey_iff.mp hkey)
        exact iff_of_false (fun h => (h.2 q hq).1 he) fun h => (h.2 q hq).1 he
      · rw [if_neg hkey]
        cases hb : comesBefore key k with
        | true =>
          rw [if_pos rfl]
          refine iff_of_false (fun h => ?_) fun h => ?_
          · rw [List.cons.injEq, Prod.mk.injEq] at h
            exact hk h.1.1.symm
          · exact absurd (hb.symm.trans h.1.2) (by decide)
        | false =>
          rw [if_neg (by decide), List.cons.injEq]
          exact ⟨fun h => ⟨⟨hk, hb⟩, h.2⟩, fun h => ⟨rfl, h.2⟩⟩

/-- **The order of properties is a matter of their keys.** -/
theorem inOrder_iff {ps : List (String × Value)} :
    InOrder ps ↔ (ps.map Prod.fst).Pairwise StaysBefore := by
  rw [List.pairwise_map]
  constructor
  · intro h
    induction ps using List.reverseRecOn with
    | nil => exact List.Pairwise.nil
    | append_singleton ps p ih =>
      have hps : InOrder ps := by
        intro before q after he
        exact h before q (after ++ [p]) (by rw [he, List.append_assoc, List.cons_append])
      have hlast := setKey_append_iff.mp (h ps p [] rfl)
      rw [List.pairwise_append]
      refine ⟨ih hps, List.pairwise_singleton _ _, fun q hq r hr => ?_⟩
      rw [List.mem_singleton.mp hr]
      exact hlast q hq
  · intro h before p after hps
    rw [setKey_append_iff]
    intro q hq
    rw [hps, List.pairwise_append] at h
    exact h.2.2 q hq p List.mem_cons_self

theorem InOrder.distinct {ps : List (String × Value)} (h : InOrder ps) : DistinctKeys ps :=
  (inOrder_iff.mp h).imp fun h => h.1

mutual

/-- Every object in the value has its properties as the language keeps them: each key once, the
    indices first, in ascending order. -/
def Value.Proper : Value → Prop
  | .undefined | .null | .bool _ | .num _ | .str _ => True
  | .arr vs => ProperAll vs
  | .obj ps => InOrder ps ∧ ProperEach ps

def ProperAll : List Value → Prop
  | [] => True
  | v :: vs => v.Proper ∧ ProperAll vs

def ProperEach : List (String × Value) → Prop
  | [] => True
  | (_, v) :: ps => v.Proper ∧ ProperEach ps

end

/-- A value of the language. -/
abbrev ProperValue : Type := { v : Value // v.Proper }

theorem properAll_iff {vs : List Value} : ProperAll vs ↔ ∀ v ∈ vs, v.Proper := by
  induction vs with
  | nil => simp [ProperAll]
  | cons v vs ih => rw [ProperAll, ih, List.forall_mem_cons]

theorem properEach_iff {ps : List (String × Value)} : ProperEach ps ↔ ∀ p ∈ ps, p.2.Proper := by
  induction ps with
  | nil => simp [ProperEach]
  | cons p ps ih => rw [ProperEach, ih, List.forall_mem_cons]

/-! ## 2. Places -/

/-- One step down. -/
inductive Step where
  | index (n : Nat)
  | key (k : String)
  deriving DecidableEq, Repr

/-- What a step leads to. -/
def Value.child : Value → Step → Option Value
  | .arr vs, .index n => vs[n]?
  | .obj ps, .key k => if hasKey k ps then some (lookup k ps) else none
  | _, _ => none

/-- What is at a place. -/
def Value.at (v : Value) : List Step → Option Value
  | [] => some v
  | s :: path => (v.child s).bind fun w => w.at path

@[simp] theorem Value.at_nil (v : Value) : v.at [] = some v := rfl

theorem Value.at_cons {v w : Value} {s : Step} (h : v.child s = some w) (path : List Step) :
    v.at (s :: path) = w.at path := by
  rw [Value.at, h, Option.bind_some]

/-- What is at a place is there by its first step. -/
theorem Value.at_cons_some {v x : Value} {s : Step} {path : List Step}
    (h : v.at (s :: path) = some x) : ∃ w, v.child s = some w ∧ w.at path = some x := by
  rw [Value.at] at h
  exact Option.bind_eq_some_iff.mp h

/-- A value that is no array and no object has nothing below it. -/
theorem Value.child_leaf {v : Value} (h : v.isObject = false) (s : Step) : v.child s = none := by
  cases v with
  | arr => cases h
  | obj => cases h
  | _ => cases s <;> rfl

theorem child_key {ps : List (String × Value)} (hps : DistinctKeys ps) {p : String × Value}
    (hp : p ∈ ps) : (Value.obj ps).child (.key p.1) = some p.2 := by
  have hkey : hasKey p.1 ps = true := hasKey_iff.mpr (List.mem_map_of_mem hp)
  rw [Value.child, if_pos hkey, lookup_of_mem hps hp]

/-- A child by a key is a property. -/
theorem mem_of_child {ps : List (String × Value)} (hps : DistinctKeys ps) {k : String} {w : Value}
    (h : (Value.obj ps).child (.key k) = some w) : (k, w) ∈ ps := by
  rw [Value.child] at h
  split at h
  · rename_i hkey
    cases h
    exact mem_of_hasKey hps hkey
  · cases h

/-- A child of a value of the language is one. -/
theorem Value.Proper.child {v w : Value} (h : v.Proper) {s : Step} (hc : v.child s = some w) :
    w.Proper := by
  cases v with
  | arr vs =>
    cases s with
    | index n => exact properAll_iff.mp h w (List.mem_of_getElem? hc)
    | key k => cases hc
  | obj ps =>
    cases s with
    | index n => cases hc
    | key k => exact properEach_iff.mp h.2 _ (mem_of_child h.1.distinct hc)
  | _ =>
    rw [Value.child_leaf rfl] at hc
    cases hc

theorem Value.Proper.at {x : Value} : ∀ {path : List Step} {v : Value}, v.Proper →
    v.at path = some x → x.Proper
  | [], _, hv, hx => by
      cases hx
      exact hv
  | s :: path, v, hv, hx => by
      obtain ⟨w, hw, hx⟩ := Value.at_cons_some hx
      exact (hv.child hw).at hx

/-- The two are the same as far as can be seen without a step: the same leaf, arrays of one length,
    objects with the same keys. -/
inductive SameNode : Value → Value → Prop where
  | leaf {v : Value} (h : v.isObject = false) : SameNode v v
  | arr {vs ws : List Value} (h : vs.length = ws.length) : SameNode (.arr vs) (.arr ws)
  | obj {ps qs : List (String × Value)} (h : ps.map Prod.fst = qs.map Prod.fst) :
      SameNode (.obj ps) (.obj qs)

theorem SameNode.keys {ps qs : List (String × Value)} (h : SameNode (.obj ps) (.obj qs)) :
    ps.map Prod.fst = qs.map Prod.fst := by
  cases h with
  | leaf hleaf => cases hleaf
  | obj hkeys => exact hkeys

/-! ## 3. What hidden keys lead to -/

section Hidden

variable (hidden : String → Bool)

/-- No hidden key leads to the place. -/
def Open (path : List Step) : Prop := ∀ k, Step.key k ∈ path → hidden k = false

/-- **The two differ only below hidden keys.** -/
def SameOutside (v w : Value) : Prop :=
  ∀ path, Open hidden path → Option.Rel SameNode (v.at path) (w.at path)

variable {hidden}

theorem open_nil : Open hidden [] := fun _ h => absurd h List.not_mem_nil

theorem open_index {n : Nat} {path : List Step} :
    Open hidden (.index n :: path) ↔ Open hidden path := by
  simp [Open]

theorem open_key {k : String} {path : List Step} :
    Open hidden (.key k :: path) ↔ hidden k = false ∧ Open hidden path := by
  constructor
  · intro h
    exact ⟨h k List.mem_cons_self, fun k' hk' => h k' (List.mem_cons_of_mem _ hk')⟩
  · intro hparts k' hk'
    obtain ⟨hk, h⟩ := hparts
    rcases List.mem_cons.mp hk' with he | hk'
    · cases he
      exact hk
    · exact h k' hk'

theorem SameOutside.node {v w : Value} (h : SameOutside hidden v w) : SameNode v w := by
  have hroot := h [] open_nil
  rw [Value.at_nil, Value.at_nil] at hroot
  cases hroot
  assumption

/-- What the two lead to by the same open step differs only below hidden keys. -/
theorem SameOutside.child {v w x y : Value} (h : SameOutside hidden v w) {s : Step}
    (hs : Open hidden [s]) (hx : v.child s = some x) (hy : w.child s = some y) :
    SameOutside hidden x y := by
  intro path hpath
  have hopen : Open hidden (s :: path) := by
    cases s with
    | index n => exact open_index.mpr hpath
    | key k => exact open_key.mpr ⟨(open_key.mp hs).1, hpath⟩
  have hat := h (s :: path) hopen
  rw [Value.at_cons hx, Value.at_cons hy] at hat
  exact hat

/-- **Two arrays**: so do their elements, one by one. -/
theorem sameOutside_arr {vs ws : List Value} (h : SameOutside hidden (.arr vs) (.arr ws)) :
    List.Forall₂ (SameOutside hidden) vs ws := by
  cases h.node with
  | leaf hleaf => cases hleaf
  | arr hlength =>
    rw [List.forall₂_iff_get]
    refine ⟨hlength, fun i hv hw => ?_⟩
    refine h.child (open_index.mpr open_nil) (s := .index i) ?_ ?_
    · exact List.getElem?_eq_getElem hv
    · exact List.getElem?_eq_getElem hw

/-- **Two objects**: they have the same keys, and the properties with an open key do. -/
theorem sameOutside_obj {ps qs : List (String × Value)} (hps : DistinctKeys ps)
    (hqs : DistinctKeys qs) (h : SameOutside hidden (.obj ps) (.obj qs)) :
    List.Forall₂ (fun p q => p.1 = q.1 ∧ (hidden p.1 = false → SameOutside hidden p.2 q.2))
      ps qs := by
  cases h.node with
  | leaf hleaf => cases hleaf
  | obj hkeys =>
    rw [List.forall₂_iff_get]
    have hlength : ps.length = qs.length := by
      rw [← List.length_map (f := Prod.fst), hkeys, List.length_map]
    refine ⟨hlength, fun i hp hq => ?_⟩
    have hkey : (ps.get ⟨i, hp⟩).1 = (qs.get ⟨i, hq⟩).1 := by
      have hget := congrArg (·[i]?) hkeys
      simpa [List.getElem?_map, hp, hq] using hget
    refine ⟨hkey, fun hopen => ?_⟩
    refine h.child (s := .key (ps.get ⟨i, hp⟩).1) (open_key.mpr ⟨hopen, open_nil⟩)
      (child_key hps (List.get_mem ..)) ?_
    rw [hkey]
    exact child_key hqs (List.get_mem ..)

end Hidden

end Js
