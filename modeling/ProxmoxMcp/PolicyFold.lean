/-
  File:      ProxmoxMcp/PolicyFold.lean
  Subject:   THE FOLD OF THE POLICIES (`getPolicy`): which entries the permissions of a target come
             from.

  `policyFold_iff`: the last matching entry gives every permission, the families of all of them add
  up, and entries that do not match make no difference, exactly if no selector that is read for the
  target is a malformed expression.
-/
import ProxmoxMcp.Policy

namespace ProxmoxMcp

variable [Text.Unicode]

/-! ## 1. Families -/

omit [Text.Unicode] in
/-- A set that is built element by element: what was there, and what came. -/
theorem insertAll_spec : ∀ (l acc : List String), acc.Nodup →
    (l.foldl (fun acc f => if f ∈ acc then acc else acc ++ [f]) acc).Nodup ∧
      ∀ f, f ∈ l.foldl (fun acc f => if f ∈ acc then acc else acc ++ [f]) acc ↔ f ∈ acc ∨ f ∈ l
  | [], acc, h => ⟨h, fun f => by simp⟩
  | g :: l, acc, h => by
      rw [List.foldl_cons]
      by_cases hg : g ∈ acc
      · rw [if_pos hg]
        obtain ⟨hnodup, hmem⟩ := insertAll_spec l acc h
        refine ⟨hnodup, fun f => ?_⟩
        rw [hmem, List.mem_cons]
        constructor
        · intro hf
          exact hf.imp id Or.inr
        · intro hf
          rcases hf with hf | hf | hf
          · exact Or.inl hf
          · rw [hf]
            exact Or.inl hg
          · exact Or.inr hf
      · rw [if_neg hg]
        have hnew : (acc ++ [g]).Nodup :=
          List.nodup_append.mpr ⟨h, List.nodup_singleton g, fun a ha b hb e => by
            rw [List.mem_singleton.mp hb] at e
            rw [e] at ha
            exact hg ha⟩
        obtain ⟨hnodup, hmem⟩ := insertAll_spec l (acc ++ [g]) hnew
        refine ⟨hnodup, fun f => ?_⟩
        rw [hmem, List.mem_append, List.mem_singleton, List.mem_cons, or_assoc]

omit [Text.Unicode] in
theorem nodup_unionFamilies (xs ys : List String) : (unionFamilies xs ys).Nodup :=
  (insertAll_spec (xs ++ ys) [] List.nodup_nil).1

omit [Text.Unicode] in
theorem mem_unionFamilies {xs ys : List String} {f : String} :
    f ∈ unionFamilies xs ys ↔ f ∈ xs ∨ f ∈ ys := by
  have hmem := (insertAll_spec (xs ++ ys) [] List.nodup_nil).2 f
  rw [unionFamilies, hmem, List.mem_append]
  simp

/-! ## 2. What the permissions come from -/

/-- The entries that match the target. -/
def applying (policies : List PolicyConfig) (target : TargetRef) : List PolicyConfig :=
  policies.filter fun policy => matchesPolicy policy target = .ok true

/-- Every permission but the families is the entry's. -/
structure EffectivePolicy.Takes (effective : EffectivePolicy) (policy : PolicyConfig) : Prop where
  allowApiRead : effective.allowApiRead = policy.allowApiRead
  allowApiWrite : effective.allowApiWrite = policy.allowApiWrite
  allowRawCli : effective.allowRawCli = policy.allowRawCli
  allowShell : effective.allowShell = policy.allowShell
  allowFileRead : effective.allowFileRead = policy.allowFileRead
  allowFileWrite : effective.allowFileWrite = policy.allowFileWrite
  allowSudo : effective.allowSudo = policy.allowSudo
  maxTimeoutMs : effective.maxTimeoutMs = policy.maxTimeoutMs

/-- The permissions are those of the last matching entry, the default's if there is none, and the
    families those of every matching entry, each of them once. -/
structure IsEffective (policies : List PolicyConfig) (target : TargetRef)
    (effective : EffectivePolicy) : Prop where
  last : match (applying policies target).getLast? with
    | none => effective = defaultPolicy
    | some policy => effective.Takes policy
  families_nodup : effective.allowCliFamilies.Nodup
  families : ∀ f, f ∈ effective.allowCliFamilies ↔
    ∃ policy ∈ applying policies target, f ∈ policy.allowCliFamilies

omit [Text.Unicode] in
theorem takes_overlay (current : EffectivePolicy) (policy : PolicyConfig) :
    (current.overlay policy).Takes policy :=
  ⟨rfl, rfl, rfl, rfl, rfl, rfl, rfl, rfl⟩

omit [Text.Unicode] in
/-- **Entries laid one over the other**: the last one shows, and the families add up. -/
theorem foldl_overlay (l : List PolicyConfig) (current : EffectivePolicy)
    (hcurrent : current.allowCliFamilies.Nodup) :
    (match l.getLast? with
      | none => l.foldl .overlay current = current
      | some policy => (l.foldl .overlay current).Takes policy) ∧
    (l.foldl .overlay current).allowCliFamilies.Nodup ∧
    ∀ f, f ∈ (l.foldl .overlay current).allowCliFamilies ↔
      f ∈ current.allowCliFamilies ∨ ∃ policy ∈ l, f ∈ policy.allowCliFamilies := by
  induction l using List.reverseRecOn with
  | nil => exact ⟨rfl, hcurrent, fun f => by simp⟩
  | append_singleton l policy ih =>
    obtain ⟨-, -, hfamilies⟩ := ih
    rw [List.foldl_append, List.getLast?_append_of_ne_nil _ (by simp)]
    refine ⟨takes_overlay _ _, nodup_unionFamilies _ _, fun f => ?_⟩
    show f ∈ unionFamilies (l.foldl .overlay current).allowCliFamilies policy.allowCliFamilies ↔ _
    rw [mem_unionFamilies, hfamilies, or_assoc]
    refine or_congr Iff.rfl ?_
    simp only [List.mem_append, List.mem_singleton, or_and_right, exists_or, exists_eq_left]

/-- The permissions, where every entry can be read for the target. -/
theorem getPolicy_of_read {policies : List PolicyConfig} {target : TargetRef}
    (h : ∀ policy ∈ policies, ∃ b, matchesPolicy policy target = .ok b) :
    getPolicy policies target = .ok ((applying policies target).foldl .overlay defaultPolicy) := by
  have hfold : ∀ (ps : List PolicyConfig) (current : EffectivePolicy),
      (∀ policy ∈ ps, ∃ b, matchesPolicy policy target = .ok b) →
      ps.foldlM (policyStep target) current =
        .ok ((applying ps target).foldl .overlay current) := by
    intro ps
    induction ps with
    | nil =>
      intro current _
      rfl
    | cons policy ps ih =>
      intro current hread
      obtain ⟨b, hb⟩ := hread policy List.mem_cons_self
      have hrest := fun current => ih current fun q hq => hread q (List.mem_cons_of_mem _ hq)
      have hstep : policyStep target current policy =
          .ok (if b then current.overlay policy else current) := by
        rw [policyStep, hb]
        cases b <;> rfl
      have happlying : applying (policy :: ps) target =
          if b then policy :: applying ps target else applying ps target := by
        rw [applying, List.filter_cons, hb]
        cases b <;> rfl
      rw [List.foldlM_cons, hstep, happlying]
      cases b with
      | true => exact hrest _
      | false => exact hrest _
  exact hfold policies defaultPolicy h

/-- An entry that cannot be read is in the way of all permissions. -/
theorem read_of_getPolicy {policies : List PolicyConfig} {target : TargetRef}
    {effective : EffectivePolicy} (h : getPolicy policies target = .ok effective) :
    ∀ policy ∈ policies, ∃ b, matchesPolicy policy target = .ok b := by
  have hfold : ∀ (ps : List PolicyConfig) (current effective : EffectivePolicy),
      ps.foldlM (policyStep target) current = .ok effective →
      ∀ policy ∈ ps, ∃ b, matchesPolicy policy target = .ok b := by
    intro ps
    induction ps with
    | nil =>
      intro _ _ _ policy hp
      cases hp
    | cons q ps ih =>
      intro current effective h policy hp
      rw [List.foldlM_cons] at h
      cases hq : matchesPolicy q target with
      | error m =>
        rw [policyStep, hq] at h
        cases h
      | ok b =>
        rcases List.mem_cons.mp hp with hp | hp
        · exact ⟨b, hp ▸ hq⟩
        · rw [policyStep, hq] at h
          cases b with
          | true => exact ih _ _ h policy hp
          | false => exact ih _ _ h policy hp
  exact hfold policies defaultPolicy effective h

/-! ## 3. Entries that do not match -/

/-- The entries that are not passed over. -/
def considered (policies : List PolicyConfig) (target : TargetRef) : List PolicyConfig :=
  policies.filter fun policy => matchesPolicy policy target ≠ .ok false

/-- **An entry that does not match makes no difference.** -/
theorem getPolicy_considered (policies : List PolicyConfig) (target : TargetRef) :
    getPolicy (considered policies target) target = getPolicy policies target := by
  have hfold : ∀ (ps : List PolicyConfig) (current : EffectivePolicy),
      (considered ps target).foldlM (policyStep target) current =
        ps.foldlM (policyStep target) current := by
    intro ps
    induction ps with
    | nil =>
      intro _
      rfl
    | cons policy ps ih =>
      intro current
      rw [considered, List.filter_cons]
      by_cases hmatch : matchesPolicy policy target = .ok false
      · have hstep : policyStep target current policy = .ok current := by
          rw [policyStep, hmatch]
          rfl
        rw [if_neg (by simpa using hmatch), List.foldlM_cons, hstep]
        exact ih current
      · rw [if_pos (by simpa using hmatch), List.foldlM_cons, List.foldlM_cons]
        exact bind_congr fun current => ih current
  exact hfold policies defaultPolicy

/-- No check of the target comes out differently. -/
structure SameOutcomes (policies policies' : List PolicyConfig) (target : TargetRef) : Prop where
  apiAccess : ∀ method, assertApiAccess policies' target method = assertApiAccess policies target method
  cliAccess : ∀ family raw,
    assertCliAccess policies' target family raw = assertCliAccess policies target family raw
  shellAccess : assertShellAccess policies' target = assertShellAccess policies target
  fileAccess : ∀ write, assertFileAccess policies' target write = assertFileAccess policies target write
  sudoAccess : assertSudoAccess policies' target = assertSudoAccess policies target
  clamp : ∀ requested fallback,
    clampTimeout policies' target requested fallback = clampTimeout policies target requested fallback

theorem sameOutcomes_of_considered {policies policies' : List PolicyConfig} {target : TargetRef}
    (h : considered policies' target = considered policies target) :
    SameOutcomes policies policies' target := by
  have hpolicy : getPolicy policies' target = getPolicy policies target := by
    rw [← getPolicy_considered policies', h, getPolicy_considered]
  have haccess : ∀ p, assertAccess policies' target p = assertAccess policies target p := by
    intro p
    rw [assertAccess, assertAccess, hpolicy]
  refine ⟨fun _ => haccess _, fun _ _ => haccess _, haccess _, fun _ => haccess _, haccess _,
    fun requested fallback => ?_⟩
  rw [clampTimeout, clampTimeout, hpolicy]

/-! ## 4. The law -/

/-- The permissions are folded as the entries say, and entries that do not match can be inserted,
    removed and moved. -/
structure FoldLaw (policies : List PolicyConfig) (target : TargetRef) : Prop where
  effective : ∃ effective, getPolicy policies target = .ok effective ∧
    IsEffective policies target effective
  others : ∀ policies', considered policies' target = considered policies target →
    SameOutcomes policies policies' target

/-- **The law holds** exactly if every entry can be read for the target: no selector it is compared
    with is a malformed expression. -/
theorem policyFold_iff (policies : List PolicyConfig) (target : TargetRef) :
    FoldLaw policies target ↔ ∀ policy ∈ policies, ∃ b, matchesPolicy policy target = .ok b := by
  constructor
  · intro h
    obtain ⟨effective, heffective, -⟩ := h.effective
    exact read_of_getPolicy heffective
  · intro h
    obtain ⟨hlast, hnodup, hfamilies⟩ :=
      foldl_overlay (applying policies target) defaultPolicy List.nodup_nil
    have heffective : IsEffective policies target
        ((applying policies target).foldl .overlay defaultPolicy) := by
      refine ⟨hlast, hnodup, fun f => ?_⟩
      rw [hfamilies]
      exact or_iff_right List.not_mem_nil
    exact ⟨⟨_, getPolicy_of_read h, heffective⟩, fun _ => sameOutcomes_of_considered⟩

omit [Text.Unicode] in
/-- A selector with a `?` in front is in the way of every permission. -/
theorem foldLaw_malformed : letI := Text.asciiCase
    ¬FoldLaw [{ match_ := { clusters := some ["?"] } }] { cluster := "default", kind := .cluster } := by
  let := Text.asciiCase
  intro h
  obtain ⟨effective, heffective, -⟩ := h.effective
  have herror : getPolicy [{ match_ := { clusters := some ["?"] } }]
      { cluster := "default", kind := .cluster } =
        .error "Invalid regular expression: /^?$/" := by decide
  rw [herror] at heffective
  cases heffective

end ProxmoxMcp
