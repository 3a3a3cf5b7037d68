/-
  File:      ProxmoxMcp/AgentFlag.lean
  Subject:   IS THE GUEST AGENT ENABLED? The field `agent` of a VM, and the two places that read it:
             `detectVmGuest` (through `normalizeBoolean`) and `diagnoseGuestAgent`.

  The key `enabled` may be left out in the first place of the field. Neither reader knows that in
  general: the one takes a bare `1` for true but not one with further properties, the other looks
  for the key.

  * `agentFlagLaw_iff`: the values that both readers read as they are meant.
-/
import ProxmoxMcp.Timeouts
import ProxmoxMcp.Lib.Lines

namespace ProxmoxMcp

open Js Effects Prog

variable [Text.Unicode]

/-! ## 1. The field -/

/-- `<1|0>`. -/
def binary (b : Bool) : List Char := if b then ['1'] else ['0']

/-- The properties of the field besides `enabled`. -/
inductive AgentProperty where
  | freezeFsOnBackup (b : Bool)
  | fstrimClonedDisks (b : Bool)
  | type (isa : Bool)
  deriving DecidableEq, Repr

def AgentProperty.text : AgentProperty → List Char
  | .freezeFsOnBackup b => "freeze-fs-on-backup=".toList ++ binary b
  | .fstrimClonedDisks b => "fstrim_cloned_disks=".toList ++ binary b
  | .type isa => "type=".toList ++ if isa then "isa".toList else "virtio".toList

/-- `[enabled=]<1|0>`. -/
def flagText (key enabled : Bool) : List Char :=
  (if key then "enabled=".toList else []) ++ binary enabled

/-- What follows the flag. -/
def propertiesText (properties : List AgentProperty) : List Char :=
  properties.flatMap fun p => ',' :: p.text

/-- The field: absent, a number, or a text. -/
inductive AgentField where
  | absent
  | number (enabled : Bool)
  | text (key enabled : Bool) (properties : List AgentProperty)
  deriving DecidableEq, Repr

/-- The value of the field in a configuration. -/
def AgentField.value : AgentField → Value
  | .absent => .undefined
  | .number enabled => .nat enabled.toNat
  | .text key enabled properties =>
      .str (String.ofList (flagText key enabled ++ propertiesText properties))

/-- The flag that it denotes. -/
def AgentField.enabled : AgentField → Bool
  | .absent => false
  | .number enabled => enabled
  | .text _ enabled _ => enabled

/-! ## 2. The readers -/

/-- `typeof config.agent === "string" ? config.agent.includes("enabled=1") : config.agent === 1`. -/
def agentConfigured (agent : Value) : Bool :=
  match agent with
  | .str s => Text.includes "enabled=1".toList s.toList
  | v => v = .nat 1

/-- `guestAgent.configured`. -/
def GuestAgentDiagnosis.agentConfigured (diagnosis : GuestAgentDiagnosis) : Bool :=
  ProxmoxMcp.agentConfigured (diagnosis.config.get "agent")

/-- `guestAgentAvailable` is read off the configuration that the host sent. -/
theorem run_detectVmGuest {S : Service} {purpose : Purpose} {cluster node : String} {vmid : Nat}
    {t : History} {kind : GuestKind} {available : Bool}
    (hrun : Run (S.detectVmGuest purpose cluster node vmid) t (.ok (kind, available))) :
    ∃ config, Run (S.apiRequest purpose cluster "GET" (qemuPath node vmid "/config") []) t
      (.ok config) ∧ available = normalizeBoolean (config.get "agent") := by
  obtain ⟨t₁, t₂, config, rfl, hconfig, h⟩ := run_bind_ok hrun
  obtain ⟨_, _, h⟩ := run_ofExcept_bind_ok h
  obtain ⟨rfl, h⟩ := run_pure.mp h
  refine ⟨config, ?_, ?_⟩
  · rw [List.append_nil]
    exact hconfig
  · cases h
    rfl

/-! ## 3. Texts of the field -/

/-- Where no text has begun, nothing is found up to the next separator. -/
theorem afterSeparator_skip {w p : List Char} (hp : ∀ c ∈ p, c ≠ ',' ∧ c ≠ ';')
    (rest : List Char) : afterSeparator w false (p ++ rest) = afterSeparator w false rest := by
  induction p with
  | nil => rfl
  | cons c p ih =>
    have hc : (c == ',' || c == ';') = false := by
      simpa using hp c List.mem_cons_self
    rw [List.cons_append, afterSeparator, hc, Bool.false_and, Bool.false_or]
    exact ih fun d hd => hp d (List.mem_cons_of_mem _ hd)

/-- Behind a separator the text begins, or nothing is found there. -/
theorem afterSeparator_comma {w : List Char} {c : Char} (s : List Char)
    (hspace : Text.isSpace c = false) (hc : c ≠ ',' ∧ c ≠ ';') :
    afterSeparator w false (',' :: c :: s) = (prefixFold w (c :: s) || afterSeparator w false s) := by
  have hsep : (c == ',' || c == ';') = false := by simpa using hc
  have hdrop : (c :: s).dropWhile Text.isSpace = c :: s :=
    List.dropWhile_cons_of_neg (by simp [hspace])
  rw [afterSeparator, afterSeparator, hsep, hdrop]
  rfl

/-- The characters of the field. -/
def fieldChars : List Char := "abcdefghijklmnopqrstuvwxyz01=-_,".toList

omit [Text.Unicode] in
theorem AgentProperty.text_chars (p : AgentProperty) :
    ∀ c ∈ p.text, c ∈ fieldChars ∧ c ≠ ',' ∧ c ≠ ';' := by
  have hall : p.text.all (fun c => decide (c ∈ fieldChars ∧ c ≠ ',' ∧ c ≠ ';')) = true := by
    cases p with
    | freezeFsOnBackup b => cases b <;> decide
    | fstrimClonedDisks b => cases b <;> decide
    | type isa => cases isa <;> decide
  exact fun c hc => of_decide_eq_true (List.all_eq_true.mp hall c hc)

omit [Text.Unicode] in
theorem flagText_chars (key enabled : Bool) :
    ∀ c ∈ flagText key enabled, c ∈ fieldChars ∧ c ≠ ',' ∧ c ≠ ';' := by
  have hall : (flagText key enabled).all
      (fun c => decide (c ∈ fieldChars ∧ c ≠ ',' ∧ c ≠ ';')) = true := by
    cases key <;> cases enabled <;> decide
  exact fun c hc => of_decide_eq_true (List.all_eq_true.mp hall c hc)

omit [Text.Unicode] in
/-- No property begins as `enabled` does. -/
theorem AgentProperty.text_head (p : AgentProperty) :
    ∃ c s, p.text = c :: s ∧ (c = 'f' ∨ c = 't') := by
  cases p with
  | freezeFsOnBackup b => exact ⟨'f', _, rfl, .inl rfl⟩
  | fstrimClonedDisks b => exact ⟨'f', _, rfl, .inl rfl⟩
  | type isa => exact ⟨'t', _, rfl, .inr rfl⟩

/-- **The properties do not hold the key.** -/
theorem afterSeparator_properties (properties : List AgentProperty) :
    afterSeparator "enabled=1".toList false (propertiesText properties) = false := by
  induction properties with
  | nil => rfl
  | cons p properties ih =>
    obtain ⟨c, s, hp, hc⟩ := p.text_head
    have hchars := p.text_chars
    rw [hp] at hchars
    have hpre : ∀ rest, prefixFold "enabled=1".toList (c :: rest) = false := by
      intro rest
      have hfold : (Regex.CaseFold.fold c == Regex.CaseFold.fold 'e') = false := by
        rcases hc with rfl | rfl
        · rw [Regex.CaseFold.fold_ascii _ (by decide), Regex.CaseFold.fold_ascii _ (by decide)]
          decide
        · rw [Regex.CaseFold.fold_ascii _ (by decide), Regex.CaseFold.fold_ascii _ (by decide)]
          decide
      have hword : "enabled=1".toList = 'e' :: "nabled=1".toList := by decide
      rw [hword, prefixFold, hfold, Bool.false_and]
    have hspace : Text.isSpace c = false := by rcases hc with rfl | rfl <;> decide
    have hskip := afterSeparator_skip (w := "enabled=1".toList)
      (fun d hd => (hchars d (List.mem_cons_of_mem _ hd)).2) (propertiesText properties)
    show afterSeparator _ false (',' :: (p.text ++ propertiesText properties)) = false
    rw [hp, List.cons_append, afterSeparator_comma _ hspace (hchars c List.mem_cons_self).2, hpre,
      hskip, ih]
    rfl

omit [Text.Unicode] in
/-- Nor does the substring occur in them. -/
theorem includes_properties (properties : List AgentProperty) : ∀ u : List Char,
    Text.includes "enabled=1".toList (u ++ propertiesText properties) =
      Text.includes "enabled=1".toList u := by
  induction properties with
  | nil =>
    intro u
    rw [propertiesText, List.flatMap_nil, List.append_nil]
  | cons p properties ih =>
    intro u
    have hp : Text.includes "enabled=1".toList p.text = false := by
      cases p with
      | freezeFsOnBackup b => cases b <;> decide
      | fstrimClonedDisks b => cases b <;> decide
      | type isa => cases isa <;> decide
    show Text.includes _ (u ++ ',' :: (p.text ++ propertiesText properties)) = _
    rw [Text.includes_append_sep (by decide) (by decide), ih, hp, Bool.or_false]

omit [Text.Unicode] in
theorem fieldText_chars (key enabled : Bool) (properties : List AgentProperty) :
    ∀ c ∈ flagText key enabled ++ propertiesText properties, c ∈ fieldChars := by
  intro c hc
  rcases List.mem_append.mp hc with hc | hc
  · exact (flagText_chars key enabled c hc).1
  · obtain ⟨p, _, hc⟩ := List.mem_flatMap.mp hc
    rcases List.mem_cons.mp hc with rfl | hc
    · decide
    · exact (p.text_chars c hc).1

/-- A text of the field is in lower case and has no spaces. -/
theorem normalized_field {s : List Char} (h : ∀ c ∈ s, c ∈ fieldChars) :
    Text.trim (Text.toLowerCase (String.ofList s)).toList = s := by
  have hall : fieldChars.all (fun c => !Text.isSpace c && decide (c.toNat < 128) &&
      c.toLower == c) = true := by decide
  have hchar : ∀ c ∈ s, Text.isSpace c = false ∧ c.toNat < 128 ∧ c.toLower = c := by
    intro c hc
    have h := List.all_eq_true.mp hall c (h c hc)
    simp only [Bool.and_eq_true, Bool.not_eq_true', decide_eq_true_eq, beq_iff_eq] at h
    exact ⟨h.1.1, h.1.2, h.2⟩
  have hlower : s.flatMap Text.Unicode.lower = s := by
    clear h
    induction s with
    | nil => rfl
    | cons c s ih =>
      obtain ⟨_, hascii, hc⟩ := hchar c List.mem_cons_self
      rw [List.flatMap_cons, Text.Unicode.lower_ascii c hascii, hc,
        ih fun d hd => hchar d (List.mem_cons_of_mem _ hd)]
      rfl
  rw [Text.toLowerCase, String.toList_ofList, String.toList_ofList, hlower]
  exact (Text.trimmed_of_no_space fun c hc => (hchar c hc).1).trim_eq

/-! ## 4. What the readers make of it -/

/-- A word that begins the text, or does not. -/
theorem afterSeparator_begin {w : List Char} {c : Char} (s : List Char)
    (hspace : Text.isSpace c = false) (hc : c ≠ ',' ∧ c ≠ ';') :
    afterSeparator w true (c :: s) = (prefixFold w (c :: s) || afterSeparator w false s) := by
  have hsep : (c == ',' || c == ';') = false := by simpa using hc
  have hdrop : (c :: s).dropWhile Text.isSpace = c :: s :=
    List.dropWhile_cons_of_neg (by simp [hspace])
  rw [afterSeparator, hsep, hdrop, Bool.true_and]

/-- **`normalizeBoolean`** takes the key for what it is, and a `1` that stands alone. -/
theorem normalizeBoolean_text (key enabled : Bool) (properties : List AgentProperty) :
    normalizeBoolean (AgentField.text key enabled properties).value =
      (enabled && (key || properties.isEmpty)) := by
  have hfold : ∀ {c d : Char}, c.toNat < 128 → d.toNat < 128 → c.toUpper ≠ d.toUpper →
      (Regex.CaseFold.fold c == Regex.CaseFold.fold d) = false := by
    intro c d hc hd hne
    rw [Regex.CaseFold.fold_ascii c hc, Regex.CaseFold.fold_ascii d hd]
    exact beq_eq_false_iff_ne.mpr hne
  have hwords : ["1".toList, "true".toList, "yes".toList, "on".toList] =
      [['1'], ['t', 'r', 'u', 'e'], ['y', 'e', 's'], ['o', 'n']] := by decide
  have hword : "enabled=1".toList = ['e', 'n', 'a', 'b', 'l', 'e', 'd', '=', '1'] := by decide
  have htail := afterSeparator_properties properties
  rw [AgentField.value, normalizeBoolean]
  rw [normalized_field (fieldText_chars key enabled properties), hwords]
  cases key with
  | true =>
    have hflag : flagText true enabled = 'e' :: ("nabled=".toList ++ binary enabled) := rfl
    have hskip := afterSeparator_skip (w := "enabled=1".toList)
      (p := "nabled=".toList ++ binary enabled) (by
        intro c hc
        exact (flagText_chars true enabled c (hflag ▸ List.mem_cons_of_mem _ hc)).2)
      (propertiesText properties)
    rw [hflag, List.cons_append, afterSeparator_begin _ (by decide) (by decide), hskip, htail]
    have hnabled : "nabled=".toList = ['n', 'a', 'b', 'l', 'e', 'd', '='] := by decide
    rw [hword, hnabled]
    cases enabled with
    | true => simp [prefixFold, binary]
    | false => simp [prefixFold, binary, hfold]
  | false =>
    cases enabled with
    | true =>
      show (decide ('1' :: propertiesText properties ∈ _) ||
        afterSeparator _ true ('1' :: propertiesText properties)) = _
      rw [afterSeparator_begin _ (by decide) (by decide), htail, hword, prefixFold,
        hfold (by decide) (by decide) (by decide)]
      cases properties with
      | nil => rfl
      | cons p properties => simp [propertiesText]
    | false =>
      show (decide ('0' :: propertiesText properties ∈ _) ||
        afterSeparator _ true ('0' :: propertiesText properties)) = _
      rw [afterSeparator_begin _ (by decide) (by decide), htail, hword, prefixFold,
        hfold (by decide) (by decide) (by decide)]
      simp

omit [Text.Unicode] in
/-- **`diagnoseGuestAgent`** wants the key. -/
theorem agentConfigured_text (key enabled : Bool) (properties : List AgentProperty) :
    agentConfigured (AgentField.text key enabled properties).value = (enabled && key) := by
  have htext : ∀ s : List Char, (String.ofList s).toList = s := fun s => String.toList_ofList
  rw [AgentField.value, agentConfigured, htext (flagText key enabled ++ _), includes_properties]
  cases key <;> cases enabled <;> decide

/-- **What both readers are for.** -/
structure AgentFlagLaw (field : AgentField) : Prop where
  available : ∀ (S : Service) purpose cluster node vmid t config kind available,
    config.get "agent" = field.value →
    Run (S.apiRequest purpose cluster "GET" (qemuPath node vmid "/config") []) t (.ok config) →
    Run (S.detectVmGuest purpose cluster node vmid) t (.ok (kind, available)) →
    available = field.enabled
  configured : ∀ diagnosis : GuestAgentDiagnosis, diagnosis.config.get "agent" = field.value →
    diagnosis.agentConfigured = field.enabled

/-- A diagnosis that has found out nothing but the configuration. -/
def emptyDiagnosis (config : Value) : GuestAgentDiagnosis where
  vm := { target := { cluster := "", kind := .qemu_vm }, displayName := "", status := none,
          capabilities := [], preferredTransport := .api_only, reachable := none, vmid := 0, node := "",
          guestKind := .unknown, guestAgentAvailable := false }
  node := ""
  status := .undefined
  config := config
  pingResult := .error ""
  infoResult := .error ""
  cloudInitSections := []

/-- The flag is set by position. -/
def AgentField.SetByPosition (field : AgentField) : Prop :=
  ∃ properties, field = .text false true properties

/-- **When both readers return the flag**: exactly if it is not set without its key. -/
theorem agentFlagLaw_iff (field : AgentField) : AgentFlagLaw field ↔ ¬ field.SetByPosition := by
  constructor
  · intro law hparts
    obtain ⟨properties, he⟩ := hparts
    subst he
    have hconfigured := law.configured
      (emptyDiagnosis (.obj [("agent", (AgentField.text false true properties).value)])) rfl
    have hread := agentConfigured_text false true properties
    have hcontra : (true && false) = true := hread.symm.trans hconfigured
    cases hcontra
  · intro hkey
    have hboth : normalizeBoolean field.value = field.enabled ∧
        agentConfigured field.value = field.enabled := by
      cases field with
      | absent => exact ⟨rfl, rfl⟩
      | number enabled =>
        cases enabled <;>
          simp [AgentField.value, AgentField.enabled, Value.nat, normalizeBoolean, agentConfigured]
      | text key enabled properties =>
        rw [normalizeBoolean_text, agentConfigured_text]
        cases key with
        | true => simp [AgentField.enabled]
        | false =>
          cases enabled with
          | true => exact absurd ⟨properties, rfl⟩ hkey
          | false => exact ⟨rfl, rfl⟩
    refine ⟨fun S purpose cluster node vmid t config kind available hfield hconfig hrun => ?_,
      fun diagnosis hfield => ?_⟩
    · obtain ⟨config', hconfig', havailable⟩ := run_detectVmGuest hrun
      have hsame : config = config' := by
        have hunique := hconfig.unique hconfig' (rfl : t ++ [] = t ++ [])
        exact Outcome.ok.inj hunique.2
      rw [havailable, ← hsame, hfield]
      exact hboth.1
    · rw [GuestAgentDiagnosis.agentConfigured, hfield]
      exact hboth.2

omit [Text.Unicode] in
/-- **The two readers disagree on `1`.** -/
theorem agent_one :
    letI := Text.asciiCase
    normalizeBoolean (.str "1") = true ∧ agentConfigured (.str "1") = false ∧
      ¬ ∀ field, AgentFlagLaw field := by
  let := Text.asciiCase
  refine ⟨by decide +kernel, by decide +kernel, fun h => ?_⟩
  have hconfigured := (h (.text false true [])).configured
    (emptyDiagnosis (.obj [("agent", .str "1")])) rfl
  exact absurd hconfigured (by decide +kernel)

end ProxmoxMcp
