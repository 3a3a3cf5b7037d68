/-
  File:      ProxmoxMcp/AuthRetry.lean
  Subject:   WHEN A REQUEST IS SENT AGAIN. `apiRequest` reads the failure's message, and the message
             holds the method, the path and the payload: any of them can look like a rejected
             authentication.

  * `mentionsAuth_message`: the message is taken for an authentication failure exactly if one of
    its four parts is;
  * `retriedForAuthOnly_iff`: when the claim "sent again only after a rejection" holds of a first
    reply.
-/
import ProxmoxMcp.Requests
import ProxmoxMcp.Endpoint

namespace ProxmoxMcp

open Js Effects

variable [Text.Unicode]

/-! ## 1. Searching at a space -/

omit [Text.Unicode] in
/-- A word is a prefix of the text before the separator, or of nothing there. -/
theorem isPrefixOf_append_sep {w : List Char} {sep : Char} (hw : sep ∉ w) : ∀ s t : List Char,
    w.isPrefixOf (s ++ sep :: t) = w.isPrefixOf s := by
  induction w with
  | nil => intro s t; simp
  | cons a w ih =>
    obtain ⟨ha, hw⟩ : sep ≠ a ∧ sep ∉ w := by simpa using hw
    intro s t
    cases s with
    | nil => simpa [List.isPrefixOf] using fun e => absurd e.symm ha
    | cons c s => rw [List.cons_append, List.isPrefixOf, List.isPrefixOf, ih hw]

omit [Text.Unicode] in
theorem startsWithWord_append_sep {sep : Char} (hsep : isRegexWord sep = false) (s t : List Char) :
    startsWithWord (s ++ sep :: t) = startsWithWord s := by
  cases s with
  | nil => exact hsep
  | cons c s => rfl

omit [Text.Unicode] in
/-- **`/\bw\b/` matches on one of the two sides of a separator.** -/
theorem hasWord_append_sep {w : List Char} {sep : Char} (hne : w ≠ []) (hw : sep ∉ w)
    (hsep : isRegexWord sep = false) : ∀ (s t : List Char) (inWord : Bool),
    hasWord w inWord (s ++ sep :: t) = (hasWord w inWord s || hasWord w false t)
  | [], t, inWord => by
      have h : w.isPrefixOf (sep :: t) = false := by
        cases w with
        | nil => exact absurd rfl hne
        | cons a w =>
          have ha : a ≠ sep := fun e => hw (e ▸ List.mem_cons_self)
          simp [List.isPrefixOf, ha]
      simp [hasWord, h, hsep]
  | c :: s, t, inWord => by
      have hpre := isPrefixOf_append_sep hw (c :: s) t
      have ih := hasWord_append_sep hne hw hsep s t (isRegexWord c)
      rw [List.cons_append] at hpre ⊢
      rw [hasWord, hasWord, hpre, ih, ← Bool.or_assoc]
      congr 2
      by_cases hp : w.isPrefixOf (c :: s) = true
      · obtain ⟨u, hu⟩ := List.isPrefixOf_iff_prefix.mp hp
        rw [← List.cons_append, ← hu, List.append_assoc, List.drop_left, List.drop_left,
          startsWithWord_append_sep hsep]
      · rw [Bool.eq_false_iff.mpr hp]
        simp

omit [Text.Unicode] in
/-- Inside a text of word characters no word begins. -/
theorem hasWord_inWord {w : List Char} : ∀ {s : List Char}, (∀ c ∈ s, isRegexWord c = true) →
    hasWord w true s = false
  | [], _ => rfl
  | c :: s, h => by
      rw [hasWord, h c List.mem_cons_self]
      simpa using hasWord_inWord fun d hd => h d (List.mem_cons_of_mem _ hd)

omit [Text.Unicode] in
/-- **A text of word characters has only itself as a word.** -/
theorem hasWord_word {w s : List Char} (hne : w ≠ []) (h : ∀ c ∈ s, isRegexWord c = true) :
    hasWord w false s = true ↔ s = w := by
  cases s with
  | nil => simpa [hasWord] using hne.symm
  | cons c s =>
    have hc := h c List.mem_cons_self
    rw [hasWord, hc, hasWord_inWord fun d hd => h d (List.mem_cons_of_mem _ hd), Bool.or_false]
    simp only [Bool.not_false, Bool.true_and, Bool.and_eq_true, Bool.not_eq_true',
      List.isPrefixOf_iff_prefix]
    constructor
    · rintro ⟨⟨u, hu⟩, hstart⟩
      rw [← hu, List.drop_left] at hstart
      cases u with
      | nil => rw [← hu, List.append_nil]
      | cons d u =>
        have hd := h d (hu ▸ List.mem_append_right _ List.mem_cons_self)
        rw [startsWithWord, hd] at hstart
        cases hstart
    · rintro rfl
      exact ⟨List.prefix_refl _, by rw [List.drop_length]; rfl⟩

/-- Does a character of `w` read as `c` up to case? -/
def Distinguishes (w : List Char) (c : Char) : Prop :=
  ∀ d ∈ w, Regex.CaseFold.fold c ≠ Regex.CaseFold.fold d

theorem prefixFold_append_sep {w : List Char} {sep : Char} (hw : Distinguishes w sep) :
    ∀ s t : List Char, prefixFold w (s ++ sep :: t) = prefixFold w s := by
  induction w with
  | nil => intro s t; rfl
  | cons a w ih =>
    intro s t
    cases s with
    | nil =>
      have ha : (Regex.CaseFold.fold sep == Regex.CaseFold.fold a) = false :=
        beq_eq_false_iff_ne.mpr (hw a List.mem_cons_self)
      simp [prefixFold, ha]
    | cons c s =>
      rw [List.cons_append, prefixFold, prefixFold, ih fun d hd => hw d (List.mem_cons_of_mem _ hd)]

/-- **`/w/i` matches on one of the two sides of a separator.** -/
theorem includesFold_append_sep {w : List Char} {sep : Char} (hne : w ≠ [])
    (hw : Distinguishes w sep) : ∀ s t : List Char,
    includesFold w (s ++ sep :: t) = (includesFold w s || includesFold w t)
  | [], t => by
      have h := prefixFold_append_sep hw [] t
      rw [List.nil_append] at h
      cases w with
      | nil => exact absurd rfl hne
      | cons a w =>
        show (prefixFold (a :: w) (sep :: t) || includesFold (a :: w) t) = includesFold (a :: w) t
        rw [h]
        rfl
  | c :: s, t => by
      have h := prefixFold_append_sep hw (c :: s) t
      rw [List.cons_append] at h ⊢
      rw [includesFold, includesFold, h, includesFold_append_sep hne hw s t, Bool.or_assoc]

/-- No match where no character reads as the first one. -/
theorem includesFold_eq_false {a : Char} {w : List Char} : ∀ {s : List Char},
    (∀ c ∈ s, Regex.CaseFold.fold c ≠ Regex.CaseFold.fold a) → includesFold (a :: w) s = false
  | [], _ => rfl
  | c :: s, h => by
      have hc := beq_eq_false_iff_ne.mpr (h c List.mem_cons_self)
      rw [includesFold, prefixFold, hc,
        includesFold_eq_false fun d hd => h d (List.mem_cons_of_mem _ hd)]
      rfl

theorem length_le_of_prefixFold : ∀ {w s : List Char}, prefixFold w s = true → w.length ≤ s.length
  | [], _, _ => Nat.zero_le _
  | a :: w, [], h => by cases h
  | a :: w, c :: s, h => by
      rw [prefixFold, Bool.and_eq_true] at h
      exact Nat.succ_le_succ (length_le_of_prefixFold h.2)

/-- No match in a text that is too short. -/
theorem includesFold_short {w : List Char} : ∀ {s : List Char}, s.length < w.length →
    includesFold w s = false
  | [], h => by
      cases w with
      | nil => cases h
      | cons a w => rfl
  | c :: s, h => by
      have hpre : prefixFold w (c :: s) = false := by
        rw [Bool.eq_false_iff]
        exact fun hp => absurd (length_le_of_prefixFold hp) (Nat.not_le.mpr h)
      rw [includesFold, hpre, includesFold_short (Nat.lt_of_succ_lt h)]
      rfl

theorem includesFold_drop {w : List Char} : ∀ (n : Nat) {s : List Char},
    includesFold w (s.drop n) = true → includesFold w s = true
  | 0, _, h => h
  | n + 1, [], h => h
  | n + 1, c :: s, h => by
      rw [includesFold, includesFold_drop n (s := s) h, Bool.or_true]

theorem prefixFold_append {v : List Char} : ∀ {u s : List Char},
    prefixFold (u ++ v) s = true → prefixFold v (s.drop u.length) = true
  | [], _, h => h
  | a :: u, [], h => by cases h
  | a :: u, c :: s, h => by
      rw [List.cons_append, prefixFold, Bool.and_eq_true] at h
      exact prefixFold_append (u := u) h.2

theorem prefixFold_left {v : List Char} : ∀ {u s : List Char},
    prefixFold (u ++ v) s = true → prefixFold u s = true
  | [], _, _ => rfl
  | a :: u, [], h => by cases h
  | a :: u, c :: s, h => by
      rw [List.cons_append, prefixFold, Bool.and_eq_true] at h
      rw [prefixFold, Bool.and_eq_true]
      exact ⟨h.1, prefixFold_left h.2⟩

theorem includesFold_of_prefixFold {w s : List Char} (h : prefixFold w s = true) :
    includesFold w s = true := by
  cases s with
  | nil => cases w with
    | nil => rfl
    | cons a w => cases h
  | cons c s => rw [includesFold, h, Bool.true_or]

/-- What matches a longer text matches a part of it. -/
theorem includesFold_part {u v x : List Char} : ∀ {s : List Char},
    includesFold (u ++ (v ++ x)) s = true → includesFold v s = true
  | [], h => by
      have hnil : u ++ (v ++ x) = [] := List.isEmpty_iff.mp h
      have hv : v = [] := (List.append_eq_nil_iff.mp (List.append_eq_nil_iff.mp hnil).2).1
      rw [hv]
      rfl
  | c :: s, h => by
      rw [includesFold, Bool.or_eq_true] at h
      rcases h with h | h
      · exact includesFold_drop u.length
          (includesFold_of_prefixFold (prefixFold_left (prefixFold_append h)))
      · rw [includesFold, includesFold_part h, Bool.or_true]

/-! ## 2. What the message of a failure mentions -/

/-- Two of the three alternatives say everything. -/
theorem mentionsAuth_eq (text : List Char) :
    mentionsAuth text =
      (hasWord "401".toList false text || includesFold "authentication".toList text) := by
  have h : includesFold "ticket authentication failed".toList text = true →
      includesFold "authentication".toList text = true :=
    includesFold_part (u := "ticket ".toList) (v := "authentication".toList) (x := " failed".toList)
  rw [mentionsAuth]
  rcases Bool.eq_false_or_eq_true (includesFold "ticket authentication failed".toList text)
    with e | e
  · rw [e, h e]
    simp
  · rw [e, Bool.or_false]

theorem distinguishes_space : Distinguishes "authentication".toList ' ' := by
  have hall : "authentication".toList.all
      (fun d => decide (d.toNat < 128 ∧ ' '.toUpper ≠ d.toUpper)) = true := by decide
  have h : ∀ d ∈ "authentication".toList, d.toNat < 128 ∧ ' '.toUpper ≠ d.toUpper :=
    fun d hd => of_decide_eq_true (List.all_eq_true.mp hall d hd)
  intro d hd
  rw [Regex.CaseFold.fold_ascii ' ' (by decide), Regex.CaseFold.fold_ascii d (h d hd).1]
  exact (h d hd).2

/-- **A text mentions authentication exactly if a part of it does**, the parts being what spaces
    separate. -/
theorem mentionsAuth_space (s t : List Char) :
    mentionsAuth (s ++ ' ' :: t) = (mentionsAuth s || mentionsAuth t) := by
  rw [mentionsAuth_eq, mentionsAuth_eq, mentionsAuth_eq,
    hasWord_append_sep (by decide) (by decide) (by decide),
    includesFold_append_sep (by decide) distinguishes_space]
  grind

/-- **Of all status codes, only 401 mentions authentication.** -/
theorem mentionsAuth_status (status : Nat) :
    mentionsAuth (toString status).toList = decide (status = 401) := by
  have hlist : (toString status).toList = Nat.toDigits 10 status := by
    rw [Nat.toString_eq_ofList_toDigits, String.toList_ofList]
  have hdigit : ∀ c ∈ Nat.toDigits 10 status, c.isDigit = true :=
    fun c hc => Nat.isDigit_of_mem_toDigits (by decide) (by decide) hc
  have hword : ∀ c ∈ Nat.toDigits 10 status, isRegexWord c = true := by
    intro c hc
    simp [isRegexWord, Char.isAlphanum, hdigit c hc]
  have hfold : includesFold "authentication".toList (Nat.toDigits 10 status) = false := by
    refine includesFold_eq_false (a := 'a') (w := "uthentication".toList) fun c hc => ?_
    have hc := hdigit c hc
    simp only [Char.isDigit, Bool.and_eq_true, decide_eq_true_eq] at hc
    have hlt : c.toNat < 58 := Nat.lt_succ_of_le hc.2
    have hup : ∀ n < 58, (Char.ofNat n).toUpper ≠ 'a'.toUpper := by decide
    rw [Regex.CaseFold.fold_ascii c (by omega), Regex.CaseFold.fold_ascii 'a' (by decide)]
    have := hup c.toNat hlt
    rwa [Char.ofNat_toNat] at this
  rw [mentionsAuth_eq, hlist, hfold, Bool.or_false, Bool.eq_iff_iff, hasWord_word (by decide) hword,
    decide_eq_true_iff]
  constructor
  · intro h
    have hback := congrArg (fun s => Nat.ofDigitChars 10 s 0) h
    rw [Nat.ofDigitChars_ten_toDigits] at hback
    exact hback
  · rintro rfl
    decide

/-- **The message of a failed reply is taken for an authentication failure exactly if the method,
    the path, the status or the payload is.** -/
theorem mentionsAuth_message (method path : String) (r : HttpReply) {m : String}
    (h : readReply method path r = .error m) :
    isApiAuthError m = (mentionsAuth (Text.toUpperCase method).toList || mentionsAuth path.toList ||
      decide (r.status = 401) || mentionsAuth (stringifyText r.payload).toList) := by
  unfold readReply at h
  split at h
  · cases h
  · cases h
    rw [isApiAuthError, ← mentionsAuth_status]
    generalize Text.toUpperCase method = M, toString r.status = n, stringifyText r.payload = p
    have hsplit : (toString "Proxmox API " ++ toString M ++ toString " " ++ toString path ++
        toString " failed: " ++ n ++ toString " " ++ toString p).toList =
        "Proxmox".toList ++ ' ' :: ("API".toList ++ ' ' :: (M.toList ++ ' ' :: (path.toList ++
          ' ' :: ("failed:".toList ++ ' ' :: (n.toList ++ ' ' :: p.toList))))) := by
      simp [toString]
    rw [hsplit]
    simp only [mentionsAuth_space]
    have hfixed : ∀ w ∈ ["Proxmox".toList, "API".toList, "failed:".toList],
        mentionsAuth w = false := by
      have hw : ∀ w ∈ ["Proxmox".toList, "API".toList, "failed:".toList],
          w.length < "authentication".toList.length ∧ hasWord "401".toList false w = false := by
        decide
      intro w h
      rw [mentionsAuth_eq, (hw w h).2, includesFold_short (hw w h).1]
      rfl
    rw [hfixed "Proxmox".toList (by simp), hfixed "API".toList (by simp),
      hfixed "failed:".toList (by simp)]
    simp only [Bool.false_or, Bool.or_assoc]

/-! ## 3. Runs of `apiRequest` -/

/-- The end of an attempt that was answered `reply`. -/
def attemptOutcome (method path : String) (reply : Except String HttpReply) :
    Outcome String Value :=
  .ofExcept (reply >>= readReply method path)

/-- How one attempt runs: it fails before anything is sent, or it sends `call` and ends as the
    reply says. -/
def OneSend (method path : String) (call : RestCall) (t : History) (o : Outcome String Value) :
    Prop :=
  (sends t = [] ∧ ∃ m, o = .error m) ∨
    ∃ reply, sends t = [(call, reply)] ∧ o = attemptOutcome method path reply

section Runs

variable {S : Service} {purpose : Purpose} {clusterName method path : String}
  {args : List (String × Value)} {cluster : ClusterConfig} {request : RestRequest}

omit [Text.Unicode] in
/-- What keeps the trace clear of requests. -/
theorem run_ensureCluster {t : History} {o : Outcome String Unit}
    (h : Prog.Run (S.ensureCluster clusterName) t o) : sends t = [] ∧ o ≠ .cut := by
  unfold Service.ensureCluster at h
  split at h
  · obtain ⟨r, rfl, rfl⟩ := run_attempt.mp h
    cases r <;> exact ⟨rfl, fun e => nomatch e⟩
  · obtain ⟨rfl, rfl⟩ := Prog.run_pure.mp h
    exact ⟨rfl, fun e => nomatch e⟩

/-- **One attempt sends at most once.** -/
theorem run_request (hc : getCluster S.config clusterName = .ok cluster)
    (hb : buildRequest cluster method path args = .ok request) {t : History}
    {o : Outcome String Value} (h : Prog.Run (S.request purpose clusterName method path args) t o) :
    OneSend method path ⟨purpose, clusterName, request⟩ t o := by
  let Q : Outcome String Value → History → Prop := fun o h =>
    OneSend method path ⟨purpose, clusterName, request⟩ h o
  -- whatever headers were built, what follows is the one send
  have hsend : ∀ t, sends t = [] → Prog.wp (fun _ _ => True) (do
      let reply ← attempt (.send ⟨purpose, clusterName, request⟩) rfl
      Prog.ofExcept (readReply method path reply)) Q t := by
    intro t ht
    simp only [Prog.wp_bind, wp_attempt, true_and]
    intro reply
    have hs : sends (t ++ [⟨.send ⟨purpose, clusterName, request⟩, reply⟩]) =
        [(⟨purpose, clusterName, request⟩, reply)] := by
      rw [sends_append, ht]
      rfl
    cases reply with
    | error m => exact Or.inr ⟨_, hs, rfl⟩
    | ok reply => exact (Prog.wp_ofExcept _).mpr (Or.inr ⟨_, hs, rfl⟩)
  have hwp : Prog.wp (fun _ _ => True) (S.request purpose clusterName method path args) Q [] := by
    unfold Service.request buildHeaders
    simp only [hc, hb, Prog.wp_bind, Prog.wp_ofExcept_ok, Prog.afterBind_ok, Prog.wp_perform]
    refine ⟨trivial, fun auth => ?_⟩
    cases auth with
    | api_token user realm tokenId secret => exact hsend _ rfl
    | secret_ref secretCluster => exact Or.inl ⟨rfl, _, rfl⟩
    | ssh_bootstrap sshUsername sshPassword apiUser apiRealm tokenId => exact Or.inl ⟨rfl, _, rfl⟩
    | ticket username password realm otp =>
      simp only [Prog.wp_bind, wp_attempt, true_and]
      rintro (m | _ | _)
      · exact Or.inl ⟨rfl, _, rfl⟩
      · exact Or.inl ⟨rfl, _, rfl⟩
      · exact hsend _ rfl
  exact ((Prog.wp_iff_run _ _ _ [] reply_nonempty).mp hwp t o h).2

/-- Only the requests of the trace are read. -/
theorem OneSend.congr {call : RestCall} {t t' : History} {o : Outcome String Value}
    (hs : sends t' = sends t) (h : OneSend method path call t o) : OneSend method path call t' o := by
  unfold OneSend at h ⊢
  rwa [hs]

/-- The second attempt. -/
theorem run_apiRequestFinal (hc : getCluster S.config clusterName = .ok cluster)
    (hb : buildRequest cluster method path args = .ok request) {t : History}
    {o : Outcome String Value}
    (h : Prog.Run (S.apiRequestFinal purpose clusterName method path args) t o) :
    OneSend method path ⟨purpose, clusterName, request⟩ t o := by
  obtain ⟨t₁, t₂, o₁, rfl, h1, h2⟩ := Prog.run_bind.mp h
  obtain ⟨hs, hcut⟩ := run_ensureCluster h1
  cases o₁ with
  | ok _ => exact (run_request hc hb h2).congr (by simp [hs])
  | error m =>
    obtain ⟨rfl, rfl⟩ := h2
    exact Or.inl ⟨by simp [hs], m, rfl⟩
  | cut => exact absurd rfl hcut

/-- **How `apiRequest` runs**: one attempt, and after a failure that is taken for an
    authentication failure at most a second one. -/
theorem run_apiRequest (hc : getCluster S.config clusterName = .ok cluster)
    (hb : buildRequest cluster method path args = .ok request) {t : History}
    {o : Outcome String Value}
    (h : Prog.Run (S.apiRequest purpose clusterName method path args) t o) :
    OneSend method path ⟨purpose, clusterName, request⟩ t o ∨
      ∃ t₁ t₂ m, sends t = sends t₁ ++ sends t₂ ∧ isApiAuthError m = true ∧
        OneSend method path ⟨purpose, clusterName, request⟩ t₁ (.error m) ∧
        OneSend method path ⟨purpose, clusterName, request⟩ t₂ o := by
  obtain ⟨t₁, t₂, o₁, rfl, h1, h2⟩ := Prog.run_bind.mp h
  obtain ⟨hs, hcut⟩ := run_ensureCluster h1
  cases o₁ with
  | error m =>
    obtain ⟨rfl, rfl⟩ := h2
    exact Or.inl (Or.inl ⟨by simp [hs], m, rfl⟩)
  | cut => exact absurd rfl hcut
  | ok _ =>
    obtain ⟨t₃, t₄, o₃, rfl, h3, h4⟩ := Prog.run_tryCatch.mp h2
    have hone := run_request hc hb h3
    cases o₃ with
    | ok data =>
      obtain ⟨rfl, rfl⟩ := h4
      exact Or.inl (hone.congr (by simp [hs]))
    | cut =>
      obtain ⟨rfl, rfl⟩ := h4
      exact Or.inl (hone.congr (by simp [hs]))
    | error m =>
      simp only [Prog.CatchRun] at h4
      split at h4
      · rename_i hrepair
        rw [Bool.and_eq_true] at hrepair
        obtain ⟨t₅, t₆, o₅, rfl, h5, h6⟩ := Prog.run_bind.mp h4
        obtain ⟨r, rfl, rfl⟩ := run_attempt.mp h5
        refine Or.inr ⟨t₃, t₆, m, by simp [hs]; rfl, hrepair.2, hone, ?_⟩
        cases r with
        | error m' =>
          obtain ⟨rfl, rfl⟩ := h6
          exact Or.inl ⟨rfl, m', rfl⟩
        | ok _ => exact run_apiRequestFinal hc hb h6
      · obtain ⟨rfl, rfl⟩ := Prog.run_throw.mp h4
        exact Or.inl (hone.congr (by simp [hs]))

/-- What one attempt with an API token leaves. -/
def plainSend (call : RestCall) (reply : Except String HttpReply) : History :=
  [⟨.currentAuth call.cluster, ClusterAuthConfig.api_token "" "" "" ""⟩, ⟨.send call, reply⟩]

/-- A run of one attempt in which `reply` comes back. -/
theorem run_request_plain (purpose : Purpose) (hc : getCluster S.config clusterName = .ok cluster)
    (hb : buildRequest cluster method path args = .ok request)
    (reply : Except String HttpReply) :
    Prog.Run (S.request purpose clusterName method path args)
      (plainSend ⟨purpose, clusterName, request⟩ reply) (attemptOutcome method path reply) := by
  unfold Service.request
  simp only [hc, hb, Prog.ofExcept_ok_bind]
  have hheaders : Prog.Run (buildHeaders clusterName cluster)
      [⟨.currentAuth clusterName, ClusterAuthConfig.api_token "" "" "" ""⟩] (.ok ()) :=
    Prog.run_perform_bind.mpr ⟨_, [], rfl, .pure ()⟩
  refine Prog.Run.seq hheaders ?_
  refine Prog.run_bind.mpr ⟨[⟨.send ⟨purpose, clusterName, request⟩, reply⟩], [], _, rfl,
    run_attempt.mpr ⟨reply, rfl, rfl⟩, ?_⟩
  cases reply with
  | error m => exact ⟨rfl, rfl⟩
  | ok r => exact Prog.run_ofExcept.mpr ⟨rfl, rfl⟩

omit [Text.Unicode] in
theorem run_ensureCluster_unmanaged (hm : S.hasManagedCluster clusterName = false) :
    Prog.Run (S.ensureCluster clusterName) [] (.ok ()) := by
  unfold Service.ensureCluster
  rw [if_neg (by simp [hm])]
  exact .pure ()

/-- **On a cluster that is not managed, a request is one attempt.** -/
theorem run_apiRequest_plain (purpose : Purpose) (hm : S.hasManagedCluster clusterName = false)
    (hc : getCluster S.config clusterName = .ok cluster)
    (hb : buildRequest cluster method path args = .ok request)
    (reply : Except String HttpReply) :
    Prog.Run (S.apiRequest purpose clusterName method path args)
      (plainSend ⟨purpose, clusterName, request⟩ reply) (attemptOutcome method path reply) := by
  refine Prog.Run.seq (run_ensureCluster_unmanaged hm) ?_
  refine Prog.run_tryCatch.mpr ⟨_, [], _, (List.append_nil _).symm,
    run_request_plain purpose hc hb reply, ?_⟩
  cases h : attemptOutcome method path reply with
  | ok data => exact ⟨rfl, rfl⟩
  | cut => exact ⟨rfl, rfl⟩
  | error m =>
    rw [Prog.CatchRun, hm, Bool.false_and, if_neg (by simp)]
    exact .fail m

/-- The outcome of an attempt whose reply is a success. -/
theorem attemptOutcome_ok (method path : String) {reply : HttpReply} (hok : reply.ok = true) :
    attemptOutcome method path (.ok reply) = .ok (unwrapData reply.payload) := by
  show Outcome.ofExcept (readReply method path reply) = _
  rw [readReply, if_pos hok]
  rfl

variable (purpose) in
/-- **A failure that is taken for an authentication failure is sent again**, in some run. -/
theorem exists_run_twice (hm : S.hasManagedCluster clusterName = true)
    (hc : getCluster S.config clusterName = .ok cluster)
    (hb : buildRequest cluster method path args = .ok request)
    {reply : Except String HttpReply} {m : String}
    (hfail : attemptOutcome method path reply = .error m) (hauth : isApiAuthError m = true) :
    ∃ t o, Prog.Run (S.apiRequest purpose clusterName method path args) t o ∧
      sends t = [(⟨purpose, clusterName, request⟩, reply),
        (⟨purpose, clusterName, request⟩, reply)] := by
  have hrun := run_request_plain purpose hc hb reply
  have hensure : Prog.Run (S.ensureCluster clusterName) [⟨.ensureCluster clusterName, .ok ()⟩]
      (.ok ()) := by
    unfold Service.ensureCluster
    rw [if_pos hm]
    exact run_attempt.mpr ⟨.ok (), rfl, rfl⟩
  have hrepair : Prog.Run (attempt (.repairCluster clusterName "api_auth_failure") rfl)
      [⟨.repairCluster clusterName "api_auth_failure", .ok ()⟩] (.ok ()) :=
    run_attempt.mpr ⟨.ok (), rfl, rfl⟩
  have hfinal : Prog.Run (S.apiRequestFinal purpose clusterName method path args)
      ([⟨.ensureCluster clusterName, .ok ()⟩] ++ plainSend ⟨purpose, clusterName, request⟩ reply)
      (attemptOutcome method path reply) := hensure.seq hrun
  refine ⟨_, attemptOutcome method path reply, hensure.seq (Prog.run_tryCatch.mpr
    ⟨plainSend ⟨purpose, clusterName, request⟩ reply,
      [⟨.repairCluster clusterName "api_auth_failure", .ok ()⟩] ++
        ([⟨.ensureCluster clusterName, .ok ()⟩] ++ plainSend ⟨purpose, clusterName, request⟩ reply),
      .error m, rfl, hfail ▸ hrun, ?_⟩), rfl⟩
  rw [Prog.CatchRun, hm, hauth]
  exact hrepair.seq hfinal

end Runs

/-! ## 4. The condition -/

/-- The attempt was rejected for authentication: its status was 401. -/
def rejectedForAuth : Except String HttpReply → Bool
  | .ok r => r.status = 401
  | .error _ => false

/-- In every run whose first attempt is answered `first`: at most two sends, of one request; and
    exactly one, ending as `first` says, unless the attempt was rejected for authentication. -/
def RetriedForAuthOnly (S : Service) (purpose : Purpose) (clusterName method path : String)
    (args : List (String × Value)) (first : Except String HttpReply) : Prop :=
  ∀ t o, Prog.Run (S.apiRequest purpose clusterName method path args) t o →
    (sends t).head?.map Prod.snd = some first →
      (sends t).length ≤ 2 ∧ (∀ s ∈ sends t, ∀ s' ∈ sends t, s.1 = s'.1) ∧
        (rejectedForAuth first = false →
          (sends t).length = 1 ∧ o = attemptOutcome method path first)

/-- Nothing that goes into the failure's message mentions authentication. -/
def NothingMentionsAuth (method path : String) : Except String HttpReply → Prop
  | .ok r => r.ok = true ∨ r.status = 401 ∨
      (mentionsAuth (Text.toUpperCase method).toList = false ∧ mentionsAuth path.toList = false ∧
        mentionsAuth (stringifyText r.payload).toList = false)
  | .error m => mentionsAuth m.toList = false

instance (method path : String) (first : Except String HttpReply) :
    Decidable (NothingMentionsAuth method path first) :=
  match first with
  | .ok r => inferInstanceAs (Decidable (r.ok = true ∨ r.status = 401 ∨ _ ∧ _ ∧ _))
  | .error m => inferInstanceAs (Decidable (mentionsAuth m.toList = false))

/-- **The condition on the parts is the condition on the message.** -/
theorem nothingMentionsAuth_iff (method path : String) (first : Except String HttpReply) :
    NothingMentionsAuth method path first ↔ (rejectedForAuth first = false →
      ∀ m, attemptOutcome method path first = .error m → isApiAuthError m = false) := by
  cases first with
  | error m =>
    constructor
    · rintro h - m' ⟨⟩
      exact h
    · intro h
      exact h rfl m rfl
  | ok r =>
    rcases hr : readReply method path r with m | data
    · have hok : r.ok = false := by
        rw [readReply] at hr
        split at hr
        · cases hr
        · simpa using ‹¬r.ok = true›
      have hout : attemptOutcome method path (.ok r) = .error m := by
        rw [attemptOutcome]
        show Outcome.ofExcept (readReply method path r) = _
        rw [hr]
        rfl
      have hm := mentionsAuth_message method path r hr
      simp only [NothingMentionsAuth, rejectedForAuth, hout, Outcome.error.injEq, forall_eq', hm,
        hok]
      by_cases h : r.status = 401 <;> simp [h, and_assoc]
    · have hok : r.ok = true := by
        rw [readReply] at hr
        split at hr
        · assumption
        · cases hr
      have hout : attemptOutcome method path (.ok r) = .ok data := by
        rw [attemptOutcome]
        show Outcome.ofExcept (readReply method path r) = _
        rw [hr]
        rfl
      simp [NothingMentionsAuth, hok, hout]

/-- **A request is sent again only after a rejection, exactly if nothing in the message of the
    failure mentions authentication.** -/
theorem retriedForAuthOnly_iff (S : Service) (purpose : Purpose)
    (clusterName method path : String) (args : List (String × Value)) (cluster : ClusterConfig)
    (first : Except String HttpReply) (hm : S.hasManagedCluster clusterName = true)
    (hc : getCluster S.config clusterName = .ok cluster) :
    RetriedForAuthOnly S purpose clusterName method path args first ↔
      NothingMentionsAuth method path first := by
  obtain ⟨request, hb⟩ := exists_buildRequest cluster method path args
  rw [nothingMentionsAuth_iff]
  constructor
  · intro H hrej m hfail
    rw [Bool.eq_false_iff]
    intro hauth
    obtain ⟨t, o, hrun, hs⟩ := exists_run_twice purpose hm hc hb hfail hauth
    obtain ⟨-, -, hone⟩ := H t o hrun (by rw [hs]; rfl)
    have hlen := (hone hrej).1
    rw [hs] at hlen
    cases hlen
  · intro H t o hrun hfirst
    -- a trace whose only send is the first one
    have single : ∀ {t'}, sends t = sends t' →
        OneSend method path ⟨purpose, clusterName, request⟩ t' o →
        (sends t).length ≤ 2 ∧ (∀ s ∈ sends t, ∀ s' ∈ sends t, s.1 = s'.1) ∧
          (rejectedForAuth first = false →
            (sends t).length = 1 ∧ o = attemptOutcome method path first) := by
      rintro t' ht (⟨hs, -⟩ | ⟨reply, hs, ho⟩)
      · rw [ht, hs] at hfirst
        cases hfirst
      · rw [ht, hs] at hfirst
        cases hfirst
        rw [ht, hs]
        exact ⟨by simp, by simp, fun _ => ⟨rfl, ho⟩⟩
    rcases run_apiRequest hc hb hrun with h | ⟨t₁, t₂, m, ht, hauth, h1, h2⟩
    · exact single rfl h
    · rcases h1 with ⟨hs, -⟩ | ⟨reply, hs, ho⟩
      · exact single (by rw [ht, hs, List.nil_append]) h2
      · have hreply : reply = first := by
          rw [ht, hs] at hfirst
          exact Option.some.inj hfirst
        subst hreply
        refine ⟨?_, ?_, fun hrej => ?_⟩
        · rcases h2 with ⟨hs2, -⟩ | ⟨_, hs2, -⟩ <;> simp [ht, hs, hs2]
        · rcases h2 with ⟨hs2, -⟩ | ⟨_, hs2, -⟩ <;> simp [ht, hs, hs2]
        · rw [H hrej m ho.symm] at hauth
          cases hauth

/-- What the requests of the examples are for. -/
def examplePurpose : Purpose := ⟨.direct, exampleTarget, none⟩

/-- A service whose one cluster is under managed authentication. -/
def managedService : Service where
  config := { clusters := [exampleCluster], policies := [defaultAdminPolicy] }
  catalog := []
  managed := some ["default"]

omit [Text.Unicode] in
/-- A stop of VM 100 that fails inside Proxmox is sent once. -/
theorem retriedForAuthOnly_iff_stop :
    letI := Text.asciiCase
    RetriedForAuthOnly managedService examplePurpose "default" "POST" "/nodes/pve/qemu/100/status/stop" []
      (.ok ⟨500, "\x7b\"data\":null\x7d"⟩) := by
  let := Text.asciiCase
  exact (retriedForAuthOnly_iff managedService examplePurpose "default" "POST"
    "/nodes/pve/qemu/100/status/stop" [] exampleCluster (.ok ⟨500, "\x7b\"data\":null\x7d"⟩) rfl rfl).mpr
    (by decide +kernel)

omit [Text.Unicode] in
/-- A stop of VM 401 that fails inside Proxmox is sent a second time. -/
theorem retriedForAuthOnly_vm401 :
    letI := Text.asciiCase
    (∃ t o r, Prog.Run (managedService.apiRequest examplePurpose "default" "POST"
        "/nodes/pve/qemu/401/status/stop" []) t o ∧ r.method = "POST" ∧
        sends t = [(⟨examplePurpose, "default", r⟩, .ok ⟨500, "\x7b\"data\":null\x7d"⟩),
          (⟨examplePurpose, "default", r⟩, .ok ⟨500, "\x7b\"data\":null\x7d"⟩)]) ∧
      ¬ RetriedForAuthOnly managedService examplePurpose "default" "POST"
        "/nodes/pve/qemu/401/status/stop" [] (.ok ⟨500, "\x7b\"data\":null\x7d"⟩) := by
  let := Text.asciiCase
  obtain ⟨t, o, hrun, hs⟩ := @exists_run_twice _ managedService examplePurpose "default" "POST"
    "/nodes/pve/qemu/401/status/stop" [] exampleCluster _ rfl rfl rfl
    (.ok ⟨500, "\x7b\"data\":null\x7d"⟩) _ rfl (by decide +kernel)
  refine ⟨⟨t, o, _, hrun, rfl, hs⟩, fun H => ?_⟩
  have hlen := ((H t o hrun (by rw [hs]; rfl)).2.2 rfl).1
  rw [hs] at hlen
  cases hlen

end ProxmoxMcp
