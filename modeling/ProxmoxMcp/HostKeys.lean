/-
  File:      ProxmoxMcp/HostKeys.lean
  Subject:   THE HOST KEY OF A SERVER (`expectedKeyMatches` and `hostVerifier` in `ssh.ts`): which
             pinned fingerprints a key matches.

  The pinned text loses a prefix `SHA256:` and the spaces around the rest, and is then compared with
  the base64 of the digest. That base64 is padded; the one of OpenSSH is not. SHA-256 is any function
  into texts of 32 bytes.

  * `hostVerifier_iff`: the texts that are accepted;
  * `hostKeyLaw_iff`: for which texts acceptance is that of the fingerprint.
-/
import ProxmoxMcp.Requests
import ProxmoxMcp.Lib.Base64
import ProxmoxMcp.Lib.Lines

namespace ProxmoxMcp

open Js
open Text (Blank Trimmed)

/-! ## 1. Matching a key -/

/-- What SHA-256 answers. -/
abbrev Digest := {bytes : List UInt8 // bytes.length = 32}

/-- `"SHA256:"`. -/
def sha256Prefix : List Char := "SHA256:".toList

/-- The base64 of a digest, with its padding. -/
def Digest.base64 (digest : Digest) : List Char := Base64.encode digest.val

section

variable [Text.Unicode]

/-- `expected.replace(/^SHA256:/i, "")`. -/
def dropSha256 (expected : List Char) : List Char :=
  if prefixFold sha256Prefix expected then expected.drop sha256Prefix.length else expected

/-- `expectedKeyMatches`. -/
def expectedKeyMatches (sha256 : List UInt8 → Digest) (expected : Option String)
    (hostKey : List UInt8) : Bool :=
  match expected.filter (· ≠ "") with
  | none => false
  | some expected =>
    let normalizedExpected := Text.trim (dropSha256 expected.toList)
    let actual := (sha256 hostKey).base64
    actual = normalizedExpected

/-- `hostVerifier`. -/
def hostVerifier (sha256 : List UInt8 → Digest) (profile : SshProfileConfig)
    (hostKey : List UInt8) : Bool :=
  if profile.hostKeyPolicy = .insecure ∨ profile.hostKeyPolicy = .accept_new then true
  else expectedKeyMatches sha256 profile.expectedHostKey hostKey

end

/-! ## 2. Fingerprints -/

/-- **The fingerprint of a digest** in the notation of OpenSSH, with its prefix or without, and with
    its padding or without. -/
def Digest.Fingerprint (digest : Digest) (e : List Char) : Prop :=
  ∃ pre ∈ [[], sha256Prefix], e = pre ++ Base64.stripped digest.base64 ∨ e = pre ++ digest.base64

/-- A fingerprint without its padding, as OpenSSH writes it. -/
def Digest.Unpadded (digest : Digest) (e : List Char) : Prop :=
  ∃ pre ∈ [[], sha256Prefix], e = pre ++ Base64.stripped digest.base64

/-- A fingerprint with its padding. -/
def Digest.Padded (digest : Digest) (e : List Char) : Prop :=
  ∃ pre ∈ [[], sha256Prefix], e = pre ++ digest.base64

/-- A padded base64 after the prefix in any letter case, or none, and between any spaces. -/
def Digest.Loose (digest : Digest) (e : List Char) : Prop :=
  ∃ pre a b, (pre = [] ∨ pre.map Char.toUpper = sha256Prefix) ∧ Blank a ∧ Blank b ∧
    e = pre ++ (a ++ digest.base64 ++ b)

theorem fingerprint_iff {digest : Digest} {e : List Char} :
    digest.Fingerprint e ↔ digest.Unpadded e ∨ digest.Padded e := by
  constructor
  · intro hparts
    obtain ⟨pre, hpre, h⟩ := hparts
    rcases h with h | h
    · exact .inl ⟨pre, hpre, h⟩
    · exact .inr ⟨pre, hpre, h⟩
  · intro h
    rcases h with ⟨pre, hpre, h⟩ | ⟨pre, hpre, h⟩
    · exact ⟨pre, hpre, .inl h⟩
    · exact ⟨pre, hpre, .inr h⟩

theorem Digest.Padded.loose {digest : Digest} {e : List Char} (h : digest.Padded e) :
    digest.Loose e := by
  obtain ⟨pre, hpre, he⟩ := h
  refine ⟨pre, [], [], ?_, Text.blank_nil, Text.blank_nil, by rw [List.append_nil]; exact he⟩
  rcases List.mem_cons.mp hpre with hpre | hpre
  · exact .inl hpre
  · rw [List.mem_singleton.mp hpre]
    exact .inr (by decide)

/-- **The base64 of 32 bytes ends with one sign of padding.** -/
theorem base64_eq (digest : Digest) :
    digest.base64 = Base64.stripped digest.base64 ++ ['='] ∧
      '=' ∉ Base64.stripped digest.base64 := by
  obtain ⟨letters, hencode, hpad⟩ := Base64.encode_letters digest.val
  rw [digest.property] at hencode
  have hbase : digest.base64 = letters ++ List.replicate 1 '=' := hencode
  rw [hbase, Base64.stripped_append 1 hpad]
  exact ⟨rfl, hpad⟩

/-- A character of a base64 is no space. -/
theorem isSpace_of_standard {c : Char} (h : Base64.isStandard c = true) :
    Text.isSpace c = false := by
  cases hspace : Text.isSpace c with
  | false => rfl
  | true =>
    have hmem := of_decide_eq_true hspace
    have hnot : (!Base64.isStandard c) = true :=
      (@List.all_eq_true _ (fun d => !Base64.isStandard d) _).mp (by decide) c hmem
    rw [h] at hnot
    cases hnot

theorem trimmed_base64 (digest : Digest) : Trimmed digest.base64 :=
  Text.trimmed_of_no_space fun c hc =>
    isSpace_of_standard (Base64.encode_alphabet digest.val c hc)

/-- No colon stands between spaces and in a base64. -/
theorem colon_not_mem {digest : Digest} {a b : List Char} (ha : Blank a) (hb : Blank b) :
    ':' ∉ a ++ digest.base64 ++ b := by
  intro h
  rcases List.mem_append.mp h with h | h
  · rcases List.mem_append.mp h with h | h
    · exact absurd (ha _ h) (by decide)
    · exact absurd (Base64.encode_alphabet digest.val _ h) (by decide)
  · exact absurd (hb _ h) (by decide)

/-- **No unpadded fingerprint is loosely a padded one.** -/
theorem not_loose_of_unpadded {digest : Digest} {e : List Char} (h : digest.Unpadded e) :
    ¬ digest.Loose e := by
  intro hloose
  obtain ⟨pre, hpre, he⟩ := h
  obtain ⟨pre', a, b, _, _, _, he'⟩ := hloose
  have hmem : '=' ∈ e := by
    rw [he', (base64_eq digest).1]
    simp
  rw [he] at hmem
  rcases List.mem_append.mp hmem with hmem | hmem
  · revert hmem
    rcases List.mem_cons.mp hpre with hpre | hpre
    · rw [hpre]
      exact List.not_mem_nil
    · rw [List.mem_singleton.mp hpre]
      decide
  · exact (base64_eq digest).2 hmem

/-! ## 3. What is accepted -/

section

variable [Text.Unicode]

/-- `/c/i`, for an ASCII character. -/
theorem fold_eq_iff_upper {c d : Char} (hc : c.toNat < 128) :
    Regex.CaseFold.fold d = Regex.CaseFold.fold c ↔ d.toUpper = c.toUpper := by
  rw [Regex.CaseFold.fold_ascii c hc]
  have hsmall := Regex.toUpper_toNat_lt hc
  by_cases hd : d.toNat < 128
  · rw [Regex.CaseFold.fold_ascii d hd]
  · have hd : 128 ≤ d.toNat := Nat.le_of_not_lt hd
    have hfold := Regex.CaseFold.fold_nonascii d hd
    rw [Regex.toUpper_of_le hd]
    constructor
    · intro h
      rw [h] at hfold
      omega
    · intro h
      rw [h] at hd
      omega

/-- `/^w/i`, for a `w` of ASCII characters: only the case of ASCII letters may differ. -/
theorem prefixFold_iff_upper : ∀ {w s : List Char}, (∀ c ∈ w, c.toNat < 128) →
    (prefixFold w s = true ↔ (s.take w.length).map Char.toUpper = w.map Char.toUpper)
  | [], _, _ => by simp [prefixFold]
  | c :: w, [], _ => by simp [prefixFold]
  | c :: w, d :: s, hw => by
      have ih := prefixFold_iff_upper (s := s) fun c hc => hw c (List.mem_cons_of_mem _ hc)
      rw [prefixFold, Bool.and_eq_true, beq_iff_eq, fold_eq_iff_upper (hw c List.mem_cons_self), ih]
      simp only [List.length_cons, List.take_succ_cons, List.map_cons, List.cons.injEq]

/-- The prefix is recognised in any letter case. -/
theorem prefixFold_sha256 {s : List Char} :
    prefixFold sha256Prefix s = true ↔ (s.take 7).map Char.toUpper = sha256Prefix := by
  have hascii : ∀ c ∈ sha256Prefix, c.toNat < 128 := Text.ascii_of_all (by decide)
  have hupper : sha256Prefix.map Char.toUpper = sha256Prefix := by decide
  rw [prefixFold_iff_upper hascii, hupper]
  rfl

/-- Dropping the prefix leaves what follows it. -/
theorem dropSha256_append {pre s : List Char} (h : pre.map Char.toUpper = sha256Prefix) :
    dropSha256 (pre ++ s) = s := by
  have hlen : pre.length = 7 := by
    have hlength := congrArg List.length h
    rw [List.length_map] at hlength
    exact hlength
  have hmatch : prefixFold sha256Prefix (pre ++ s) = true := by
    rw [prefixFold_sha256, ← hlen, List.take_left]
    exact h
  rw [dropSha256, if_pos hmatch]
  exact (congrArg (List.drop · _) hlen.symm).trans List.drop_left

omit [Text.Unicode] in
theorem eq_colon_of_toUpper {c : Char} (h : c.toUpper = ':') : c = ':' := by
  by_cases hc : c.toNat < 128
  · have hall : ∀ n : Fin 128, (Char.ofNat n.val).toUpper = ':' → Char.ofNat n.val = ':' := by
      decide +kernel
    have hthis := hall ⟨c.toNat, hc⟩
    rw [Char.ofNat_toNat] at hthis
    exact hthis h
  · rwa [Regex.toUpper_of_le (Nat.le_of_not_lt hc)] at h

/-- A text without a colon has no prefix to drop. -/
theorem dropSha256_of_not_mem {s : List Char} (h : ':' ∉ s) : dropSha256 s = s := by
  refine if_neg fun hmatch => h ?_
  have hmem : ':' ∈ (s.take 7).map Char.toUpper := by
    rw [prefixFold_sha256.mp hmatch]
    decide
  obtain ⟨c, hc, hupper⟩ := List.mem_map.mp hmem
  rw [← eq_colon_of_toUpper hupper]
  exact List.mem_of_mem_take hc

/-- A text is what is left of it, after the prefix if there is one. -/
theorem dropSha256_parts (s : List Char) : ∃ pre, s = pre ++ dropSha256 s ∧
    (pre = [] ∨ pre.map Char.toUpper = sha256Prefix) := by
  unfold dropSha256
  split
  · rename_i hmatch
    exact ⟨s.take 7, (List.take_append_drop 7 s).symm, .inr (prefixFold_sha256.mp hmatch)⟩
  · exact ⟨[], rfl, .inl rfl⟩

/-- A strict profile compares the base64 of the digest. -/
theorem hostVerifier_strict {sha256 : List UInt8 → Digest} {profile : SshProfileConfig} {e : String}
    {hostKey : List UInt8} :
    hostVerifier sha256 { profile with hostKeyPolicy := .strict, expectedHostKey := some e }
      hostKey = true ↔
      e ≠ "" ∧ (sha256 hostKey).base64 = Text.trim (dropSha256 e.toList) := by
  show expectedKeyMatches sha256 (some e) hostKey = true ↔ _
  unfold expectedKeyMatches
  by_cases he : e = ""
  · rw [he]
    exact iff_of_false (fun h => nomatch h) fun h => h.1 rfl
  · rw [Option.filter_some, if_pos (decide_eq_true he), and_iff_right he]
    exact decide_eq_true_iff

/-- **A key is accepted** for the padded base64 of its digest, and for nothing else, up to the case
    of the prefix and spaces around the rest. -/
theorem hostVerifier_iff (sha256 : List UInt8 → Digest) (profile : SshProfileConfig) (e : String)
    (hostKey : List UInt8) :
    hostVerifier sha256 { profile with hostKeyPolicy := .strict, expectedHostKey := some e }
      hostKey = true ↔ (sha256 hostKey).Loose e.toList := by
  rw [hostVerifier_strict]
  generalize sha256 hostKey = digest
  constructor
  · intro hparts
    obtain ⟨_, h⟩ := hparts
    obtain ⟨pre, he, hpre⟩ := dropSha256_parts e.toList
    obtain ⟨a, b, hparts, ha, hb, _⟩ := Text.trim_parts (dropSha256 e.toList)
    rw [← h] at hparts
    exact ⟨pre, a, b, hpre, ha, hb, by rw [← hparts]; exact he⟩
  · intro hparts
    obtain ⟨pre, a, b, hpre, ha, hb, he⟩ := hparts
    have hdrop : dropSha256 e.toList = a ++ digest.base64 ++ b := by
      rw [he]
      rcases hpre with hpre | hpre
      · rw [hpre, List.nil_append, dropSha256_of_not_mem (colon_not_mem ha hb)]
      · exact dropSha256_append hpre
    refine ⟨fun hempty => ?_, ?_⟩
    · rw [hempty, (base64_eq digest).1] at he
      have hlength := congrArg List.length he
      simp at hlength
    · rw [hdrop, Text.trim_of_parts ha (trimmed_base64 digest) hb]

/-- Two keys that the same text accepts have one digest. -/
theorem digest_eq_of_accepted (sha256 : List UInt8 → Digest) (profile : SshProfileConfig)
    (e : String) {key key' : List UInt8}
    (h : hostVerifier sha256 { profile with hostKeyPolicy := .strict, expectedHostKey := some e }
      key = true)
    (h' : hostVerifier sha256 { profile with hostKeyPolicy := .strict, expectedHostKey := some e }
      key' = true) : sha256 key = sha256 key' := by
  have hbase : (sha256 key).base64 = (sha256 key').base64 :=
    (hostVerifier_strict.mp h).2.trans (hostVerifier_strict.mp h').2.symm
  have hdecode := congrArg Base64.decode hbase
  rw [Digest.base64, Base64.decode_encode, Digest.base64, Base64.decode_encode] at hdecode
  exact Subtype.ext hdecode

/-- A fingerprint as OpenSSH prints it is refused, also to the server that has it. -/
theorem hostVerifier_unpadded (sha256 : List UInt8 → Digest) (profile : SshProfileConfig)
    {e : String} {hostKey : List UInt8} (h : (sha256 hostKey).Unpadded e.toList) :
    hostVerifier sha256 { profile with hostKeyPolicy := .strict, expectedHostKey := some e }
      hostKey = false :=
  Bool.eq_false_iff.mpr fun haccepted =>
    not_loose_of_unpadded h ((hostVerifier_iff sha256 profile e hostKey).mp haccepted)

end

/-! ## 4. The law of the host key -/

/-- **The law of the host key**: the keys that are accepted are those with the fingerprint. -/
def HostKeyLaw [Text.Unicode] (sha256 : List UInt8 → Digest) (profile : SshProfileConfig)
    (e : String) (hostKey : List UInt8) : Prop :=
  hostVerifier sha256 { profile with hostKeyPolicy := .strict, expectedHostKey := some e }
    hostKey = true ↔ (sha256 hostKey).Fingerprint e.toList

/-- **The law of the host key**, exactly: it is kept where the text is no fingerprint without
    padding, and where it has the prefix in capitals and no spaces if it has the padded base64. -/
theorem hostKeyLaw_iff [Text.Unicode] (sha256 : List UInt8 → Digest) (profile : SshProfileConfig)
    (e : String) (hostKey : List UInt8) :
    HostKeyLaw sha256 profile e hostKey ↔
      ¬ (sha256 hostKey).Unpadded e.toList ∧
        ((sha256 hostKey).Loose e.toList → (sha256 hostKey).Padded e.toList) := by
  rw [HostKeyLaw, hostVerifier_iff, fingerprint_iff]
  constructor
  · intro h
    have hnot : ¬ (sha256 hostKey).Unpadded e.toList := fun hunpadded =>
      not_loose_of_unpadded hunpadded (h.mpr (.inl hunpadded))
    exact ⟨hnot, fun hloose => (h.mp hloose).resolve_left hnot⟩
  · intro hparts
    obtain ⟨hnot, hpadded⟩ := hparts
    constructor
    · exact fun hloose => .inr (hpadded hloose)
    · intro h
      exact (h.resolve_left hnot).loose

/-- The fingerprint that `ssh-keygen` prints of a key locks out the server that has the key. -/
theorem printedFingerprint_refused :
    letI := Text.asciiCase
    ¬ ∀ (sha256 : List UInt8 → Digest) (profile : SshProfileConfig) (e : String)
      (hostKey : List UInt8), HostKeyLaw sha256 profile e hostKey := by
  intro h
  let := Text.asciiCase
  have hunpadded : Digest.Unpadded ⟨List.replicate 32 0, rfl⟩
      "SHA256:AAAAAAAAAAAAAAAAAAAAAAAAAAAAAAAAAAAAAAAAAAA".toList :=
    ⟨sha256Prefix, by decide, by decide +kernel⟩
  have hlaw := h (fun _ => ⟨List.replicate 32 0, rfl⟩) { name := "default", username := "root" }
    "SHA256:AAAAAAAAAAAAAAAAAAAAAAAAAAAAAAAAAAAAAAAAAAA" []
  have haccepted := hlaw.mpr (fingerprint_iff.mpr (.inl hunpadded))
  exact Bool.false_ne_true ((hostVerifier_unpadded _ _ hunpadded).symm.trans haccepted)

end ProxmoxMcp
