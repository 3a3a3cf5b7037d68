/-
  File:      ProxmoxMcp/MaybeBase64.lean
  Subject:   GUESSING BASE64 (`decodeMaybeBase64`, `decodeMaybeBase64Buffer`): which texts are taken
             for encoded ones.

  `decodeMaybeBase64_iff`: a text is decoded exactly if it is the encoded form of something that is
  not empty, unless it carries groups of padding too many; these are decoded as well, and a line of
  `====` is lost.
-/
import ProxmoxMcp.Guests

namespace ProxmoxMcp

open Base64 (encode)

/-! ## 1. Candidates -/

/-- `value.replace(/\s+/g, "")`. -/
def withoutSpace (value : List Char) : List Char := value.filter fun c => !Text.isSpace c

theorem base64Candidate_eq_some {value n : List Char} : base64Candidate value = some n ↔
    n = withoutSpace value ∧ n ≠ [] ∧ n.length % 4 = 0 ∧ n.all Base64.isStandard = true := by
  have hunfold : base64Candidate value =
      if withoutSpace value = [] ∨ (withoutSpace value).length % 4 ≠ 0 ∨
        !(withoutSpace value).all Base64.isStandard then none else some (withoutSpace value) := rfl
  rw [hunfold]
  constructor
  · intro h
    split at h
    · cases h
    · rename_i hgood
      cases h
      simpa [not_or] using hgood
  · intro hparts
    obtain ⟨hn, hne, hlen, hall⟩ := hparts
    rw [← hn, if_neg]
    simp [hne, hlen, hall]

/-- An encoded text is a candidate, and so is one with groups of padding too many. -/
theorem base64Candidate_encode {value : List Char} {b : List UInt8} {j : Nat}
    (hne : withoutSpace value ≠ [])
    (h : withoutSpace value = encode b ++ List.replicate (4 * j) '=') :
    base64Candidate value = some (encode b ++ List.replicate (4 * j) '=') := by
  rw [h] at hne
  refine base64Candidate_eq_some.mpr ⟨h.symm, hne, ?_, ?_⟩
  · rw [List.length_append, List.length_replicate, Base64.length_encode]
    omega
  · rw [List.all_append, Bool.and_eq_true]
    refine ⟨List.all_eq_true.mpr (Base64.encode_alphabet b), List.all_eq_true.mpr fun c hc => ?_⟩
    rw [List.eq_of_mem_replicate hc]
    decide

/-! ## 2. What is decoded -/

/-- **Bytes are decoded** that are encoded with whole groups of padding. -/
theorem decodeMaybeBase64Buffer_encode {value : List Char} {b : List UInt8} {j : Nat}
    (hne : withoutSpace value ≠ [])
    (h : withoutSpace value = encode b ++ List.replicate (4 * j) '=') :
    decodeMaybeBase64Buffer value = b := by
  have hstrip : stripPadding (encode b) = stripPadding (encode b ++ List.replicate (4 * j) '=') :=
    (Base64.stripped_encode b (4 * j)).symm
  rw [decodeMaybeBase64Buffer, base64Candidate_encode hne h]
  dsimp only
  rw [Base64.decode_encode_padded, if_pos hstrip]

/-- **Other bytes are left as they are.** -/
theorem decodeMaybeBase64Buffer_plain {value : List Char}
    (h : ∀ b j, withoutSpace value ≠ [] →
      withoutSpace value ≠ encode b ++ List.replicate (4 * j) '=') :
    decodeMaybeBase64Buffer value = Utf8.encode value := by
  unfold decodeMaybeBase64Buffer
  split
  · rfl
  · rename_i n hn
    obtain ⟨rfl, hne, hlen, -⟩ := base64Candidate_eq_some.mp hn
    dsimp only
    rw [if_neg]
    intro hstrip
    obtain ⟨j, hj⟩ := Base64.eq_encode_of_stripped hlen hstrip
    exact h _ j hne hj

/-- **A text is decoded** that is encoded with whole groups of padding. -/
theorem decodeMaybeBase64_encode {value s : List Char} {j : Nat} (hne : withoutSpace value ≠ [])
    (h : withoutSpace value = encode (Utf8.encode s) ++ List.replicate (4 * j) '=') :
    decodeMaybeBase64 value = s := by
  have hstrip : stripPadding (encode (Utf8.encode s)) =
      stripPadding (encode (Utf8.encode s) ++ List.replicate (4 * j) '=') :=
    (Base64.stripped_encode _ (4 * j)).symm
  rw [decodeMaybeBase64, base64Candidate_encode hne h]
  dsimp only
  rw [Base64.decode_encode_padded, Utf8.decode_encode, if_pos hstrip]

/-- **Any other text is left as it is.** -/
theorem decodeMaybeBase64_plain {value : List Char}
    (h : ∀ s j, withoutSpace value ≠ [] →
      withoutSpace value ≠ encode (Utf8.encode s) ++ List.replicate (4 * j) '=') :
    decodeMaybeBase64 value = value := by
  unfold decodeMaybeBase64
  split
  · rfl
  · rename_i n hn
    obtain ⟨rfl, hne, hlen, -⟩ := base64Candidate_eq_some.mp hn
    dsimp only
    rw [if_neg]
    intro hstrip
    obtain ⟨j, hj⟩ := Base64.eq_encode_of_stripped hlen hstrip
    exact h _ j hne hj

/-! ## 3. The law -/

/-- The text is decoded if it is the encoded form of one that is not empty, else it is left. -/
structure DecodesText (value : List Char) : Prop where
  encoded : ∀ s, s ≠ [] → withoutSpace value = encode (Utf8.encode s) →
    decodeMaybeBase64 value = s
  plain : (∀ s, s ≠ [] → withoutSpace value ≠ encode (Utf8.encode s)) →
    decodeMaybeBase64 value = value

/-- The same of bytes. -/
structure DecodesBytes (value : List Char) : Prop where
  encoded : ∀ b, b ≠ [] → withoutSpace value = encode b → decodeMaybeBase64Buffer value = b
  plain : (∀ b, b ≠ [] → withoutSpace value ≠ encode b) →
    decodeMaybeBase64Buffer value = Utf8.encode value

/-- The text is the encoded form of the bytes, with groups of padding too many. -/
def HasExtraPadding (value : List Char) (b : List UInt8) : Prop :=
  ∃ j, withoutSpace value = encode b ++ List.replicate (4 * (j + 1)) '='

theorem encode_ne_nil {b : List UInt8} (h : b ≠ []) : encode b ≠ [] := by
  intro hnil
  have hlen := Base64.length_encode b
  have hpos := List.length_pos_of_ne_nil h
  rw [hnil, List.length_nil] at hlen
  omega

/-- With padding too many, the text is longer than what it encodes. -/
theorem HasExtraPadding.length_lt {value : List Char} {b : List UInt8} (h : HasExtraPadding value b) :
    b.length < value.length := by
  obtain ⟨j, hj⟩ := h
  have hfilter : (withoutSpace value).length ≤ value.length := List.length_filter_le ..
  rw [hj, List.length_append, List.length_replicate, Base64.length_encode] at hfilter
  omega

/-- With padding too many, it is no encoded form, and it is not empty. -/
theorem HasExtraPadding.ne {value : List Char} {b : List UInt8} (h : HasExtraPadding value b)
    (b' : List UInt8) : withoutSpace value ≠ encode b' := by
  obtain ⟨j, hj⟩ := h
  intro he
  rw [he] at hj
  cases (Base64.eq_of_encode_eq hj).2

theorem HasExtraPadding.exists_eq {value : List Char} {b : List UInt8} (h : HasExtraPadding value b) :
    withoutSpace value ≠ [] ∧
      ∃ j, withoutSpace value = encode b ++ List.replicate (4 * j) '=' := by
  have hne := h.ne []
  obtain ⟨j, hj⟩ := h
  exact ⟨hne, j + 1, hj⟩

/-- A text with whole groups of padding has none too many, or is an encoded form. -/
theorem eq_encode_of_not_extra {value : List Char} {b : List UInt8} {j : Nat}
    (hextra : ¬HasExtraPadding value b)
    (h : withoutSpace value = encode b ++ List.replicate (4 * j) '=') :
    withoutSpace value = encode b := by
  cases j with
  | zero => rwa [Nat.mul_zero, List.replicate_zero, List.append_nil] at h
  | succ j => exact absurd ⟨j, h⟩ hextra

theorem decodesBytes_iff {value : List Char} :
    DecodesBytes value ↔ ∀ b, ¬HasExtraPadding value b := by
  constructor
  · intro hlaw b hextra
    have hplain := hlaw.plain fun b' _ => hextra.ne b'
    obtain ⟨hne, j, hj⟩ := hextra.exists_eq
    rw [decodeMaybeBase64Buffer_encode hne hj] at hplain
    have hlt := hextra.length_lt
    rw [hplain] at hlt
    exact absurd (Utf8.length_le_encode value) (Nat.not_le_of_lt hlt)
  · intro hextra
    constructor
    · intro b hb hn
      have hne : withoutSpace value ≠ [] := by
        rw [hn]
        exact encode_ne_nil hb
      exact decodeMaybeBase64Buffer_encode (j := 0) hne (by simpa using hn)
    · intro hplain
      refine decodeMaybeBase64Buffer_plain fun b j hne hj => ?_
      have hn := eq_encode_of_not_extra (hextra b) hj
      refine hplain b (fun hb => hne ?_) hn
      rw [hn, hb]
      rfl

theorem decodesText_iff {value : List Char} :
    DecodesText value ↔ ∀ s, ¬HasExtraPadding value (Utf8.encode s) := by
  constructor
  · intro hlaw s hextra
    have hplain := hlaw.plain fun s' _ => hextra.ne (Utf8.encode s')
    obtain ⟨hne, j, hj⟩ := hextra.exists_eq
    rw [decodeMaybeBase64_encode hne hj] at hplain
    have hlt := hextra.length_lt
    rw [hplain] at hlt
    exact absurd (Utf8.length_le_encode value) (Nat.not_le_of_lt hlt)
  · intro hextra
    constructor
    · intro s hs hn
      have hne : withoutSpace value ≠ [] := by
        rw [hn]
        exact encode_ne_nil fun e => hs (Utf8.encode_injective (t := []) e)
      exact decodeMaybeBase64_encode (j := 0) hne (by simpa using hn)
    · intro hplain
      refine decodeMaybeBase64_plain fun s j hne hj => ?_
      have hn := eq_encode_of_not_extra (hextra s) hj
      refine hplain s (fun hs => hne ?_) hn
      rw [hn, hs]
      rfl

/-- **Base64 is guessed right** exactly if the text, its white space aside, is no encoded form with
    groups of padding too many. -/
theorem decodeMaybeBase64_iff (value : List Char) :
    (DecodesText value ↔ ∀ s, ¬HasExtraPadding value (Utf8.encode s)) ∧
      (DecodesBytes value ↔ ∀ b, ¬HasExtraPadding value b) :=
  ⟨decodesText_iff, decodesBytes_iff⟩

/-- A line of four signs is taken for nothing, and what has four signs too many is decoded. -/
theorem extra_padding_decoded :
    decodeMaybeBase64 "====".toList = [] ∧ decodeMaybeBase64Buffer "====".toList = [] ∧
      decodeMaybeBase64 "YWJj====".toList = "abc".toList ∧
      ¬DecodesText "====".toList ∧ ¬DecodesBytes "====".toList := by
  have htext : decodeMaybeBase64 "====".toList = [] := by decide
  have hbytes : decodeMaybeBase64Buffer "====".toList = [] := by decide
  refine ⟨htext, hbytes, by decide +kernel, fun hlaw => ?_, fun hlaw => ?_⟩
  · exact decodesText_iff.mp hlaw [] ⟨0, by decide⟩
  · exact decodesBytes_iff.mp hlaw [] ⟨0, by decide⟩

end ProxmoxMcp
