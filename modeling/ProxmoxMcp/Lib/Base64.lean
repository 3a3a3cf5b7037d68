/-
  File:      ProxmoxMcp/Lib/Base64.lean
  Subject:   BASE64: the encoder with padding, and the lenient decoder that skips what is outside
             the alphabet (both alphabets are read). Nothing here names the repository.

  `decode_encode`: what was encoded comes back. `encode_alphabet`, `length_encode`: the encoded
  text consists of whole groups of four letters of the alphabet and padding.
-/
import Mathlib

namespace Base64

/-! ## 1. The alphabet -/

/-- The letter of six bits. -/
def letter (n : Nat) : Char :=
  if n < 26 then Char.ofNat (65 + n)
  else if n < 52 then Char.ofNat (71 + n)
  else if n < 62 then Char.ofNat (n - 4)
  else if n = 62 then '+' else '/'

/-- The six bits of a letter, of the URL alphabet too. -/
def value (c : Char) : Option Nat :=
  if 'A' ≤ c ∧ c ≤ 'Z' then some (c.toNat - 65)
  else if 'a' ≤ c ∧ c ≤ 'z' then some (c.toNat - 71)
  else if '0' ≤ c ∧ c ≤ '9' then some (c.toNat + 4)
  else if c = '+' ∨ c = '-' then some 62
  else if c = '/' ∨ c = '_' then some 63
  else none

/-- A letter of the standard alphabet, or padding: `[A-Za-z0-9+/=]`. -/
def isStandard (c : Char) : Bool := c.isAlphanum || c == '+' || c == '/' || c == '='

theorem value_letter : ∀ n < 64, value (letter n) = some n := by decide +kernel

theorem isStandard_letter : ∀ n < 64, isStandard (letter n) = true := by decide +kernel

theorem letter_ne_pad : ∀ n < 64, letter n ≠ '=' := by decide +kernel

/-! ## 2. Encoding and decoding -/

/-- `buffer.toString("base64")`. -/
def encode : List UInt8 → List Char
  | [] => []
  | [a] => [letter (a.toNat / 4), letter (a.toNat % 4 * 16), '=', '=']
  | [a, b] =>
      [letter (a.toNat / 4), letter (a.toNat % 4 * 16 + b.toNat / 16), letter (b.toNat % 16 * 4),
        '=']
  | a :: b :: c :: s =>
      letter (a.toNat / 4) :: letter (a.toNat % 4 * 16 + b.toNat / 16) ::
        letter (b.toNat % 16 * 4 + c.toNat / 64) :: letter (c.toNat % 64) :: encode s

/-- The bytes of a sequence of six-bit values; what does not fill a byte is dropped. -/
def pack : List Nat → List UInt8
  | w :: x :: y :: z :: s =>
      .ofNat (w * 4 + x / 16) :: .ofNat (x % 16 * 16 + y / 4) :: .ofNat (y % 4 * 64 + z) :: pack s
  | [w, x, y] => [.ofNat (w * 4 + x / 16), .ofNat (x % 16 * 16 + y / 4)]
  | [w, x] => [.ofNat (w * 4 + x / 16)]
  | _ => []

/-- What the decoder reads: up to the first padding, the letters. -/
def sixBits (s : List Char) : List Nat := (s.takeWhile (· ≠ '=')).filterMap value

/-- `Buffer.from(text, "base64")`. -/
def decode (s : List Char) : List UInt8 := pack (sixBits s)

theorem ofNat_eq {a : UInt8} {n : Nat} (h : n = a.toNat) : UInt8.ofNat n = a := by
  rw [h]
  simp

theorem sixBits_letter {n : Nat} (h : n < 64) (s : List Char) :
    sixBits (letter n :: s) = n :: sixBits s := by
  have hne := letter_ne_pad n h
  rw [sixBits, List.takeWhile_cons_of_pos (by simpa using hne)]
  exact List.filterMap_cons_some (value_letter n h)

@[simp] theorem sixBits_pad (s : List Char) : sixBits ('=' :: s) = [] := rfl

/-- Only the value of a letter is read, and whether it is padding. -/
theorem sixBits_cons_congr {c d : Char} {s t : List Char} (hpad : c = '=' ↔ d = '=')
    (hvalue : value c = value d) (h : sixBits s = sixBits t) :
    sixBits (c :: s) = sixBits (d :: t) := by
  by_cases hc : c = '='
  · rw [hc, hpad.mp hc]
    rfl
  · have hd : d ≠ '=' := fun e => hc (hpad.mpr e)
    have hletter : ∀ {x : Char} (s : List Char), x ≠ '=' →
        sixBits (x :: s) = (value x).toList ++ sixBits s := by
      intro x s hx
      rw [sixBits, List.takeWhile_cons_of_pos (by simpa using hx), List.filterMap_cons]
      cases value x <;> rfl
    rw [hletter s hc, hletter t hd, hvalue, h]

/-- Without padding, all of it is read. -/
theorem sixBits_of_not_mem {s : List Char} (h : '=' ∉ s) : sixBits s = s.filterMap value := by
  have hall : ∀ c ∈ s, decide (c ≠ '=') = true := fun c hc => decide_eq_true fun e => h (e ▸ hc)
  have htake : s.takeWhile (· ≠ '=') = s ++ [].takeWhile (· ≠ '=') := by
    rw [← List.takeWhile_append_of_pos hall, List.append_nil]
  rw [sixBits, htake, List.takeWhile_nil, List.append_nil]

/-- **What was encoded comes back.** -/
theorem decode_encode : ∀ b : List UInt8, decode (encode b) = b
  | [] => rfl
  | [a] => by
      have ha : a.toNat < 256 := a.toNat_lt
      rw [encode, decode, sixBits_letter (by omega), sixBits_letter (by omega), sixBits_pad, pack,
        ofNat_eq (a := a) (by omega)]
  | [a, b] => by
      have ha : a.toNat < 256 := a.toNat_lt
      have hb : b.toNat < 256 := b.toNat_lt
      rw [encode, decode, sixBits_letter (by omega), sixBits_letter (by omega),
        sixBits_letter (by omega), sixBits_pad, pack, ofNat_eq (a := a) (by omega),
        ofNat_eq (a := b) (by omega)]
  | a :: b :: c :: s => by
      have ha : a.toNat < 256 := a.toNat_lt
      have hb : b.toNat < 256 := b.toNat_lt
      have hc : c.toNat < 256 := c.toNat_lt
      have ih := decode_encode s
      rw [decode] at ih
      rw [encode, decode, sixBits_letter (by omega), sixBits_letter (by omega),
        sixBits_letter (by omega), sixBits_letter (by omega), pack, ih,
        ofNat_eq (a := a) (by omega), ofNat_eq (a := b) (by omega), ofNat_eq (a := c) (by omega)]

/-- The letters of an encoded text are all before its padding. -/
theorem sixBits_encode : ∀ b : List UInt8, sixBits (encode b) = (encode b).filterMap value
  | [] => rfl
  | [a] => by
      have ha : a.toNat < 256 := a.toNat_lt
      rw [encode, sixBits_letter (by omega), sixBits_letter (by omega),
        List.filterMap_cons_some (value_letter _ (by omega)),
        List.filterMap_cons_some (value_letter _ (by omega))]
      rfl
  | [a, b] => by
      have ha : a.toNat < 256 := a.toNat_lt
      have hb : b.toNat < 256 := b.toNat_lt
      rw [encode, sixBits_letter (by omega), sixBits_letter (by omega), sixBits_letter (by omega),
        List.filterMap_cons_some (value_letter _ (by omega)),
        List.filterMap_cons_some (value_letter _ (by omega)),
        List.filterMap_cons_some (value_letter _ (by omega))]
      rfl
  | a :: b :: c :: s => by
      have ha : a.toNat < 256 := a.toNat_lt
      have hb : b.toNat < 256 := b.toNat_lt
      have hc : c.toNat < 256 := c.toNat_lt
      have ih := sixBits_encode s
      rw [encode, sixBits_letter (by omega), sixBits_letter (by omega), sixBits_letter (by omega),
        sixBits_letter (by omega), ih,
        List.filterMap_cons_some (value_letter _ (by omega)),
        List.filterMap_cons_some (value_letter _ (by omega)),
        List.filterMap_cons_some (value_letter _ (by omega)),
        List.filterMap_cons_some (value_letter _ (by omega))]

/-! ## 3. The shape of an encoded text -/

/-- **An encoded text consists of letters of the alphabet and padding.** -/
theorem encode_alphabet : ∀ (b : List UInt8) (c : Char), c ∈ encode b → isStandard c = true
  | [], c, h => by cases h
  | [a], c, h => by
      have ha : a.toNat < 256 := a.toNat_lt
      simp only [encode, List.mem_cons, List.not_mem_nil, or_false] at h
      rcases h with rfl | rfl | rfl | rfl
      · exact isStandard_letter _ (by omega)
      · exact isStandard_letter _ (by omega)
      · decide
      · decide
  | [a, b], c, h => by
      have ha : a.toNat < 256 := a.toNat_lt
      have hb : b.toNat < 256 := b.toNat_lt
      simp only [encode, List.mem_cons, List.not_mem_nil, or_false] at h
      rcases h with rfl | rfl | rfl | rfl
      · exact isStandard_letter _ (by omega)
      · exact isStandard_letter _ (by omega)
      · exact isStandard_letter _ (by omega)
      · decide
  | a :: b :: c :: s, d, h => by
      have ha : a.toNat < 256 := a.toNat_lt
      have hb : b.toNat < 256 := b.toNat_lt
      have hc : c.toNat < 256 := c.toNat_lt
      simp only [encode, List.mem_cons] at h
      rcases h with rfl | rfl | rfl | rfl | h
      · exact isStandard_letter _ (by omega)
      · exact isStandard_letter _ (by omega)
      · exact isStandard_letter _ (by omega)
      · exact isStandard_letter _ (by omega)
      · exact encode_alphabet s d h

/-- An encoded text is four letters for every three bytes begun. -/
theorem length_encode : ∀ b : List UInt8, (encode b).length = (b.length + 2) / 3 * 4
  | [] => rfl
  | [a] => by simp [encode]
  | [a, b] => by simp [encode]
  | a :: b :: c :: s => by
      have ih := length_encode s
      simp only [encode, List.length_cons, ih]
      omega

/-! ## 3. Padding -/

/-- A text without the padding at its end: `s.replace(/=+$/, "")`. -/
def stripped (s : List Char) : List Char := (s.reverse.dropWhile (· = '=')).reverse

theorem stripped_append (k : Nat) {s : List Char} (h : '=' ∉ s) :
    stripped (s ++ List.replicate k '=') = s := by
  have hpad : ∀ c ∈ List.replicate k '=', decide (c = '=') = true := fun c hc =>
    decide_eq_true (List.eq_of_mem_replicate hc)
  have hs : s.reverse.dropWhile (· = '=') = s.reverse := by
    cases hr : s.reverse with
    | nil => rfl
    | cons c r =>
      have hc : c ≠ '=' := fun e => h (List.mem_reverse.mp (by rw [hr, e]; exact List.mem_cons_self))
      rw [List.dropWhile_cons_of_neg (by simpa using hc)]
  rw [stripped, List.reverse_append, List.reverse_replicate, List.dropWhile_append_of_pos hpad, hs,
    List.reverse_reverse]

/-- What is stripped is padding. -/
theorem exists_stripped (s : List Char) : ∃ k, s = stripped s ++ List.replicate k '=' := by
  have hpad : ∀ c ∈ s.reverse.takeWhile (· = '='), c = '=' := fun c hc =>
    of_decide_eq_true (List.all_eq_true.mp List.all_takeWhile c hc)
  have hsplit := List.takeWhile_append_dropWhile (p := (· = '=')) (l := s.reverse)
  rw [List.eq_replicate_of_mem hpad] at hsplit
  refine ⟨(s.reverse.takeWhile (· = '=')).length, ?_⟩
  have hreverse := congrArg List.reverse hsplit
  rw [List.reverse_append, List.reverse_replicate, List.reverse_reverse] at hreverse
  exact hreverse.symm

/-- **An encoded text is letters, and padding up to a whole group.** -/
theorem encode_letters : ∀ b : List UInt8, ∃ letters,
    encode b = letters ++ List.replicate ((3 - b.length % 3) % 3) '=' ∧ '=' ∉ letters
  | [] => ⟨[], rfl, List.not_mem_nil⟩
  | [a] => by
      have ha : a.toNat < 256 := a.toNat_lt
      refine ⟨[letter (a.toNat / 4), letter (a.toNat % 4 * 16)], rfl, ?_⟩
      have h1 := letter_ne_pad (a.toNat / 4) (by omega)
      have h2 := letter_ne_pad (a.toNat % 4 * 16) (by omega)
      simp [h1.symm, h2.symm]
  | [a, b] => by
      have ha : a.toNat < 256 := a.toNat_lt
      have hb : b.toNat < 256 := b.toNat_lt
      refine ⟨[letter (a.toNat / 4), letter (a.toNat % 4 * 16 + b.toNat / 16),
        letter (b.toNat % 16 * 4)], rfl, ?_⟩
      have h1 := letter_ne_pad (a.toNat / 4) (by omega)
      have h2 := letter_ne_pad (a.toNat % 4 * 16 + b.toNat / 16) (by omega)
      have h3 := letter_ne_pad (b.toNat % 16 * 4) (by omega)
      simp [h1.symm, h2.symm, h3.symm]
  | a :: b :: c :: s => by
      have ha : a.toNat < 256 := a.toNat_lt
      have hb : b.toNat < 256 := b.toNat_lt
      have hc : c.toNat < 256 := c.toNat_lt
      obtain ⟨letters, hencode, hpad⟩ := encode_letters s
      refine ⟨letter (a.toNat / 4) :: letter (a.toNat % 4 * 16 + b.toNat / 16) ::
        letter (b.toNat % 16 * 4 + c.toNat / 64) :: letter (c.toNat % 64) :: letters, ?_, ?_⟩
      · have hlength : (a :: b :: c :: s).length % 3 = s.length % 3 := Nat.add_mod_right s.length 3
        rw [encode, hencode, hlength]
        rfl
      · have h1 := letter_ne_pad (a.toNat / 4) (by omega)
        have h2 := letter_ne_pad (a.toNat % 4 * 16 + b.toNat / 16) (by omega)
        have h3 := letter_ne_pad (b.toNat % 16 * 4 + c.toNat / 64) (by omega)
        have h4 := letter_ne_pad (c.toNat % 64) (by omega)
        simp [h1.symm, h2.symm, h3.symm, h4.symm, hpad]

/-- An encoded text is letters and at most two signs of padding. -/
theorem encode_padding (b : List UInt8) : ∃ letters k,
    encode b = letters ++ List.replicate k '=' ∧ k ≤ 2 ∧ '=' ∉ letters := by
  obtain ⟨letters, hencode, hpad⟩ := encode_letters b
  exact ⟨letters, _, hencode, by omega, hpad⟩

/-- More padding is stripped alike. -/
theorem stripped_encode (b : List UInt8) (k : Nat) :
    stripped (encode b ++ List.replicate k '=') = stripped (encode b) := by
  obtain ⟨letters, p, hencode, -, hpad⟩ := encode_padding b
  rw [hencode, List.append_assoc, List.replicate_append_replicate, stripped_append _ hpad,
    stripped_append _ hpad]

/-- More padding is decoded alike. -/
theorem decode_encode_padded (b : List UInt8) (k : Nat) :
    decode (encode b ++ List.replicate k '=') = b := by
  have hsix : ∀ s : List Char, sixBits (s ++ List.replicate k '=') = sixBits s := by
    intro s
    induction s with
    | nil => cases k <;> rfl
    | cons c s ih => exact sixBits_cons_congr Iff.rfl rfl ih
  have hdecode := decode_encode b
  rw [decode] at hdecode
  rw [decode, hsix, hdecode]

/-- **A text of whole groups that strips to what an encoded text strips to** is that text, or has
    groups of padding too many. -/
theorem eq_encode_of_stripped {b : List UInt8} {s : List Char} (hlen : s.length % 4 = 0)
    (h : stripped (encode b) = stripped s) : ∃ j, s = encode b ++ List.replicate (4 * j) '=' := by
  obtain ⟨letters, p, hencode, hp, hpad⟩ := encode_padding b
  obtain ⟨q, hq⟩ := exists_stripped s
  have hlength := length_encode b
  rw [hencode, stripped_append _ hpad] at h
  rw [← h] at hq
  rw [hencode, List.length_append, List.length_replicate] at hlength
  rw [hq, List.length_append, List.length_replicate] at hlen
  refine ⟨(q - p) / 4, ?_⟩
  rw [hq, hencode, List.append_assoc, List.replicate_append_replicate]
  have hcount : p + 4 * ((q - p) / 4) = q := by omega
  rw [hcount]

/-- An encoded text has no group of padding too many. -/
theorem eq_of_encode_eq {b b' : List UInt8} {j : Nat}
    (h : encode b = encode b' ++ List.replicate (4 * j) '=') : b = b' ∧ j = 0 := by
  have hb : b = b' := by rw [← decode_encode b, h, decode_encode_padded]
  have hlen := congrArg List.length h
  rw [hb, List.length_append, List.length_replicate] at hlen
  exact ⟨hb, by omega⟩

/-! ## 4. The URL alphabet -/

/-- The URL alphabet, without padding. -/
def base64url (b : List UInt8) : List Char :=
  ((encode b).filter (· ≠ '=')).map fun c => if c = '+' then '-' else if c = '/' then '_' else c

/-- The letter of the URL alphabet has the value of the standard one. -/
theorem value_url (c : Char) :
    value (if c = '+' then '-' else if c = '/' then '_' else c) = value c := by
  split
  · rename_i e
    rw [e]
    decide
  · split
    · rename_i e
      rw [e]
      decide
    · rfl

theorem pad_not_mem_base64url (b : List UInt8) : '=' ∉ base64url b := by
  intro hmem
  obtain ⟨c, hc, he⟩ := List.mem_map.mp hmem
  have hne : c ≠ '=' := of_decide_eq_true (List.mem_filter.mp hc).2
  split at he
  · cases he
  · split at he
    · cases he
    · exact hne he

/-- No letter of the URL alphabet is a character that the standard one lacks, but for its own. -/
theorem not_mem_base64url {c : Char} (b : List UInt8) (hc : isStandard c = false) (h1 : c ≠ '-')
    (h2 : c ≠ '_') : c ∉ base64url b := by
  intro hmem
  obtain ⟨d, hd, he⟩ := List.mem_map.mp hmem
  have hstandard := encode_alphabet b d (List.mem_filter.mp hd).1
  split at he
  · exact h1 he.symm
  · split at he
    · exact h2 he.symm
    · rw [he, hc] at hstandard
      cases hstandard

/-- The letter of the standard alphabet, for one of the URL alphabet. -/
def standard (c : Char) : Char := if c = '-' then '+' else if c = '_' then '/' else c

theorem value_standard (c : Char) : value (standard c) = value c := by
  unfold standard
  split
  · rename_i e
    rw [e]
    decide
  · split
    · rename_i e
      rw [e]
      decide
    · rfl

theorem standard_eq_pad (c : Char) : standard c = '=' ↔ c = '=' := by
  unfold standard
  split
  · rename_i e
    rw [e]
    decide
  · split
    · rename_i e
      rw [e]
      decide
    · rfl

/-- A text in the standard alphabet, with any padding, is read as it is in the URL alphabet. -/
theorem sixBits_map_standard (k : Nat) :
    ∀ s : List Char, sixBits (s.map standard ++ List.replicate k '=') = sixBits s
  | [] => by cases k <;> rfl
  | c :: s =>
      sixBits_cons_congr (standard_eq_pad c) (value_standard c) (sixBits_map_standard k s)

/-- **The URL alphabet without padding decodes to the same bytes.** -/
theorem decode_base64url (b : List UInt8) : decode (base64url b) = b := by
  have hvalue : ∀ s : List Char, ((s.filter (· ≠ '=')).map fun c =>
      if c = '+' then '-' else if c = '/' then '_' else c).filterMap value = s.filterMap value := by
    intro s
    induction s with
    | nil => rfl
    | cons c s ih =>
      by_cases hc : c = '='
      · rw [List.filter_cons_of_neg (by simp [hc]), ih, hc, List.filterMap_cons_none (by decide)]
      · rw [List.filter_cons_of_pos (by simp [hc]), List.map_cons, List.filterMap_cons,
          List.filterMap_cons, value_url, ih]
  rw [decode, sixBits_of_not_mem (pad_not_mem_base64url b), base64url, hvalue, ← sixBits_encode]
  exact decode_encode b

end Base64
