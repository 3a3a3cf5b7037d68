/-
  File:      ProxmoxMcp/Lib/Utf8.lean
  Subject:   UTF-8: the encoder, and the decoder that writes U+FFFD for every maximal ill-formed
             part. Nothing here names the repository.

  `decode_encode`: decoding what was encoded gives the text back, whatever follows it.
  `encode_decode`: bytes that are decoded without U+FFFD are the bytes of their text.
-/
import Mathlib

namespace Utf8

/-! ## 1. Encoding -/

/-- The bytes of one character. -/
def encodeChar (c : Char) : List UInt8 :=
  let n := c.toNat
  if n < 0x80 then [.ofNat n]
  else if n < 0x800 then [.ofNat (0xC0 + n / 64), .ofNat (0x80 + n % 64)]
  else if n < 0x10000 then
    [.ofNat (0xE0 + n / 4096), .ofNat (0x80 + n / 64 % 64), .ofNat (0x80 + n % 64)]
  else
    [.ofNat (0xF0 + n / 262144), .ofNat (0x80 + n / 4096 % 64), .ofNat (0x80 + n / 64 % 64),
      .ofNat (0x80 + n % 64)]

/-- The bytes of a text. -/
def encode (s : List Char) : List UInt8 := s.flatMap encodeChar

@[simp] theorem encode_nil : encode [] = [] := rfl

@[simp] theorem encode_cons (c : Char) (s : List Char) :
    encode (c :: s) = encodeChar c ++ encode s := rfl

/-- An ASCII character is its own byte. -/
theorem encodeChar_ascii {c : Char} (h : c.toNat < 0x80) : encodeChar c = [.ofNat c.toNat] := by
  simp [encodeChar, h]

theorem encodeChar_ne_nil (c : Char) : encodeChar c ≠ [] := by
  unfold encodeChar
  simp only
  split
  · simp
  · split
    · simp
    · split <;> simp

/-! ## 2. Decoding -/

/-- U+FFFD. -/
def replacement : Char := '\ufffd'

/-- Is the byte between the bounds? -/
def within (lo hi : Nat) (b : UInt8) : Bool := decide (lo ≤ b.toNat) && decide (b.toNat ≤ hi)

/-- Least and greatest second byte after the lead byte `a` of three. -/
def bounds3 (a : Nat) : Nat × Nat :=
  if a = 0xE0 then (0xA0, 0xBF) else if a = 0xED then (0x80, 0x9F) else (0x80, 0xBF)

/-- Least and greatest second byte after the lead byte `a` of four. -/
def bounds4 (a : Nat) : Nat × Nat :=
  if a = 0xF0 then (0x90, 0xBF) else if a = 0xF4 then (0x80, 0x8F) else (0x80, 0xBF)

/-- The decoder. A byte that ends an ill-formed part is read again as the start of the next. -/
def decode : List UInt8 → List Char
  | [] => []
  | a :: s =>
      if a.toNat < 0x80 then Char.ofNat a.toNat :: decode s
      else if 0xC2 ≤ a.toNat ∧ a.toNat ≤ 0xDF then
        match s with
        | [] => [replacement]
        | b :: s' =>
            if within 0x80 0xBF b then
              Char.ofNat ((a.toNat - 0xC0) * 64 + (b.toNat - 0x80)) :: decode s'
            else replacement :: decode (b :: s')
      else if 0xE0 ≤ a.toNat ∧ a.toNat ≤ 0xEF then
        match s with
        | [] => [replacement]
        | b :: s' =>
            if within (bounds3 a.toNat).1 (bounds3 a.toNat).2 b then
              match s' with
              | [] => [replacement]
              | c :: s'' =>
                  if within 0x80 0xBF c then
                    Char.ofNat ((a.toNat - 0xE0) * 4096 + (b.toNat - 0x80) * 64 + (c.toNat - 0x80))
                      :: decode s''
                  else replacement :: decode (c :: s'')
            else replacement :: decode (b :: s')
      else if 0xF0 ≤ a.toNat ∧ a.toNat ≤ 0xF4 then
        match s with
        | [] => [replacement]
        | b :: s' =>
            if within (bounds4 a.toNat).1 (bounds4 a.toNat).2 b then
              match s' with
              | [] => [replacement]
              | c :: s'' =>
                  if within 0x80 0xBF c then
                    match s'' with
                    | [] => [replacement]
                    | d :: s''' =>
                        if within 0x80 0xBF d then
                          Char.ofNat ((a.toNat - 0xF0) * 262144 + (b.toNat - 0x80) * 4096 +
                            (c.toNat - 0x80) * 64 + (d.toNat - 0x80)) :: decode s'''
                        else replacement :: decode (d :: s''')
                  else replacement :: decode (c :: s'')
            else replacement :: decode (b :: s')
      else replacement :: decode s

/-! ## 3. The round trip -/

theorem toNat_ofNat {n : Nat} (h : n < 256) : (UInt8.ofNat n).toNat = n := by
  simp [Nat.mod_eq_of_lt h]

theorem within_ofNat {lo hi n : Nat} (h : n < 256) (h1 : lo ≤ n) (h2 : n ≤ hi) :
    within lo hi (.ofNat n) = true := by
  simp only [within, toNat_ofNat h, Bool.and_eq_true, decide_eq_true_eq]
  exact ⟨h1, h2⟩

/-- A character is no surrogate and below `0x110000`. -/
theorem char_range (c : Char) : c.toNat < 0xD800 ∨ 0xDFFF < c.toNat ∧ c.toNat < 0x110000 := by
  have := c.valid
  exact this

theorem decode_encodeChar (c : Char) (s : List UInt8) :
    decode (encodeChar c ++ s) = c :: decode s := by
  have hr := char_range c
  have hc : Char.ofNat c.toNat = c := Char.ofNat_toNat c
  unfold encodeChar
  simp only
  split
  · rename_i h
    rw [List.singleton_append, decode.eq_def]
    simp only [toNat_ofNat (show c.toNat < 256 by omega), if_pos h, hc]
  · rename_i h
    split
    · rename_i h2
      rw [List.cons_append, List.singleton_append, decode.eq_def]
      simp only [toNat_ofNat (show 0xC0 + c.toNat / 64 < 256 by omega),
        toNat_ofNat (show 0x80 + c.toNat % 64 < 256 by omega),
        within_ofNat (show 0x80 + c.toNat % 64 < 256 by omega) (by omega : 0x80 ≤ _)
          (by omega : _ ≤ 0xBF)]
      rw [if_neg (by omega), if_pos (by omega)]
      simp only [if_true]
      rw [show (0xC0 + c.toNat / 64 - 0xC0) * 64 + (0x80 + c.toNat % 64 - 0x80) = c.toNat by omega,
        hc]
    · rename_i h2
      split
      · rename_i h3
        have hb : within (bounds3 (0xE0 + c.toNat / 4096)).1 (bounds3 (0xE0 + c.toNat / 4096)).2
            (.ofNat (0x80 + c.toNat / 64 % 64)) = true := by
          unfold bounds3
          split
          · exact within_ofNat (by omega) (by simp only; omega) (by simp only; omega)
          · split
            · exact within_ofNat (by omega) (by simp only; omega) (by simp only; omega)
            · exact within_ofNat (by omega) (by simp only; omega) (by simp only; omega)
        rw [List.cons_append, List.cons_append, List.singleton_append, decode.eq_def]
        simp only [toNat_ofNat (show 0xE0 + c.toNat / 4096 < 256 by omega),
          toNat_ofNat (show 0x80 + c.toNat / 64 % 64 < 256 by omega),
          toNat_ofNat (show 0x80 + c.toNat % 64 < 256 by omega), hb,
          within_ofNat (show 0x80 + c.toNat % 64 < 256 by omega) (by omega : 0x80 ≤ _)
            (by omega : _ ≤ 0xBF)]
        rw [if_neg (by omega), if_neg (by omega), if_pos (by omega)]
        simp only [if_true]
        rw [show (0xE0 + c.toNat / 4096 - 0xE0) * 4096 + (0x80 + c.toNat / 64 % 64 - 0x80) * 64 +
          (0x80 + c.toNat % 64 - 0x80) = c.toNat by omega, hc]
      · rename_i h3
        have hb : within (bounds4 (0xF0 + c.toNat / 262144)).1 (bounds4 (0xF0 + c.toNat / 262144)).2
            (.ofNat (0x80 + c.toNat / 4096 % 64)) = true := by
          unfold bounds4
          split
          · exact within_ofNat (by omega) (by simp only; omega) (by simp only; omega)
          · split
            · exact within_ofNat (by omega) (by simp only; omega) (by simp only; omega)
            · exact within_ofNat (by omega) (by simp only; omega) (by simp only; omega)
        rw [List.cons_append, List.cons_append, List.cons_append, List.singleton_append, decode.eq_def]
        simp only [toNat_ofNat (show 0xF0 + c.toNat / 262144 < 256 by omega),
          toNat_ofNat (show 0x80 + c.toNat / 4096 % 64 < 256 by omega),
          toNat_ofNat (show 0x80 + c.toNat / 64 % 64 < 256 by omega),
          toNat_ofNat (show 0x80 + c.toNat % 64 < 256 by omega), hb,
          within_ofNat (show 0x80 + c.toNat / 64 % 64 < 256 by omega) (by omega : 0x80 ≤ _)
            (by omega : _ ≤ 0xBF),
          within_ofNat (show 0x80 + c.toNat % 64 < 256 by omega) (by omega : 0x80 ≤ _)
            (by omega : _ ≤ 0xBF)]
        rw [if_neg (by omega), if_neg (by omega), if_neg (by omega), if_pos (by omega)]
        simp only [if_true]
        rw [show (0xF0 + c.toNat / 262144 - 0xF0) * 262144 +
          (0x80 + c.toNat / 4096 % 64 - 0x80) * 4096 + (0x80 + c.toNat / 64 % 64 - 0x80) * 64 +
          (0x80 + c.toNat % 64 - 0x80) = c.toNat by omega, hc]

/-- **Decoding what was encoded gives the text back.** -/
theorem decode_encode_append (s : List Char) (t : List UInt8) :
    decode (encode s ++ t) = s ++ decode t := by
  induction s with
  | nil => rfl
  | cons c s ih => rw [encode_cons, List.append_assoc, decode_encodeChar, ih, List.cons_append]

theorem decode_encode (s : List Char) : decode (encode s) = s := by
  have := decode_encode_append s []
  simpa [decode] using this

/-- Every character takes a byte at least. -/
theorem length_le_encode : ∀ s : List Char, s.length ≤ (encode s).length
  | [] => Nat.le_refl _
  | c :: s => by
      have ih := length_le_encode s
      have hpos := List.length_pos_of_ne_nil (encodeChar_ne_nil c)
      rw [encode_cons, List.length_append, List.length_cons]
      omega

/-- Two texts with the same bytes are the same text. -/
theorem encode_injective {s t : List Char} (h : encode s = encode t) : s = t := by
  rw [← decode_encode s, h, decode_encode]

/-! ## 4. Bytes that are text -/

theorem toNat_char {n : Nat} (h : n < 0xD800 ∨ 0xDFFF < n ∧ n < 0x110000) :
    (Char.ofNat n).toNat = n := by
  have hvalid : n.isValidChar := h
  rw [Char.ofNat, dif_pos hvalid]
  rfl

theorem eq_ofNat {b : UInt8} {n : Nat} (h : n = b.toNat) : UInt8.ofNat n = b := by
  rw [h, UInt8.ofNat_toNat]

theorem within_iff {lo hi : Nat} {b : UInt8} :
    within lo hi b = true ↔ lo ≤ b.toNat ∧ b.toNat ≤ hi := by
  simp [within]

/-- Two bytes that are decoded are those of their character. -/
theorem encodeChar_two {a b : UInt8} (ha : 0xC2 ≤ a.toNat ∧ a.toNat ≤ 0xDF)
    (hb : within 0x80 0xBF b = true) :
    encodeChar (Char.ofNat ((a.toNat - 0xC0) * 64 + (b.toNat - 0x80))) = [a, b] := by
  rw [within_iff] at hb
  unfold encodeChar
  simp only [toNat_char (show (a.toNat - 0xC0) * 64 + (b.toNat - 0x80) < 0xD800 ∨ _ by omega)]
  rw [if_neg (by omega), if_pos (by omega), eq_ofNat (b := a) (by omega),
    eq_ofNat (b := b) (by omega)]

/-- Three bytes. The second one excludes overlong forms and surrogates. -/
theorem encodeChar_three {a b c : UInt8} (ha : 0xE0 ≤ a.toNat ∧ a.toNat ≤ 0xEF)
    (hb : within (bounds3 a.toNat).1 (bounds3 a.toNat).2 b = true)
    (hc : within 0x80 0xBF c = true) :
    encodeChar (Char.ofNat ((a.toNat - 0xE0) * 4096 + (b.toNat - 0x80) * 64 + (c.toNat - 0x80))) =
      [a, b, c] := by
  rw [within_iff] at hb hc
  have hrange : 0x80 ≤ b.toNat ∧ b.toNat ≤ 0xBF ∧ (a.toNat = 0xE0 → 0xA0 ≤ b.toNat) ∧
      (a.toNat = 0xED → b.toNat ≤ 0x9F) := by
    unfold bounds3 at hb
    split at hb
    · simp only at hb
      omega
    · split at hb
      · simp only at hb
        omega
      · simp only at hb
        omega
  have hchar := toNat_char (n := (a.toNat - 0xE0) * 4096 + (b.toNat - 0x80) * 64 + (c.toNat - 0x80))
    (by omega)
  unfold encodeChar
  simp only [hchar]
  rw [if_neg (by omega), if_neg (by omega), if_pos (by omega), eq_ofNat (b := a) (by omega),
    eq_ofNat (b := b) (by omega), eq_ofNat (b := c) (by omega)]

/-- Four bytes. -/
theorem encodeChar_four {a b c d : UInt8} (ha : 0xF0 ≤ a.toNat ∧ a.toNat ≤ 0xF4)
    (hb : within (bounds4 a.toNat).1 (bounds4 a.toNat).2 b = true)
    (hc : within 0x80 0xBF c = true) (hd : within 0x80 0xBF d = true) :
    encodeChar (Char.ofNat ((a.toNat - 0xF0) * 262144 + (b.toNat - 0x80) * 4096 +
      (c.toNat - 0x80) * 64 + (d.toNat - 0x80))) = [a, b, c, d] := by
  rw [within_iff] at hb hc hd
  have hrange : 0x80 ≤ b.toNat ∧ b.toNat ≤ 0xBF ∧ (a.toNat = 0xF0 → 0x90 ≤ b.toNat) ∧
      (a.toNat = 0xF4 → b.toNat ≤ 0x8F) := by
    unfold bounds4 at hb
    split at hb
    · simp only at hb
      omega
    · split at hb
      · simp only at hb
        omega
      · simp only at hb
        omega
  have hchar := toNat_char (n := (a.toNat - 0xF0) * 262144 + (b.toNat - 0x80) * 4096 +
    (c.toNat - 0x80) * 64 + (d.toNat - 0x80)) (by omega)
  unfold encodeChar
  simp only [hchar]
  rw [if_neg (by omega), if_neg (by omega), if_neg (by omega), eq_ofNat (b := a) (by omega),
    eq_ofNat (b := b) (by omega), eq_ofNat (b := c) (by omega), eq_ofNat (b := d) (by omega)]

/-- **Bytes that are decoded without U+FFFD are the bytes of their text.** -/
theorem encode_decode {b : List UInt8} (h : replacement ∉ decode b) : encode (decode b) = b := by
  fun_induction decode b with
  | case1 => rfl
  | case2 a s ha ih =>
    have hrest := ih fun hm => h (List.mem_cons_of_mem _ hm)
    have hchar := toNat_char (n := a.toNat) (by omega)
    rw [encode_cons, hrest, encodeChar_ascii (by rw [hchar]; exact ha), hchar, eq_ofNat rfl]
    rfl
  | case4 a _ ha b s hb ih =>
    have hrest := ih fun hm => h (List.mem_cons_of_mem _ hm)
    rw [encode_cons, hrest, encodeChar_two ha hb]
    rfl
  | case8 a _ _ ha b hb c s hc ih =>
    have hrest := ih fun hm => h (List.mem_cons_of_mem _ hm)
    rw [encode_cons, hrest, encodeChar_three ha hb hc]
    rfl
  | case14 a _ _ _ ha b hb c hc d s hd ih =>
    have hrest := ih fun hm => h (List.mem_cons_of_mem _ hm)
    rw [encode_cons, hrest, encodeChar_four ha hb hc hd]
    rfl
  -- the other cases have written U+FFFD
  | _ => exact absurd List.mem_cons_self h
end Utf8
