import Mathlib.Data.List.Basic
import Mathlib.Tactic.Common

/-! # Bytes as text

Text travels as UTF-8, and bytes travel inside text as base64. Writing is exact
in both; reading accepts anything. Malformed UTF-8 is read with a replacement
character for every maximal part of a sequence, and characters outside the
base64 alphabet are skipped. What was written reads back unchanged.
-/

namespace ByteText

/-! ## UTF-8 -/

/-- The UTF-8 bytes of a text. -/
def utf8 (text : List Char) : List UInt8 := text.flatMap String.utf8EncodeChar

/-- What malformed bytes are read as. -/
def replacement : Char := '\uFFFD'

/-- A sequence that has begun: the bytes still missing, the bits read so far and
the range of the next byte. -/
structure Pending where
  needed : Nat
  point : Nat
  lower : Nat
  upper : Nat

/-- The first byte of a sequence is a character, the beginning of a longer
sequence, or malformed. -/
def lead (byte : Nat) : Char ⊕ Pending :=
  if byte ≤ 0x7F then .inl (Char.ofNat byte)
  else if 0xC2 ≤ byte ∧ byte ≤ 0xDF then .inr ⟨1, byte % 0x20, 0x80, 0xBF⟩
  else if 0xE0 ≤ byte ∧ byte ≤ 0xEF then
    .inr ⟨2, byte % 0x10, if byte = 0xE0 then 0xA0 else 0x80,
      if byte = 0xED then 0x9F else 0xBF⟩
  else if 0xF0 ≤ byte ∧ byte ≤ 0xF4 then
    .inr ⟨3, byte % 0x08, if byte = 0xF0 then 0x90 else 0x80,
      if byte = 0xF4 then 0x8F else 0xBF⟩
  else .inl replacement

/-- Read UTF-8 in the middle of a sequence or between two. -/
def decode : Option Pending → List UInt8 → List Char
  | none, [] => []
  | some _, [] => [replacement]
  | none, byte :: rest =>
      match lead byte.toNat with
      | .inl char => char :: decode none rest
      | .inr pending => decode (some pending) rest
  | some pending, byte :: rest =>
      if pending.lower ≤ byte.toNat ∧ byte.toNat ≤ pending.upper then
        if pending.needed = 1 then
          Char.ofNat (pending.point * 64 + byte.toNat % 64) :: decode none rest
        else
          decode (some ⟨pending.needed - 1, pending.point * 64 + byte.toNat % 64, 0x80, 0xBF⟩)
            rest
      else
        -- The byte does not continue the sequence and is read as a first one.
        replacement ::
          match lead byte.toNat with
          | .inl char => char :: decode none rest
          | .inr pending => decode (some pending) rest

/-- `buffer.toString()`. -/
def text (bytes : List UInt8) : List Char := decode none bytes

theorem decode_none (byte : UInt8) (rest : List UInt8) :
    decode none (byte :: rest) =
      match lead byte.toNat with
      | .inl char => char :: decode none rest
      | .inr pending => decode (some pending) rest := by
  rw [decode.eq_def]

theorem decode_inside {pending : Pending} {byte : UInt8} (rest : List UInt8)
    (inside : pending.lower ≤ byte.toNat ∧ byte.toNat ≤ pending.upper) :
    decode (some pending) (byte :: rest) =
      if pending.needed = 1 then
        Char.ofNat (pending.point * 64 + byte.toNat % 64) :: decode none rest
      else
        decode (some ⟨pending.needed - 1, pending.point * 64 + byte.toNat % 64, 0x80, 0xBF⟩)
          rest := by
  rw [decode.eq_def]
  exact if_pos inside

/-- The last byte of a sequence. -/
theorem decode_last {point lower upper : Nat} {byte : UInt8} (rest : List UInt8)
    (inside : lower ≤ byte.toNat ∧ byte.toNat ≤ upper) :
    decode (some ⟨1, point, lower, upper⟩) (byte :: rest) =
      Char.ofNat (point * 64 + byte.toNat % 64) :: decode none rest :=
  (decode_inside rest inside).trans (if_pos rfl)

/-- A byte of a sequence before the last one. -/
theorem decode_middle {needed point lower upper : Nat} {byte : UInt8} (rest : List UInt8)
    (inside : lower ≤ byte.toNat ∧ byte.toNat ≤ upper) :
    decode (some ⟨needed + 2, point, lower, upper⟩) (byte :: rest) =
      decode (some ⟨needed + 1, point * 64 + byte.toNat % 64, 0x80, 0xBF⟩) rest :=
  (decode_inside rest inside).trans (if_neg (by simp only; omega))

theorem toNat_ofNat {n : Nat} (small : n < 256) : (UInt8.ofNat n).toNat = n := by
  rw [UInt8.toNat_ofNat', Nat.mod_eq_of_lt small]

/-- The surrogates are no characters. -/
theorem toNat_cases (char : Char) :
    char.val.toNat < 0xD800 ∨ 0xDFFF < char.val.toNat ∧ char.val.toNat < 0x110000 :=
  char.valid

theorem lead_two {byte : Nat} (range : 0xC2 ≤ byte ∧ byte ≤ 0xDF) :
    lead byte = .inr ⟨1, byte % 0x20, 0x80, 0xBF⟩ := by
  unfold lead
  rw [if_neg (by omega), if_pos range]

theorem lead_three {byte : Nat} (range : 0xE0 ≤ byte ∧ byte ≤ 0xEF) :
    lead byte = .inr ⟨2, byte % 0x10, if byte = 0xE0 then 0xA0 else 0x80,
      if byte = 0xED then 0x9F else 0xBF⟩ := by
  unfold lead
  rw [if_neg (by omega), if_neg (by omega), if_pos range]

theorem lead_four {byte : Nat} (range : 0xF0 ≤ byte ∧ byte ≤ 0xF4) :
    lead byte = .inr ⟨3, byte % 0x08, if byte = 0xF0 then 0x90 else 0x80,
      if byte = 0xF4 then 0x8F else 0xBF⟩ := by
  unfold lead
  rw [if_neg (by omega), if_neg (by omega), if_neg (by omega), if_pos range]

/-- The bytes of one character are read as that character. -/
theorem decode_utf8EncodeChar (char : Char) (rest : List UInt8) :
    decode none (String.utf8EncodeChar char ++ rest) = char :: decode none rest := by
  have range := toNat_cases char
  have back : Char.ofNat char.val.toNat = char := Char.ofNat_toNat char
  unfold String.utf8EncodeChar
  generalize char.val.toNat = point at range back
  simp only
  split
  · next one =>
    rw [List.cons_append, decode_none, toNat_ofNat (by omega), lead, if_pos one, back]
    rfl
  · split
    · next one two =>
      have high : point / 64 % 32 + 192 < 256 := by omega
      have low : point % 64 + 128 < 256 := by omega
      have joined : (point / 64 % 32 + 192) % 32 * 64 + (point % 64 + 128) % 64 = point := by omega
      rw [List.cons_append, decode_none, toNat_ofNat high, lead_two (by omega)]
      simp only [List.cons_append, List.nil_append]
      rw [decode_last rest (by rw [toNat_ofNat low]; omega), toNat_ofNat low, joined, back]
    · split
      · next one two three =>
        have high : point / 4096 % 16 + 224 < 256 := by omega
        have middle : point / 64 % 64 + 128 < 256 := by omega
        have low : point % 64 + 128 < 256 := by omega
        have joined : ((point / 4096 % 16 + 224) % 16 * 64 + (point / 64 % 64 + 128) % 64) * 64 +
            (point % 64 + 128) % 64 = point := by omega
        rw [List.cons_append, decode_none, toNat_ofNat high, lead_three (by omega)]
        simp only [List.cons_append, List.nil_append]
        rw [decode_middle _ (by rw [toNat_ofNat middle]; split <;> split <;> omega),
          decode_last rest (by rw [toNat_ofNat low]; omega), toNat_ofNat middle, toNat_ofNat low,
          joined, back]
      · next one two three =>
        have high : point / 262144 % 8 + 240 < 256 := by omega
        have second : point / 4096 % 64 + 128 < 256 := by omega
        have middle : point / 64 % 64 + 128 < 256 := by omega
        have low : point % 64 + 128 < 256 := by omega
        have joined : (((point / 262144 % 8 + 240) % 8 * 64 + (point / 4096 % 64 + 128) % 64) * 64 +
            (point / 64 % 64 + 128) % 64) * 64 + (point % 64 + 128) % 64 = point := by omega
        rw [List.cons_append, decode_none, toNat_ofNat high, lead_four (by omega)]
        simp only [List.cons_append, List.nil_append]
        rw [decode_middle _ (by rw [toNat_ofNat second]; split <;> split <;> omega),
          decode_middle _ (by rw [toNat_ofNat middle]; omega),
          decode_last rest (by rw [toNat_ofNat low]; omega), toNat_ofNat second,
          toNat_ofNat middle, toNat_ofNat low, joined, back]

/-- What was written as UTF-8 reads back unchanged. -/
theorem text_utf8 (chars : List Char) : text (utf8 chars) = chars := by
  induction chars with
  | nil => rfl
  | cons char rest ih =>
      rw [text, utf8, List.flatMap_cons, decode_utf8EncodeChar]
      exact congrArg (char :: ·) ih

/-! ## Base64 -/

/-- The base64 character of six bits. -/
def sextetChar (n : Nat) : Char :=
  if n < 26 then Char.ofNat (n + 65)
  else if n < 52 then Char.ofNat (n + 71)
  else if n < 62 then Char.ofNat (n - 4)
  else if n = 62 then '+'
  else '/'

/-- The six bits of a character of the base64 alphabet or of the URL-safe one. -/
def sextet? (char : Char) : Option Nat :=
  let n := char.toNat
  if 65 ≤ n ∧ n ≤ 90 then some (n - 65)
  else if 97 ≤ n ∧ n ≤ 122 then some (n - 71)
  else if 48 ≤ n ∧ n ≤ 57 then some (n + 4)
  else if char = '+' ∨ char = '-' then some 62
  else if char = '/' ∨ char = '_' then some 63
  else none

/-- `buffer.toString('base64')`. -/
def base64 : List UInt8 → List Char
  | [] => []
  | [a] =>
      let bits := a.toNat * 16
      [sextetChar (bits / 64), sextetChar (bits % 64), '=', '=']
  | [a, b] =>
      let bits := (a.toNat * 256 + b.toNat) * 4
      [sextetChar (bits / 4096), sextetChar (bits / 64 % 64), sextetChar (bits % 64), '=']
  | a :: b :: c :: rest =>
      let bits := (a.toNat * 256 + b.toNat) * 256 + c.toNat
      sextetChar (bits / 262144) :: sextetChar (bits / 4096 % 64) ::
        sextetChar (bits / 64 % 64) :: sextetChar (bits % 64) :: base64 rest

/-- The bytes of a list of six-bit groups. Bits that do not fill a byte are dropped. -/
def octets : List Nat → List UInt8
  | a :: b :: c :: d :: rest =>
      let bits := ((a * 64 + b) * 64 + c) * 64 + d
      UInt8.ofNat (bits / 65536) :: UInt8.ofNat (bits / 256 % 256) :: UInt8.ofNat (bits % 256) ::
        octets rest
  | [a, b, c] =>
      let bits := (a * 64 + b) * 64 + c
      [UInt8.ofNat (bits / 1024), UInt8.ofNat (bits / 4 % 256)]
  | [a, b] => [UInt8.ofNat ((a * 64 + b) / 16)]
  | _ => []

/-- `Buffer.from(text, 'base64')`. -/
def ofBase64 (text : List Char) : List UInt8 := octets (text.filterMap sextet?)

theorem sextet?_sextetChar {n : Nat} (small : n < 64) : sextet? (sextetChar n) = some n := by
  have all : ∀ m < 64, sextet? (sextetChar m) = some m := by decide
  exact all n small

/-- The groups of a character of the alphabet and of what follows it. -/
theorem sextets_cons {n : Nat} (small : n < 64) (rest : List Char) :
    (sextetChar n :: rest).filterMap sextet? = n :: rest.filterMap sextet? :=
  List.filterMap_cons_some (sextet?_sextetChar small)

theorem sextets_padding (rest : List Char) :
    ('=' :: rest).filterMap sextet? = rest.filterMap sextet? :=
  List.filterMap_cons_none (by decide)

theorem ofNat_eq {n : Nat} (byte : UInt8) (same : n = byte.toNat) : UInt8.ofNat n = byte := by
  rw [same, UInt8.ofNat_toNat]

/-- Bytes written as base64 read back unchanged. -/
theorem ofBase64_base64 (bytes : List UInt8) : ofBase64 (base64 bytes) = bytes := by
  unfold ofBase64
  fun_induction base64 bytes with
  | case1 => rfl
  | case2 a bits =>
      have first := a.toNat_lt
      rw [sextets_cons (by omega), sextets_cons (by omega), sextets_padding, sextets_padding]
      simp only [List.filterMap_nil, octets]
      rw [ofNat_eq a (by omega)]
  | case3 a b bits =>
      have first := a.toNat_lt
      have second := b.toNat_lt
      rw [sextets_cons (by omega), sextets_cons (by omega), sextets_cons (by omega),
        sextets_padding]
      simp only [List.filterMap_nil, octets]
      rw [ofNat_eq a (by omega), ofNat_eq b (by omega)]
  | case4 a b c rest bits ih =>
      have first := a.toNat_lt
      have second := b.toNat_lt
      have third := c.toNat_lt
      rw [sextets_cons (by omega), sextets_cons (by omega), sextets_cons (by omega),
        sextets_cons (by omega)]
      simp only [octets]
      rw [ih, ofNat_eq a (by omega), ofNat_eq b (by omega),
        ofNat_eq c (by omega)]

end ByteText
