import Mathlib.Algebra.Order.Ring.Int
import Mathlib.Data.List.DropRight
import Mathlib.Data.List.TakeWhile
import Mathlib.Tactic.Common

/-! # Fixed-point decimals and their texts

An amount with a fixed number of decimal places is the integer count of its
smallest units. Three texts of an amount occur: the one a database column of
that scale prints, the shortest one a number prints, with an exponent below one
millionth, and either of them behind a minus sign. Reading gives the units back.
-/

namespace FixedPoint

/-- The number written by a nonempty list of decimal digits. -/
def natural? (text : List Char) : Option Nat :=
  if text ≠ [] ∧ text.all Char.isDigit then some (Nat.ofDigitChars 10 text 0) else none

/-- The exponent part of a number's text, as the number of places to move left.
Positive exponents stand for amounts beyond any column and are not read. -/
def exponent? : List Char → Option Nat
  | [] => some 0
  | 'e' :: '-' :: digits => natural? digits
  | _ => none

/-- Read an unsigned amount of at most `places` decimal places. -/
def magnitude? (places : Nat) (text : List Char) : Option Nat :=
  let mantissa := text.takeWhile (· != 'e')
  let whole := mantissa.takeWhile (· != '.')
  let fraction := (mantissa.dropWhile (· != '.')).drop 1
  match natural? (whole ++ fraction), exponent? (text.dropWhile (· != 'e')) with
  | some digits, some shift =>
      if fraction.length + shift ≤ places then
        some (digits * 10 ^ (places - (fraction.length + shift)))
      else none
  | _, _ => none

/-- Read a signed amount. -/
def read? (places : Nat) : List Char → Option Int
  | '-' :: text => (magnitude? places text).map fun units : Nat => -(units : Int)
  | text => (magnitude? places text).map fun units : Nat => (units : Int)

/-- The digits of a number, padded with zeros to a width. -/
def padded (width n : Nat) : List Char := (Nat.toDigits 10 n).leftpad width '0'

/-- An unsigned amount with all its decimal places. -/
def magnitudeText (places n : Nat) : List Char :=
  Nat.toDigits 10 (n / 10 ^ places) ++ '.' :: padded places (n % 10 ^ places)

/-- The text a column of the given scale prints. -/
def columnText (places : Nat) : Int → List Char
  | .ofNat n => magnitudeText places n
  | .negSucc n => '-' :: magnitudeText places (n + 1)

/-- Digits without the zeros at their end. -/
def significant (digits : List Char) : List Char := digits.rdropWhile (· == '0')

/-- The shortest text of a number below one millionth. -/
def exponentText (places n : Nat) : List Char :=
  let digits := Nat.toDigits 10 n
  let kept := significant digits
  kept.take 1 ++ (if kept.length ≤ 1 then [] else '.' :: kept.drop 1) ++
    'e' :: '-' :: Nat.toDigits 10 (places + 1 - digits.length)

/-- The shortest text of a number. -/
def numberText (places n : Nat) : List Char :=
  if 0 < n ∧ n * 10 ^ 6 < 10 ^ places then exponentText places n
  else
    let fraction := significant (padded places (n % 10 ^ places))
    Nat.toDigits 10 (n / 10 ^ places) ++ if fraction = [] then [] else '.' :: fraction

/-- `text.trim()`. -/
def trim (text : List Char) : List Char :=
  (text.dropWhile Char.isWhitespace).rdropWhile Char.isWhitespace

/-! ## Digits -/

/-- The decimal digits of a number are digits. -/
theorem isDigit_toDigits {n : Nat} {char : Char} (member : char ∈ Nat.toDigits 10 n) :
    char.isDigit = true :=
  Nat.isDigit_of_mem_toDigits (by decide) (by decide) member

/-- So are they with leading zeros. -/
theorem isDigit_padded {width n : Nat} {char : Char} (member : char ∈ padded width n) :
    char.isDigit = true := by
  rcases List.mem_append.mp member with zero | digit
  · rw [List.eq_of_mem_replicate zero]
    rfl
  · exact isDigit_toDigits digit

/-- So are they without trailing ones. -/
theorem isDigit_significant {digits : List Char} (all : ∀ char ∈ digits, char.isDigit = true) :
    ∀ char ∈ significant digits, char.isDigit = true :=
  fun char member => all char ((List.rdropWhile_prefix _ _).subset member)

/-- Digits are read as their number. -/
theorem natural?_of_digits {digits : List Char} (nonempty : digits ≠ [])
    (all : ∀ char ∈ digits, char.isDigit = true) :
    natural? digits = some (Nat.ofDigitChars 10 digits 0) :=
  if_pos ⟨nonempty, List.all_eq_true.mpr all⟩

/-- A small number is padded to the width. -/
theorem length_padded {width n : Nat} (positive : 0 < width) (small : n < 10 ^ width) :
    (padded width n).length = width := by
  have short := (Nat.length_toDigits_le_iff (by decide) positive).mpr small
  rw [padded, List.length_leftpad]
  omega

/-- Leading zeros do not change the number. -/
@[simp] theorem ofDigitChars_padded (width n : Nat) :
    Nat.ofDigitChars 10 (padded width n) 0 = n := by
  rw [padded, List.leftpad, Nat.ofDigitChars_append, Nat.ofDigitChars_replicate_zero,
    Nat.mul_zero, Nat.ofDigitChars_ten_toDigits]

/-- Dropping the zeros at the end of the digits divides by a power of ten. -/
theorem ofDigitChars_significant (digits : List Char) :
    Nat.ofDigitChars 10 (significant digits) 0 *
        10 ^ (digits.length - (significant digits).length) =
      Nat.ofDigitChars 10 digits 0 := by
  induction digits using List.reverseRecOn with
  | nil => rfl
  | append_singleton digits last ih =>
      by_cases zero : last = '0'
      · subst last
        have shorter : (significant digits).length ≤ digits.length :=
          (List.rdropWhile_prefix _ _).length_le
        have dropped : significant (digits ++ ['0']) = significant digits :=
          List.rdropWhile_concat_pos _ _ _ rfl
        have exponent : (digits ++ ['0']).length - (significant digits).length =
            digits.length - (significant digits).length + 1 := by
          rw [List.length_append, List.length_singleton]
          omega
        rw [dropped, exponent, Nat.pow_succ, ← Nat.mul_assoc, ih, Nat.ofDigitChars_append,
          Nat.ofDigitChars_cons, Nat.ofDigitChars_nil, Nat.sub_self, Nat.add_zero, Nat.mul_comm]
      · have kept : significant (digits ++ [last]) = digits ++ [last] :=
          List.rdropWhile_concat_neg _ _ _ (by simpa only [beq_iff_eq] using zero)
        rw [kept, Nat.sub_self, Nat.pow_zero, Nat.mul_one]

/-! ## Reading unsigned texts -/

/-- A digit is none of the symbols. -/
theorem ne_of_isDigit {char other : Char} (digit : char.isDigit = true)
    (symbol : other.isDigit = false) : (char != other) = true := by
  rw [bne_iff_ne]
  rintro rfl
  rw [digit] at symbol
  exact Bool.noConfusion symbol

/-- Reading `whole.fraction` with an exponent part. -/
theorem magnitude?_of_parts (places shift : Nat) (whole fraction tail : List Char)
    (nonempty : whole ≠ []) (left : ∀ char ∈ whole, char.isDigit = true)
    (right : ∀ char ∈ fraction, char.isDigit = true)
    (ending : tail = [] ∨ ∃ rest, tail = 'e' :: rest) (exponent : exponent? tail = some shift)
    (fits : fraction.length + shift ≤ places) :
    magnitude? places (whole ++ (if fraction = [] then [] else '.' :: fraction) ++ tail) =
      some (Nat.ofDigitChars 10 (whole ++ fraction) 0 *
        10 ^ (places - (fraction.length + shift))) := by
  have mantissaPlain : ∀ char ∈ whole ++ (if fraction = [] then [] else '.' :: fraction),
      (char != 'e') = true := by
    intro char member
    rcases List.mem_append.mp member with inside | inside
    · exact ne_of_isDigit (left char inside) rfl
    · split at inside
      · exact (List.not_mem_nil inside).elim
      · rcases List.mem_cons.mp inside with rfl | inside
        · rfl
        · exact ne_of_isDigit (right char inside) rfl
  have tailStops : tail.takeWhile (· != 'e') = [] ∧ tail.dropWhile (· != 'e') = tail := by
    rcases ending with rfl | ⟨rest, rfl⟩ <;> exact ⟨rfl, rfl⟩
  have mantissa : (whole ++ (if fraction = [] then [] else '.' :: fraction) ++ tail).takeWhile
      (· != 'e') = whole ++ (if fraction = [] then [] else '.' :: fraction) := by
    rw [List.takeWhile_append_of_pos mantissaPlain, tailStops.1, List.append_nil]
  have rest : (whole ++ (if fraction = [] then [] else '.' :: fraction) ++ tail).dropWhile
      (· != 'e') = tail := by
    rw [List.dropWhile_append_of_pos mantissaPlain, tailStops.2]
  have wholePlain : ∀ char ∈ whole, (char != '.') = true :=
    fun char member => ne_of_isDigit (left char member) rfl
  have wholePart : (whole ++ (if fraction = [] then [] else '.' :: fraction)).takeWhile
      (· != '.') = whole := by
    rw [List.takeWhile_append_of_pos wholePlain]
    split
    · exact List.append_nil whole
    · exact List.append_nil whole
  have fractionPart : ((whole ++ (if fraction = [] then [] else '.' :: fraction)).dropWhile
      (· != '.')).drop 1 = fraction := by
    rw [List.dropWhile_append_of_pos wholePlain]
    split
    · next empty => exact empty.symm
    · rfl
  have digits : natural? (whole ++ fraction) =
      some (Nat.ofDigitChars 10 (whole ++ fraction) 0) := by
    apply natural?_of_digits
    · exact fun empty => nonempty (List.append_eq_nil_iff.mp empty).1
    · exact fun char member => (List.mem_append.mp member).elim (left char) (right char)
  unfold magnitude?
  simp only [mantissa, rest, wholePart, fractionPart, digits, exponent, if_pos fits]

/-- The text of a column is read as what it states. -/
theorem magnitude?_magnitudeText {places : Nat} (positive : 0 < places) (n : Nat) :
    magnitude? places (magnitudeText places n) = some n := by
  have small : n % 10 ^ places < 10 ^ places := Nat.mod_lt _ (Nat.pow_pos (by decide))
  have width := length_padded positive small
  have nonempty : padded places (n % 10 ^ places) ≠ [] := by
    intro empty
    rw [empty] at width
    exact positive.ne width
  have parts := magnitude?_of_parts places 0 (Nat.toDigits 10 (n / 10 ^ places))
    (padded places (n % 10 ^ places)) []
    Nat.toDigits_ne_nil (fun _ => isDigit_toDigits) (fun _ => isDigit_padded) (.inl rfl) rfl
    (by omega)
  rw [if_neg nonempty, List.append_nil] at parts
  rw [magnitudeText, parts, width, Nat.add_zero, Nat.sub_self, Nat.pow_zero, Nat.mul_one,
    Nat.ofDigitChars_append, Nat.ofDigitChars_ten_toDigits,
    Nat.ofDigitChars_eq_ofDigitChars_zero, width, ofDigitChars_padded, Nat.div_add_mod]

/-- A positive number keeps at least one significant digit. -/
theorem significant_ne_nil {n : Nat} (positive : 0 < n) :
    significant (Nat.toDigits 10 n) ≠ [] := by
  intro empty
  have value := ofDigitChars_significant (Nat.toDigits 10 n)
  rw [empty, Nat.ofDigitChars_nil, Nat.zero_mul, Nat.ofDigitChars_ten_toDigits] at value
  omega

/-- So is the text of a small number, which has an exponent. -/
theorem magnitude?_exponentText {places n : Nat} (positive : 0 < n)
    (small : (Nat.toDigits 10 n).length ≤ places) :
    magnitude? places (exponentText places n) = some n := by
  obtain ⟨first, rest, kept⟩ :=
    List.exists_cons_of_ne_nil (significant_ne_nil positive)
  have digits : ∀ char ∈ first :: rest, char.isDigit = true := by
    rw [← kept]
    exact isDigit_significant fun _ => isDigit_toDigits
  have shorter : (first :: rest).length ≤ (Nat.toDigits 10 n).length := by
    rw [← kept]
    exact (List.rdropWhile_prefix _ _).length_le
  have value := ofDigitChars_significant (Nat.toDigits 10 n)
  rw [kept, Nat.ofDigitChars_ten_toDigits] at value
  rw [List.length_cons] at shorter value
  have parts := magnitude?_of_parts places (places + 1 - (Nat.toDigits 10 n).length) [first] rest
    ('e' :: '-' :: Nat.toDigits 10 (places + 1 - (Nat.toDigits 10 n).length))
    (List.cons_ne_nil _ _)
    (fun char member => digits char (List.mem_cons.mpr (.inl (List.mem_singleton.mp member))))
    (fun char member => digits char (List.mem_cons_of_mem _ member)) (.inr ⟨_, rfl⟩)
    (by
      rw [exponent?, natural?_of_digits Nat.toDigits_ne_nil fun _ => isDigit_toDigits,
        Nat.ofDigitChars_ten_toDigits])
    (by omega)
  have shape : exponentText places n =
      [first] ++ (if rest = [] then [] else '.' :: rest) ++
        'e' :: '-' :: Nat.toDigits 10 (places + 1 - (Nat.toDigits 10 n).length) := by
    unfold exponentText
    simp only [kept, List.take_succ_cons, List.take_zero, List.drop_succ_cons, List.drop_zero,
      List.length_cons]
    congr 2
    cases rest with
    | nil => rfl
    | cons second rest => rfl
  have moved : places - (rest.length + (places + 1 - (Nat.toDigits 10 n).length)) =
      (Nat.toDigits 10 n).length - (rest.length + 1) := by omega
  rw [shape, parts, moved, List.singleton_append, value]

/-- So is the text of a number, whichever form it has. -/
theorem magnitude?_numberText {places : Nat} (positive : 0 < places) (n : Nat) :
    magnitude? places (numberText places n) = some n := by
  unfold numberText
  split
  · next tiny =>
    apply magnitude?_exponentText tiny.1
    rw [Nat.length_toDigits_le_iff (by decide) positive]
    exact lt_of_le_of_lt (Nat.le_mul_of_pos_right n (by decide)) tiny.2
  · have small : n % 10 ^ places < 10 ^ places := Nat.mod_lt _ (Nat.pow_pos (by decide))
    have width := length_padded positive small
    have shorter : (significant (padded places (n % 10 ^ places))).length ≤ places := by
      exact (List.rdropWhile_prefix _ _).length_le.trans width.le
    have value := ofDigitChars_significant (padded places (n % 10 ^ places))
    rw [ofDigitChars_padded, width] at value
    have parts := magnitude?_of_parts places 0 (Nat.toDigits 10 (n / 10 ^ places))
      (significant (padded places (n % 10 ^ places))) []
      Nat.toDigits_ne_nil (fun _ => isDigit_toDigits)
      (isDigit_significant fun _ => isDigit_padded) (.inl rfl) rfl (by omega)
    rw [List.append_nil] at parts
    simp only [parts, Nat.add_zero, Option.some.injEq]
    rw [Nat.ofDigitChars_append, Nat.ofDigitChars_ten_toDigits,
      Nat.ofDigitChars_eq_ofDigitChars_zero, Nat.add_mul, value]
    have split : 10 ^ places = 10 ^ (significant (padded places (n % 10 ^ places))).length *
        10 ^ (places - (significant (padded places (n % 10 ^ places))).length) := by
      rw [← Nat.pow_add, Nat.add_sub_cancel' shorter]
    rw [Nat.mul_right_comm, ← split, Nat.div_add_mod]

/-! ## Signs -/

/-- The first character of an amount's text is a digit. -/
theorem read?_of_digit {places : Nat} {first : Char} {rest : List Char}
    (digit : first.isDigit = true) :
    read? places (first :: rest) =
      (magnitude? places (first :: rest)).map fun units : Nat => (units : Int) := by
  unfold read?
  split
  · next matched =>
    obtain ⟨rfl, _⟩ := List.cons.inj matched
    cases digit
  · rfl

/-- A text that begins with digits is not negative. -/
theorem read?_append_of_digits (places : Nat) {whole : List Char} (rest : List Char)
    (nonempty : whole ≠ []) (digits : ∀ char ∈ whole, char.isDigit = true) :
    read? places (whole ++ rest) =
      (magnitude? places (whole ++ rest)).map fun units : Nat => (units : Int) := by
  cases whole with
  | nil => exact (nonempty rfl).elim
  | cons first whole => exact read?_of_digit (digits first List.mem_cons_self)

/-- The text of a column is read as a number that is not negative. -/
theorem read?_magnitudeText {places : Nat} (positive : 0 < places) (n : Nat) :
    read? places (magnitudeText places n) = some (n : Int) := by
  have digits : ∀ char ∈ Nat.toDigits 10 (n / 10 ^ places), char.isDigit = true :=
    fun _ => isDigit_toDigits
  have signless := read?_append_of_digits places ('.' :: padded places (n % 10 ^ places))
    Nat.toDigits_ne_nil digits
  rw [← magnitudeText, magnitude?_magnitudeText positive] at signless
  exact signless

/-- A minus negates what follows. -/
theorem read?_minus (places : Nat) (text : List Char) :
    read? places ('-' :: text) = (magnitude? places text).map fun units : Nat =>
      -(units : Int) := by
  simp only [read?]

/-- A column's text reads back as the amount stored. -/
theorem read?_columnText {places : Nat} (positive : 0 < places) (amount : Int) :
    read? places (columnText places amount) = some amount := by
  cases amount with
  | ofNat n => exact read?_magnitudeText positive n
  | negSucc n =>
      rw [columnText, read?_minus, magnitude?_magnitudeText positive]
      rfl

/-- A minus sign before the text of a nonnegative amount negates it. -/
theorem read?_minus_columnText {places : Nat} (positive : 0 < places) {amount : Int}
    (nonneg : 0 ≤ amount) : read? places ('-' :: columnText places amount) = some (-amount) := by
  obtain ⟨n, rfl⟩ := Int.eq_ofNat_of_zero_le nonneg
  rw [read?_minus]
  change (magnitude? places (magnitudeText places n)).map _ = _
  rw [magnitude?_magnitudeText positive]
  rfl

/-- A text with a minus is no natural number. -/
theorem natural?_minus (text : List Char) : natural? ('-' :: text) = none := by
  refine if_neg ?_
  rintro ⟨_, digits⟩
  have first := List.all_eq_true.mp digits '-' List.mem_cons_self
  cases first

/-- Two minus signs are not an amount. -/
theorem read?_minus_minus (places : Nat) (text : List Char) :
    read? places ('-' :: '-' :: text) = none := by
  have mantissa : ('-' :: text).takeWhile (· != 'e') = '-' :: text.takeWhile (· != 'e') := rfl
  have whole : ('-' :: text.takeWhile (· != 'e')).takeWhile (· != '.') =
      '-' :: (text.takeWhile (· != 'e')).takeWhile (· != '.') := rfl
  rw [read?_minus]
  unfold magnitude?
  simp only [mantissa, whole, List.cons_append, natural?_minus, Option.map_none]

/-- A minus sign before a column's text is readable only for a nonnegative
amount, which it negates. -/
theorem read?_minus_columnText_cases {places : Nat} (positive : 0 < places) {amount read : Int}
    (readable : read? places ('-' :: columnText places amount) = some read) :
    0 ≤ amount ∧ read = -amount := by
  cases amount with
  | ofNat n =>
      have nonneg : (0 : Int) ≤ Int.ofNat n := Int.natCast_nonneg n
      rw [read?_minus_columnText positive nonneg] at readable
      exact ⟨nonneg, (Option.some.inj readable).symm⟩
  | negSucc n =>
      rw [columnText, read?_minus_minus] at readable
      cases readable

/-- The text of a number is read as the number. -/
theorem read?_numberText {places : Nat} (positive : 0 < places) (n : Nat) :
    read? places (numberText places n) = some (n : Int) := by
  have first : ∃ digit rest, numberText places n = digit :: rest ∧ digit.isDigit = true := by
    unfold numberText
    split
    · next tiny =>
      obtain ⟨digit, rest, kept⟩ := List.exists_cons_of_ne_nil (significant_ne_nil tiny.1)
      refine ⟨digit, _, by unfold exponentText; simp only [kept]; rfl, ?_⟩
      exact isDigit_significant (fun _ => isDigit_toDigits) digit (by rw [kept]; simp)
    · obtain ⟨digit, rest, whole⟩ :=
        List.exists_cons_of_ne_nil (Nat.toDigits_ne_nil (b := 10) (n := n / 10 ^ places))
      refine ⟨digit, _, by simp only [whole]; rfl, ?_⟩
      exact isDigit_toDigits (by rw [whole]; exact List.mem_cons_self)
  obtain ⟨digit, rest, shape, isDigit⟩ := first
  rw [shape, read?_of_digit isDigit, ← shape, magnitude?_numberText positive]
  rfl

/-- With a minus it is read as the negative number. -/
theorem read?_minus_numberText {places : Nat} (positive : 0 < places) (n : Nat) :
    read? places ('-' :: numberText places n) = some (-(n : Int)) := by
  rw [read?_minus, magnitude?_numberText positive]
  rfl

/-! ## Stripping the sign -/

/-- A digit is no blank. -/
theorem isWhitespace_of_isDigit {char : Char} (digit : char.isDigit = true) :
    char.isWhitespace = false := by
  cases blank : char.isWhitespace with
  | false => rfl
  | true =>
      simp only [Char.isWhitespace, Bool.or_eq_true, decide_eq_true_eq] at blank
      rcases blank with ((rfl | rfl) | rfl) | rfl <;> cases digit

/-- A text without blanks is trimmed already. -/
theorem trim_of_plain {text : List Char} (plain : ∀ char ∈ text, char.isWhitespace = false) :
    trim text = text := by
  have front : text.dropWhile Char.isWhitespace = text := by
    cases text with
    | nil => rfl
    | cons first rest =>
        rw [List.dropWhile_cons_of_neg (by simp only [plain first List.mem_cons_self,
          Bool.false_eq_true, not_false_eq_true])]
  rw [trim, front]
  induction text using List.reverseRecOn with
  | nil => rfl
  | append_singleton text last _ =>
      have kept := plain last (List.mem_append_right _ (List.mem_singleton.mpr rfl))
      exact List.rdropWhile_concat_neg _ _ _ (by simp only [kept, Bool.false_eq_true,
        not_false_eq_true])

/-- The text of a column has digits and points only. -/
theorem mem_magnitudeText {places n : Nat} {char : Char} (member : char ∈ magnitudeText places n) :
    char.isDigit = true ∨ char = '.' := by
  rcases List.mem_append.mp member with whole | rest
  · exact .inl (isDigit_toDigits whole)
  · rcases List.mem_cons.mp rest with point | fraction
    · exact .inr point
    · exact .inl (isDigit_padded fraction)

/-- Without its minus the text of a column is that of the absolute value. -/
theorem erase_minus_columnText (places : Nat) (amount : Int) :
    (columnText places amount).erase '-' = magnitudeText places amount.natAbs := by
  cases amount with
  | ofNat n =>
      apply List.erase_of_not_mem
      intro member
      rcases mem_magnitudeText member with digit | point
      · cases digit
      · cases point
  | negSucc n => exact List.erase_cons_head _ _

/-- Removing the sign of a column's text and trimming it leaves the absolute amount. -/
theorem read?_stripped_columnText {places : Nat} (positive : 0 < places) (amount : Int) :
    read? places (trim ((columnText places amount).erase '-')) = some (amount.natAbs : Int) := by
  rw [erase_minus_columnText, trim_of_plain, read?_magnitudeText positive]
  intro char member
  rcases mem_magnitudeText member with digit | rfl
  · exact isWhitespace_of_isDigit digit
  · rfl

end FixedPoint
