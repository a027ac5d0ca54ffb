import Mathlib.Data.List.TakeWhile
import Mathlib.Tactic.Common

/-! # JSON texts

Values, the text `JSON.stringify` writes for one and the values `JSON.parse`
reads. The numbers are any type whose values have a text that reads back; a
value without one, an infinity, is written as `null`. A reader returns what is
left of the text, which is shorter than the text, so that reading ends.
-/

namespace JsonText

/-! ## Values -/

/-- Whether a character occurs in the text of a number. -/
def isNumeric (char : Char) : Bool :=
  char.isDigit || char == '-' || char == '+' || char == '.' || char == 'e' || char == 'E'

/-- Whether a number begins with the character. -/
def isNumberStart (char : Char) : Bool := char.isDigit || char == '-'

/-- A type of numbers with their texts. -/
structure Numerals (ν : Type) where
  /-- The text of a number, unless it has none. -/
  print : ν → Option (List Char)
  /-- The number a token stands for, if the token is well formed. -/
  read : List Char → Option ν
  starts : ∀ {n text}, print n = some text → ∃ first rest,
    text = first :: rest ∧ isNumberStart first = true
  numeric : ∀ {n text}, print n = some text → ∀ char ∈ text, isNumeric char = true
  read_print : ∀ {n text}, print n = some text → read text = some n

/-- A JSON value. An object is the list of its members as they were written. -/
inductive Json (ν : Type) where
  | null
  | bool (value : Bool)
  | number (value : ν)
  | string (value : List Char)
  | array (items : List (Json ν))
  | object (members : List (List Char × Json ν))

variable {ν : Type}

/-- The member of an object with the name; the last one if there are several. -/
def member? (members : List (List Char × Json ν)) (name : List Char) : Option (Json ν) :=
  members.reverse.lookup name

/-! ## Writing -/

def hexChar (n : Nat) : Char := if n < 10 then Char.ofNat (n + 48) else Char.ofNat (n + 87)

/-- How a character stands in a string. -/
def escaped (char : Char) : List Char :=
  if char = '"' then ['\\', '"']
  else if char = '\\' then ['\\', '\\']
  else if char = '\x08' then ['\\', 'b']
  else if char = '\x0c' then ['\\', 'f']
  else if char = '\n' then ['\\', 'n']
  else if char = '\r' then ['\\', 'r']
  else if char = '\t' then ['\\', 't']
  else if char.toNat < 32 then
    ['\\', 'u', '0', '0', hexChar (char.toNat / 16), hexChar (char.toNat % 16)]
  else [char]

def quoted (chars : List Char) : List Char := '"' :: (chars.flatMap escaped ++ ['"'])

section Writing

variable (numerals : Numerals ν)

mutual

/-- `JSON.stringify(value)`. -/
def stringify : Json ν → List Char
  | .null => ['n', 'u', 'l', 'l']
  | .bool true => ['t', 'r', 'u', 'e']
  | .bool false => ['f', 'a', 'l', 's', 'e']
  | .number n => (numerals.print n).getD ['n', 'u', 'l', 'l']
  | .string chars => quoted chars
  | .array [] => ['[', ']']
  | .array (first :: rest) => '[' :: (stringify first ++ stringifyItems rest)
  | .object [] => ['\x7b', '\x7d']
  | .object ((name, first) :: rest) =>
      '\x7b' :: (quoted name ++ ':' :: (stringify first ++ stringifyMembers rest))

/-- The items after the first one, up to the end of the array. -/
def stringifyItems : List (Json ν) → List Char
  | [] => [']']
  | item :: rest => ',' :: (stringify item ++ stringifyItems rest)

/-- The members after the first one, up to the end of the object. -/
def stringifyMembers : List (List Char × Json ν) → List Char
  | [] => ['\x7d']
  | (name, value) :: rest =>
      ',' :: (quoted name ++ ':' :: (stringify value ++ stringifyMembers rest))

end

mutual

/-- The value that is written: numbers without a text become `null`. -/
def written : Json ν → Json ν
  | .null => .null
  | .bool value => .bool value
  | .number n => if (numerals.print n).isSome then .number n else .null
  | .string chars => .string chars
  | .array items => .array (writtenItems items)
  | .object members => .object (writtenMembers members)

def writtenItems : List (Json ν) → List (Json ν)
  | [] => []
  | item :: rest => written item :: writtenItems rest

def writtenMembers : List (List Char × Json ν) → List (List Char × Json ν)
  | [] => []
  | (name, value) :: rest => (name, written value) :: writtenMembers rest

end

end Writing

/-! ## Reading -/

/-- What is left of a text after some of it has been read. -/
abbrev Rest (text : List Char) := { rest : List Char // rest.length < text.length }

/-- What is left of the rest is left of the text. -/
def Rest.beyond {text : List Char} (rest : Rest text) (later : Rest rest.1) : Rest text :=
  ⟨later.1, later.2.trans rest.2⟩

def isBlank (char : Char) : Bool :=
  char == ' ' || char == '\t' || char == '\n' || char == '\r'

/-- The next character that is not blank. -/
def next? : (text : List Char) → Option (Char × Rest text)
  | [] => none
  | char :: rest =>
      if isBlank char then (next? rest).map fun found =>
        ⟨found.1, found.2.1, Nat.lt_succ_of_lt found.2.2⟩
      else some ⟨char, rest, Nat.lt_succ_self _⟩

def hexDigit? (char : Char) : Option Nat :=
  let n := char.toNat
  if 48 ≤ n ∧ n ≤ 57 then some (n - 48)
  else if 97 ≤ n ∧ n ≤ 102 then some (n - 87)
  else if 65 ≤ n ∧ n ≤ 70 then some (n - 55)
  else none

/-- The code unit written by four hexadecimal digits. -/
def unit? : (text : List Char) → Option (Nat × Rest text)
  | a :: b :: c :: d :: rest => do
      let a ← hexDigit? a
      let b ← hexDigit? b
      let c ← hexDigit? c
      let d ← hexDigit? d
      return ⟨((a * 16 + b) * 16 + c) * 16 + d, rest, by simp only [List.length_cons]; omega⟩
  | _ => none

/-- The second half of a surrogate pair. -/
def lowSurrogate? : (text : List Char) → Option (Nat × Rest text)
  | '\\' :: 'u' :: rest => do
      let ⟨low, later⟩ ← unit? rest
      if 0xDC00 ≤ low ∧ low ≤ 0xDFFF then
        return ⟨low - 0xDC00, later.1, by
          have shorter := later.2
          simp only [List.length_cons]
          omega⟩
      else none
  | _ => none

/-- The character of a code unit and of what follows it. A surrogate without its
other half is no character and is read as the replacement character. -/
def unicode (high : Nat) {text : List Char} (rest : Rest text) : Char × Rest text :=
  if 0xD800 ≤ high ∧ high ≤ 0xDBFF then
    match lowSurrogate? rest.1 with
    | some ⟨low, later⟩ =>
        (Char.ofNat (0x10000 + (high - 0xD800) * 0x400 + low), rest.beyond later)
    | none => ('\uFFFD', rest)
  else if 0xDC00 ≤ high ∧ high ≤ 0xDFFF then ('\uFFFD', rest)
  else (Char.ofNat high, rest)

/-- The character a short escape stands for. -/
def shortEscape? (char : Char) : Option Char :=
  if char = '"' then some '"'
  else if char = '\\' then some '\\'
  else if char = '/' then some '/'
  else if char = 'b' then some '\x08'
  else if char = 'f' then some '\x0c'
  else if char = 'n' then some '\n'
  else if char = 'r' then some '\r'
  else if char = 't' then some '\t'
  else none

/-- The character an escape stands for, after its backslash. -/
def escape? : (text : List Char) → Option (Char × Rest text)
  | [] => none
  | char :: rest =>
      let here : Rest (char :: rest) := ⟨rest, Nat.lt_succ_self _⟩
      if char = 'u' then do
        let ⟨high, later⟩ ← unit? rest
        return unicode high (here.beyond later)
      else do
        let found ← shortEscape? char
        return (found, here)

/-- The rest of a string, up to its closing quote. -/
def characters (text : List Char) : Option (List Char × Rest text) :=
  match text with
  | [] => none
  | char :: rest =>
      let here : Rest (char :: rest) := ⟨rest, Nat.lt_succ_self _⟩
      if char = '"' then some ([], here)
      else if char = '\\' then do
        let ⟨found, later⟩ ← escape? rest
        let ⟨chars, last⟩ ← characters later.1
        return (found :: chars, here.beyond (later.beyond last))
      else if char.toNat < 32 then none
      else do
        let ⟨chars, last⟩ ← characters rest
        return (char :: chars, here.beyond last)
termination_by text.length
decreasing_by
  · exact Nat.lt_succ_of_lt later.2
  · exact Nat.lt_succ_self _

/-- The name of a member, up to its colon. -/
def name? (text : List Char) : Option (List Char × Rest text) := do
  let ⟨char, opened⟩ ← next? text
  if char = '"' then
    let ⟨name, named⟩ ← characters opened.1
    let ⟨colon, later⟩ ← next? named.1
    if colon = ':' then return (name, opened.beyond (named.beyond later)) else none
  else none

/-- The value of a word whose first letter has been read. -/
def word {text : List Char} (letters : List Char) (value : Json ν) (rest : Rest text) :
    Option (Json ν × Rest text) :=
  if letters.isPrefixOf rest.1 then
    some ⟨value, rest.1.drop letters.length, by
      rw [List.length_drop]
      exact (Nat.sub_le _ _).trans_lt rest.2⟩
  else none

section Reading

variable (numerals : Numerals ν)

/-- A number whose first character has been read. -/
def number {text : List Char} (first : Char) (rest : Rest text) :
    Option (Json ν × Rest text) := do
  let n ← numerals.read (first :: rest.1.takeWhile isNumeric)
  return ⟨.number n, rest.1.dropWhile isNumeric,
    (List.dropWhile_sublist _).length_le.trans_lt rest.2⟩

mutual

/-- Read a value. -/
def value (text : List Char) : Option (Json ν × Rest text) := do
  let ⟨char, rest⟩ ← next? text
  if char = '\x7b' then
    let ⟨after, later⟩ ← next? rest.1
    if after = '\x7d' then return (.object [], rest.beyond later)
    else
      let ⟨read, last⟩ ← members rest.1
      return (.object read, rest.beyond last)
  else if char = '[' then
    let ⟨after, later⟩ ← next? rest.1
    if after = ']' then return (.array [], rest.beyond later)
    else
      let ⟨read, last⟩ ← items rest.1
      return (.array read, rest.beyond last)
  else if char = '"' then
    let ⟨chars, last⟩ ← characters rest.1
    return (.string chars, rest.beyond last)
  else if char = 't' then word ['r', 'u', 'e'] (.bool true) rest
  else if char = 'f' then word ['a', 'l', 's', 'e'] (.bool false) rest
  else if char = 'n' then word ['u', 'l', 'l'] .null rest
  else if isNumberStart char then number numerals char rest
  else none
termination_by 2 * text.length
decreasing_by
  · have := rest.2
    omega
  · have := rest.2
    omega

/-- Read the items of an array up to its end. -/
def items (text : List Char) : Option (List (Json ν) × Rest text) := do
  let ⟨first, rest⟩ ← value text
  let ⟨char, later⟩ ← next? rest.1
  if char = ']' then return ([first], rest.beyond later)
  else if char = ',' then
    let ⟨others, last⟩ ← items later.1
    return (first :: others, rest.beyond (later.beyond last))
  else none
termination_by 2 * text.length + 1
decreasing_by
  · omega
  · have := rest.2
    have := later.2
    omega

/-- Read the members of an object up to its end. -/
def members (text : List Char) : Option (List (List Char × Json ν) × Rest text) := do
  let ⟨name, named⟩ ← name? text
  let ⟨first, rest⟩ ← value named.1
  let ⟨char, later⟩ ← next? rest.1
  if char = '\x7d' then return ([(name, first)], named.beyond (rest.beyond later))
  else if char = ',' then
    let ⟨others, last⟩ ← members later.1
    return ((name, first) :: others, named.beyond (rest.beyond (later.beyond last)))
  else none
termination_by 2 * text.length + 1
decreasing_by
  · have := named.2
    omega
  · have := named.2
    have := rest.2
    have := later.2
    omega

end

/-- `JSON.parse(text)`. -/
def parse (text : List Char) : Option (Json ν) := do
  let ⟨read, rest⟩ ← value numerals text
  if (next? rest.1).isNone then return read else none

end Reading

/-! ## What is written is read -/

/-- A reader returns the value and leaves the given rest. -/
def Reads {α : Type} {text : List Char} (result : Option (α × Rest text)) (value : α)
    (left : List Char) : Prop :=
  ∃ shorter, result = some (value, ⟨left, shorter⟩)

theorem next?_of_not_blank (char : Char) (visible : isBlank char = false) (rest : List Char) :
    Reads (next? (char :: rest)) char rest := by
  refine ⟨Nat.lt_succ_self _, ?_⟩
  rw [next?, if_neg (by rw [visible]; exact Bool.false_ne_true)]

/-- The digits of a small code unit are read. -/
theorem unit?_hexChar {n : Nat} (small : n < 32) (rest : List Char) :
    Reads (unit? ('0' :: '0' :: hexChar (n / 16) :: hexChar (n % 16) :: rest)) n rest := by
  have digits : ∀ digit < 16, hexDigit? (hexChar digit) = some digit := by decide
  refine ⟨by simp only [List.length_cons]; omega, ?_⟩
  have zero : hexDigit? '0' = some 0 := by decide
  have joined : ((0 * 16 + 0) * 16 + n / 16) * 16 + n % 16 = n := by omega
  simp only [unit?, zero, digits (n / 16) (by omega), digits (n % 16) (by omega),
    Option.pure_def, Option.bind_eq_bind, Option.bind_some, joined]

theorem characters_quote (rest : List Char) : Reads (characters ('"' :: rest)) [] rest := by
  refine ⟨Nat.lt_succ_self _, ?_⟩
  rw [characters]
  rfl

theorem characters_plain {char : Char} {chars rest left : List Char} (quote : char ≠ '"')
    (backslash : char ≠ '\\') (printable : ¬ char.toNat < 32)
    (later : Reads (characters rest) chars left) :
    Reads (characters (char :: rest)) (char :: chars) left := by
  obtain ⟨shorter, read⟩ := later
  refine ⟨Nat.lt_succ_of_lt shorter, ?_⟩
  rw [characters]
  simp only [if_neg quote, if_neg backslash, if_neg printable, read]
  rfl

theorem characters_escape {found : Char} {text chars rest left : List Char}
    (escape : Reads (escape? text) found rest) (later : Reads (characters rest) chars left) :
    Reads (characters ('\\' :: text)) (found :: chars) left := by
  obtain ⟨shorter, read⟩ := escape
  obtain ⟨shorter', read'⟩ := later
  refine ⟨Nat.lt_succ_of_lt (shorter'.trans shorter), ?_⟩
  rw [characters]
  simp only [read]
  rw [if_neg (by decide), if_pos trivial]
  simp only [Option.bind_eq_bind, Option.bind_some, read']
  rfl

theorem escape?_short {char found : Char} (short : shortEscape? char = some found)
    (notUnit : char ≠ 'u') (rest : List Char) : Reads (escape? (char :: rest)) found rest := by
  refine ⟨Nat.lt_succ_self _, ?_⟩
  rw [escape?, if_neg notUnit, short]
  rfl

theorem escape?_unit {n : Nat} (small : n < 32) (rest : List Char) :
    Reads (escape? ('u' :: '0' :: '0' :: hexChar (n / 16) :: hexChar (n % 16) :: rest))
      (Char.ofNat n) rest := by
  obtain ⟨shorter, read⟩ := unit?_hexChar small rest
  refine ⟨Nat.lt_succ_of_lt shorter, ?_⟩
  rw [escape?, if_pos rfl, read]
  simp only [Option.pure_def, Option.bind_eq_bind, Option.bind_some, unicode]
  rw [if_neg (by omega), if_neg (by omega)]
  rfl

/-- A character is written as a short escape, as its code unit or as itself. -/
theorem escaped_cases (char : Char) :
    (∃ letter, escaped char = ['\\', letter] ∧ shortEscape? letter = some char ∧ letter ≠ 'u') ∨
      (char.toNat < 32 ∧ escaped char =
        ['\\', 'u', '0', '0', hexChar (char.toNat / 16), hexChar (char.toNat % 16)]) ∨
      (escaped char = [char] ∧ char ≠ '"' ∧ char ≠ '\\' ∧ ¬ char.toNat < 32) := by
  unfold escaped
  split
  · next same => exact .inl ⟨'"', rfl, by rw [same]; rfl, by decide⟩
  split
  · next same => exact .inl ⟨'\\', rfl, by rw [same]; rfl, by decide⟩
  split
  · next same => exact .inl ⟨'b', rfl, by rw [same]; rfl, by decide⟩
  split
  · next same => exact .inl ⟨'f', rfl, by rw [same]; rfl, by decide⟩
  split
  · next same => exact .inl ⟨'n', rfl, by rw [same]; rfl, by decide⟩
  split
  · next same => exact .inl ⟨'r', rfl, by rw [same]; rfl, by decide⟩
  split
  · next same => exact .inl ⟨'t', rfl, by rw [same]; rfl, by decide⟩
  split
  · next small => exact .inr (.inl ⟨small, rfl⟩)
  · next quote backslash _ _ _ _ _ printable => exact .inr (.inr ⟨rfl, quote, backslash, printable⟩)

/-- One character of a string. -/
theorem characters_escaped {chars rest left : List Char} (char : Char)
    (later : Reads (characters rest) chars left) :
    Reads (characters (escaped char ++ rest)) (char :: chars) left := by
  rcases escaped_cases char with ⟨letter, image, short, notUnit⟩ | ⟨small, image⟩ |
    ⟨image, quote, backslash, printable⟩
  · rw [image]
    exact characters_escape (escape?_short short notUnit rest) later
  · have escape := escape?_unit small rest
    rw [Char.ofNat_toNat] at escape
    rw [image]
    exact characters_escape escape later
  · rw [image]
    exact characters_plain quote backslash printable later

/-- A string is read up to its closing quote. -/
theorem characters_quoted (chars rest : List Char) :
    Reads (characters (chars.flatMap escaped ++ '"' :: rest)) chars rest := by
  induction chars with
  | nil => exact characters_quote rest
  | cons char chars ih =>
      rw [List.flatMap_cons, List.append_assoc]
      exact characters_escaped char ih

/-- The name of a member is read up to its colon. -/
theorem name?_quoted (name rest : List Char) :
    Reads (name? (quoted name ++ ':' :: rest)) name rest := by
  have text : quoted name ++ ':' :: rest = '"' :: (name.flatMap escaped ++ '"' :: ':' :: rest) := by
    rw [quoted, List.cons_append, List.append_assoc]
    rfl
  obtain ⟨shorter, opened⟩ :=
    next?_of_not_blank '"' rfl (name.flatMap escaped ++ '"' :: ':' :: rest)
  obtain ⟨shorter', named⟩ := characters_quoted name (':' :: rest)
  obtain ⟨shorter'', colon⟩ := next?_of_not_blank ':' rfl rest
  rw [text]
  refine ⟨(shorter''.trans shorter').trans shorter, ?_⟩
  simp only [name?, opened, named, colon, Option.bind_eq_bind, Option.bind_some, ↓reduceIte]
  rfl

section RoundTrip

variable (numerals : Numerals ν)

theorem value_object_nil (rest : List Char) :
    Reads (value numerals ('\x7b' :: '\x7d' :: rest)) (.object []) rest := by
  obtain ⟨shorter, opened⟩ := next?_of_not_blank '\x7b' rfl ('\x7d' :: rest)
  obtain ⟨shorter', closed⟩ := next?_of_not_blank '\x7d' rfl rest
  refine ⟨shorter'.trans shorter, ?_⟩
  rw [value]
  simp only [opened, closed, Option.bind_eq_bind, Option.bind_some, ↓reduceIte]
  rfl

theorem value_object {first : Char} {text rest : List Char}
    {found : List (List Char × Json ν)} (visible : isBlank first = false) (notEnd : first ≠ '\x7d')
    (read : Reads (members numerals (first :: text)) found rest) :
    Reads (value numerals ('\x7b' :: first :: text)) (.object found) rest := by
  obtain ⟨shorter, opened⟩ := next?_of_not_blank '\x7b' rfl (first :: text)
  obtain ⟨_, begun⟩ := next?_of_not_blank first visible text
  obtain ⟨shorter', read⟩ := read
  refine ⟨shorter'.trans shorter, ?_⟩
  rw [value]
  simp only [opened, begun, read, Option.bind_eq_bind, Option.bind_some, if_neg notEnd]
  rw [if_pos trivial]
  rfl

theorem value_array_nil (rest : List Char) :
    Reads (value numerals ('[' :: ']' :: rest)) (.array []) rest := by
  obtain ⟨shorter, opened⟩ := next?_of_not_blank '[' rfl (']' :: rest)
  obtain ⟨shorter', closed⟩ := next?_of_not_blank ']' rfl rest
  refine ⟨shorter'.trans shorter, ?_⟩
  rw [value]
  simp only [opened, closed, Option.bind_eq_bind, Option.bind_some, ↓reduceIte]
  rw [if_neg (by decide)]
  rfl

theorem value_array {first : Char} {text rest : List Char} {found : List (Json ν)}
    (visible : isBlank first = false) (notEnd : first ≠ ']')
    (read : Reads (items numerals (first :: text)) found rest) :
    Reads (value numerals ('[' :: first :: text)) (.array found) rest := by
  obtain ⟨shorter, opened⟩ := next?_of_not_blank '[' rfl (first :: text)
  obtain ⟨_, begun⟩ := next?_of_not_blank first visible text
  obtain ⟨shorter', read⟩ := read
  refine ⟨shorter'.trans shorter, ?_⟩
  rw [value]
  simp only [opened, begun, read, Option.bind_eq_bind, Option.bind_some, if_neg notEnd]
  rw [if_neg (by decide), if_pos trivial]
  rfl

theorem value_string {text chars rest : List Char} (read : Reads (characters text) chars rest) :
    Reads (value numerals ('"' :: text)) (.string chars) rest := by
  obtain ⟨shorter, opened⟩ := next?_of_not_blank '"' rfl text
  obtain ⟨shorter', read⟩ := read
  refine ⟨shorter'.trans shorter, ?_⟩
  rw [value]
  simp only [opened, read, Option.bind_eq_bind, Option.bind_some]
  rw [if_neg (by decide), if_neg (by decide), if_pos trivial]
  rfl

theorem value_true (rest : List Char) :
    Reads (value numerals ('t' :: 'r' :: 'u' :: 'e' :: rest)) (.bool true) rest := by
  obtain ⟨_, opened⟩ := next?_of_not_blank 't' rfl ('r' :: 'u' :: 'e' :: rest)
  refine ⟨by simp only [List.length_cons]; omega, ?_⟩
  rw [value, opened]
  rfl

theorem value_false (rest : List Char) :
    Reads (value numerals ('f' :: 'a' :: 'l' :: 's' :: 'e' :: rest)) (.bool false) rest := by
  obtain ⟨_, opened⟩ := next?_of_not_blank 'f' rfl ('a' :: 'l' :: 's' :: 'e' :: rest)
  refine ⟨by simp only [List.length_cons]; omega, ?_⟩
  rw [value, opened]
  rfl

theorem value_null (rest : List Char) :
    Reads (value numerals ('n' :: 'u' :: 'l' :: 'l' :: rest)) .null rest := by
  obtain ⟨_, opened⟩ := next?_of_not_blank 'n' rfl ('u' :: 'l' :: 'l' :: rest)
  refine ⟨by simp only [List.length_cons]; omega, ?_⟩
  rw [value, opened]
  rfl

/-- A text that does not go on with a number. -/
def Stops (text : List Char) : Prop :=
  ∀ first rest, text = first :: rest → isNumeric first = false

omit numerals in
theorem takeWhile_numeric {token rest : List Char} (numeric : ∀ char ∈ token, isNumeric char = true)
    (stops : Stops rest) :
    (token ++ rest).takeWhile isNumeric = token ∧ (token ++ rest).dropWhile isNumeric = rest := by
  have ends : rest.takeWhile isNumeric = [] ∧ rest.dropWhile isNumeric = rest := by
    cases rest with
    | nil => exact ⟨rfl, rfl⟩
    | cons first rest =>
        have stop := stops first rest rfl
        simp only [List.takeWhile_cons, List.dropWhile_cons, stop, Bool.false_eq_true, ↓reduceIte,
          and_self]
  rw [List.takeWhile_append_of_pos numeric, List.dropWhile_append_of_pos numeric, ends.1, ends.2,
    List.append_nil]
  exact ⟨rfl, rfl⟩

/-- The first character of a number is none of those other values begin with. -/
theorem starts_apart {char : Char} (start : isNumberStart char = true) :
    isBlank char = false ∧ char ∉ ['\x7b', '\x7d', '[', ']', '"', 't', 'f', 'n'] := by
  constructor
  · by_contra blank
    simp only [isBlank, Bool.not_eq_false, Bool.or_eq_true, beq_iff_eq] at blank
    rcases blank with ((rfl | rfl) | rfl) | rfl <;> exact absurd start (by decide)
  · intro member
    simp only [List.mem_cons, List.not_mem_nil, or_false] at member
    rcases member with rfl | rfl | rfl | rfl | rfl | rfl | rfl | rfl <;>
      exact absurd start (by decide)

theorem value_number {n : ν} {text rest : List Char} (printed : numerals.print n = some text)
    (stops : Stops rest) : Reads (value numerals (text ++ rest)) (.number n) rest := by
  obtain ⟨first, token, rfl, start⟩ := numerals.starts printed
  have numeric := numerals.numeric printed
  obtain ⟨visible, apart⟩ := starts_apart start
  simp only [List.mem_cons, List.not_mem_nil, or_false, not_or] at apart
  obtain ⟨brace, _, bracket, _, quote, letterT, letterF, letterN⟩ := apart
  obtain ⟨shorter, opened⟩ := next?_of_not_blank first visible (token ++ rest)
  obtain ⟨taken, dropped⟩ :=
    takeWhile_numeric (fun char member => numeric char (List.mem_cons_of_mem _ member)) stops
  refine ⟨by simp only [List.cons_append, List.length_cons, List.length_append]; omega, ?_⟩
  rw [value]
  simp only [List.cons_append, opened, Option.bind_eq_bind, Option.bind_some, if_neg brace,
    if_neg bracket, if_neg quote, if_neg letterT, if_neg letterF, if_neg letterN, if_pos start,
    number, taken, numerals.read_print printed, dropped, Option.pure_def]

theorem items_last {first : Json ν} {text rest : List Char}
    (read : Reads (value numerals text) first (']' :: rest)) :
    Reads (items numerals text) [first] rest := by
  obtain ⟨shorter, read⟩ := read
  obtain ⟨shorter', closed⟩ := next?_of_not_blank ']' rfl rest
  refine ⟨shorter'.trans shorter, ?_⟩
  rw [items]
  simp only [read, closed, Option.bind_eq_bind, Option.bind_some, ↓reduceIte]
  rfl

theorem items_more {first : Json ν} {others : List (Json ν)} {text later rest : List Char}
    (read : Reads (value numerals text) first (',' :: later))
    (more : Reads (items numerals later) others rest) :
    Reads (items numerals text) (first :: others) rest := by
  obtain ⟨shorter, read⟩ := read
  obtain ⟨shorter', comma⟩ := next?_of_not_blank ',' rfl later
  obtain ⟨shorter'', more⟩ := more
  refine ⟨(shorter''.trans shorter').trans shorter, ?_⟩
  rw [items]
  simp only [read, comma, more, Option.bind_eq_bind, Option.bind_some, ↓reduceIte]
  rw [if_neg (by decide)]
  rfl

theorem members_last {name : List Char} {first : Json ν} {text named rest : List Char}
    (begun : Reads (name? text) name named)
    (read : Reads (value numerals named) first ('\x7d' :: rest)) :
    Reads (members numerals text) [(name, first)] rest := by
  obtain ⟨shorter, begun⟩ := begun
  obtain ⟨shorter', read⟩ := read
  obtain ⟨shorter'', closed⟩ := next?_of_not_blank '\x7d' rfl rest
  refine ⟨(shorter''.trans shorter').trans shorter, ?_⟩
  rw [members]
  simp only [begun, read, closed, Option.bind_eq_bind, Option.bind_some, ↓reduceIte]
  rfl

theorem members_more {name : List Char} {first : Json ν} {others : List (List Char × Json ν)}
    {text named later rest : List Char} (begun : Reads (name? text) name named)
    (read : Reads (value numerals named) first (',' :: later))
    (more : Reads (members numerals later) others rest) :
    Reads (members numerals text) ((name, first) :: others) rest := by
  obtain ⟨shorter, begun⟩ := begun
  obtain ⟨shorter', read⟩ := read
  obtain ⟨shorter'', comma⟩ := next?_of_not_blank ',' rfl later
  obtain ⟨fewer, more⟩ := more
  refine ⟨((fewer.trans shorter'').trans shorter').trans shorter, ?_⟩
  rw [members]
  simp only [begun, read, comma, more, Option.bind_eq_bind, Option.bind_some, ↓reduceIte]
  rw [if_neg (by decide)]
  rfl

/-- The text of a value does not begin with a blank or the end of an array. -/
theorem stringify_starts (json : Json ν) : ∃ first rest, stringify numerals json = first :: rest ∧
    isBlank first = false ∧ first ≠ ']' := by
  cases json with
  | null => exact ⟨_, _, by rw [stringify], rfl, by decide⟩
  | bool truth => cases truth <;> exact ⟨_, _, by rw [stringify], rfl, by decide⟩
  | number n =>
      rw [stringify]
      cases printed : numerals.print n with
      | none => exact ⟨_, _, rfl, rfl, by decide⟩
      | some text =>
          obtain ⟨first, rest, shape, start⟩ := numerals.starts printed
          obtain ⟨visible, apart⟩ := starts_apart start
          refine ⟨first, rest, shape, visible, ?_⟩
          rintro rfl
          exact apart (by decide)
  | string chars => exact ⟨_, _, by rw [stringify, quoted], rfl, by decide⟩
  | array items => cases items <;> exact ⟨_, _, by rw [stringify], rfl, by decide⟩
  | object members => rcases members with _ | ⟨⟨name, first⟩, rest⟩ <;>
      exact ⟨_, _, by rw [stringify], rfl, by decide⟩

omit numerals in
theorem stops_of_symbol {char : Char} (symbol : isNumeric char = false) (rest : List Char) :
    Stops (char :: rest) := by
  rintro first later ⟨⟩
  exact symbol

theorem stringifyItems_stops (others : List (Json ν)) (rest : List Char) :
    Stops (stringifyItems numerals others ++ rest) := by
  cases others with
  | nil => rw [stringifyItems]; exact stops_of_symbol rfl _
  | cons item others => rw [stringifyItems]; exact stops_of_symbol rfl _

theorem stringifyMembers_stops (others : List (List Char × Json ν)) (rest : List Char) :
    Stops (stringifyMembers numerals others ++ rest) := by
  rcases others with _ | ⟨⟨name, first⟩, others⟩
  · rw [stringifyMembers]; exact stops_of_symbol rfl _
  · rw [stringifyMembers]; exact stops_of_symbol rfl _

mutual

/-- The text of a value is read up to where it ends. -/
theorem value_stringify (json : Json ν) (rest : List Char) (stops : Stops rest) :
    Reads (value numerals (stringify numerals json ++ rest)) (written numerals json) rest := by
  match json with
  | .null => rw [stringify, written]; exact value_null numerals rest
  | .bool true => rw [stringify, written]; exact value_true numerals rest
  | .bool false => rw [stringify, written]; exact value_false numerals rest
  | .number n =>
      rw [stringify, written]
      cases printed : numerals.print n with
      | none => exact value_null numerals rest
      | some text => exact value_number numerals printed stops
  | .string chars =>
      rw [stringify, written, quoted, List.cons_append, List.append_assoc]
      exact value_string numerals (characters_quoted chars rest)
  | .array [] =>
      rw [stringify, written, writtenItems]
      exact value_array_nil numerals rest
  | .array (first :: others) =>
      rw [stringify, written, writtenItems, List.cons_append, List.append_assoc]
      obtain ⟨char, text, shape, visible, notEnd⟩ := stringify_starts numerals first
      have read := items_stringify others (stringify numerals first) (written numerals first) rest
        fun later => value_stringify first later
      rw [shape, List.cons_append] at read ⊢
      exact value_array numerals visible notEnd read
  | .object [] =>
      rw [stringify, written, writtenMembers]
      exact value_object_nil numerals rest
  | .object ((name, first) :: others) =>
      rw [stringify, written, writtenMembers, List.cons_append, List.append_assoc,
        List.cons_append, List.append_assoc]
      exact value_object numerals rfl (by decide) (members_stringify others name
        (stringify numerals first) (written numerals first) rest
        fun later => value_stringify first later)

/-- The items of an array are read up to its end. -/
theorem items_stringify (others : List (Json ν)) (text : List Char) (first : Json ν)
    (rest : List Char)
    (reads : ∀ later, Stops later → Reads (value numerals (text ++ later)) first later) :
    Reads (items numerals (text ++ (stringifyItems numerals others ++ rest)))
      (first :: writtenItems numerals others) rest := by
  have read := reads _ (stringifyItems_stops numerals others rest)
  match others with
  | [] =>
      rw [stringifyItems] at read ⊢
      rw [writtenItems]
      exact items_last numerals read
  | item :: others =>
      rw [stringifyItems, List.cons_append, List.append_assoc] at read ⊢
      rw [writtenItems]
      exact items_more numerals read (items_stringify others (stringify numerals item)
        (written numerals item) rest fun later => value_stringify item later)

/-- The members of an object are read up to its end. -/
theorem members_stringify (others : List (List Char × Json ν)) (name text : List Char)
    (first : Json ν) (rest : List Char)
    (reads : ∀ later, Stops later → Reads (value numerals (text ++ later)) first later) :
    Reads (members numerals (quoted name ++ ':' ::
        (text ++ (stringifyMembers numerals others ++ rest))))
      ((name, first) :: writtenMembers numerals others) rest := by
  have read := reads _ (stringifyMembers_stops numerals others rest)
  match others with
  | [] =>
      rw [stringifyMembers] at read ⊢
      rw [writtenMembers]
      exact members_last numerals (name?_quoted _ _) read
  | (other, item) :: others =>
      rw [stringifyMembers, List.cons_append, List.append_assoc, List.cons_append,
        List.append_assoc] at read ⊢
      rw [writtenMembers]
      exact members_more numerals (name?_quoted _ _) read (members_stringify others other
        (stringify numerals item) (written numerals item) rest
        fun later => value_stringify item later)

end

/-- What `JSON.stringify` writes is what `JSON.parse` reads. -/
theorem parse_stringify (json : Json ν) :
    parse numerals (stringify numerals json) = some (written numerals json) := by
  have read := value_stringify numerals json [] (by rintro _ _ ⟨⟩)
  rw [List.append_nil] at read
  obtain ⟨_, read⟩ := read
  simp only [parse, read, Option.bind_eq_bind, Option.bind_some, next?]
  rfl

end RoundTrip

end JsonText
