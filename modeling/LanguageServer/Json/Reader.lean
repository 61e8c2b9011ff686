import LanguageServer.Json.Basic

namespace LanguageServer
namespace Json

/-!
Reading JSON.  The grammar is the strict one: one value, no trailing commas,
no comments, nothing behind the value but blanks.  A text is cut into tokens
first, and the reader works on these.
-/

/-! ## Tokens

Blanks separate tokens; punctuation stands alone; a string runs to its closing
quote; every other token is a word, the longest run of letters, digits, signs and
points.  A word is one of three names or a number. -/

/-- A token. -/
inductive Token where
  | openArray
  | closeArray
  | openObject
  | closeObject
  | comma
  | colon
  | string (content : Literal)
  | atom (value : Json)

/-- The four characters that may stand between tokens. -/
def isBlank (c : Char) : Bool :=
  c == ' ' || c == '\n' || c == '\r' || c == '\t'

/-- Characters of a word. -/
def isWordChar (c : Char) : Bool :=
  c.isAlphanum || c == '+' || c == '-' || c == '.'

/-- The token of a punctuation mark. -/
def punctuation? (c : Char) : Option Token :=
  if c = '[' then some .openArray
  else if c = ']' then some .closeArray
  else if c = '\x7b' then some .openObject
  else if c = '\x7d' then some .closeObject
  else if c = ',' then some .comma
  else if c = ':' then some .colon
  else none

/-- The value of a decimal digit. -/
def digitValue (digit : Char) : Nat := digit.toNat - '0'.toNat

/-- The number that a run of decimal digits denotes. -/
def decimalValue (digits : List Char) : Nat :=
  digits.foldl (fun total digit => total * 10 + digitValue digit) 0

/-- The greatest 64-bit word. -/
def greatestWord : Nat := Nat.pow 2 64 - 1

/-- Appends digits to a number while it stays a 64-bit word.  Gives the number
and how many digits were taken. -/
def appendDigits (total : Nat) : List Char → Nat × Nat
  | [] => (total, 0)
  | digit :: rest =>
      let longer := total * 10 + digitValue digit
      if longer ≤ greatestWord then
        let (result, taken) := appendDigits longer rest
        (result, taken + 1)
      else (total, 0)

/-- Digits without a superfluous leading zero. -/
def isWhole : List Char → Bool
  | [] => false
  | ['0'] => true
  | first :: rest => first != '0' && (first :: rest).all Char.isDigit

/-- A point and at least one digit, or nothing; gives the digits. -/
def fraction? : List Char → Option (List Char)
  | [] => some []
  | point :: digits =>
      if point == '.' && !digits.isEmpty && digits.all Char.isDigit then some digits
      else none

/-- The letter e, an optional sign and at least one digit, or nothing. -/
def exponent? : List Char → Option Int
  | [] => some 0
  | mark :: rest =>
      if mark == 'e' || mark == 'E' then
        let (negative, digits) :=
          match rest with
          | '-' :: digits => (true, digits)
          | '+' :: digits => (false, digits)
          | digits => (false, digits)
        if !digits.isEmpty && digits.all Char.isDigit then
          some (if negative then -(decimalValue digits : Int) else decimalValue digits)
        else none
      else none

/-- The number that a sign, the digits on both sides of the point and a power
of ten denote, `plain` when neither point nor power is written.  Digits that
do not fit a 64-bit word any more count as zeros.  A plain number that fits is
kept exactly, negative zero apart. -/
def numberOf (negative plain : Bool) (whole fraction : List Char) (power : Int) : Number :=
  let (high, taken) := appendDigits 0 whole
  let left := whole.length - taken
  if plain && left == 0 && !(negative && (high == 0 || Nat.pow 2 63 < high)) then
    .integer (if negative then -high else high)
  else
    let (digits, used) := appendDigits high fraction
    match Decimal.Binary.ofDecimal? digits (power + left - used) with
    | some magnitude => .real negative magnitude
    | none => .outOfRange

/-- Reads a number: an optional minus, a whole part, an optional fraction and
an optional exponent. -/
def number? (word : List Char) : Option Number := do
  let (negative, unsigned) :=
    match word with
    | '-' :: rest => (true, rest)
    | rest => (false, rest)
  let whole := unsigned.takeWhile Char.isDigit
  let behind := unsigned.dropWhile Char.isDigit
  let isMark (c : Char) : Bool := c == 'e' || c == 'E'
  guard (isWhole whole)
  let fraction ← fraction? (behind.takeWhile fun c => !isMark c)
  let power ← exponent? (behind.dropWhile fun c => !isMark c)
  return numberOf negative behind.isEmpty whole fraction power

/-- Reads a word. -/
def word? (word : List Char) : Option Json :=
  if word = "null".toList then some .null
  else if word = "true".toList then some (.bool true)
  else if word = "false".toList then some (.bool false)
  else (number? word).map .number

/-- The raw content of a string up to its closing quote, and the rest of the
text.  Control characters may not occur. -/
def closeQuote : List Char → Option (List Char × List Char)
  | [] => none
  | '"' :: rest => some ([], rest)
  | '\\' :: c :: rest =>
      (closeQuote rest).map fun parts => ('\\' :: c :: parts.1, parts.2)
  | c :: rest =>
      if c.toNat < 0x20 then none
      else (closeQuote rest).map fun parts => (c :: parts.1, parts.2)

theorem length_closeQuote {text content rest : List Char}
    (found : closeQuote text = some (content, rest)) : rest.length < text.length := by
  fun_induction closeQuote text generalizing content rest with
  | case1 => cases found
  | case2 tail =>
      cases found
      simp
  | case3 c tail ih =>
      rcases Option.map_eq_some_iff.1 found with ⟨parts, inner, shape⟩
      cases shape
      have shorter := ih inner
      simp only [List.length_cons]
      omega
  | case4 c tail notQuote notEscape control => cases found
  | case5 c tail notQuote notEscape control ih =>
      rcases Option.map_eq_some_iff.1 found with ⟨parts, inner, shape⟩
      cases shape
      have shorter := ih inner
      simp only [List.length_cons]
      omega

/-- The value of a hexadecimal digit. -/
def hexValue? (c : Char) : Option Nat :=
  if c.isDigit then some (c.toNat - '0'.toNat)
  else if 'a' ≤ c ∧ c ≤ 'f' then some (c.toNat - 'a'.toNat + 10)
  else if 'A' ≤ c ∧ c ≤ 'F' then some (c.toNat - 'A'.toNat + 10)
  else none

/-- One item of a string literal: a character as written, or the UTF-16 code
unit that an escape names. -/
inductive Piece where
  | plain (c : Char)
  | unit (value : Nat)

/-- The meaning of a one-letter escape. -/
def shortEscape? (c : Char) : Option Char :=
  if c = '"' ∨ c = '\\' ∨ c = '/' then some c
  else if c = 'b' then some '\x08'
  else if c = 'f' then some '\x0c'
  else if c = 'n' then some '\n'
  else if c = 'r' then some '\r'
  else if c = 't' then some '\t'
  else none

/-- The items of a raw string; none when an escape is not one of the
language. -/
def stringPieces? : List Char → Option (List Piece)
  | [] => some []
  | '\\' :: 'u' :: a :: b :: c :: d :: rest => do
      let value := (← hexValue? a) * 4096 + (← hexValue? b) * 256 +
        (← hexValue? c) * 16 + (← hexValue? d)
      return .unit value :: (← stringPieces? rest)
  | '\\' :: c :: rest => do
      return .plain (← shortEscape? c) :: (← stringPieces? rest)
  | c :: rest =>
      if c = '\\' then none
      else (stringPieces? rest).map (.plain c :: ·)

/-- Joins the items of a string to its text.  A high surrogate unit and the
low one right behind it name one character; a surrogate on its own names
none. -/
def joinPieces? : List Piece → Option (List Char)
  | [] => some []
  | .plain c :: rest => (joinPieces? rest).map (c :: ·)
  | .unit high :: .unit low :: rest =>
      if 0xd800 ≤ high ∧ high < 0xdc00 then
        if 0xdc00 ≤ low ∧ low < 0xe000 then
          (joinPieces? rest).map
            (Char.ofNat (0x10000 + (high - 0xd800) * 0x400 + (low - 0xdc00)) :: ·)
        else none
      else if 0xdc00 ≤ high ∧ high < 0xe000 then none
      else (joinPieces? (.unit low :: rest)).map (Char.ofNat high :: ·)
  | .unit value :: rest =>
      if 0xd800 ≤ value ∧ value < 0xe000 then none
      else (joinPieces? rest).map (Char.ofNat value :: ·)

/-- The literal that a raw string denotes. -/
def literal? (raw : List Char) : Option Literal :=
  (stringPieces? raw).map fun pieces =>
    match joinPieces? pieces with
    | some content => .text (String.ofList content)
    | none => .unpaired

/-- The tokens of a text. -/
def tokens? : List Char → Option (List Token)
  | [] => some []
  | c :: rest =>
      if isBlank c then tokens? rest
      else if c = '"' then
        match _found : closeQuote rest with
        | none => none
        | some (raw, behind) => do
            let content ← literal? raw
            return .string content :: (← tokens? behind)
      else
        match punctuation? c with
        | some token => (tokens? rest).map (token :: ·)
        | none =>
            if isWordChar c then do
              let value ← word? (c :: rest.takeWhile isWordChar)
              return .atom value :: (← tokens? (rest.dropWhile isWordChar))
            else none
termination_by text => text.length
decreasing_by
  · simp
  · have shorter := length_closeQuote _found
    simp only [List.length_cons]
    omega
  · simp
  · have shorter := (List.dropWhile_suffix (l := rest) isWordChar).length_le
    simp only [List.length_cons]
    omega

/-! ## Values

Each call consumes at least one token, so the number of tokens bounds the depth of
the calls. -/

mutual

/-- Reads one value and gives the tokens behind it. -/
def readValue : Nat → List Token → Option (Json × List Token)
  | 0, _ => none
  | _ + 1, .atom value :: rest => some (value, rest)
  | _ + 1, .string content :: rest => some (.string content, rest)
  | _ + 1, .openArray :: .closeArray :: rest => some (.array [], rest)
  | depth + 1, .openArray :: rest =>
      (readItems depth rest).map fun parts => (.array parts.1, parts.2)
  | _ + 1, .openObject :: .closeObject :: rest => some (.object [], rest)
  | depth + 1, .openObject :: rest =>
      (readEntries depth rest).map fun parts => (.object parts.1, parts.2)
  | _ + 1, _ => none

/-- Reads at least one array item, up to the closing bracket. -/
def readItems : Nat → List Token → Option (List Json × List Token)
  | 0, _ => none
  | depth + 1, text => do
      let (item, behind) ← readValue depth text
      match behind with
      | .closeArray :: rest => some ([item], rest)
      | .comma :: rest =>
          let (items, rest) ← readItems depth rest
          some (item :: items, rest)
      | _ => none

/-- Reads at least one object entry, up to the closing brace. -/
def readEntries : Nat → List Token → Option (List (Literal × Json) × List Token)
  | 0, _ => none
  | depth + 1, .string key :: .colon :: text => do
      let (value, behind) ← readValue depth text
      match behind with
      | .closeObject :: rest => some ([(key, value)], rest)
      | .comma :: rest =>
          let (entries, rest) ← readEntries depth rest
          some ((key, value) :: entries, rest)
      | _ => none
  | _ + 1, _ => none

end

/-- Reads a text that holds exactly one value. -/
def parse? (text : String) : Option Json := do
  let tokens ← tokens? text.toList
  match ← readValue (tokens.length + 1) tokens with
  | (value, []) => some value
  | _ => none

end Json
end LanguageServer
