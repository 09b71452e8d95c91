import SampledKmeans.Json.Value

/-!
# Tokens of JSON

A text is cut into tokens by one pass over its characters.  `Scanner` is what
the pass knows between two characters: the tokens that are complete, and the
token that it is in.  Numbers and words are collected first and checked when
they end.
-/

namespace SampledKmeans.Json

/-- A token. -/
inductive Token where
  | openArray
  | closeArray
  | openObject
  | closeObject
  | colon
  | comma
  /-- A value that is neither array nor object. -/
  | scalar (value : Json)
  | string (units : List Nat)

/-! ## Numbers -/

/-- The parts of a written number. -/
structure Numeral where
  negative : Bool
  /-- The digits before the point. -/
  whole : List Char
  /-- The digits after the point. -/
  fraction : List Char
  /-- The exponent, if one is written. -/
  exponent : Option Int
  deriving DecidableEq, Repr

/-- The number that some digits stand for. -/
def digitsValue (digits : List Char) : Nat :=
  digits.foldl (fun n c => 10 * n + (c.toNat - '0'.toNat)) 0

/-- Reads an exponent, after its mark. -/
def exponent? (text : List Char) : Option Int :=
  let (sign, digits) := match text with
    | '+' :: rest => (1, rest)
    | '-' :: rest => (-1, rest)
    | _ => ((1 : Int), text)
  if !digits.isEmpty && digits.all Char.isDigit then
    some (sign * (digitsValue digits : Int))
  else
    none

/-- Reads a number.  Digits are required before the point, after it and in the
exponent, and only the number zero starts with a zero. -/
def Numeral.ofText? (text : List Char) : Option Numeral :=
  let (negative, text) := match text with
    | '-' :: rest => (true, rest)
    | _ => (false, text)
  let (whole, rest) := text.span Char.isDigit
  if whole.isEmpty || (whole.head? == some '0' && whole != ['0']) then
    none
  else
    let (fraction, rest, pointless) := match rest with
      | '.' :: rest =>
        let (fraction, rest) := rest.span Char.isDigit
        (fraction, rest, false)
      | _ => ([], rest, true)
    if !pointless && fraction.isEmpty then
      none
    else
      match rest with
      | [] => some ⟨negative, whole, fraction, none⟩
      | c :: rest =>
        if c = 'e' ∨ c = 'E' then
          (exponent? rest).map fun exponent => ⟨negative, whole, fraction, some exponent⟩
        else
          none

/-! ## The pass -/

/-- The token that a scanner is in.  Collected characters and code units are
held from the last to the first. -/
inductive Mode where
  | between
  | inWord (collected : List Char)
  | inNumber (collected : List Char)
  | inString (collected : List Nat)
  /-- After a backslash. -/
  | escaped (collected : List Nat)
  /-- In an escaped code unit, with so many hexadecimal digits to come. -/
  | inUnit (collected : List Nat) (left : Nat) (value : Nat)

/-- A scanner between two characters.  The tokens are held from the last to the
first. -/
structure Scanner where
  tokens : List Token := []
  mode : Mode := .between

namespace Scanner

/-- A scanner that has completed one more token. -/
def complete (tokens : List Token) (token : Token) : Scanner :=
  { tokens := token :: tokens }

/-- The value that a word names. -/
def wordValue? (word : List Char) : Option Json :=
  if word = ['n', 'u', 'l', 'l'] then some .null
  else if word = ['t', 'r', 'u', 'e'] then some (.bool true)
  else if word = ['f', 'a', 'l', 's', 'e'] then some (.bool false)
  else none

/-- The value of a hexadecimal digit. -/
def hexValue? (c : Char) : Option Nat :=
  if c.isDigit then some (c.toNat - '0'.toNat)
  else if 'a' ≤ c ∧ c ≤ 'f' then some (c.toNat - 'a'.toNat + 10)
  else if 'A' ≤ c ∧ c ≤ 'F' then some (c.toNat - 'A'.toNat + 10)
  else none

/-- The code unit of a one-letter escape. -/
def letterEscape? (c : Char) : Option Nat :=
  if c = '"' ∨ c = '\\' ∨ c = '/' then some c.toNat
  else if c = 'b' then some 8
  else if c = 'f' then some 12
  else if c = 'n' then some 10
  else if c = 'r' then some 13
  else if c = 't' then some 9
  else none

/-- Whether a character may follow the first one of a number. -/
def isNumberPart (c : Char) : Bool :=
  c.isDigit || c == '.' || c == '-' || c == '+' || c == 'e' || c == 'E'

/-- The scanner after a character between two tokens. -/
def start (tokens : List Token) (c : Char) : Option Scanner :=
  if c = ' ' ∨ c = '\n' ∨ c = '\r' ∨ c = '\t' then some { tokens }
  else if c = '[' then some (complete tokens .openArray)
  else if c = ']' then some (complete tokens .closeArray)
  else if c = '{' then some (complete tokens .openObject)
  else if c = '}' then some (complete tokens .closeObject)
  else if c = ':' then some (complete tokens .colon)
  else if c = ',' then some (complete tokens .comma)
  else if c = '"' then some { tokens, mode := .inString [] }
  else if c.isDigit || c == '-' then some { tokens, mode := .inNumber [c] }
  else if c.isAlpha then some { tokens, mode := .inWord [c] }
  else none

/-- Ends the word or number that the scanner is in. -/
def settle (scanner : Scanner) : Option (List Token) :=
  match scanner.mode with
  | .between => some scanner.tokens
  | .inWord collected =>
    (wordValue? collected.reverse).map fun value => .scalar value :: scanner.tokens
  | .inNumber collected =>
    (Numeral.ofText? collected.reverse).map fun _ =>
      .scalar (.number collected.reverse) :: scanner.tokens
  | .inString _ | .escaped _ | .inUnit _ _ _ => none

/-- The scanner after one more character. -/
def step (scanner : Scanner) (c : Char) : Option Scanner :=
  match scanner.mode with
  | .between => start scanner.tokens c
  | .inWord collected =>
    if c.isAlpha then some { scanner with mode := .inWord (c :: collected) }
    else scanner.settle.bind fun tokens => start tokens c
  | .inNumber collected =>
    if isNumberPart c then some { scanner with mode := .inNumber (c :: collected) }
    else scanner.settle.bind fun tokens => start tokens c
  | .inString collected =>
    if c = '"' then some (complete scanner.tokens (.string collected.reverse))
    else if c = '\\' then some { scanner with mode := .escaped collected }
    else if c.toNat < 0x20 then none
    else some { scanner with mode := .inString (c.toNat :: collected) }
  | .escaped collected =>
    if c = 'u' then some { scanner with mode := .inUnit collected 4 0 }
    else (letterEscape? c).map fun unit => { scanner with mode := .inString (unit :: collected) }
  | .inUnit collected left value =>
    (hexValue? c).map fun digit =>
      let value := 16 * value + digit
      if left ≤ 1 then { scanner with mode := .inString (value :: collected) }
      else { scanner with mode := .inUnit collected (left - 1) value }

end Scanner

/-- The tokens of a text. -/
def tokens? (text : List Char) : Option (List Token) :=
  ((text.foldlM Scanner.step {}).bind Scanner.settle).map List.reverse

end SampledKmeans.Json
