/-!
# JSON values

A JSON value keeps its numbers as they are written and its strings as code
units, so that reading loses nothing: what a number means is decided where it
is used, and a string that is skipped may hold anything that can be escaped.
`Json.text` writes a value without blanks.
-/

namespace SampledKmeans

/-- A JSON value. -/
inductive Json where
  | null
  | bool (value : Bool)
  /-- A number, as it is written. -/
  | number (text : List Char)
  /-- A string: its characters, and its escaped code units of sixteen bits. -/
  | string (units : List Nat)
  | array (items : List Json)
  /-- An object: its fields in order, repeated ones included. -/
  | object (fields : List (List Nat × Json))

namespace Json

/-! ## Strings -/

/-- The code units of a text. -/
def unitsOf (text : List Char) : List Nat :=
  text.map Char.toNat

/-- Whether a code unit is the first of a pair. -/
def isHighSurrogate (unit : Nat) : Bool :=
  0xD800 ≤ unit && unit < 0xDC00

/-- Whether a code unit is the second of a pair. -/
def isLowSurrogate (unit : Nat) : Bool :=
  0xDC00 ≤ unit && unit < 0xE000

/-- The text of code units; `none` when half of a pair stands alone. -/
def textOf? : List Nat → Option (List Char)
  | [] => some []
  | [unit] =>
    if isHighSurrogate unit || isLowSurrogate unit then none else some [Char.ofNat unit]
  | unit :: low :: rest =>
    if isHighSurrogate unit then
      if isLowSurrogate low then
        (textOf? rest).map
          (Char.ofNat (0x10000 + (unit - 0xD800) * 0x400 + (low - 0xDC00)) :: ·)
      else
        none
    else if isLowSurrogate unit then
      none
    else
      (textOf? (low :: rest)).map (Char.ofNat unit :: ·)

/-- The digit of a value below sixteen. -/
def hexDigit (value : Nat) : Char :=
  Nat.digitChar value

/-- A code unit of sixteen bits as an escape. -/
def escape (unit : Nat) : List Char :=
  ['\\', 'u', hexDigit (unit / 4096 % 16), hexDigit (unit / 256 % 16), hexDigit (unit / 16 % 16),
    hexDigit (unit % 16)]

/-- Whether a code unit is a printable character that stands for itself. -/
def isPlain (unit : Nat) : Bool :=
  0x20 ≤ unit && unit < 0x7F && unit != '"'.toNat && unit != '\\'.toNat

/-- A code unit inside a written string. -/
def unitText (unit : Nat) : List Char :=
  if isPlain unit || 0x10000 ≤ unit then [Char.ofNat unit] else escape unit

/-- A written string. -/
def stringText (units : List Nat) : List Char :=
  '"' :: units.flatMap unitText ++ ['"']

/-! ## Written values -/

mutual

/-- A value as it is written, without blanks. -/
def text : Json → List Char
  | .null => ['n', 'u', 'l', 'l']
  | .bool true => ['t', 'r', 'u', 'e']
  | .bool false => ['f', 'a', 'l', 's', 'e']
  | .number written => written
  | .string units => stringText units
  | .array [] => ['[', ']']
  | .array (item :: items) => '[' :: text item ++ itemsText items
  | .object [] => ['{', '}']
  | .object ((key, value) :: fields) =>
    '{' :: stringText key ++ ':' :: text value ++ fieldsText fields

/-- The items after the first one, and the end of the array. -/
def itemsText : List Json → List Char
  | [] => [']']
  | item :: items => ',' :: text item ++ itemsText items

/-- The fields after the first one, and the end of the object. -/
def fieldsText : List (List Nat × Json) → List Char
  | [] => ['}']
  | (key, value) :: fields => ',' :: stringText key ++ ':' :: text value ++ fieldsText fields

end

/-- An object with named fields. -/
def record (fields : List (String × Json)) : Json :=
  .object (fields.map fun (name, value) => (unitsOf name.toList, value))

end Json

end SampledKmeans
