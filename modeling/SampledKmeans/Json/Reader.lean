import SampledKmeans.Json.Token

/-!
# Reading JSON

The tokens of a text are put together to a value in one pass.  What is open is
kept on a list of frames, so that values may be nested to any depth.
-/

namespace SampledKmeans.Json

/-- An array or object that is not complete.  Items and fields are held from
the last to the first. -/
inductive Frame where
  | array (items : List Json)
  | object (fields : List (List Nat × Json))
  /-- An object with a field whose value is to come. -/
  | field (fields : List (List Nat × Json)) (key : List Nat)

/-- What may come next. -/
inductive Expected where
  /-- A value. -/
  | value
  /-- A value, or the end of an array that has no items yet. -/
  | firstItem
  /-- A key. -/
  | key
  /-- A key, or the end of an object that has no fields yet. -/
  | firstKey
  /-- The colon after a key. -/
  | colon
  /-- A comma, or the end of what is open. -/
  | more
  /-- Nothing: the value is complete. -/
  | nothing (value : Json)

/-- A builder between two tokens: what is open, from the inside out, and what
may come next. -/
structure Builder where
  frames : List Frame := []
  expected : Expected := .value

namespace Builder

/-- Puts a complete value where it belongs. -/
def place (value : Json) : List Frame → Option Builder
  | [] => some { expected := .nothing value }
  | .array items :: frames =>
    some { frames := .array (value :: items) :: frames, expected := .more }
  | .field fields key :: frames =>
    some { frames := .object ((key, value) :: fields) :: frames, expected := .more }
  | .object _ :: _ => none

/-- Starts a value. -/
def begin (frames : List Frame) : Token → Option Builder
  | .openArray => some { frames := .array [] :: frames, expected := .firstItem }
  | .openObject => some { frames := .object [] :: frames, expected := .firstKey }
  | .scalar value => place value frames
  | .string units => place (.string units) frames
  | _ => none

/-- Takes a key. -/
def takeKey (frames : List Frame) : Token → Option Builder
  | .string units =>
    match frames with
    | .object fields :: frames =>
      some { frames := .field fields units :: frames, expected := .colon }
    | _ => none
  | _ => none

/-- Closes the innermost array or object. -/
def close (frames : List Frame) : Token → Option Builder
  | .closeArray =>
    match frames with
    | .array items :: frames => place (.array items.reverse) frames
    | _ => none
  | .closeObject =>
    match frames with
    | .object fields :: frames => place (.object fields.reverse) frames
    | _ => none
  | _ => none

/-- The builder after a token that follows a complete item or field. -/
def continue? (frames : List Frame) (token : Token) : Option Builder :=
  match token, frames with
  | .comma, .array _ :: _ => some { frames, expected := .value }
  | .comma, .object _ :: _ => some { frames, expected := .key }
  | token, frames => close frames token

/-- The builder after one more token. -/
def step (builder : Builder) (token : Token) : Option Builder :=
  match builder.expected with
  | .value => begin builder.frames token
  | .firstItem => (close builder.frames token).or (begin builder.frames token)
  | .key => takeKey builder.frames token
  | .firstKey => (close builder.frames token).or (takeKey builder.frames token)
  | .colon =>
    match token with
    | .colon => some { builder with expected := .value }
    | _ => none
  | .more => continue? builder.frames token
  | .nothing _ => none

/-- The value that is complete. -/
def value? (builder : Builder) : Option Json :=
  match builder.expected with
  | .nothing value => some value
  | _ => none

end Builder

/-- The value that some tokens make up. -/
def ofTokens? (tokens : List Token) : Option Json :=
  (tokens.foldlM Builder.step {}).bind Builder.value?

/-- Reads a text that holds one value, with blanks around its tokens. -/
def parse? (text : List Char) : Option Json :=
  (tokens? text).bind ofTokens?

end SampledKmeans.Json
