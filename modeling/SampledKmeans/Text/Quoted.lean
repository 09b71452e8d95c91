/-!
# Quoted names

A name that may hold any characters is written between quote marks, with every
quote mark inside it doubled.  `unquote?` reads such a text back; it refuses a
quote mark that stands alone, so every text has at most one reading.
-/

namespace SampledKmeans.Quoted

/-! ## Characters between the marks -/

/-- The characters with every quote mark doubled. -/
def encode (mark : Char) : List Char → List Char
  | [] => []
  | c :: rest => if c = mark then mark :: mark :: encode mark rest else c :: encode mark rest

/-- Reads doubled quote marks back as single ones, up to the first mark that
stands alone.  The result is what was read and what follows that mark. -/
def decode? (mark : Char) : List Char → Option (List Char × List Char)
  | [] => none
  | [c] => if c = mark then some ([], []) else none
  | c :: d :: rest =>
    if c = mark then
      if d = mark then (decode? mark rest).map fun (s, r) => (mark :: s, r)
      else some ([], d :: rest)
    else
      (decode? mark (d :: rest)).map fun (s, r) => (c :: s, r)

/-- What was written between quote marks is read back, unless the text goes on
with another mark. -/
theorem decode?_encode (mark : Char) (s rest : List Char) (h : rest.head? ≠ some mark) :
    decode? mark (encode mark s ++ mark :: rest) = some (s, rest) := by
  induction s with
  | nil =>
      cases rest with
      | nil => simp [encode, decode?]
      | cons c rest =>
          have hc : c ≠ mark := by simpa using h
          simp [encode, decode?, hc]
  | cons c s ih =>
      by_cases hc : c = mark
      · simp [encode, decode?, hc, ih]
      · obtain ⟨d, tail, hd⟩ : ∃ d tail, encode mark s ++ mark :: rest = d :: tail := by
          cases encode mark s <;> simp
        rw [hd] at ih
        simp [encode, hc, hd, decode?, ih]

/-! ## Quoted texts -/

/-- The characters between quote marks. -/
def quoteChars (mark : Char) (s : List Char) : List Char :=
  mark :: encode mark s ++ [mark]

/-- Reads one quoted text from the front; the result is its content and what
follows it. -/
def unquote? (mark : Char) : List Char → Option (List Char × List Char)
  | [] => none
  | c :: rest => if c = mark then decode? mark rest else none

theorem unquote?_quoteChars (mark : Char) (s rest : List Char) (h : rest.head? ≠ some mark) :
    unquote? mark (quoteChars mark s ++ rest) = some (s, rest) := by
  simp [quoteChars, unquote?, decode?_encode mark s rest h]

/-- A name as a quoted identifier. -/
def identifier (name : String) : String :=
  String.ofList (quoteChars '"' name.toList)

/-- A text as a quoted literal. -/
def literal (text : String) : String :=
  String.ofList (quoteChars '\'' text.toList)

end SampledKmeans.Quoted
