import SampledKmeans.Proofs.Json.Numeral

/-!
# The tokens of a written value

`Json.tokens` lists the tokens of a value in the order in which they are written, and the
scanner finds these in the value's text (`scans_text`), provided that the value is
`Readable`: its numbers are numerals and its code units are such.

A number or a word is complete only when the next character shows that it does not go
on.  What follows one in a written value is a delimiter, and so a text `Scans` as a list
of tokens when the scanner has them complete, or will have with the next delimiter or at
the end (`Scanner.Settles`).  Texts of which the second starts with a delimiter scan one
after the other (`Scans.append`).
-/

namespace SampledKmeans.Json

/-! ## Readable values -/

/-- The value is one whose text reads back. -/
inductive Readable : Json → Prop where
  | null : Readable .null
  | bool (value : Bool) : Readable (.bool value)
  | number {numeral : Numeral} (formed : numeral.WellFormed) : Readable (.number numeral.text)
  | string {units : List Nat} (bound : ∀ unit ∈ units, unit < 0x110000) :
      Readable (.string units)
  | array {items : List Json} (readable : ∀ item ∈ items, Readable item) :
      Readable (.array items)
  | object {fields : List (List Nat × Json)}
      (bound : ∀ field ∈ fields, ∀ unit ∈ field.1, unit < 0x110000)
      (readable : ∀ field ∈ fields, Readable field.2) : Readable (.object fields)

mutual

/-- The tokens of a value. -/
def tokens : Json → List Token
  | .null => [.scalar .null]
  | .bool value => [.scalar (.bool value)]
  | .number text => [.scalar (.number text)]
  | .string units => [.string units]
  | .array [] => [.openArray, .closeArray]
  | .array (item :: items) => .openArray :: (tokens item ++ itemsTokens items)
  | .object [] => [.openObject, .closeObject]
  | .object ((key, value) :: fields) =>
    .openObject :: .string key :: .colon :: (tokens value ++ fieldsTokens fields)

/-- The tokens of the items after the first one, and of the end of the array. -/
def itemsTokens : List Json → List Token
  | [] => [.closeArray]
  | item :: items => .comma :: (tokens item ++ itemsTokens items)

/-- The tokens of the fields after the first one, and of the end of the object. -/
def fieldsTokens : List (List Nat × Json) → List Token
  | [] => [.closeObject]
  | (key, value) :: fields =>
    .comma :: .string key :: .colon :: (tokens value ++ fieldsTokens fields)

end

/-! ## Texts one after the other -/

/-- The character stands between two tokens of a written value. -/
def IsDelimiter (c : Char) : Prop :=
  c = ',' ∨ c = ':' ∨ c = ']' ∨ c = '}'

/-- The scanner has completed the tokens, or does so with the next delimiter or at the
end of the text. -/
structure Scanner.Settles (scanner : Scanner) (tokens : List Token) : Prop where
  settle_eq : scanner.settle = some tokens
  step_eq : ∀ c, IsDelimiter c → scanner.step c = start tokens c

/-- The scanner finds the tokens in the text. -/
def Scans (text : List Char) (tokens : List Token) : Prop :=
  ∀ before : List Token, ∃ scanner,
    text.foldlM Scanner.step { tokens := before } = some scanner ∧
      scanner.Settles (tokens.reverse ++ before)

theorem Scanner.settles_between (tokens : List Token) :
    Scanner.Settles { tokens } tokens :=
  ⟨rfl, fun _ _ => rfl⟩

variable {text rest : List Char} {tokens more : List Token}

theorem Scans.append (h : Scans text tokens) {c : Char} (hc : IsDelimiter c)
    (hrest : Scans (c :: rest) more) : Scans (text ++ c :: rest) (tokens ++ more) := by
  intro before
  obtain ⟨scanner, hscan, hsettles⟩ := h before
  obtain ⟨scanner', hscan', hsettles'⟩ := hrest (tokens.reverse ++ before)
  refine ⟨scanner', ?_, by simpa using hsettles'⟩
  rw [List.foldlM_append, hscan]
  change (c :: rest).foldlM Scanner.step scanner = some scanner'
  rw [List.foldlM_cons, hsettles.step_eq c hc, ← hscan', List.foldlM_cons]
  rfl

/-- A character that is a token by itself. -/
theorem Scans.cons (h : Scans rest tokens) {c : Char} {token : Token}
    (hstart : ∀ before, Scanner.start before c = some (Scanner.complete before token)) :
    Scans (c :: rest) (token :: tokens) := by
  intro before
  obtain ⟨scanner, hscan, hsettles⟩ := h (token :: before)
  refine ⟨scanner, ?_, by simpa using hsettles⟩
  rw [List.foldlM_cons, ← hscan]
  change (Scanner.start before c).bind _ = _
  rw [hstart before]
  rfl

theorem scans_nil : Scans [] [] := fun before =>
  ⟨{ tokens := before }, rfl, Scanner.settles_between before⟩

/-! ## Words and numbers -/

theorem scans_null : Scans ['n', 'u', 'l', 'l'] [.scalar .null] := fun before =>
  ⟨{ tokens := before, mode := .inWord ['l', 'l', 'u', 'n'] }, rfl, rfl, by
    rintro c (rfl | rfl | rfl | rfl) <;> rfl⟩

theorem scans_bool (value : Bool) : Scans (Json.bool value).text [.scalar (.bool value)] := by
  cases value with
  | true =>
      exact fun before => ⟨{ tokens := before, mode := .inWord ['e', 'u', 'r', 't'] }, rfl, rfl, by
        rintro c (rfl | rfl | rfl | rfl) <;> rfl⟩
  | false =>
      exact fun before =>
        ⟨{ tokens := before, mode := .inWord ['e', 's', 'l', 'a', 'f'] }, rfl, rfl, by
          rintro c (rfl | rfl | rfl | rfl) <;> rfl⟩

theorem foldlM_step_inNumber (tokens : List Token) (text collected : List Char)
    (h : ∀ c ∈ text, Scanner.isNumberPart c = true) :
    text.foldlM Scanner.step { tokens, mode := .inNumber collected } =
      some { tokens, mode := .inNumber (text.reverse ++ collected) } := by
  induction text generalizing collected with
  | nil => rfl
  | cons c text ih =>
      obtain ⟨hc, htext⟩ := List.forall_mem_cons.mp h
      have hstep : Scanner.step { tokens, mode := .inNumber collected } c =
          some { tokens, mode := .inNumber (c :: collected) } := by
        simp [Scanner.step, hc]
      rw [List.foldlM_cons, hstep]
      simpa using ih (c :: collected) htext

theorem start_of_number (tokens : List Token) {c : Char} (h : (c.isDigit || c == '-') = true) :
    Scanner.start tokens c = some { tokens, mode := .inNumber [c] } := by
  have hne : ∀ d : Char, (d.isDigit || d == '-') = false → c ≠ d := by
    rintro d hd rfl
    rw [hd] at h
    cases h
  unfold Scanner.start
  simp [hne, h]

theorem scans_number {numeral : Numeral} (h : numeral.WellFormed) :
    Scans numeral.text [.scalar (.number numeral.text)] := by
  intro before
  obtain ⟨c, rest, htext, hc⟩ := Numeral.exists_text_eq_cons h
  have hparts := Numeral.isNumberPart_of_mem_text h
  rw [htext] at hparts
  have hread : Scanner.settle { tokens := before, mode := .inNumber numeral.text.reverse } =
      some (.scalar (.number numeral.text) :: before) := by
    simp [Scanner.settle, Numeral.ofText?_text h]
  refine ⟨{ tokens := before, mode := .inNumber numeral.text.reverse }, ?_, hread, ?_⟩
  · rw [htext, List.foldlM_cons]
    change (Scanner.start before c).bind _ = _
    rw [start_of_number before hc, Option.bind_some,
      foldlM_step_inNumber before rest [c] (List.forall_mem_cons.mp hparts).2, List.reverse_cons]
  · intro d hd
    have hend : Scanner.isNumberPart d = false := by
      rcases hd with rfl | rfl | rfl | rfl <;> rfl
    simp only [Scanner.step, hend, hread]
    rfl

/-! ## Strings -/

theorem toNat_ofNat {unit : Nat} (h : unit.isValidChar) : (Char.ofNat unit).toNat = unit := by
  rw [Char.ofNat, dif_pos h]
  rfl

/-- A character that is neither a quote mark nor a backslash nor a control character
stands for itself. -/
theorem step_inString (tokens : List Token) (collected : List Nat) {unit : Nat}
    (hvalid : unit.isValidChar) (hprintable : 0x20 ≤ unit) (hquote : unit ≠ '"'.toNat)
    (hbackslash : unit ≠ '\\'.toNat) :
    Scanner.step { tokens, mode := .inString collected } (Char.ofNat unit) =
      some { tokens, mode := .inString (unit :: collected) } := by
  have htoNat := toNat_ofNat hvalid
  have hne : ∀ c : Char, unit ≠ c.toNat → Char.ofNat unit ≠ c := by
    rintro c hc rfl
    exact hc htoNat.symm
  simp only [Scanner.step, hne _ hquote, hne _ hbackslash, htoNat, if_false,
    if_neg (Nat.not_lt_of_le hprintable)]

theorem hexValue?_hexDigit : ∀ value < 16, Scanner.hexValue? (hexDigit value) = some value := by
  decide

theorem step_inUnit (tokens : List Token) (collected : List Nat) (left value : Nat) {digit : Nat}
    (h : digit < 16) :
    Scanner.step { tokens, mode := .inUnit collected left value } (hexDigit digit) =
      some (if left ≤ 1 then { tokens, mode := .inString ((16 * value + digit) :: collected) }
        else { tokens, mode := .inUnit collected (left - 1) (16 * value + digit) }) := by
  simp only [Scanner.step, hexValue?_hexDigit digit h, Option.map_some]

/-- The four digits of an escape make up the code unit again. -/
theorem foldlM_step_escape (tokens : List Token) (collected : List Nat) {unit : Nat}
    (h : unit < 0x10000) :
    (escape unit).foldlM Scanner.step { tokens, mode := .inString collected } =
      some { tokens, mode := .inString (unit :: collected) } := by
  have hlt : ∀ n, n % 16 < 16 := fun n => Nat.mod_lt n (by decide)
  have hunit : 16 * (16 * (16 * (unit / 4096 % 16) + unit / 256 % 16) + unit / 16 % 16) +
      unit % 16 = unit := by omega
  have hstart : ['\\', 'u'].foldlM Scanner.step { tokens, mode := .inString collected } =
      some { tokens, mode := .inUnit collected 4 0 } := rfl
  change (['\\', 'u'] ++ [_, _, _, _]).foldlM Scanner.step _ = _
  rw [List.foldlM_append, hstart]
  simp [step_inUnit, hlt, hunit]

/-- A code unit that is written as a character. -/
theorem bounds_of_unescaped {unit : Nat} (hbound : unit < 0x110000)
    (h : (isPlain unit || decide (0x10000 ≤ unit)) = true) :
    unit.isValidChar ∧ 0x20 ≤ unit ∧ unit ≠ '"'.toNat ∧ unit ≠ '\\'.toNat := by
  simp only [isPlain, Bool.or_eq_true, Bool.and_eq_true, decide_eq_true_eq, bne_iff_ne] at h
  rcases h with ⟨⟨⟨hlow, hhigh⟩, hquote⟩, hbackslash⟩ | hlarge
  · exact ⟨.inl (by omega), hlow, hquote, hbackslash⟩
  · refine ⟨.inr ⟨by omega, hbound⟩, by omega, ?_, ?_⟩ <;> rintro rfl <;>
      exact absurd hlarge (by decide)

/-- A written code unit is taken up as it was. -/
theorem foldlM_step_unitText (tokens : List Token) (collected : List Nat) {unit : Nat}
    (hbound : unit < 0x110000) :
    (unitText unit).foldlM Scanner.step { tokens, mode := .inString collected } =
      some { tokens, mode := .inString (unit :: collected) } := by
  unfold unitText
  split_ifs with hplain
  · obtain ⟨hvalid, hprintable, hquote, hbackslash⟩ := bounds_of_unescaped hbound hplain
    rw [List.foldlM_cons, step_inString tokens collected hvalid hprintable hquote hbackslash]
    rfl
  · refine foldlM_step_escape tokens collected ?_
    simp only [Bool.or_eq_true, decide_eq_true_eq, not_or] at hplain
    exact Nat.lt_of_not_le hplain.2

theorem foldlM_step_units (tokens : List Token) (units collected : List Nat)
    (h : ∀ unit ∈ units, unit < 0x110000) :
    (units.flatMap unitText).foldlM Scanner.step { tokens, mode := .inString collected } =
      some { tokens, mode := .inString (units.reverse ++ collected) } := by
  induction units generalizing collected with
  | nil => rfl
  | cons unit units ih =>
      obtain ⟨hunit, hunits⟩ := List.forall_mem_cons.mp h
      rw [List.flatMap_cons, List.foldlM_append, foldlM_step_unitText tokens collected hunit]
      simpa using ih (unit :: collected) hunits

theorem scans_stringText {units : List Nat} (h : ∀ unit ∈ units, unit < 0x110000) :
    Scans (stringText units) [.string units] := by
  intro before
  refine ⟨{ tokens := .string units :: before }, ?_, Scanner.settles_between _⟩
  have hunits := foldlM_step_units before units [] h
  rw [List.append_nil] at hunits
  change (units.flatMap unitText ++ ['"']).foldlM Scanner.step
    { tokens := before, mode := .inString [] } = _
  rw [List.foldlM_append, hunits]
  change some (Scanner.complete before (.string units.reverse.reverse)) = _
  rw [List.reverse_reverse]
  rfl

/-! ## Arrays and objects -/

theorem scans_closeArray : Scans [']'] [.closeArray] :=
  scans_nil.cons fun _ => rfl

theorem scans_closeObject : Scans ['}'] [.closeObject] :=
  scans_nil.cons fun _ => rfl

theorem exists_itemsText_eq_cons (items : List Json) :
    ∃ c rest, itemsText items = c :: rest ∧ IsDelimiter c := by
  cases items with
  | nil => exact ⟨']', [], rfl, .inr (.inr (.inl rfl))⟩
  | cons item items => exact ⟨',', _, rfl, .inl rfl⟩

theorem exists_fieldsText_eq_cons (fields : List (List Nat × Json)) :
    ∃ c rest, fieldsText fields = c :: rest ∧ IsDelimiter c := by
  cases fields with
  | nil => exact ⟨'}', [], rfl, .inr (.inr (.inr rfl))⟩
  | cons field fields => exact ⟨',', _, rfl, .inl rfl⟩

/-- An item, and then the others. -/
theorem Scans.append_items {items : List Json} (h : Scans text tokens)
    (hitems : Scans (itemsText items) (itemsTokens items)) :
    Scans (text ++ itemsText items) (tokens ++ itemsTokens items) := by
  obtain ⟨c, rest, heq, hc⟩ := exists_itemsText_eq_cons items
  rw [heq] at hitems ⊢
  exact h.append hc hitems

/-- A field, and then the others. -/
theorem Scans.append_fields {fields : List (List Nat × Json)} {key : List Nat}
    (hkey : ∀ unit ∈ key, unit < 0x110000) (h : Scans text tokens)
    (hfields : Scans (fieldsText fields) (fieldsTokens fields)) :
    Scans (stringText key ++ ':' :: (text ++ fieldsText fields))
      (.string key :: .colon :: (tokens ++ fieldsTokens fields)) := by
  obtain ⟨c, rest, heq, hc⟩ := exists_fieldsText_eq_cons fields
  have hvalue : Scans (':' :: (text ++ fieldsText fields))
      (.colon :: (tokens ++ fieldsTokens fields)) := by
    rw [heq] at hfields ⊢
    exact (h.append hc hfields).cons fun _ => rfl
  exact (scans_stringText hkey).append (.inr (.inl rfl)) hvalue

theorem scans_itemsText {items : List Json}
    (h : ∀ item ∈ items, Scans item.text item.tokens) :
    Scans (itemsText items) (itemsTokens items) := by
  induction items with
  | nil => exact scans_closeArray
  | cons item items ih =>
      obtain ⟨hitem, hitems⟩ := List.forall_mem_cons.mp h
      exact (hitem.append_items (ih hitems)).cons fun _ => rfl

theorem scans_fieldsText {fields : List (List Nat × Json)}
    (hbound : ∀ field ∈ fields, ∀ unit ∈ field.1, unit < 0x110000)
    (h : ∀ field ∈ fields, Scans field.2.text field.2.tokens) :
    Scans (fieldsText fields) (fieldsTokens fields) := by
  induction fields with
  | nil => exact scans_closeObject
  | cons field fields ih =>
      obtain ⟨hkey, hkeys⟩ := List.forall_mem_cons.mp hbound
      obtain ⟨hvalue, hvalues⟩ := List.forall_mem_cons.mp h
      have hfields := hvalue.append_fields hkey (ih hkeys hvalues)
      have htext : fieldsText (field :: fields) =
          ',' :: (stringText field.1 ++ ':' :: (field.2.text ++ fieldsText fields)) := by
        simp [fieldsText]
      rw [htext]
      exact hfields.cons fun _ => rfl

theorem scans_text {value : Json} (h : value.Readable) : Scans value.text value.tokens := by
  induction h with
  | null => exact scans_null
  | bool value =>
      have htext := scans_bool value
      cases value <;> exact htext
  | number formed => exact scans_number formed
  | string bound => exact scans_stringText bound
  | @array items _ ih =>
      cases items with
      | nil => exact scans_closeArray.cons fun _ => rfl
      | cons item items =>
          obtain ⟨hitem, hitems⟩ := List.forall_mem_cons.mp ih
          exact (hitem.append_items (scans_itemsText hitems)).cons fun _ => rfl
  | @object fields bound _ ih =>
      cases fields with
      | nil => exact scans_closeObject.cons fun _ => rfl
      | cons field fields =>
          obtain ⟨hkey, hkeys⟩ := List.forall_mem_cons.mp bound
          obtain ⟨hvalue, hvalues⟩ := List.forall_mem_cons.mp ih
          have hfields := hvalue.append_fields hkey (scans_fieldsText hkeys hvalues)
          have htext : (Json.object (field :: fields)).text =
              '{' :: (stringText field.1 ++ ':' :: (field.2.text ++ fieldsText fields)) := by
            simp [Json.text]
          rw [htext]
          exact hfields.cons fun _ => rfl

theorem tokens?_text {value : Json} (h : value.Readable) :
    tokens? value.text = some value.tokens := by
  obtain ⟨scanner, hscan, hsettles⟩ := scans_text h []
  rw [tokens?, hscan]
  change (scanner.settle).map List.reverse = _
  rw [hsettles.settle_eq]
  simp

end SampledKmeans.Json
