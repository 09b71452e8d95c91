import SampledKmeans.Json.Reader
import SampledKmeans.Proofs.Json.Scan

/-!
# Written values read back

The builder puts the tokens of a value together to that value (`builds_tokens`), whatever
is open around it: what comes of the tokens is what comes of putting the value where it
belongs.  With the scanner's part, a readable value is read back from its text
(`parse?_text`).

A written value holds no control character (`Readable.printable`), since the scanner
takes none inside of strings and the writer puts none between tokens.
-/

namespace SampledKmeans.Json

/-! ## Building -/

/-- A value may come next. -/
def Expected.TakesValue (expected : Expected) : Prop :=
  expected = .value ∨ expected = .firstItem

/-- The builder makes the value of the tokens. -/
def Builds (tokens : List Token) (value : Json) : Prop :=
  ∀ (frames : List Frame) (expected : Expected), expected.TakesValue →
    tokens.foldlM Builder.step { frames, expected } = Builder.place value frames

variable {tokens : List Token} {value : Json} {frames : List Frame} {expected : Expected}

theorem builds_scalar (value : Json) : Builds [.scalar value] value := by
  rintro frames _ (rfl | rfl)
  · exact bind_pure (Builder.place value frames)
  · exact bind_pure (Builder.place value frames)

theorem builds_string (units : List Nat) : Builds [.string units] (.string units) := by
  rintro frames _ (rfl | rfl)
  · exact bind_pure (Builder.place (.string units) frames)
  · exact bind_pure (Builder.place (.string units) frames)

theorem foldlM_step_openArray (h : expected.TakesValue) (frames : List Frame)
    (rest : List Token) :
    (.openArray :: rest).foldlM Builder.step { frames, expected } =
      rest.foldlM Builder.step { frames := .array [] :: frames, expected := .firstItem } := by
  rcases h with rfl | rfl <;> rfl

theorem foldlM_step_openObject (h : expected.TakesValue) (frames : List Frame)
    (rest : List Token) :
    (.openObject :: rest).foldlM Builder.step { frames, expected } =
      rest.foldlM Builder.step { frames := .object [] :: frames, expected := .firstKey } := by
  rcases h with rfl | rfl <;> rfl

/-- The builder goes on with what is left after it has placed a value. -/
theorem Builds.foldlM_append (h : Builds tokens value) (hexpected : expected.TakesValue)
    (rest : List Token) :
    (tokens ++ rest).foldlM Builder.step { frames, expected } =
      (Builder.place value frames).bind fun builder => rest.foldlM Builder.step builder := by
  rw [List.foldlM_append, h frames expected hexpected]
  rfl

/-- The items after some others complete the array. -/
theorem foldlM_step_itemsTokens {items : List Json}
    (h : ∀ item ∈ items, Builds item.tokens item) (done : List Json) (frames : List Frame) :
    (itemsTokens items).foldlM Builder.step { frames := .array done :: frames, expected := .more } =
      Builder.place (.array (done.reverse ++ items)) frames := by
  induction items generalizing done with
  | nil =>
      rw [List.append_nil]
      exact bind_pure (Builder.place (.array done.reverse) frames)
  | cons item items ih =>
      obtain ⟨hitem, hitems⟩ := List.forall_mem_cons.mp h
      have hplaced := ih hitems (item :: done)
      rw [List.reverse_cons, List.append_assoc, List.singleton_append] at hplaced
      rw [itemsTokens, List.foldlM_cons]
      change (item.tokens ++ itemsTokens items).foldlM Builder.step
        { frames := .array done :: frames, expected := .value } = _
      rw [hitem.foldlM_append (.inl rfl)]
      exact hplaced

theorem foldlM_step_fieldsTokens {fields : List (List Nat × Json)}
    (h : ∀ field ∈ fields, Builds field.2.tokens field.2) (done : List (List Nat × Json))
    (frames : List Frame) :
    (fieldsTokens fields).foldlM Builder.step
        { frames := .object done :: frames, expected := .more } =
      Builder.place (.object (done.reverse ++ fields)) frames := by
  induction fields generalizing done with
  | nil =>
      rw [List.append_nil]
      exact bind_pure (Builder.place (.object done.reverse) frames)
  | cons field fields ih =>
      obtain ⟨hvalue, hvalues⟩ := List.forall_mem_cons.mp h
      have hplaced := ih hvalues (field :: done)
      rw [List.reverse_cons, List.append_assoc, List.singleton_append] at hplaced
      rw [fieldsTokens, List.foldlM_cons]
      change (field.2.tokens ++ fieldsTokens fields).foldlM Builder.step
        { frames := .field done field.1 :: frames, expected := .value } = _
      rw [hvalue.foldlM_append (.inl rfl)]
      exact hplaced

theorem builds_tokens {value : Json} (h : value.Readable) : Builds value.tokens value := by
  induction h with
  | null => exact builds_scalar .null
  | bool value => exact builds_scalar (.bool value)
  | @number numeral _ => exact builds_scalar (.number numeral.text)
  | @string units _ => exact builds_string units
  | @array items _ ih =>
      intro frames expected hexpected
      cases items with
      | nil =>
          rw [tokens, foldlM_step_openArray hexpected]
          exact (bind_pure _).trans Option.or_none
      | cons item items =>
          obtain ⟨hitem, hitems⟩ := List.forall_mem_cons.mp ih
          rw [tokens, foldlM_step_openArray hexpected, hitem.foldlM_append (.inr rfl)]
          exact foldlM_step_itemsTokens hitems [item] frames
  | @object fields _ _ ih =>
      intro frames expected hexpected
      cases fields with
      | nil =>
          rw [tokens, foldlM_step_openObject hexpected]
          exact (bind_pure _).trans Option.or_none
      | cons field fields =>
          obtain ⟨hvalue, hvalues⟩ := List.forall_mem_cons.mp ih
          rw [tokens, foldlM_step_openObject hexpected]
          change (field.2.tokens ++ fieldsTokens fields).foldlM Builder.step
            { frames := .field [] field.1 :: frames, expected := .value } = _
          rw [hvalue.foldlM_append (.inl rfl)]
          exact foldlM_step_fieldsTokens hvalues [field] frames

theorem ofTokens?_tokens {value : Json} (h : value.Readable) :
    ofTokens? value.tokens = some value := by
  rw [ofTokens?, builds_tokens h [] .value (.inl rfl)]
  rfl

/-- A readable value is read back from its text. -/
theorem parse?_text {value : Json} (h : value.Readable) : parse? value.text = some value := by
  rw [parse?, tokens?_text h]
  exact ofTokens?_tokens h

/-! ## Characters -/

/-- The text holds no control character. -/
def Printable (text : List Char) : Prop :=
  ∀ c ∈ text, 0x20 ≤ c.toNat

instance (text : List Char) : Decidable (Printable text) :=
  List.decidableBAll (fun c : Char => 0x20 ≤ c.toNat) text

variable {text rest : List Char}

theorem Printable.append (h : Printable text) (hrest : Printable rest) :
    Printable (text ++ rest) :=
  List.forall_mem_append.mpr ⟨h, hrest⟩

theorem Printable.cons {c : Char} (hc : 0x20 ≤ c.toNat) (h : Printable text) :
    Printable (c :: text) :=
  List.forall_mem_cons.mpr ⟨hc, h⟩

theorem printable_of_isNumberPart {c : Char} (h : Scanner.isNumberPart c = true) :
    0x20 ≤ c.toNat := by
  simp only [Scanner.isNumberPart, Bool.or_eq_true, beq_iff_eq, Char.isDigit_iff_toNat] at h
  rcases h with ((((⟨hlow, -⟩ | rfl) | rfl) | rfl) | rfl) | rfl
  · exact Nat.le_trans (by decide) hlow
  all_goals decide

theorem printable_hexDigit : ∀ value < 16, 0x20 ≤ (hexDigit value).toNat := by
  decide

theorem printable_unitText {unit : Nat} (h : unit < 0x110000) : Printable (unitText unit) := by
  unfold unitText
  split_ifs with hplain
  · obtain ⟨hvalid, hprintable, -⟩ := bounds_of_unescaped h hplain
    exact List.forall_mem_singleton.mpr ((toNat_ofNat hvalid).symm ▸ hprintable)
  · have hdigit : ∀ n, 0x20 ≤ (hexDigit (n % 16)).toNat := fun n =>
      printable_hexDigit _ (Nat.mod_lt n (by decide))
    simp [escape, Printable, hdigit]

theorem printable_stringText {units : List Nat} (h : ∀ unit ∈ units, unit < 0x110000) :
    Printable (stringText units) := by
  refine .cons (by decide) (.append (fun c hc => ?_) (.cons (by decide) (by decide)))
  obtain ⟨unit, hunit, hc⟩ := List.mem_flatMap.mp hc
  exact printable_unitText (h unit hunit) c hc

theorem printable_itemsText {items : List Json} (h : ∀ item ∈ items, Printable item.text) :
    Printable (itemsText items) := by
  induction items with
  | nil => exact .cons (by decide) (by decide)
  | cons item items ih =>
      obtain ⟨hitem, hitems⟩ := List.forall_mem_cons.mp h
      exact .append (.cons (by decide) hitem) (ih hitems)

theorem printable_fieldsText {fields : List (List Nat × Json)}
    (hbound : ∀ field ∈ fields, ∀ unit ∈ field.1, unit < 0x110000)
    (h : ∀ field ∈ fields, Printable field.2.text) : Printable (fieldsText fields) := by
  induction fields with
  | nil => exact .cons (by decide) (by decide)
  | cons field fields ih =>
      obtain ⟨hkey, hkeys⟩ := List.forall_mem_cons.mp hbound
      obtain ⟨hvalue, hvalues⟩ := List.forall_mem_cons.mp h
      exact .append (.append (.cons (by decide) (printable_stringText hkey))
        (.cons (by decide) hvalue)) (ih hkeys hvalues)

/-- No control character is written. -/
theorem Readable.printable {value : Json} (h : value.Readable) : Printable value.text := by
  induction h with
  | null => decide
  | bool value => cases value <;> decide
  | number formed =>
      exact fun c hc => printable_of_isNumberPart (Numeral.isNumberPart_of_mem_text formed c hc)
  | string bound => exact printable_stringText bound
  | @array items _ ih =>
      cases items with
      | nil => decide
      | cons item items =>
          obtain ⟨hitem, hitems⟩ := List.forall_mem_cons.mp ih
          exact .append (.cons (by decide) hitem) (printable_itemsText hitems)
  | @object fields bound _ ih =>
      cases fields with
      | nil => decide
      | cons field fields =>
          obtain ⟨hkey, hkeys⟩ := List.forall_mem_cons.mp bound
          obtain ⟨hvalue, hvalues⟩ := List.forall_mem_cons.mp ih
          exact .append (.append (.cons (by decide) (printable_stringText hkey))
            (.cons (by decide) hvalue)) (printable_fieldsText hkeys hvalues)

theorem Readable.newline_not_mem_text {value : Json} (h : value.Readable) : '\n' ∉ value.text :=
  fun hmem => absurd (h.printable '\n' hmem) (by decide)

end SampledKmeans.Json
