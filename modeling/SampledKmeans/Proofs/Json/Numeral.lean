import Mathlib.Data.List.TakeDrop
import SampledKmeans.Json.Number

/-!
# Written numerals

`Numeral.text` sets the parts of a number out as text.  Provided that the parts are
digits and that a zero in front stands alone (`Numeral.WellFormed`), the reader finds the
parts again (`Numeral.ofText?_text`), and no character of the text ends a number before
its end (`Numeral.isNumberPart_of_mem_text`).  Whole numbers are written in this way, and
are read back as they were.
-/

namespace SampledKmeans

/-! ## Digits -/

namespace Decimal

theorem digitsOf_ne_nil (n : Nat) : digitsOf n ≠ [] :=
  Nat.toDigits_ne_nil

theorem isDigit_of_mem_digitsOf {n : Nat} {c : Char} (h : c ∈ digitsOf n) : c.isDigit = true :=
  Nat.isDigit_of_mem_toDigits (by decide) (Nat.le_refl 10) h

theorem digitsOf_of_lt {n : Nat} (h : n < 10) : digitsOf n = [n.digitChar] :=
  Nat.toDigits_of_lt_base h

/-- Only zero has a digit zero in front. -/
theorem head?_digitsOf {n : Nat} (hpos : 0 < n) : (digitsOf n).head? ≠ some '0' := by
  induction n using Nat.strongRecOn with
  | ind n ih =>
      by_cases hlt : n < 10
      · rw [digitsOf_of_lt hlt, List.head?_cons, ne_eq, Option.some.injEq, Nat.digitChar_eq_zero]
        exact Nat.ne_of_gt hpos
      · have hsplit : digitsOf n = digitsOf (n / 10) ++ [Nat.digitChar (n % 10)] :=
          Nat.toDigits_of_base_le (by decide) (Nat.le_of_not_lt hlt)
        have hhead := ih (n / 10) (by omega) (by omega)
        obtain ⟨d, ds, hdigits⟩ := List.exists_cons_of_ne_nil (digitsOf_ne_nil (n / 10))
        rw [hdigits] at hhead hsplit
        rwa [hsplit]

end Decimal

namespace Json

open Decimal (digitsOf)

theorem digitsValue_digitsOf (n : Nat) : digitsValue (digitsOf n) = n :=
  Nat.ofDigitChars_ten_toDigits

theorem span_append {α : Type} {p : α → Bool} {l rest : List α} (h : ∀ a ∈ l, p a = true)
    (hrest : ∀ a ∈ rest.head?, p a = false) : (l ++ rest).span p = (l, rest) := by
  rw [List.span_eq_takeWhile_dropWhile, List.takeWhile_append_of_pos h,
    List.dropWhile_append_of_pos h]
  cases rest with
  | nil => simp
  | cons a rest => simp [hrest a rfl]

namespace Numeral

/-! ## Setting out the parts -/

/-- The digits after the point as they are written, with the point if there are any. -/
def fractionText : List Char → List Char
  | [] => []
  | digits => '.' :: digits

/-- The exponent as it is written, with its mark if there is one. -/
def exponentText : Option Int → List Char
  | none => []
  | some exponent => 'e' :: (if exponent < 0 then '-' else '+') :: digitsOf exponent.natAbs

/-- The number as it is written. -/
def text (numeral : Numeral) : List Char :=
  (if numeral.negative then ['-'] else []) ++
    (numeral.whole ++ (fractionText numeral.fraction ++ exponentText numeral.exponent))

/-- The parts are digits, and a zero before the point stands alone. -/
structure WellFormed (numeral : Numeral) : Prop where
  whole_ne_nil : numeral.whole ≠ []
  whole_digits : ∀ c ∈ numeral.whole, c.isDigit = true
  zero_alone : numeral.whole.head? = some '0' → numeral.whole = ['0']
  fraction_digits : ∀ c ∈ numeral.fraction, c.isDigit = true

variable {numeral : Numeral}

/-! ## Reading the parts -/

theorem exponent?_of_digits (exponent : Int) :
    exponent? ((if exponent < 0 then '-' else '+') :: digitsOf exponent.natAbs) =
      some exponent := by
  have hall : (digitsOf exponent.natAbs).all Char.isDigit = true :=
    List.all_eq_true.mpr fun _ => Decimal.isDigit_of_mem_digitsOf
  have hdigits : (!(digitsOf exponent.natAbs).isEmpty &&
      (digitsOf exponent.natAbs).all Char.isDigit) = true := by
    simp [hall, Decimal.digitsOf_ne_nil]
  split_ifs with hneg
  · simp only [exponent?, hdigits, if_true, digitsValue_digitsOf, Option.some.injEq]
    omega
  · simp only [exponent?, hdigits, if_true, digitsValue_digitsOf, Option.some.injEq]
    omega

theorem head?_tail_ne_digit (fraction : List Char) (exponent : Option Int) :
    ∀ c ∈ (fractionText fraction ++ exponentText exponent).head?, c.isDigit = false := by
  cases fraction with
  | cons d ds =>
      rintro c ⟨⟩
      rfl
  | nil =>
      cases exponent with
      | none => simp [fractionText, exponentText]
      | some e =>
          rintro c ⟨⟩
          rfl

/-- What the reader makes of the text after the digits before the point. -/
def ofTail? (negative : Bool) (whole tail : List Char) : Option Numeral :=
  let (fraction, rest, pointless) := match tail with
    | '.' :: rest =>
      let (fraction, rest) := rest.span Char.isDigit
      (fraction, rest, false)
    | _ => ([], tail, true)
  if !pointless && fraction.isEmpty then
    none
  else
    match rest with
    | [] => some ⟨negative, whole, fraction, none⟩
    | c :: rest =>
      if c = 'e' ∨ c = 'E' then
        (exponent? rest).map fun exponent => ⟨negative, whole, fraction, some exponent⟩
      else
        none

theorem ofText?_eq_ofTail? {whole tail : List Char} (negative : Bool) (hne : whole ≠ [])
    (hwhole : ∀ c ∈ whole, c.isDigit = true) (hzero : whole.head? = some '0' → whole = ['0'])
    (htail : ∀ c ∈ tail.head?, c.isDigit = false) :
    ofText? ((if negative then ['-'] else []) ++ (whole ++ tail)) =
      ofTail? negative whole tail := by
  have hspan : (whole ++ tail).span Char.isDigit = (whole, tail) := span_append hwhole htail
  have hguard : (whole.isEmpty || (whole.head? == some '0' && whole != ['0'])) = false := by
    by_cases hhead : whole.head? = some '0' <;> simp_all
  cases negative with
  | true =>
      unfold ofText?
      simp only [if_true, List.singleton_append, hspan, hguard]
      rfl
  | false =>
      obtain ⟨d, ds, rfl⟩ := List.exists_cons_of_ne_nil hne
      have hsign : d ≠ '-' := by
        rintro rfl
        exact Bool.false_ne_true (hwhole '-' List.mem_cons_self)
      unfold ofText?
      rw [if_neg Bool.false_ne_true, List.nil_append]
      simp only [List.cons_append] at hspan ⊢
      split
      · simp_all
      simp only [hspan, hguard]
      rfl

theorem ofTail?_of_parts (negative : Bool) (whole : List Char) {fraction : List Char}
    (hfraction : ∀ c ∈ fraction, c.isDigit = true) (exponent : Option Int) :
    ofTail? negative whole (fractionText fraction ++ exponentText exponent) =
      some ⟨negative, whole, fraction, exponent⟩ := by
  have hexponent : ∀ c ∈ (exponentText exponent).head?, c.isDigit = false :=
    head?_tail_ne_digit [] exponent
  cases fraction with
  | nil =>
      cases exponent with
      | none => rfl
      | some e => exact congrArg (Option.map _) (exponent?_of_digits e)
  | cons d ds =>
      have hspan := span_append hfraction hexponent
      unfold ofTail?
      simp only [fractionText, List.cons_append] at hspan ⊢
      simp only [hspan]
      cases exponent with
      | none => rfl
      | some e => exact congrArg (Option.map _) (exponent?_of_digits e)

theorem ofText?_text (h : numeral.WellFormed) : ofText? numeral.text = some numeral := by
  rw [text, ofText?_eq_ofTail? numeral.negative h.whole_ne_nil h.whole_digits h.zero_alone
    (head?_tail_ne_digit numeral.fraction numeral.exponent)]
  exact ofTail?_of_parts numeral.negative numeral.whole h.fraction_digits numeral.exponent

/-! ## Characters -/

theorem isNumberPart_of_isDigit {c : Char} (h : c.isDigit = true) :
    Scanner.isNumberPart c = true := by
  simp [Scanner.isNumberPart, h]

theorem isNumberPart_of_mem_text (h : numeral.WellFormed) :
    ∀ c ∈ numeral.text, Scanner.isNumberPart c = true := by
  obtain ⟨negative, whole, fraction, exponent⟩ := numeral
  have hfraction : ∀ c ∈ fractionText fraction, Scanner.isNumberPart c = true := by
    cases fraction with
    | nil => simp [fractionText]
    | cons d ds =>
        refine List.forall_mem_cons.mpr ⟨rfl, fun c hc => ?_⟩
        exact isNumberPart_of_isDigit (h.fraction_digits c hc)
  have hexponent : ∀ c ∈ exponentText exponent, Scanner.isNumberPart c = true := by
    cases exponent with
    | none => simp [exponentText]
    | some e =>
        refine List.forall_mem_cons.mpr ⟨rfl, List.forall_mem_cons.mpr ⟨?_, fun c hc => ?_⟩⟩
        · split_ifs <;> rfl
        · exact isNumberPart_of_isDigit (Decimal.isDigit_of_mem_digitsOf hc)
  intro c hc
  simp only [text, List.mem_append] at hc
  rcases hc with hsign | hwhole | hfrac | hexp
  · split_ifs at hsign
    · rw [List.mem_singleton.mp hsign]
      rfl
    · cases hsign
  · exact isNumberPart_of_isDigit (h.whole_digits c hwhole)
  · exact hfraction c hfrac
  · exact hexponent c hexp

/-- A number starts with a digit or a sign. -/
theorem exists_text_eq_cons (h : numeral.WellFormed) :
    ∃ c rest, numeral.text = c :: rest ∧ (c.isDigit || c == '-') = true := by
  obtain ⟨negative, whole, fraction, exponent⟩ := numeral
  cases negative with
  | true => exact ⟨'-', _, rfl, rfl⟩
  | false =>
      obtain ⟨d, ds, rfl⟩ := List.exists_cons_of_ne_nil h.whole_ne_nil
      exact ⟨d, _, rfl, by simp [h.whole_digits d List.mem_cons_self]⟩

/-! ## Whole numbers -/

/-- The parts of a whole number. -/
def ofInt (n : Int) : Numeral where
  negative := n < 0
  whole := digitsOf n.natAbs
  fraction := []
  exponent := none

theorem wellFormed_ofInt (n : Int) : (ofInt n).WellFormed where
  whole_ne_nil := Decimal.digitsOf_ne_nil _
  whole_digits _ := Decimal.isDigit_of_mem_digitsOf
  zero_alone hhead := by
    rcases Nat.eq_zero_or_pos n.natAbs with hzero | hpos
    · exact (congrArg digitsOf hzero).trans (Nat.toDigits_zero 10)
    · exact absurd hhead (Decimal.head?_digitsOf hpos)
  fraction_digits c hc := by cases hc

theorem int?_ofInt (n : Int) : (ofInt n).int? = some n := by
  have hvalue : digitsValue (ofInt n).whole = n.natAbs := digitsValue_digitsOf _
  have hwhole : (!(ofInt n).fraction.isEmpty || (ofInt n).exponent.isSome) = false := rfl
  unfold int?
  rw [hvalue, hwhole, if_neg Bool.false_ne_true]
  by_cases hneg : n < 0
  · have hmagnitude : n.natAbs ≠ 0 := by omega
    have hsign : -(n.natAbs : Int) = n := by omega
    simp only [ofInt, hneg, decide_true, if_true, hmagnitude, if_false, hsign]
  · have hmagnitude : (n.natAbs : Int) = n := by omega
    simp only [ofInt, hneg, decide_false, Bool.false_eq_true, if_false, hmagnitude]

end Numeral

theorem ofInt_eq (n : Int) : ofInt n = .number (Numeral.ofInt n).text := by
  simp [ofInt, Numeral.text, Numeral.ofInt, Numeral.fractionText, Numeral.exponentText]

theorem ofNat_eq_ofInt (n : Nat) : ofNat n = ofInt n := by
  simp [ofNat, ofInt]

theorem int?_ofInt {low high n : Int} (hlow : low ≤ n) (hhigh : n ≤ high) :
    int? low high (ofInt n) = some n := by
  rw [ofInt_eq, int?, Numeral.ofText?_text (Numeral.wellFormed_ofInt n)]
  simp [Numeral.int?_ofInt, hlow, hhigh]

theorem nat?_ofNat {high n : Nat} (h : n ≤ high) : nat? high (ofNat n) = some n := by
  rw [nat?, ofNat_eq_ofInt, int?_ofInt (Int.natCast_nonneg n) (Int.ofNat_le.mpr h)]
  rfl

end Json

end SampledKmeans
