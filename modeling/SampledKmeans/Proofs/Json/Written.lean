import SampledKmeans.Proofs.Json.Numeral
import SampledKmeans.Proofs.Number.Magnitude

/-!
# Finite numbers are written as numerals

The text of a finite number is that of a well-formed numeral
(`Json.exists_numeral_write`).  The digits are those of the shortest decimal, which is
not zero unless the number is: zero lies below the interval of the decimals that read
back, and moving trailing zeros into the exponent leaves a digit.  That its first digit
is no zero either keeps the written form from starting with one, wherever the point
comes to stand.
-/

namespace SampledKmeans

/-! ## The significand of the shortest decimal -/

namespace Decimal

variable {tie : Tie} {x : Dyadic} {place : Int} {d : Decadic}

theorem Decadic.significand_trim_ne_zero (h : d.significand ≠ 0) (fuel : Nat) :
    (d.trim fuel).significand ≠ 0 := by
  induction fuel generalizing d with
  | zero => exact h
  | succ fuel ih =>
      rw [trim]
      split_ifs with htrim
      · exact ih (d := ⟨d.significand / 10, d.exponent + 1⟩) (by dsimp only; omega)
      · exact h

theorem Dyadic.quarter_pos (x : Dyadic) (place : Int) : 0 < (x.scale place).quarter :=
  Nat.mul_pos (Nat.pow_pos (by decide)) (Nat.pow_pos (by decide))

theorem Dyadic.readsBack_zero (h : x.significand ≠ 0) (place : Int) :
    x.readsBack place 0 = false := by
  have hbelow : x.quartersBelow ≤ 2 := by
    unfold quartersBelow
    split_ifs <;> decide
  have hlow : 0 < (4 * x.significand - x.quartersBelow) * (x.scale place).quarter :=
    Nat.mul_pos (by omega) (x.quarter_pos place)
  simp only [readsBack, Nat.zero_mul]
  split_ifs
  · exact decide_eq_false fun hreads => absurd hreads.1 (Nat.not_le_of_lt hlow)
  · exact decide_eq_false fun hreads => absurd hreads.1 (Nat.not_lt_zero _)

theorem Dyadic.significand_ne_zero_of_onGrid? (h : x.significand ≠ 0)
    (hd : x.onGrid? tie place = some d) : d.significand ≠ 0 := by
  have hlower : ∀ n, x.readsBack place n = true → n ≠ 0 := by
    rintro n hreads rfl
    rw [readsBack_zero h place] at hreads
    cases hreads
  unfold onGrid? at hd
  dsimp only at hd
  split at hd <;> rename_i hreads hupper
  · obtain rfl := Option.some.inj hd
    dsimp only
    split_ifs
    · exact Nat.succ_ne_zero _
    · exact hlower _ hreads
  · obtain rfl := Option.some.inj hd
    exact hlower _ hreads
  · obtain rfl := Option.some.inj hd
    exact Nat.succ_ne_zero _
  · cases hd

theorem Dyadic.significand_shortest_ne_zero (h : x.significand ≠ 0) (tie : Tie) :
    (x.shortest tie).significand ≠ 0 := by
  refine Decadic.significand_trim_ne_zero ?_ 17
  generalize hfound : List.findSome? _ _ = found
  cases found with
  | none => exact h
  | some d =>
      obtain ⟨place, -, hgrid⟩ := List.exists_of_findSome?_eq_some hfound
      exact significand_ne_zero_of_onGrid? h hgrid

end Decimal

/-! ## Written magnitudes -/

namespace Json

open Decimal (digitsOf positionalText scientificText)
open Numeral (fractionText exponentText)

/-- The text is that of a number without a sign. -/
def IsMagnitude (text : List Char) : Prop :=
  ∃ numeral : Numeral, numeral.WellFormed ∧ numeral.negative = false ∧ numeral.text = text

variable {digits text : List Char}

theorem Numeral.fractionText_of_ne_nil (h : digits ≠ []) :
    fractionText digits = '.' :: digits := by
  cases digits with
  | nil => exact absurd rfl h
  | cons d ds => rfl

theorem isMagnitude_zero : IsMagnitude (positionalText true ['0'] 0) :=
  ⟨⟨false, ['0'], ['0'], none⟩, ⟨List.cons_ne_nil _ _,
    List.forall_mem_singleton.mpr rfl, fun _ => rfl, List.forall_mem_singleton.mpr rfl⟩, rfl, rfl⟩

theorem isMagnitude_positionalText (hne : digits ≠ [])
    (hdigits : ∀ c ∈ digits, c.isDigit = true) (hhead : digits.head? ≠ some '0')
    (exponent : Int) : IsMagnitude (positionalText true digits exponent) := by
  have hzeros : ∀ n, ∀ c ∈ List.replicate n '0', c.isDigit = true := by
    intro n c hc
    rw [List.eq_of_mem_replicate hc]
    rfl
  unfold positionalText
  simp only [if_true]
  split_ifs with hexponent hplaces
  · -- The digits and some zeros stand before the point.
    refine ⟨⟨false, digits ++ List.replicate exponent.toNat '0', ['0'], none⟩, ⟨?_, ?_, ?_, ?_⟩,
      rfl, ?_⟩
    · simp [hne]
    · exact List.forall_mem_append.mpr ⟨hdigits, hzeros _⟩
    · obtain ⟨d, ds, rfl⟩ := List.exists_cons_of_ne_nil hne
      exact fun hzero => absurd hzero hhead
    · exact List.forall_mem_singleton.mpr rfl
    · simp [Numeral.text, fractionText, exponentText]
  · -- The point stands among the digits.
    have hwhole : digits.take (digits.length - (-exponent).toNat) ≠ [] := by
      intro hnil
      rcases List.take_eq_nil_iff.mp hnil with hlength | hdigits
      · omega
      · exact hne hdigits
    have hfraction : digits.drop (digits.length - (-exponent).toNat) ≠ [] := by
      intro hnil
      have hlength := List.drop_eq_nil_iff.mp hnil
      omega
    refine ⟨⟨false, digits.take (digits.length - (-exponent).toNat),
      digits.drop (digits.length - (-exponent).toNat), none⟩, ⟨hwhole, ?_, ?_, ?_⟩, rfl, ?_⟩
    · exact fun c hc => hdigits c (List.mem_of_mem_take hc)
    · intro hzero
      dsimp only at hzero
      rw [List.head?_take, if_neg (by omega)] at hzero
      exact absurd hzero hhead
    · exact fun c hc => hdigits c (List.mem_of_mem_drop hc)
    · simp [Numeral.text, exponentText, Numeral.fractionText_of_ne_nil hfraction]
  · -- The digits follow the point, after some zeros.
    have hfraction : List.replicate ((-exponent).toNat - digits.length) '0' ++ digits ≠ [] := by
      simp [hne]
    refine ⟨⟨false, ['0'], List.replicate ((-exponent).toNat - digits.length) '0' ++ digits, none⟩,
      ⟨List.cons_ne_nil _ _, ?_, fun _ => rfl, ?_⟩, rfl, ?_⟩
    · exact List.forall_mem_singleton.mpr rfl
    · exact List.forall_mem_append.mpr ⟨hzeros _, hdigits⟩
    · simp [Numeral.text, exponentText, Numeral.fractionText_of_ne_nil hfraction]

theorem isMagnitude_scientificText (hne : digits ≠ [])
    (hdigits : ∀ c ∈ digits, c.isDigit = true) (hhead : digits.head? ≠ some '0')
    (decade : Int) : IsMagnitude (scientificText digits decade) := by
  obtain ⟨d, ds, rfl⟩ := List.exists_cons_of_ne_nil hne
  obtain ⟨hd, hds⟩ := List.forall_mem_cons.mp hdigits
  refine ⟨⟨false, [d], ds, some decade⟩, ⟨List.cons_ne_nil _ _, ?_, ?_, hds⟩, rfl, ?_⟩
  · exact List.forall_mem_singleton.mpr hd
  · exact fun hzero => absurd hzero hhead
  · cases ds <;> rfl

/-! ## Written numbers -/

theorem isMagnitude_magnitude (x : Decimal.Dyadic) :
    IsMagnitude (Decimal.Layout.json.magnitude x) := by
  unfold Decimal.Layout.magnitude
  split_ifs with hzero
  · exact isMagnitude_zero
  · have hpos : 0 < (x.shortest Decimal.Layout.json.tie).significand :=
      Nat.pos_of_ne_zero (Decimal.Dyadic.significand_shortest_ne_zero hzero _)
    have hne := Decimal.digitsOf_ne_nil (x.shortest Decimal.Layout.json.tie).significand
    have hhead := Decimal.head?_digitsOf hpos
    dsimp only
    split_ifs
    · exact isMagnitude_positionalText hne (fun _ => Decimal.isDigit_of_mem_digitsOf) hhead _
    · exact isMagnitude_scientificText hne (fun _ => Decimal.isDigit_of_mem_digitsOf) hhead _

theorem IsMagnitude.exists_numeral (h : IsMagnitude text) (negative : Bool) :
    ∃ numeral : Numeral, numeral.WellFormed ∧
      numeral.text = (if negative then ['-'] else []) ++ text := by
  obtain ⟨numeral, hformed, hsign, rfl⟩ := h
  refine ⟨{ numeral with negative },
    ⟨hformed.whole_ne_nil, hformed.whole_digits, hformed.zero_alone, hformed.fraction_digits⟩, ?_⟩
  simp [Numeral.text, hsign]

theorem isInf_of_isFinite {x : Float} (h : x.isFinite = true) : x.isInf = false := by
  have hunpacked : x.toModel.unpack.isFinite = true := h
  change x.toModel.unpack.isInf = false
  cases hx : x.toModel.unpack <;> rw [hx] at hunpacked <;> first | rfl | cases hunpacked

/-- A finite number is written as a numeral. -/
theorem exists_numeral_write {x : Float} (h : x.isFinite = true) :
    ∃ numeral : Numeral, numeral.WellFormed ∧ numeral.text = Decimal.Layout.json.write x := by
  unfold Decimal.Layout.write
  rw [Number.isNaN_of_isFinite h, isInf_of_isFinite h]
  exact (isMagnitude_magnitude (Decimal.Dyadic.ofFloat x)).exists_numeral (Decimal.isNegative x)

end Json

end SampledKmeans
