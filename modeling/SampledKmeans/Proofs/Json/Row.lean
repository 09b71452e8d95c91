import SampledKmeans.Json.Row
import SampledKmeans.Proofs.Json.RoundTrip
import SampledKmeans.Proofs.Json.Written
import SampledKmeans.Proofs.Nearest

/-!
# Written rows read back

A row is written as an object, whose fields are found again by their names
(`fields?_record`).  Its identifiers are read as they were written.  Its vector is, too,
as far as the numbers in it are: not every finite number comes back from its text, since
the reader rounds more than once (`ReadsBack`).  A row is hence read as it was exactly
when each of its numbers is (`Inverts`).
-/

namespace SampledKmeans.Json

/-! ## Fields -/

theorem toNat_bounds (c : Char) :
    c.toNat < 0xD800 ∨ 0xDFFF < c.toNat ∧ c.toNat < 0x110000 :=
  c.valid

theorem not_surrogate (c : Char) :
    isHighSurrogate c.toNat = false ∧ isLowSurrogate c.toNat = false := by
  have hbounds := toNat_bounds c
  simp only [isHighSurrogate, isLowSurrogate, Bool.and_eq_false_iff, decide_eq_false_iff_not]
  omega

theorem textOf?_unitsOf (text : List Char) : textOf? (unitsOf text) = some text := by
  induction text with
  | nil => rfl
  | cons c text ih =>
      obtain ⟨hhigh, hlow⟩ := not_surrogate c
      cases text with
      | nil => simp [unitsOf, textOf?, hhigh, hlow]
      | cons d text =>
          change textOf? (c.toNat :: d.toNat :: unitsOf text) = _
          rw [textOf?, hhigh, hlow]
          change (textOf? (unitsOf (d :: text))).map _ = _
          rw [ih, Option.map_some, Char.ofNat_toNat]

/-- A field of an object, by the code units of its name. -/
def keyed (field : String × Json) : List Nat × Json :=
  (unitsOf field.1.toList, field.2)

theorem record_eq (fields : List (String × Json)) : record fields = .object (fields.map keyed) :=
  rfl

variable {fields : List (String × Json)}

theorem filter_name (hnodup : (fields.map Prod.fst).Nodup) {field : String × Json}
    (h : field ∈ fields) : fields.filter (fun other => other.1 == field.1) = [field] := by
  induction fields with
  | nil => cases h
  | cons first fields ih =>
      obtain ⟨hfirst, hnodup⟩ := List.nodup_cons.mp hnodup
      rcases List.mem_cons.mp h with rfl | hmem
      · have hothers : fields.filter (fun other => other.1 == field.1) = [] := by
          refine List.filter_eq_nil_iff.mpr fun other hother heq => hfirst ?_
          rw [← eq_of_beq heq]
          exact List.mem_map_of_mem hother
        rw [List.filter_cons, if_pos (beq_self_eq_true _), hothers]
      · have hne : ¬ (first.1 == field.1) = true := by
          intro heq
          rw [eq_of_beq heq] at hfirst
          exact hfirst (List.mem_map_of_mem hmem)
        rw [List.filter_cons, if_neg hne, ih hnodup hmem]

theorem fieldOnce?_keyed (hnodup : (fields.map Prod.fst).Nodup) {field : String × Json}
    (h : field ∈ fields) : fieldOnce? (fields.map keyed) field.1 = some (some field.2) := by
  have hname : ∀ other : String × Json,
      (textOf? (keyed other).1 == some field.1.toList) = (other.1 == field.1) := by
    intro other
    rw [keyed, textOf?_unitsOf, Bool.eq_iff_iff, beq_iff_eq, beq_iff_eq, Option.some.injEq,
      String.toList_inj]
  have hfilter : (fields.map keyed).filter (fun other => textOf? other.1 == some field.1.toList) =
      [keyed field] := by
    rw [List.filter_map]
    change (fields.filter fun other => textOf? (keyed other).1 == _).map _ = _
    rw [funext hname, filter_name hnodup h]
    rfl
  unfold fieldOnce?
  split
  · next hnone => exact absurd (hfilter.symm.trans hnone) (List.cons_ne_nil _ _)
  · next hone =>
      cases hone.symm.trans hfilter
      rfl
  · next hmany => exact absurd hfilter (hmany _ _)

/-- The fields of an object are found by their names. -/
theorem fields?_record (fields : List (String × Json)) (hnodup : (fields.map Prod.fst).Nodup) :
    fields? (fields.map Prod.fst) (record fields) = some (fields.map Prod.snd) := by
  have hkeys : ((fields.map keyed).all fun field => (textOf? field.1).isSome) = true := by
    simp [List.all_eq_true, keyed, textOf?_unitsOf]
  have hfields : (fields.map Prod.fst).mapM (fieldOnce? (fields.map keyed)) =
      some (fields.map fun field => some field.2) := by
    rw [List.mapM_map, forall₂_iff_mapM_eq_some, List.forall₂_map_right_iff, List.forall₂_same]
    exact fun field hfield => fieldOnce?_keyed hnodup hfield
  have hvalues : (fields.map fun field => some field.2).mapM id = some (fields.map Prod.snd) := by
    rw [List.mapM_map]
    exact List.mapM_pure
  have hoptional : optionalFields? (fields.map Prod.fst) (record fields) =
      some (fields.map fun field => some field.2) := by
    rw [record_eq, optionalFields?]
    exact (if_pos hkeys).trans hfields
  rw [fields?, hoptional, Option.bind_some, hvalues]

theorem readable_record (h : ∀ field ∈ fields, field.2.Readable) : (record fields).Readable := by
  refine .object (fun field hfield unit hunit => ?_) (fun field hfield => ?_)
  · obtain ⟨source, -, rfl⟩ := List.mem_map.mp hfield
    obtain ⟨c, -, rfl⟩ := List.mem_map.mp hunit
    have hbounds := toNat_bounds c
    omega
  · obtain ⟨source, hsource, rfl⟩ := List.mem_map.mp hfield
    exact h source hsource

/-! ## Numbers -/

/-- The number is read from its text as it was. -/
def ReadsBack (x : Float) : Prop :=
  float? (ofFloat x) = some x

instance (x : Float) : Decidable (ReadsBack x) :=
  inferInstanceAs (Decidable (float? (ofFloat x) = some x))

theorem readable_ofInt (n : Int) : (ofInt n).Readable := by
  rw [ofInt_eq]
  exact .number (Numeral.wellFormed_ofInt n)

theorem readable_ofNat (n : Nat) : (ofNat n).Readable := by
  rw [ofNat_eq_ofInt]
  exact readable_ofInt n

theorem readable_ofFloat (x : Float) : (ofFloat x).Readable := by
  unfold ofFloat
  split_ifs with hfinite
  · obtain ⟨numeral, hformed, htext⟩ := exists_numeral_write hfinite
    rw [← htext]
    exact .number hformed
  · exact .null

/-! ## Vectors -/

/-- What is read up to a part of it is read as it was exactly when the part is. -/
theorem bind_eq_some_iff_of_part {α β : Type} {read : Option β} {build : β → α} {part : α → β}
    {a : α} (hbuild : build (part a) = a) (hpart : ∀ b, part (build b) = b) :
    (read.bind fun b => some (build b)) = some a ↔ read = some (part a) := by
  rw [Option.bind_eq_some_iff]
  constructor
  · rintro ⟨b, hread, heq⟩
    rw [hread, ← Option.some.inj heq, hpart]
  · exact fun hread => ⟨part a, hread, congrArg some hbuild⟩

theorem readable_ofVector (v : SparseVector) : (ofVector v).Readable := by
  refine readable_record ?_
  simp only [List.forall_mem_cons, List.not_mem_nil, false_imp_iff, implies_true, and_true]
  exact ⟨.array (List.forall_mem_map.mpr fun i _ => readable_ofNat i.toNat),
    .array (List.forall_mem_map.mpr fun x _ => readable_ofFloat x)⟩

/-- The indices of a vector are read as they were, and its values as far as they are
numbers that read back. -/
theorem vector?_ofVector (v : SparseVector) :
    vector? (ofVector v) =
      (v.values.mapM fun x => float? (ofFloat x)).bind fun values => some { v with values } := by
  have hfields : fields? ["indices", "values"] (ofVector v) = some
      [.array (v.indices.map fun i => ofNat i.toNat), .array (v.values.map ofFloat)] :=
    fields?_record [("indices", _), ("values", _)] (by simp)
  have hindices : (v.indices.map fun i => ofNat i.toNat).mapM (nat? maxIndex) =
      some (v.indices.map UInt32.toNat) := by
    rw [List.mapM_map, forall₂_iff_mapM_eq_some, List.forall₂_map_right_iff, List.forall₂_same]
    exact fun i _ => nat?_ofNat (Nat.le_of_lt_succ i.toNat_lt)
  have hback : (v.indices.map UInt32.toNat).map UInt32.ofNat = v.indices := by
    rw [List.map_map]
    exact (List.map_congr_left fun i _ => UInt32.ofNat_toNat).trans (List.map_id _)
  rw [vector?, hfields]
  simp only [Option.bind_eq_bind, Option.bind_some, items?, hindices, hback, List.mapM_map]
  rfl

theorem vector?_ofVector_eq_some_iff {v : SparseVector} :
    vector? (ofVector v) = some v ↔ ∀ x ∈ v.values, ReadsBack x := by
  rw [vector?_ofVector, bind_eq_some_iff_of_part rfl fun _ => rfl, forall₂_iff_mapM_eq_some,
    List.forall₂_same]
  rfl

-- a finite value that is read as one of its neighbours
example : vector? (ofVector ⟨[0], [97497.18255256917]⟩) = some ⟨[0], [97497.18255256915]⟩ := by
  decide +kernel

/-! ## Rows -/

variable {α : Type}

/-- The written row is readable, and it is read as it was exactly when the numbers of its
vector are. -/
structure Inverts (write : α → Json) (read : Json → Option α) (position : α → SparseVector)
    (row : α) : Prop where
  readable : (write row).Readable
  read_eq_some_iff : read (write row) = some row ↔ ∀ x ∈ (position row).values, ReadsBack x

theorem inverts_ofCentroid {centroid : Centroid} (h : centroid.id ≤ maxCount) :
    Inverts ofCentroid centroid? Centroid.position centroid where
  readable := by
    refine readable_record ?_
    simp only [List.forall_mem_cons, List.not_mem_nil, false_imp_iff, implies_true, and_true]
    exact ⟨readable_ofNat centroid.id, readable_ofVector centroid.position⟩
  read_eq_some_iff := by
    have hfields : fields? ["id", "position"] (ofCentroid centroid) =
        some [ofNat centroid.id, ofVector centroid.position] :=
      fields?_record [("id", _), ("position", _)] (by simp)
    rw [← vector?_ofVector_eq_some_iff, centroid?, hfields]
    simp only [Option.bind_eq_bind, Option.bind_some, nat?_ofNat h, Option.pure_def]
    exact bind_eq_some_iff_of_part rfl fun _ => rfl

theorem inverts_ofAssignment {row : Assignment} (hlow : -2 ^ 63 ≤ row.pointId)
    (hhigh : row.pointId ≤ 2 ^ 63 - 1) (h : row.centroidId ≤ maxCount) :
    Inverts ofAssignment assignment? Assignment.position row where
  readable := by
    refine readable_record ?_
    simp only [List.forall_mem_cons, List.not_mem_nil, false_imp_iff, implies_true, and_true]
    exact ⟨readable_ofInt row.pointId, readable_ofVector row.position,
      readable_ofNat row.centroidId⟩
  read_eq_some_iff := by
    have hfields : fields? ["point_id", "position", "centroid_id"] (ofAssignment row) =
        some [ofInt row.pointId, ofVector row.position, ofNat row.centroidId] :=
      fields?_record [("point_id", _), ("position", _), ("centroid_id", _)] (by simp)
    have hpoint : pointId? (ofInt row.pointId) = some row.pointId := int?_ofInt hlow hhigh
    rw [← vector?_ofVector_eq_some_iff, assignment?, hfields]
    simp only [Option.bind_eq_bind, Option.bind_some, nat?_ofNat h, hpoint, Option.pure_def]
    exact bind_eq_some_iff_of_part rfl fun _ => rfl

end SampledKmeans.Json
