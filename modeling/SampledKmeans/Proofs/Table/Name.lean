import SampledKmeans.Proofs.Procedure
import SampledKmeans.Service

/-!
# The names of output tables

The two tables of a job are named by its location and its identifier, which may hold
any characters: quote marks, dots, or the whole name of another table.  What keeps
the names apart is that a name can be read in one way only.

`Quoted.Spells` is the grammar of what stands between quote marks, and
`TableName.Spelled` that of a whole name.  They say which texts stand for a name, not
how a text is made or read.  A name has one spelling, its text (`spelled_iff`), and
`ofText?` reads the spellings and nothing else (`ofText?_eq_some_iff`); hence texts
are equal only if the names are.  Two tables of different kinds already differ in
their prefixes.
-/

namespace SampledKmeans

/-! ## What stands between quote marks -/

namespace Quoted

/-- Between quote marks the text stands for the characters `s`: a doubled mark for one
mark, and every other character for itself.  There is no further escape. -/
inductive Spells (mark : Char) : List Char → List Char → Prop
  | nil : Spells mark [] []
  | doubled {text s : List Char} (rest : Spells mark text s) :
      Spells mark (mark :: mark :: text) (mark :: s)
  | plain {c : Char} {text s : List Char} (different : c ≠ mark) (rest : Spells mark text s) :
      Spells mark (c :: text) (c :: s)

variable {mark : Char} {text s rest : List Char}

theorem spells_encode (mark : Char) (s : List Char) : Spells mark (encode mark s) s := by
  induction s with
  | nil => exact .nil
  | cons c s ih =>
      by_cases hc : c = mark
      · subst hc
        rw [encode, if_pos rfl]
        exact .doubled ih
      · rw [encode, if_neg hc]
        exact .plain hc ih

theorem Spells.eq_encode (h : Spells mark text s) : text = encode mark s := by
  induction h with
  | nil => rfl
  | doubled _ ih => rw [encode, if_pos rfl, ih]
  | plain different _ ih => rw [encode, if_neg different, ih]

theorem spells_iff : Spells mark text s ↔ text = encode mark s := by
  constructor
  · intro h
    exact h.eq_encode
  · rintro rfl
    exact spells_encode mark s

/-- What is read from the front of a text stands there, followed by a mark. -/
theorem eq_of_decode? (h : decode? mark text = some (s, rest)) :
    text = encode mark s ++ mark :: rest := by
  fun_induction decode? mark text generalizing s rest with
  | case1 => cases h
  | case2 =>
      cases h
      rfl
  | case3 => cases h
  | case4 text ih =>
      obtain ⟨⟨s, rest⟩, hread, heq⟩ := Option.map_eq_some_iff.mp h
      cases heq
      rw [ih hread, encode, if_pos rfl]
      rfl
  | case5 d text hd =>
      cases h
      rfl
  | case6 c d text hc ih =>
      obtain ⟨⟨s, rest⟩, hread, heq⟩ := Option.map_eq_some_iff.mp h
      cases heq
      rw [ih hread, encode, if_neg hc]
      rfl

theorem eq_of_unquote? (h : unquote? mark text = some (s, rest)) :
    text = quoteChars mark s ++ rest := by
  cases text with
  | nil => cases h
  | cons c text =>
      rw [unquote?] at h
      split_ifs at h with hc
      rw [hc, eq_of_decode? h, quoteChars]
      simp

end Quoted

/-! ## Whole names -/

namespace TableName

/-- The text consists of two quoted identifiers that are joined by a dot: they stand
for the schema and the table of the name. -/
def Spelled (text : String) (name : TableName) : Prop :=
  ∃ schema table, Quoted.Spells '"' schema name.schema.toList ∧
    Quoted.Spells '"' table name.table.toList ∧
    text.toList = '"' :: schema ++ ['"', '.', '"'] ++ table ++ ['"']

/-- The text has exactly one reading as a name, which is the one that is read. -/
structure ReadsAs (text : String) (name : TableName) : Prop where
  spelled_iff : ∀ other, Spelled text other ↔ other = name
  read : ofText? text = some name

variable {text : String} {name name' : TableName}

theorem toList_text (name : TableName) :
    name.text.toList = Quoted.quoteChars '"' name.schema.toList ++
      '.' :: Quoted.quoteChars '"' name.table.toList := by
  simp [TableName.text, Quoted.identifier]

theorem spelled_iff : Spelled text name ↔ text = name.text := by
  rw [← String.toList_inj, toList_text]
  simp [Spelled, Quoted.spells_iff, Quoted.quoteChars]

/-- The reader accepts the spellings of names, and nothing else. -/
theorem ofText?_eq_some_iff : ofText? text = some name ↔ Spelled text name := by
  rw [TableName.spelled_iff]
  constructor
  · intro h
    obtain ⟨parts, hschema, h⟩ := Option.bind_eq_some_iff.mp h
    split at h
    case h_2 => cases h
    case h_1 schema rest =>
      obtain ⟨parts, htable, h⟩ := Option.bind_eq_some_iff.mp h
      split at h
      case h_2 => cases h
      case h_1 table =>
        cases h
        rw [← String.toList_inj, toList_text, Quoted.eq_of_unquote? hschema,
          Quoted.eq_of_unquote? htable]
        simp
  · rintro rfl
    exact ofText?_text name

theorem text_inj : name.text = name'.text ↔ name = name' := by
  constructor
  · intro h
    have hread : ofText? name.text = some name' := by
      rw [h]
      exact ofText?_text name'
    rw [ofText?_text] at hread
    exact Option.some.inj hread
  · rintro rfl
    rfl

theorem readsAs_text (name : TableName) : ReadsAs name.text name where
  spelled_iff other := by
    rw [TableName.spelled_iff, text_inj]
    exact eq_comm
  read := ofText?_eq_some_iff.mpr (TableName.spelled_iff.mpr rfl)

/-! ### The tables of jobs -/

theorem centroids_inj {location location' id id' : String} :
    centroids location id = centroids location' id' ↔ location = location' ∧ id = id' := by
  simp [centroids]

theorem points_inj {location location' id id' : String} :
    points location id = points location' id' ↔ location = location' ∧ id = id' := by
  simp [points]

theorem centroids_ne_points (location location' id id' : String) :
    centroids location id ≠ points location' id' := by
  intro h
  have htable : "kmeans_out_centroids_" ++ id = "kmeans_out_points_" ++ id' :=
    congrArg TableName.table h
  have hchars := congrArg String.toList htable
  simp at hchars

end TableName

/-! ## The names of jobs -/

/-- The identifier that a job goes by: its own, or the one of the environment. -/
def Job.idIn (job : Job) (environment : Environment) : String :=
  if job.id.isEmpty then environment.generatedId else job.id

namespace Service

open Procedure

variable {σ τ : Type}

/-- The names of a job are settled unless its source lacks a schema. -/
theorem outcome_settleNames (environment : Environment) (job : Job)
    (session : Session σ ChaCha) :
    (settleNames environment job).outcome session =
      ((TableName.ofSource job.source).map fun source =>
        job.namesWith source (job.idIn environment)).mapError Failure.error := by
  unfold settleNames Job.idIn
  cases TableName.ofSource job.source with
  | error error => rfl
  | ok source =>
      rw [check, pure_bind]
      split_ifs <;> rfl

theorem outcome_settleNames_of_ofSource {environment : Environment} {job : Job}
    {session : Session σ ChaCha} {source : TableName}
    (h : TableName.ofSource job.source = .ok source) :
    (settleNames environment job).outcome session =
      .ok (job.namesWith source (job.idIn environment)) := by
  rw [outcome_settleNames, h]
  rfl

theorem exists_namesWith_of_settleNames {environment : Environment} {job : Job}
    {session : Session σ ChaCha} {names : JobNames}
    (h : (settleNames environment job).outcome session = .ok names) :
    ∃ source, names = job.namesWith source (job.idIn environment) := by
  rw [outcome_settleNames] at h
  cases hsource : TableName.ofSource job.source with
  | error error =>
      rw [hsource] at h
      cases h
  | ok source =>
      rw [hsource] at h
      exact ⟨source, (Except.ok.inj h).symm⟩

/-- Two jobs whose names are settled, each in a session of its own, share a table of one
kind only if they share the location and the identifier; they never share one of
different kinds.  Each text is read back as the location and the identifier behind its
prefix, and in no other way. -/
theorem settleNames_unambiguous {environment environment' : Environment} {job job' : Job}
    {session : Session σ ChaCha} {session' : Session τ ChaCha} {names names' : JobNames}
    (h : (settleNames environment job).outcome session = .ok names)
    (h' : (settleNames environment' job').outcome session' = .ok names') :
    names.id = job.idIn environment ∧
    (names.centroidsTable.text = names'.centroidsTable.text ↔
      job.outputLocation = job'.outputLocation ∧ names.id = names'.id) ∧
    (names.pointsTable.text = names'.pointsTable.text ↔
      job.outputLocation = job'.outputLocation ∧ names.id = names'.id) ∧
    names.centroidsTable.text ≠ names'.pointsTable.text ∧
    TableName.ReadsAs names.centroidsTable.text
      ⟨job.outputLocation, "kmeans_out_centroids_" ++ names.id⟩ ∧
    TableName.ReadsAs names.pointsTable.text
      ⟨job.outputLocation, "kmeans_out_points_" ++ names.id⟩ := by
  obtain ⟨source, rfl⟩ := exists_namesWith_of_settleNames h
  obtain ⟨source', rfl⟩ := exists_namesWith_of_settleNames h'
  refine ⟨rfl, ?_, ?_, ?_, ?_, ?_⟩
  · exact TableName.text_inj.trans TableName.centroids_inj
  · exact TableName.text_inj.trans TableName.points_inj
  · intro htext
    exact TableName.centroids_ne_points _ _ _ _ (TableName.text_inj.mp htext)
  · exact TableName.readsAs_text _
  · exact TableName.readsAs_text _

/-- A location that ends in a quote mark and a dot, with an identifier that looks like
the border between two names, against a job that gives neither. -/
theorem settleNames_unambiguous_marks :
    let environment : Environment := { generatedId := "17", randomness := .ofSeed 7 }
    let job : Job := { source := "s.t", k := 2, id := "\".\"", location := "public\"." }
    let job' : Job := { source := "s.t", k := 2 }
    let session : Session Unit ChaCha := { store := (), random := .ofSeed 7 }
    ∃ names names', (settleNames environment job).outcome session = .ok names ∧
      (settleNames environment job').outcome session = .ok names' ∧
      names.centroidsTable.text = "\"public\"\".\".\"kmeans_out_centroids_\"\".\"\"\"" ∧
      names'.centroidsTable.text = "\"public\".\"kmeans_out_centroids_17\"" ∧
      names.centroidsTable.text ≠ names'.centroidsTable.text ∧
      names.centroidsTable.text ≠ names'.pointsTable.text ∧
      TableName.ReadsAs names.pointsTable.text ⟨"public\".", "kmeans_out_points_\".\""⟩ := by
  intro environment job job' session
  have hsource : TableName.ofSource "s.t" = .ok ⟨"s", "t"⟩ := rfl
  have hok : (settleNames environment job).outcome session =
      .ok (job.namesWith ⟨"s", "t"⟩ (job.idIn environment)) :=
    outcome_settleNames_of_ofSource hsource
  have hok' : (settleNames environment job').outcome session =
      .ok (job'.namesWith ⟨"s", "t"⟩ (job'.idIn environment)) :=
    outcome_settleNames_of_ofSource hsource
  obtain ⟨-, hcentroids, -, hkinds, -, hreads⟩ := settleNames_unambiguous hok hok'
  refine ⟨_, _, hok, hok', by decide, by decide, ?_, hkinds, hreads⟩
  intro htext
  have hid : job.idIn environment = job'.idIn environment := (hcentroids.mp htext).2
  exact absurd hid (by decide)

end Service

end SampledKmeans
