import SampledKmeans.Proofs.Table.Name
import SampledKmeans.Proofs.Table.Path
import SampledKmeans.Table.JsonLines

/-!
# Which tables share a file

The file of a table is named by the text of the table's name without its quote marks.
That drops the marks which are part of a location or an identifier along with those
around them, and with them the border between the two parts, so that different names
may lead to one file.

What is left of a name is `TableName.unmarked`.  A dot joins its parts, and the table
of a job starts with `kmeans_out_`.  Where no location holds that separator, its first
place in a file name is the border, and the parts can be told apart again
(`append_separator_inj`): the tables share their file just if they agree without
their marks (`components_text_eq_iff`).

A location or an identifier that holds slashes makes directories of a file name.  Paths
are compared by their components, so that the name must be a normal one, without empty
parts and single dots: `a` and `./a` are one location to a file system.  A step to the
directory above is a component like any other; where it leads is not asked.
-/

namespace SampledKmeans

/-- A text without its quote marks. -/
def Quoted.unmarked (text : String) : String :=
  String.ofList (text.toList.filter (· ≠ '"'))

/-- A name without the quote marks in its parts. -/
def TableName.unmarked (name : TableName) : TableName :=
  ⟨Quoted.unmarked name.schema, Quoted.unmarked name.table⟩

/-! ## Texts without quote marks -/

namespace Quoted

theorem toList_unmarked (text : String) :
    (unmarked text).toList = text.toList.filter (· ≠ '"') :=
  String.toList_ofList

theorem unmarked_eq_self {text : String} (h : '"' ∉ text.toList) : unmarked text = text := by
  rw [← String.toList_inj, toList_unmarked, List.filter_eq_self]
  intro c hc
  have hne : c ≠ '"' := fun hmark => h (hmark ▸ hc)
  simpa using hne

theorem unmarked_append (first second : String) :
    unmarked (first ++ second) = unmarked first ++ unmarked second := by
  simp [unmarked]

theorem filter_encode (mark : Char) (s : List Char) :
    (encode mark s).filter (· ≠ mark) = s.filter (· ≠ mark) := by
  induction s with
  | nil => rfl
  | cons c s ih =>
      by_cases hc : c = mark
      · simpa [encode, hc] using ih
      · simpa [encode, hc] using ih

theorem unmarked_identifier (name : String) : unmarked (identifier name) = unmarked name := by
  rw [← String.toList_inj, toList_unmarked, toList_unmarked, identifier, String.toList_ofList,
    quoteChars, ← filter_encode '"' name.toList]
  simp

end Quoted

theorem TableName.unmarked_text (name : TableName) :
    Quoted.unmarked name.text = name.unmarked.schema ++ "." ++ name.unmarked.table := by
  rw [text, Quoted.unmarked_append, Quoted.unmarked_append, Quoted.unmarked_identifier,
    Quoted.unmarked_identifier]
  rfl

/-! ## The border between the parts -/

section Separator

variable {α : Type} {c : α} {word first first' second second' : List α}

/-- A separator whose first character does not come again in it starts a list only in
front, unless it is passed over as a whole. -/
theorem eq_nil_of_append_separator (hc : c ∉ word) (hfirst : ¬ c :: word <:+: first)
    (h : c :: word ++ second = first ++ (c :: word ++ second')) : first = [] := by
  cases first with
  | nil => rfl
  | cons d first =>
      obtain ⟨rfl, hrest⟩ := List.cons.inj h
      exfalso
      rcases List.append_eq_append_iff.mp hrest with ⟨passed, rfl, -⟩ | ⟨left, rfl, hleft⟩
      · exact hfirst (List.prefix_append (c :: word) passed).isInfix
      · cases left with
        | nil =>
            rw [List.append_nil] at hfirst
            exact hfirst (List.infix_refl _)
        | cons d left =>
            obtain ⟨rfl, -⟩ := List.cons.inj hleft
            exact hc (by simp)

theorem append_separator_inj (hc : c ∉ word) (hfirst : ¬ c :: word <:+: first)
    (hfirst' : ¬ c :: word <:+: first') :
    first ++ (c :: word ++ second) = first' ++ (c :: word ++ second') ↔
      first = first' ∧ second = second' := by
  constructor
  · intro h
    have heq : first = first' := by
      rcases List.append_eq_append_iff.mp h with ⟨rest, rfl, hrest⟩ | ⟨rest, rfl, hrest⟩
      · have hrest' : ¬ c :: word <:+: rest := fun hstands =>
          hfirst' (hstands.trans (List.suffix_append first rest).isInfix)
        rw [eq_nil_of_append_separator hc hrest' hrest, List.append_nil]
      · have hrest' : ¬ c :: word <:+: rest := fun hstands =>
          hfirst (hstands.trans (List.suffix_append first' rest).isInfix)
        rw [eq_nil_of_append_separator hc hrest' hrest, List.append_nil]
    subst heq
    exact ⟨rfl, by simpa using h⟩
  · rintro ⟨rfl, rfl⟩
    rfl

end Separator

/-! ## Paths below a directory -/

theorem startsWith_slash_append_dot (location rest : String) :
    (location ++ "." ++ rest).startsWith "/" = location.startsWith "/" := by
  rw [Bool.eq_iff_iff, String.startsWith_string_iff, String.startsWith_string_iff]
  cases hlocation : location.toList with
  | nil => simp [hlocation]
  | cons c chars => simp [hlocation]

/-! ## The files of the tables of jobs -/

/-- The table is one that jobs write. -/
def TableName.IsOutput (name : TableName) : Prop :=
  ∃ location id, name = .centroids location id ∨ name = .points location id

namespace JsonLines

variable {name name' : TableName} {directory : String}

/-- What stands before the identifier in the table of a job, from the dot on. -/
def separator : List Char :=
  ".kmeans_out_".toList

theorem exists_unmarked_table (h : name.IsOutput) :
    ∃ rest, name.unmarked.table = "kmeans_out_" ++ rest := by
  obtain ⟨location, id, rfl | rfl⟩ := h
  · exact ⟨"centroids_" ++ Quoted.unmarked id, Quoted.unmarked_append "kmeans_out_centroids_" id⟩
  · exact ⟨"points_" ++ Quoted.unmarked id, Quoted.unmarked_append "kmeans_out_points_" id⟩

theorem unmarked_text_eq_iff (h : name.IsOutput) (h' : name'.IsOutput)
    (hlocation : ¬ separator <:+: name.unmarked.schema.toList)
    (hlocation' : ¬ separator <:+: name'.unmarked.schema.toList) :
    Quoted.unmarked name.text = Quoted.unmarked name'.text ↔ name.unmarked = name'.unmarked := by
  obtain ⟨rest, hrest⟩ := exists_unmarked_table h
  obtain ⟨rest', hrest'⟩ := exists_unmarked_table h'
  have hsplit (schema rest : String) : (schema ++ "." ++ ("kmeans_out_" ++ rest)).toList =
      schema.toList ++ ('.' :: "kmeans_out_".toList ++ rest.toList) := by
    simp
  constructor
  · intro htext
    rw [TableName.unmarked_text, TableName.unmarked_text, hrest, hrest', ← String.toList_inj,
      hsplit, hsplit] at htext
    obtain ⟨hschema, htable⟩ := (append_separator_inj (by decide) hlocation hlocation').mp htext
    have hunmarked : name.unmarked.table = name'.unmarked.table := by
      rw [hrest, hrest', String.toList_inj.mp htable]
    calc name.unmarked
        = ⟨name.unmarked.schema, name.unmarked.table⟩ := rfl
      _ = ⟨name'.unmarked.schema, name'.unmarked.table⟩ := by
          rw [String.toList_inj.mp hschema, hunmarked]
      _ = name'.unmarked := rfl
  · intro hname
    rw [TableName.unmarked_text, TableName.unmarked_text, hname]

theorem fileName_text (name : TableName) :
    fileName name.text = name.unmarked.schema ++ "." ++ (name.unmarked.table ++ ".jsonl") := by
  change Quoted.unmarked name.text ++ ".jsonl" = _
  rw [TableName.unmarked_text, String.append_assoc]

/-- Tables of jobs share a file if and only if their names agree without quote marks,
provided that no location holds the separator, that the file names are normal ones, and
that the locations are absolute paths both or neither. -/
theorem components_text_eq_iff (h : name.IsOutput) (h' : name'.IsOutput)
    (hlocation : ¬ separator <:+: name.unmarked.schema.toList)
    (hlocation' : ¬ separator <:+: name'.unmarked.schema.toList)
    (hnormal : IsNormal (fileName name.text).toList)
    (hnormal' : IsNormal (fileName name'.text).toList)
    (habsolute : name.unmarked.schema.startsWith "/" = name'.unmarked.schema.startsWith "/") :
    components directory name.text = components directory name'.text ↔
      name.unmarked = name'.unmarked := by
  have hstart : (fileName name.text).startsWith "/" = (fileName name'.text).startsWith "/" := by
    rw [fileName_text, fileName_text, startsWith_slash_append_dot, startsWith_slash_append_dot,
      habsolute]
  calc components directory name.text = components directory name'.text
      ↔ fileName name.text = fileName name'.text :=
        pathComponents_joinPath_inj hnormal hnormal' hstart
    _ ↔ Quoted.unmarked name.text = Quoted.unmarked name'.text := String.append_left_inj _
    _ ↔ name.unmarked = name'.unmarked := unmarked_text_eq_iff h h' hlocation hlocation'

-- A quote mark at the end of a location is dropped with those around it.
example : components "out" (TableName.points "a\"" "r").text =
    components "out" (TableName.points "a" "r").text := by
  decide +kernel

-- The separator stands in the text twice, and either place may be the border.
example : components "out" (TableName.points "p.kmeans_out_centroids_x" "y").text =
    components "out" (TableName.centroids "p" "x.kmeans_out_points_y").text := by
  decide +kernel

-- The paths are written in two ways and are one.
example : path "out" (TableName.points "./a" "r").text = "out/./a.kmeans_out_points_r.jsonl" ∧
    components "out" (TableName.points "./a" "r").text =
      components "out" (TableName.points "a" "r").text := by
  decide +kernel

/-! ### Locations and identifiers -/

/-- What a location and an identifier must be for their tables to have files of their
own. -/
structure Plain (location id : String) : Prop where
  location_marks : '"' ∉ location.toList
  location_separator : ¬ separator <:+: location.toList
  /-- A relative location counts as if it started at the root. -/
  location_steps : NormalSteps ('/' :: belowRoot location.toList)
  id_marks : '"' ∉ id.toList
  id_steps : NormalSteps id.toList

variable {location id : String}

/-- A table of a job, with the kind of its rows. -/
theorem exists_kind (h : name = .centroids location id ∨ name = .points location id) :
    ∃ kind : String, '"' ∉ kind.toList ∧ '/' ∉ kind.toList ∧
      name = ⟨location, "kmeans_out_" ++ kind ++ id⟩ := by
  rcases h with rfl | rfl
  · exact ⟨"centroids_", by decide, by decide, rfl⟩
  · exact ⟨"points_", by decide, by decide, rfl⟩

theorem Plain.unmarked_eq_self (h : Plain location id)
    (hname : name = .centroids location id ∨ name = .points location id) :
    name.unmarked = name := by
  obtain ⟨kind, hkind, -, rfl⟩ := exists_kind hname
  have htable : '"' ∉ ("kmeans_out_" ++ kind ++ id).toList := by
    simpa [hkind] using h.id_marks
  rw [TableName.unmarked, Quoted.unmarked_eq_self h.location_marks,
    Quoted.unmarked_eq_self htable]

/-- The steps of a file name are those of the location and of the identifier. -/
theorem steps_fileName {front word back : List Char} (hword : '/' ∉ word)
    (hfront : NormalSteps front) (hback : NormalSteps back) :
    NormalSteps (front ++ '.' :: 'k' :: (word ++ (back ++ ".jsonl/".toList))) := by
  have hfound (step : List Char) (hk : 'k' ∉ '/' :: step ++ ['/']) (hj : 'j' ∉ '/' :: step ++ ['/'])
      (hend : ¬ '/' :: step ++ ['/'] <:+: "sonl/".toList)
      (h : '/' :: step ++ ['/'] <:+: front ++ '.' :: 'k' :: (word ++ (back ++ ".jsonl/".toList))) :
      '/' :: step ++ ['/'] <:+: front ∨ '/' :: step ++ ['/'] <:+: back := by
    have hdot : '/' ∉ ['.'] := by decide
    -- Neither of the letters is part of a step, so that it lies before or behind each.
    rw [List.append_cons front] at h
    rcases infix_append_cons_of_not_mem hk h with hfirst | hrest
    · exact .inl (infix_of_infix_append_left hdot hfirst)
    have hback := infix_of_infix_append_right hword hrest
    rw [show ".jsonl/".toList = '.' :: 'j' :: "sonl/".toList from rfl, List.append_cons] at hback
    rcases infix_append_cons_of_not_mem hj hback with hsecond | hlast
    · exact .inr (infix_of_infix_append_left hdot hsecond)
    · exact absurd hlast hend
  constructor
  · intro h
    exact (hfound [] (by decide) (by decide) (by decide) h).elim hfront.filled hback.filled
  · intro h
    exact (hfound ['.'] (by decide) (by decide) (by decide) h).elim hfront.named hback.named

theorem Plain.isNormal_fileName (h : Plain location id)
    (hname : name = .centroids location id ∨ name = .points location id) :
    IsNormal (fileName name.text).toList := by
  have hself := h.unmarked_eq_self hname
  obtain ⟨kind, -, hkind, rfl⟩ := exists_kind hname
  have hword : '/' ∉ "means_out_".toList ++ kind.toList := by simpa using hkind
  have hfile : (fileName (⟨location, "kmeans_out_" ++ kind ++ id⟩ : TableName).text).toList =
      location.toList ++ '.' :: 'k' :: ("means_out_".toList ++ kind.toList ++
        (id.toList ++ ".jsonl".toList)) := by
    rw [fileName_text, hself]
    simp
  apply isNormal_of_steps
  rw [hfile, belowRoot_append_dot]
  simpa using steps_fileName hword h.location_steps h.id_steps

end JsonLines

namespace Service

variable {σ τ : Type} {environment environment' : Environment} {job job' : Job}
  {session : Session σ ChaCha} {session' : Session τ ChaCha} {names names' : JobNames}
  {table table' : TableName}

/-- Different tables of two jobs have different files, provided that no location and no
identifier holds a quote mark, that no location holds the separator, that neither makes
an empty step or one to the same directory, and that the locations are absolute paths
both or neither. -/
theorem path_ne_of_text_ne
    (h : (settleNames environment job).outcome session = .ok names)
    (h' : (settleNames environment' job').outcome session' = .ok names')
    (hplain : JsonLines.Plain job.outputLocation names.id)
    (hplain' : JsonLines.Plain job'.outputLocation names'.id)
    (habsolute : job.outputLocation.startsWith "/" = job'.outputLocation.startsWith "/")
    (htable : table = names.centroidsTable ∨ table = names.pointsTable)
    (htable' : table' = names'.centroidsTable ∨ table' = names'.pointsTable)
    (hne : table.text ≠ table'.text) (directory : String) :
    JsonLines.components directory table.text ≠ JsonLines.components directory table'.text := by
  obtain ⟨source, rfl⟩ := exists_namesWith_of_settleNames h
  obtain ⟨source', rfl⟩ := exists_namesWith_of_settleNames h'
  have hself : table.unmarked = table := hplain.unmarked_eq_self htable
  have hself' : table'.unmarked = table' := hplain'.unmarked_eq_self htable'
  have hschema : table.schema = job.outputLocation := by
    rcases htable with rfl | rfl <;> rfl
  have hschema' : table'.schema = job'.outputLocation := by
    rcases htable' with rfl | rfl <;> rfl
  have hlocation : ¬ JsonLines.separator <:+: table.unmarked.schema.toList := by
    rw [hself, hschema]
    exact hplain.location_separator
  have hlocation' : ¬ JsonLines.separator <:+: table'.unmarked.schema.toList := by
    rw [hself', hschema']
    exact hplain'.location_separator
  have hstart : table.unmarked.schema.startsWith "/" = table'.unmarked.schema.startsWith "/" := by
    rw [hself, hself', hschema, hschema', habsolute]
  intro hcomponents
  have hunmarked := (JsonLines.components_text_eq_iff ⟨_, _, htable⟩ ⟨_, _, htable'⟩ hlocation
    hlocation' (hplain.isNormal_fileName htable) (hplain'.isNormal_fileName htable') hstart).mp
      hcomponents
  rw [hself, hself'] at hunmarked
  exact hne (congrArg TableName.text hunmarked)

/-- A location that ends in a dot, and an identifier that looks like a table, against
the default location. -/
theorem path_ne_of_text_ne_dots :
    let environment : Environment := { generatedId := "17", randomness := .ofSeed 7 }
    let job : Job :=
      { source := "s.t", k := 2, id := "kmeans_out_points_17", location := "data/public." }
    let job' : Job := { source := "s.t", k := 2 }
    let session : Session Unit ChaCha := { store := (), random := .ofSeed 7 }
    ∃ names names', (settleNames environment job).outcome session = .ok names ∧
      (settleNames environment job').outcome session = .ok names' ∧
      JsonLines.Plain job.outputLocation names.id ∧
      JsonLines.Plain job'.outputLocation names'.id ∧
      names.pointsTable.text ≠ names'.pointsTable.text ∧
      JsonLines.components "out" names.pointsTable.text ≠
        JsonLines.components "out" names'.pointsTable.text := by
  intro environment job job' session
  have hsource : TableName.ofSource "s.t" = .ok ⟨"s", "t"⟩ := rfl
  have hok : (settleNames environment job).outcome session =
      .ok (job.namesWith ⟨"s", "t"⟩ (job.idIn environment)) :=
    outcome_settleNames_of_ofSource hsource
  have hok' : (settleNames environment job').outcome session =
      .ok (job'.namesWith ⟨"s", "t"⟩ (job'.idIn environment)) :=
    outcome_settleNames_of_ofSource hsource
  have hplain : JsonLines.Plain job.outputLocation (job.idIn environment) :=
    ⟨by decide, by decide, by decide, by decide, by decide⟩
  have hplain' : JsonLines.Plain job'.outputLocation (job'.idIn environment) :=
    ⟨by decide, by decide, by decide, by decide, by decide⟩
  have hne : (job.namesWith ⟨"s", "t"⟩ (job.idIn environment)).pointsTable.text ≠
      (job'.namesWith ⟨"s", "t"⟩ (job'.idIn environment)).pointsTable.text := by
    decide
  exact ⟨_, _, hok, hok', hplain, hplain', hne,
    path_ne_of_text_ne hok hok' hplain hplain' (by decide +kernel) (.inr rfl) (.inr rfl) hne "out"⟩

end Service

end SampledKmeans
