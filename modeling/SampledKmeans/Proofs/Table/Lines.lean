import SampledKmeans.Proofs.Json.Row
import SampledKmeans.Table.JsonLines

/-!
# Table files read back

The file of a table has one line for each row.  No line break stands inside of a written
row, so that the lines are the rows again (`lines?_content`), and a file is read as the
table that was written exactly when each row is, which its numbers decide
(`readsAs_content`).  This is said once, for any kind of row that `Json.Inverts` allows;
the sink has two of them.
-/

namespace SampledKmeans.JsonLines

open Json (Inverts ReadsBack)

variable {α : Type} {write : α → Json} {read : Json → Option α} {position : α → SparseVector}
  {rows : List α}

/-- The text has one line for each row, in their order and each ended by a line break.  The
line of a row is read as that row exactly when the numbers of its vector read back, and
the text as the rows exactly when all numbers do. -/
def ReadsAs (read : Json → Option α) (position : α → SparseVector) (rows : List α)
    (text : List Char) : Prop :=
  ∃ lines : List (List Char),
    text = lines.flatMap (fun line => line ++ ['\n']) ∧
    (∀ line ∈ lines, '\n' ∉ line) ∧
    List.Forall₂ (fun line row =>
      (Json.parse? line).bind read = some row ↔ ∀ x ∈ (position row).values, ReadsBack x)
      lines rows ∧
    (rows? read text = some rows ↔ ∀ row ∈ rows, ∀ x ∈ (position row).values, ReadsBack x)

/-! ## Files of rows -/

theorem lines?_content (h : ∀ row ∈ rows, '\n' ∉ (write row).text) :
    lines? (content write rows) = some (rows.map fun row => (write row).text) := by
  induction rows with
  | nil => rfl
  | cons row rows ih =>
      obtain ⟨hrow, hrows⟩ := List.forall_mem_cons.mp h
      have hsplit : content write (row :: rows) =
          (write row).text ++ '\n' :: content write rows := by
        simp [content]
      rw [hsplit, lines?_append _ _ hrow, ih hrows]
      rfl

theorem readsAs_content (h : ∀ row ∈ rows, Inverts write read position row) :
    ReadsAs read position rows (content write rows) := by
  have hbreaks : ∀ row ∈ rows, '\n' ∉ (write row).text := fun row hrow =>
    (h row hrow).readable.newline_not_mem_text
  have hline : ∀ row ∈ rows, (Json.parse? (write row).text).bind read = some row ↔
      ∀ x ∈ (position row).values, ReadsBack x := by
    intro row hrow
    rw [Json.parse?_text (h row hrow).readable]
    exact (h row hrow).read_eq_some_iff
  refine ⟨rows.map fun row => (write row).text, ?_, List.forall_mem_map.mpr hbreaks, ?_, ?_⟩
  · rw [List.flatMap_map]
    rfl
  · rw [List.forall₂_map_left_iff, List.forall₂_same]
    exact hline
  · rw [rows?, lines?_content hbreaks]
    change (rows.map fun row => (write row).text).mapM _ = some rows ↔ _
    rw [forall₂_iff_mapM_eq_some, List.forall₂_map_left_iff, List.forall₂_same]
    exact forall₂_congr hline

/-! ## The files that the sink writes -/

/-- The write has succeeded, and the file holds the rows. -/
def Holds (read : Json → Option α) (position : α → SparseVector) (rows : List α) (name : String)
    (written : Reply Unit × Directory) : Prop :=
  written.1.outcome = .ok () ∧
    ∃ content, written.2.files[name]? = some content ∧ ReadsAs read position rows content.toList

theorem holds_writeTable {directory : Directory} {table name : String}
    (hlocate : directory.locate (fileName table) = .ok (some name))
    (h : ∀ row ∈ rows, Inverts write read position row) :
    Holds read position rows name (writeTable write table rows directory) := by
  have hwrite : directory.write (fileName table) (String.ofList (content write rows)) =
      .ok { directory with
        files := directory.files.insert name (String.ofList (content write rows)) } := by
    rw [Directory.write, hlocate]
    rfl
  rw [writeTable, hwrite]
  refine ⟨rfl, String.ofList (content write rows), Std.TreeMap.getElem?_insert_self, ?_⟩
  rw [String.toList_ofList]
  exact readsAs_content h

/-- Tables with any identifiers that there are, in a file of the directory: what is written
is one line for each row, and reads back as the table as far as the numbers do. -/
theorem sink_holds {directory : Directory} {table name : String}
    (hlocate : directory.locate (fileName table) = .ok (some name)) (centroids : List Centroid)
    (hcentroids : ∀ row ∈ centroids, row.id ≤ maxCount) (assignments : List Assignment)
    (hassignments : ∀ row ∈ assignments,
      -2 ^ 63 ≤ row.pointId ∧ row.pointId ≤ 2 ^ 63 - 1 ∧ row.centroidId ≤ maxCount) :
    Holds Json.centroid? Centroid.position centroids name
        (sink.writeCentroids table centroids directory) ∧
      Holds Json.assignment? Assignment.position assignments name
        (sink.writeAssignments table assignments directory) := by
  simp only [sink]
  constructor
  · exact holds_writeTable hlocate fun row hrow => Json.inverts_ofCentroid (hcentroids row hrow)
  · refine holds_writeTable hlocate fun row hrow => ?_
    obtain ⟨hlow, hhigh, hcentroid⟩ := hassignments row hrow
    exact Json.inverts_ofAssignment hlow hhigh hcentroid

/-- The greatest identifier of a centroid and the least one of a point, with a zero that has
a sign and the least number above zero. -/
theorem sink_holds_extremes :
    let directory : Directory := {}
    let table := "\"public\".\"kmeans_out_r1\""
    let name := "public.kmeans_out_r1.jsonl"
    let position : SparseVector := ⟨[0, 7, 4294967295], [-0.0, 5e-324, -1.5]⟩
    let centroids : List Centroid := [⟨18446744073709551615, position⟩, ⟨1, ⟨[], []⟩⟩]
    let assignments : List Assignment := [⟨-9223372036854775808, position, 18446744073709551615⟩]
    directory.locate (fileName table) = .ok (some name) ∧
      (∃ content, (sink.writeCentroids table centroids directory).2.files[name]? = some content ∧
        rows? Json.centroid? content.toList = some centroids) ∧
      ∃ content, (sink.writeAssignments table assignments directory).2.files[name]? =
        some content ∧ rows? Json.assignment? content.toList = some assignments := by
  intro directory table name position centroids assignments
  have hlocate : directory.locate (fileName table) = .ok (some name) := by decide +kernel
  have hcentroids : ∀ row ∈ centroids, ∀ x ∈ row.position.values, ReadsBack x := by decide +kernel
  have hassignments : ∀ row ∈ assignments, ∀ x ∈ row.position.values, ReadsBack x := by
    decide +kernel
  obtain ⟨⟨-, content, hfile, -, -, -, -, hrows⟩, ⟨-, content', hfile', -, -, -, -, hrows'⟩⟩ :=
    sink_holds hlocate centroids (by decide) assignments (by decide)
  exact ⟨hlocate, ⟨content, hfile, hrows.mpr hcentroids⟩, content', hfile', hrows'.mpr hassignments⟩

end SampledKmeans.JsonLines
