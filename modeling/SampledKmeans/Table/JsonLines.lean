import SampledKmeans.Json.Row
import SampledKmeans.Table.Directory
import SampledKmeans.Table.Sink

/-!
# Tables as JSON lines

A table is written to a file with one line for each row, a JSON object.  The
file is named after the table, without the quote marks of the name.
-/

namespace SampledKmeans.JsonLines

/-- The content of a file: the written rows, each ended by a line break. -/
def content {α : Type} (write : α → Json) (rows : List α) : List Char :=
  rows.flatMap fun row => (write row).text ++ ['\n']

/-- The lines of a content, each of which must be ended by a line break. -/
def lines? : List Char → Option (List (List Char))
  | [] => some []
  | c :: rest =>
    if c = '\n' then
      (lines? rest).map ([] :: ·)
    else
      match lines? rest with
      | some (line :: lines) => some ((c :: line) :: lines)
      | _ => none

theorem lines?_append (line rest : List Char) (h : '\n' ∉ line) :
    lines? (line ++ '\n' :: rest) = (lines? rest).map (line :: ·) := by
  induction line with
  | nil => simp [lines?]
  | cons c line ih =>
      have hc : c ≠ '\n' := fun hc => h (hc ▸ List.mem_cons_self)
      have hline : '\n' ∉ line := fun hline => h (List.mem_cons_of_mem c hline)
      rw [List.cons_append, lines?, if_neg hc, ih hline]
      cases lines? rest <;> rfl

/-- Reads a content back, one row from each line. -/
def rows? {α : Type} (read : Json → Option α) (text : List Char) : Option (List α) := do
  let lines ← lines? text
  lines.mapM fun line => (Json.parse? line).bind read

/-- The file name of a table. -/
def fileName (table : String) : String :=
  String.ofList (table.toList.filter (· ≠ '"')) ++ ".jsonl"

/-- The path of a table's file, as it is written. -/
def path (directory table : String) : String :=
  joinPath directory (fileName table)

/-- The path of a table's file, as it is compared with other paths. -/
def components (directory table : String) : List PathComponent :=
  pathComponents (path directory table)

/-- Writes a table to its file. -/
def writeTable {α : Type} (write : α → Json) (table : String) (rows : List α)
    (directory : Directory) : Reply Unit × Directory :=
  match directory.write (fileName table) (String.ofList (content write rows)) with
  | .ok directory => ({ outcome := .ok (), events := [.tableWritten rows.length] }, directory)
  | .error error => ({ outcome := .error (.inputOutput error.message) }, directory)

/-- The sink that writes its tables to files of a directory. -/
def sink : TableSink Directory where
  writeCentroids := writeTable Json.ofCentroid
  writeAssignments := writeTable Json.ofAssignment

end SampledKmeans.JsonLines
