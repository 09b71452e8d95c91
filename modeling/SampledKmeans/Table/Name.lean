import SampledKmeans.Failure
import SampledKmeans.Text.Quoted

/-!
# Names of tables

A point source is named by a schema and a table, separated by the first dot.
The tables of a job are named by a location and the identifier of the job, both
quoted, so that they may hold any characters.  `TableName.ofText?` reads such a
text back.
-/

namespace SampledKmeans

/-- A table in a schema. -/
structure TableName where
  schema : String
  table : String
  deriving DecidableEq, Repr

namespace TableName

/-- The two parts as quoted identifiers, joined by a dot. -/
def text (name : TableName) : String :=
  Quoted.identifier name.schema ++ "." ++ Quoted.identifier name.table

/-- Reads two quoted identifiers that are joined by a dot. -/
def ofText? (text : String) : Option TableName := do
  match ← Quoted.unquote? '"' text.toList with
  | (schema, '.' :: rest) =>
    match ← Quoted.unquote? '"' rest with
    | (table, []) => some ⟨String.ofList schema, String.ofList table⟩
    | _ => none
  | _ => none

theorem ofText?_text (name : TableName) : ofText? name.text = some name := by
  have hschema := Quoted.unquote?_quoteChars '"' name.schema.toList
    ('.' :: Quoted.quoteChars '"' name.table.toList) (by simp)
  have htable := Quoted.unquote?_quoteChars '"' name.table.toList [] (by simp)
  rw [List.append_nil] at htable
  simp [ofText?, text, Quoted.identifier, hschema, htable]

/-- The name that a point source is given by; `none` unless there is a dot with
something before and after it. -/
def ofSource? (source : String) : Option TableName :=
  match source.toList.span (· ≠ '.') with
  | (c :: schema, _ :: d :: table) => some ⟨String.ofList (c :: schema), String.ofList (d :: table)⟩
  | _ => none

/-- The name of a point source, or the error that it lacks a schema. -/
def ofSource (source : String) : Except Error TableName :=
  match ofSource? source with
  | some name => .ok name
  | none => .error (.invalidArgument (.noSchema source))

/-- The table that the centroids of a job are written to. -/
def centroids (location id : String) : TableName :=
  ⟨location, "kmeans_out_centroids_" ++ id⟩

/-- The table that the assignments of a job are written to. -/
def points (location id : String) : TableName :=
  ⟨location, "kmeans_out_points_" ++ id⟩

end TableName

end SampledKmeans
