import Std.Data.TreeMap
import SampledKmeans.Failure

/-!
# Directories of files

A directory holds files with their contents, and no further directories.  A
file is named by a path, whose parts are separated by slashes; where a path
leads is decided part by part, as a file system does it.  Of what lies outside
the directory only this is known: the directories above it exist and hold no
others.

A path may be written in several ways.  What counts when paths are compared are
their components (`pathComponents`): a repeated slash, a slash at the end and a
single dot behind the first part add none.
-/

namespace SampledKmeans

/-- A directory and the contents of its files. -/
structure Directory where
  /-- The path of the directory, empty if paths start there. -/
  path : String := ""
  /-- Whether the directory exists. -/
  present : Bool := true
  files : Std.TreeMap String String := ∅

/-- Why a file cannot be created. -/
inductive FileError where
  | notFound
  | notDirectory
  | nameTooLong
  | nulByte
  deriving DecidableEq, Repr

/-- The wording of a file error. -/
def FileError.message : FileError → String
  | .notFound => "No such file or directory (os error 2)"
  | .notDirectory => "Not a directory (os error 20)"
  | .nameTooLong => "File name too long (os error 36)"
  | .nulByte => "file name contained an unexpected NUL byte"

/-! ## Paths -/

/-- A path below a directory.  A path that starts with a slash stands for
itself. -/
def joinPath (directory file : String) : String :=
  if file.startsWith "/" || directory.isEmpty then file
  else if directory.endsWith "/" then directory ++ file
  else directory ++ "/" ++ file

/-- Cuts a path at its slashes. -/
def Directory.pathParts : List Char → List (List Char)
  | [] => [[]]
  | c :: rest =>
    if c = '/' then [] :: pathParts rest
    else
      match pathParts rest with
      | part :: parts => (c :: part) :: parts
      | [] => [[c]]

/-- What a part of a path stands for. -/
inductive PathComponent where
  /-- Where absolute paths start. -/
  | root
  /-- The directory itself. -/
  | current
  /-- The directory above. -/
  | parent
  | name (text : String)
  deriving DecidableEq, Repr

namespace PathComponent

/-- What a part stands for wherever it is.  An empty part and a single dot stand
for nothing. -/
def ofPart? (part : List Char) : Option PathComponent :=
  if part = [] ∨ part = ['.'] then none
  else if part = ['.', '.'] then some .parent
  else some (.name (String.ofList part))

/-- What the first part stands for because it is the first one. -/
def leading : List (List Char) → List PathComponent
  | [] => []
  | first :: rest =>
    if first = [] ∧ rest ≠ [] then [.root]
    else if first = ['.'] then [.current]
    else []

/-- What the parts of a path stand for, in order. -/
def ofParts (parts : List (List Char)) : List PathComponent :=
  leading parts ++ parts.filterMap ofPart?

end PathComponent

/-- The components of a path.  Two paths are the same if they have the same
components, however they are written. -/
def pathComponents (path : String) : List PathComponent :=
  PathComponent.ofParts (Directory.pathParts path.toList)

/-! ## Finding and writing files -/

namespace Directory

/-- The greatest length of a part of a path, in bytes. -/
def maxPart : Nat := 255

/-- The length from which on a path is too long, in bytes. -/
def maxPath : Nat := 4096

/-- Where a path leads that is followed part by part, starting in the directory
(`above = false`) or outside of it: to a file of the directory with this name,
or to a file elsewhere. -/
def follow (directory : Directory) : (above : Bool) → List (List Char) →
    Except FileError (Option String)
  | _, [] => .error .notFound
  | above, [last] =>
    let name := String.ofList last
    if maxPart < name.utf8ByteSize then .error .nameTooLong
    else if above then .ok none
    else .ok (some name)
  | above, part :: next :: rest =>
    if part = [] ∨ part = ['.'] then directory.follow above (next :: rest)
    else if part = ['.', '.'] then directory.follow true (next :: rest)
    else if maxPart < (String.ofList part).utf8ByteSize then .error .nameTooLong
    else if !above && directory.files.contains (String.ofList part) then .error .notDirectory
    else .error .notFound

/-- Where a path leads.  The length of a path includes that of the directory
below which it is taken. -/
def locate (directory : Directory) (path : String) : Except FileError (Option String) :=
  let characters := path.toList
  if characters.contains '\x00' then .error .nulByte
  else if maxPath ≤ (joinPath directory.path path).utf8ByteSize then .error .nameTooLong
  else if path.startsWith "/" then directory.follow true (pathParts characters)
  else if !directory.present then .error .notFound
  else directory.follow false (pathParts characters)

/-- Creates a file or replaces its content. -/
def write (directory : Directory) (path content : String) : Except FileError Directory := do
  match ← directory.locate path with
  | some name => return { directory with files := directory.files.insert name content }
  | none => return directory

end Directory

end SampledKmeans
