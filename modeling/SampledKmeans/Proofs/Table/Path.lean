import Mathlib.Data.List.Infix
import SampledKmeans.Table.Directory

/-!
# Paths and their components

Paths are compared by their components, so that a path can be written in several ways.
A file name says more than its components only where a part of it is empty or a single
dot, since those stand for nothing.  Below one directory, other names have the same
components only if they are the same text (`pathComponents_joinPath_inj`).

The parts of a text are what stands between its slashes, with one slash put in front
and one behind (`infix_of_mem_pathParts`), which is how the condition is read off the
text itself (`isNormal_of_steps`).
-/

namespace SampledKmeans

/-- A path without the slash in front. -/
def belowRoot (path : List Char) : List Char :=
  match path with
  | '/' :: rest => rest
  | _ => path

/-- No part of the path is empty or a single dot, a slash in front aside. -/
def IsNormal (path : List Char) : Prop :=
  ∀ part ∈ Directory.pathParts (belowRoot path), part ≠ [] ∧ part ≠ ['.']

/-- What stands between two slashes of the text is neither empty nor a single dot. -/
structure NormalSteps (text : List Char) : Prop where
  filled : ¬ "//".toList <:+: text
  named : ¬ "/./".toList <:+: text

instance (text : List Char) : Decidable (NormalSteps text) :=
  decidable_of_iff (¬ "//".toList <:+: text ∧ ¬ "/./".toList <:+: text)
    ⟨fun h => ⟨h.1, h.2⟩, fun h => ⟨h.filled, h.named⟩⟩

theorem belowRoot_append_dot (front back : List Char) :
    belowRoot (front ++ '.' :: back) = belowRoot front ++ '.' :: back := by
  unfold belowRoot
  split <;> rename_i h
  · cases front with
    | nil => simp at h
    | cons c front =>
        obtain ⟨rfl, rfl⟩ := List.cons.inj h
        rfl
  · split
    · exact absurd rfl (h _)
    · rfl

/-! ## Parts -/

namespace Directory

theorem pathParts_of_slash (rest : List Char) : pathParts ('/' :: rest) = [] :: pathParts rest := by
  rw [pathParts, if_pos rfl]

theorem exists_pathParts (path : List Char) :
    ∃ part parts, pathParts path = part :: parts := by
  cases path with
  | nil => exact ⟨[], [], rfl⟩
  | cons c rest =>
      rw [pathParts]
      split_ifs
      · exact ⟨[], _, rfl⟩
      · cases pathParts rest <;> exact ⟨_, _, rfl⟩

theorem pathParts_of_ne {c : Char} (h : c ≠ '/') {rest part : List Char} {parts : List (List Char)}
    (hrest : pathParts rest = part :: parts) : pathParts (c :: rest) = (c :: part) :: parts := by
  rw [pathParts, if_neg h, hrest]

/-- The parts, each with a slash in front of it, make up the path again. -/
theorem flatMap_pathParts (path : List Char) :
    (pathParts path).flatMap ('/' :: ·) = '/' :: path := by
  induction path with
  | nil => rfl
  | cons c rest ih =>
      by_cases hc : c = '/'
      · rw [hc, pathParts_of_slash, List.flatMap_cons, ih]
        rfl
      · obtain ⟨part, parts, hrest⟩ := exists_pathParts rest
        rw [hrest, List.flatMap_cons, List.cons_append] at ih
        rw [pathParts_of_ne hc hrest, List.flatMap_cons, List.cons_append, List.cons_append,
          List.cons.inj ih |>.2]

theorem pathParts_inj {path path' : List Char} :
    pathParts path = pathParts path' ↔ path = path' := by
  refine ⟨fun h => ?_, fun h => h ▸ rfl⟩
  have hjoined := congrArg (List.flatMap ('/' :: ·)) h
  rw [flatMap_pathParts, flatMap_pathParts] at hjoined
  exact (List.cons.inj hjoined).2

theorem pathParts_append_slash (path rest : List Char) :
    pathParts (path ++ '/' :: rest) = pathParts path ++ pathParts rest := by
  induction path with
  | nil => rw [List.nil_append, pathParts_of_slash]; rfl
  | cons c path ih =>
      by_cases hc : c = '/'
      · rw [hc, List.cons_append, pathParts_of_slash, pathParts_of_slash, ih]
        rfl
      · obtain ⟨part, parts, hpath⟩ := exists_pathParts path
        rw [hpath] at ih
        rw [List.cons_append, pathParts_of_ne hc hpath, pathParts_of_ne hc ih]
        rfl

theorem infix_of_mem_pathParts {path part : List Char} (h : part ∈ pathParts path) :
    '/' :: (part ++ ['/']) <:+: '/' :: (path ++ ['/']) := by
  obtain ⟨before, behind, hparts⟩ := List.append_of_mem h
  have hpath := flatMap_pathParts path
  rw [hparts, List.flatMap_append, List.flatMap_cons] at hpath
  -- Behind the part comes the slash of the next one, or the one that was added.
  obtain ⟨rest, hrest⟩ : ∃ rest, behind.flatMap ('/' :: ·) ++ ['/'] = '/' :: rest := by
    cases behind with
    | nil => exact ⟨[], rfl⟩
    | cons next behind => exact ⟨_, rfl⟩
  refine ⟨before.flatMap ('/' :: ·), rest, ?_⟩
  calc before.flatMap ('/' :: ·) ++ '/' :: (part ++ ['/']) ++ rest
      = before.flatMap ('/' :: ·) ++ ('/' :: part ++ behind.flatMap ('/' :: ·)) ++ ['/'] := by
        simp [hrest]
    _ = '/' :: (path ++ ['/']) := by rw [hpath, List.cons_append]

end Directory

open Directory

/-! ## Components -/

namespace PathComponent

/-- How a component is written. -/
def text : PathComponent → List Char
  | .root => []
  | .current => ['.']
  | .parent => ['.', '.']
  | .name text => text.toList

theorem text_of_ofPart? {part : List Char} {component : PathComponent}
    (h : ofPart? part = some component) : component.text = part := by
  unfold ofPart? at h
  split_ifs at h with hempty hparent
  · obtain rfl := Option.some.inj h
    exact hparent.symm
  · obtain rfl := Option.some.inj h
    exact String.toList_ofList

theorem exists_ofPart? {part : List Char} (h : part ≠ [] ∧ part ≠ ['.']) :
    ∃ component, ofPart? part = some component := by
  unfold ofPart?
  rw [if_neg (not_or.mpr h)]
  split_ifs <;> exact ⟨_, rfl⟩

theorem map_text_filterMap {parts : List (List Char)}
    (h : ∀ part ∈ parts, part ≠ [] ∧ part ≠ ['.']) :
    (parts.filterMap ofPart?).map text = parts := by
  induction parts with
  | nil => rfl
  | cons part parts ih =>
      obtain ⟨hpart, hparts⟩ := List.forall_mem_cons.mp h
      obtain ⟨component, hcomponent⟩ := exists_ofPart? hpart
      rw [List.filterMap_cons_some hcomponent, List.map_cons, ih hparts,
        text_of_ofPart? hcomponent]

/-- Parts that all stand for something are told apart by what they stand for. -/
theorem filterMap_ofPart?_inj {parts parts' : List (List Char)}
    (h : ∀ part ∈ parts, part ≠ [] ∧ part ≠ ['.'])
    (h' : ∀ part ∈ parts', part ≠ [] ∧ part ≠ ['.']) :
    parts.filterMap ofPart? = parts'.filterMap ofPart? ↔ parts = parts' := by
  refine ⟨fun heq => ?_, fun heq => heq ▸ rfl⟩
  rw [← map_text_filterMap h, heq, map_text_filterMap h']

theorem leading_of_normal {parts : List (List Char)}
    (h : ∀ part ∈ parts, part ≠ [] ∧ part ≠ ['.']) : leading parts = [] := by
  cases parts with
  | nil => rfl
  | cons first rest =>
      obtain ⟨hempty, hdot⟩ := h first List.mem_cons_self
      simp [leading, hempty, hdot]

/-- Whatever follows a slash, it leaves the first part what it is. -/
theorem leading_append {front parts : List (List Char)} (hfront : front ≠ [])
    (hparts : parts ≠ []) :
    leading (front ++ parts) = leading (front ++ [[]]) := by
  obtain ⟨first, front, rfl⟩ := List.exists_cons_of_ne_nil hfront
  simp [leading, hparts]

end PathComponent

theorem pathComponents_slash (file : List Char) :
    pathComponents (String.ofList ('/' :: file)) =
      .root :: (pathParts file).filterMap PathComponent.ofPart? := by
  obtain ⟨part, parts, hfile⟩ := exists_pathParts file
  rw [pathComponents, String.toList_ofList, pathParts_of_slash, hfile]
  rfl

theorem pathComponents_append_slash (directory file : List Char) :
    pathComponents (String.ofList (directory ++ '/' :: file)) =
      pathComponents (String.ofList (directory ++ ['/'])) ++
        (pathParts file).filterMap PathComponent.ofPart? := by
  obtain ⟨part, parts, hdirectory⟩ := exists_pathParts directory
  obtain ⟨part', parts', hfile⟩ := exists_pathParts file
  have hempty : pathParts ([] : List Char) = [[]] := rfl
  rw [pathComponents, pathComponents, String.toList_ofList, String.toList_ofList,
    pathParts_append_slash, pathParts_append_slash, PathComponent.ofParts, PathComponent.ofParts,
    PathComponent.leading_append (by simp [hdirectory]) (by simp [hfile]), hempty,
    List.filterMap_append, List.filterMap_append, List.append_assoc, List.append_assoc]
  rfl

theorem toList_of_startsWith {file : String} (h : file.startsWith "/" = true) :
    file.toList = '/' :: belowRoot file.toList := by
  rw [String.startsWith_string_iff] at h
  obtain ⟨rest, hrest⟩ := h
  rw [← hrest]
  rfl

theorem belowRoot_of_not_startsWith {file : String} (h : file.startsWith "/" = false) :
    belowRoot file.toList = file.toList := by
  unfold belowRoot
  split
  · rename_i rest hfile
    have hstart : file.startsWith "/" = true :=
      String.startsWith_string_iff.mpr (hfile ▸ ⟨rest, rfl⟩)
    simp [h] at hstart
  · rfl

theorem toList_of_endsWith {directory : String} (h : directory.endsWith "/" = true) :
    ∃ front, directory.toList = front ++ ['/'] := by
  rw [← String.endsWith_toSlice, String.Slice.endsWith_string_iff, String.copy_toSlice] at h
  obtain ⟨front, hfront⟩ := h
  exact ⟨front, hfront.symm⟩

/-- A normal path adds its parts to the components of the directory, and to the root
if it starts there. -/
theorem exists_pathComponents_joinPath (directory : String) (absolute : Bool) :
    ∃ front, ∀ file : String, IsNormal file.toList → file.startsWith "/" = absolute →
      pathComponents (joinPath directory file) =
        front ++ (pathParts (belowRoot file.toList)).filterMap PathComponent.ofPart? := by
  have hlist (path : String) : path = String.ofList path.toList := String.ofList_toList.symm
  unfold joinPath
  cases absolute with
  | true =>
      refine ⟨[.root], fun file _ hstart => ?_⟩
      rw [hstart, Bool.true_or, if_pos rfl, hlist file, toList_of_startsWith hstart,
        pathComponents_slash, String.toList_ofList]
      rfl
  | false =>
      by_cases hempty : directory.isEmpty
      · refine ⟨[], fun file hnormal hstart => ?_⟩
        rw [IsNormal, belowRoot_of_not_startsWith hstart] at hnormal
        rw [hempty, Bool.or_true, if_pos rfl, belowRoot_of_not_startsWith hstart, pathComponents,
          PathComponent.ofParts, PathComponent.leading_of_normal hnormal]
      by_cases hslash : directory.endsWith "/"
      · obtain ⟨front, hfront⟩ := toList_of_endsWith hslash
        refine ⟨pathComponents (String.ofList (front ++ ['/'])), fun file _ hstart => ?_⟩
        have hjoin : directory ++ file = String.ofList (front ++ '/' :: file.toList) := by
          rw [hlist (directory ++ file), String.toList_append, hfront, List.append_assoc]
          rfl
        rw [hstart, Bool.false_or, if_neg hempty, if_pos hslash, hjoin,
          belowRoot_of_not_startsWith hstart, pathComponents_append_slash]
      · refine ⟨pathComponents (String.ofList (directory.toList ++ ['/'])), fun file _ hstart => ?_⟩
        have hjoin : directory ++ "/" ++ file =
            String.ofList (directory.toList ++ '/' :: file.toList) := by
          rw [hlist (directory ++ "/" ++ file), String.toList_append, String.toList_append,
            List.append_assoc]
          rfl
        rw [hstart, Bool.false_or, if_neg hempty, if_neg hslash, hjoin,
          belowRoot_of_not_startsWith hstart, pathComponents_append_slash]

/-- Normal paths below a directory are the same only if they are the same text, absolute
ones and relative ones apart. -/
theorem pathComponents_joinPath_inj {directory file file' : String} (h : IsNormal file.toList)
    (h' : IsNormal file'.toList) (hstart : file.startsWith "/" = file'.startsWith "/") :
    pathComponents (joinPath directory file) = pathComponents (joinPath directory file') ↔
      file = file' := by
  refine ⟨fun heq => ?_, fun heq => heq ▸ rfl⟩
  obtain ⟨front, hfront⟩ := exists_pathComponents_joinPath directory (file.startsWith "/")
  rw [hfront file h rfl, hfront file' h' hstart.symm, List.append_cancel_left_eq,
    PathComponent.filterMap_ofPart?_inj h h', pathParts_inj] at heq
  rw [← String.toList_inj]
  cases habsolute : file.startsWith "/" with
  | true =>
      calc file.toList
          = '/' :: belowRoot file.toList := toList_of_startsWith habsolute
        _ = '/' :: belowRoot file'.toList := by rw [heq]
        _ = file'.toList := (toList_of_startsWith (hstart ▸ habsolute)).symm
  | false =>
      calc file.toList
          = belowRoot file.toList := (belowRoot_of_not_startsWith habsolute).symm
        _ = belowRoot file'.toList := heq
        _ = file'.toList := belowRoot_of_not_startsWith (hstart ▸ habsolute)

/-! ## Normal texts -/

theorem isNormal_of_steps {path : List Char} (h : NormalSteps ('/' :: (belowRoot path ++ ['/']))) :
    IsNormal path := by
  intro part hpart
  have hwithin := infix_of_mem_pathParts hpart
  refine ⟨?_, ?_⟩
  · rintro rfl
    exact h.filled hwithin
  · rintro rfl
    exact h.named hwithin

section Infix

variable {α : Type} {pattern front back word : List α} {c : α}

/-- What starts with a character that a word does not hold is found behind the word. -/
theorem infix_of_infix_append_right (h : c ∉ word) (hwithin : c :: pattern <:+: word ++ back) :
    c :: pattern <:+: back := by
  induction word with
  | nil => exact hwithin
  | cons d word ih =>
      rw [List.mem_cons, not_or] at h
      rw [List.cons_append, List.infix_cons_iff, List.cons_prefix_cons] at hwithin
      rcases hwithin with ⟨hcd, -⟩ | hwithin
      · exact absurd hcd h.1
      · exact ih h.2 hwithin

/-- What ends with a character that a word does not hold is found before the word. -/
theorem infix_of_infix_append_left (h : c ∉ word) (hwithin : pattern ++ [c] <:+: front ++ word) :
    pattern ++ [c] <:+: front := by
  rw [← List.reverse_infix, List.reverse_append, List.reverse_append] at hwithin
  rw [← List.reverse_infix, List.reverse_append]
  exact infix_of_infix_append_right (by simpa using h) hwithin

/-- What does not hold a character is found before it or behind it. -/
theorem infix_append_cons_of_not_mem (h : c ∉ pattern) (hwithin : pattern <:+: front ++ c :: back) :
    pattern <:+: front ∨ pattern <:+: back := by
  rcases List.infix_append_iff.mp hwithin with hfront | hback | ⟨left, right, rfl, hleft, hright⟩
  · exact .inl hfront
  · rcases List.infix_cons_iff.mp hback with hprefix | hback
    · cases pattern with
      | nil => exact .inl List.nil_infix
      | cons d pattern =>
          obtain ⟨rfl, -⟩ := List.cons_prefix_cons.mp hprefix
          exact absurd List.mem_cons_self h
    · exact .inr hback
  · cases right with
    | nil => exact .inl (by simpa using hleft.isInfix)
    | cons d right =>
        obtain ⟨rfl, -⟩ := List.cons_prefix_cons.mp hright
        exact absurd (List.mem_append_right left List.mem_cons_self) h

end Infix

end SampledKmeans
