import Std.Data.TreeSet
import SampledKmeans.Random.Subset
import SampledKmeans.Store.Basic

/-!
# Populations in memory

A `Population` is a list of points with different identifiers, in the order in
which they were given.  It is the plainest point store: no call fails, and no
call changes anything but the random source.
-/

namespace SampledKmeans

/-- The first identifier that occurs among those seen or a second time. -/
def firstRepeat? (seen : Std.TreeSet Int) : List Int → Option Int
  | [] => none
  | id :: rest => if seen.contains id then some id else firstRepeat? (seen.insert id) rest

theorem nodup_of_firstRepeat?_eq_none {seen : Std.TreeSet Int} {ids : List Int}
    (h : firstRepeat? seen ids = none) :
    ids.Nodup ∧ ∀ id ∈ ids, seen.contains id = false := by
  induction ids generalizing seen with
  | nil => simp
  | cons id rest ih =>
      rw [firstRepeat?] at h
      split at h
      · simp at h
      · rename_i hid
        obtain ⟨hrest, hseen⟩ := ih h
        simp only [Std.TreeSet.contains_insert, Bool.or_eq_false_iff] at hseen
        refine ⟨List.nodup_cons.mpr ⟨fun hmem => ?_, hrest⟩, ?_⟩
        · simpa using (hseen id hmem).1
        · intro other hother
          rcases List.mem_cons.mp hother with rfl | hmem
          · exact Bool.eq_false_iff.mpr hid
          · exact (hseen other hmem).2

/-- Points with different identifiers, no more than there is room for. -/
structure Population where
  points : Array Point
  distinct : (points.toList.map Point.id).Nodup
  fits : points.size ≤ maxRows

namespace Population

/-- The population without points. -/
def empty : Population where
  points := #[]
  distinct := List.nodup_nil
  fits := Nat.zero_le _

/-- The population of the given points, in their order. -/
def ofPoints (points : List Point) : Except Failure Population :=
  match h : firstRepeat? ∅ (points.map Point.id) with
  | some id => .error (.error (.invalidArgument (.duplicatePoint id)))
  | none =>
    if fits : points.length ≤ maxRows then
      .ok {
        points := points.toArray
        distinct := by simpa using (nodup_of_firstRepeat?_eq_none h).1
        fits := by simpa using fits }
    else
      .error .outOfMemory

/-- The number of points. -/
def size (population : Population) : Nat :=
  population.points.size

/-- The points at the given positions. -/
def pointsAt (population : Population) (positions : List Nat) : List Point :=
  positions.filterMap fun i => population.points[i]?

/-- A random subset of the points: the asked number, or all of them. -/
def sample {ρ : Type} [Sampler ρ] (population : Population) (n : Nat) (source : ρ) :
    List Point × ρ :=
  let (positions, source) := Sampler.subset population.size (min n population.size) source
  (population.pointsAt positions, source)

/-- A population as a point store.  Its state, whatever that is, stays as it
is. -/
def store {σ ρ : Type} [Sampler ρ] (population : Population) : PointStore σ ρ where
  sample n source state :=
    let (points, source) := population.sample n source
    (.ok points, source, state)
  scan state := (.ok (population.points.toList.map Reply.ok), state)
  count state := (.ok population.size, state)
  mean positions state := ({ outcome := meanOf positions }, state)

end Population

end SampledKmeans
