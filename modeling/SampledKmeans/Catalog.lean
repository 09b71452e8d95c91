import SampledKmeans.Store.Scripted

/-!
# Catalogs

A catalog finds point stores by name.  All its stores share one state, of which
each store sees its own part.
-/

namespace SampledKmeans

/-- A store that sees a part of a larger state. -/
def PointStore.focus {σ τ ρ : Type} (get : τ → σ) (put : σ → τ → τ) (store : PointStore σ ρ) :
    PointStore τ ρ where
  sample n source state :=
    let (reply, source, part) := store.sample n source (get state)
    (reply, source, put part state)
  scan state :=
    let (reply, part) := store.scan (get state)
    (reply, put part state)
  count state :=
    let (reply, part) := store.count (get state)
    (reply, put part state)
  metric := store.metric
  mean positions state :=
    let (reply, part) := store.mean positions (get state)
    (reply, put part state)

/-- The point store of each source name that is known. -/
abbrev Catalog (σ ρ : Type) := String → Option (PointStore σ ρ)

namespace Catalog

variable {σ ρ : Type} [RandomSource ρ]

/-- The last entry with a name. -/
def lastNamed? {α : Type} (entries : List (String × α)) (name : String) : Option α :=
  (entries.reverse.find? fun entry => entry.1 == name).map Prod.snd

/-- A catalog of populations in memory. -/
def ofPopulations (entries : List (String × Population)) : Catalog σ ρ := fun name =>
  (lastNamed? entries name).map Population.store

/-- A catalog of scripted stores, each with a state of its own. -/
def ofScripts (entries : List (String × Script × Population)) :
    Catalog (Array ScriptState) ρ := fun name =>
  let numbered := entries.zipIdx.map fun ((name, entry), i) => (name, i, entry)
  (lastNamed? numbered name).map fun (i, script, population) =>
    (script.store population).focus (fun states => (states[i]?).getD {})
      fun state states => states.setIfInBounds i state

/-- The store of a source, or the error that there is none. -/
def resolve (catalog : Catalog σ ρ) (source : String) : Except Error (PointStore σ ρ) :=
  match catalog source with
  | some store => .ok store
  | none => .error (.invalidArgument (.unknownSource source))

end Catalog

end SampledKmeans
