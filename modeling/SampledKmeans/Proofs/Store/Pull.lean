import SampledKmeans.Proofs.Store.Fault
import SampledKmeans.Random.SplitMix

/-!
# Pulling the items of a timed scan

The items of a scan are asked for one at a time.  A `Cursor` is where the reader of a
timed scan has come to: what the wrapped scan still holds, and whether an item has
failed, after which there is none any more.  What it still has to give is
`Cursor.items`, of which every pull takes the first (`Cursor.pull_eq`), so that the
pulls of a reader give `Reply.untilFailure` of the wrapped scan item by item
(`Cursor.pullAt_eq`).

That list is the wrapped scan itself when each of its items is a point in time.
Otherwise it is what comes before the first item that is not, and the error that stands
for that item (`Reply.Delivers`).
-/

namespace SampledKmeans

variable {σ ρ α : Type} {limit : Option Duration}

namespace Reply

/-! ## Answers in time -/

/-- The reply is the answer, and not later than the limit. -/
def Yields (limit : Option Duration) (reply : Reply α) (a : α) : Prop :=
  reply.outcome = .ok a ∧ ∀ allowed, limit = some allowed → ¬ allowed < reply.elapsed

theorem Yields.guarded_eq {reply : Reply α} {a : α} (h : reply.Yields limit a)
    (operation : String) : reply.guarded operation limit = reply := by
  obtain ⟨houtcome, htime⟩ := h
  have hkept : (reply.guarded operation limit).outcome = reply.outcome := by
    unfold guarded within mapError
    rw [houtcome]
    cases limit with
    | none => rfl
    | some allowed => exact if_neg (htime allowed rfl)
  calc reply.guarded operation limit
      = { reply with outcome := (reply.guarded operation limit).outcome } := rfl
    _ = reply := by rw [hkept]

theorem yields_or_fault (operation : String) (limit : Option Duration) (reply : Reply α) :
    (∃ a, reply.Yields limit a) ∨ ∃ error, reply.Fault operation limit error := by
  cases hguarded : (reply.guarded operation limit).outcome with
  | error error => exact .inr ⟨error, outcome_guarded_eq_error_iff.mp hguarded⟩
  | ok a =>
      refine .inl ⟨a, outcome_of_guarded hguarded, fun allowed hlimit hlate => ?_⟩
      exact isFine_of_outcome_guarded hguarded _
        (.late (outcome_of_guarded hguarded) hlimit hlate)

theorem Yields.isFine {reply : Reply α} {a : α} (h : reply.Yields limit a) (operation : String) :
    reply.IsFine operation limit :=
  isFine_of_outcome_guarded (by rw [h.guarded_eq, h.1])

/-! ## What a timed scan delivers -/

/-- What is pulled from a timed scan, by the items of the wrapped one, and what comes of
collecting it. -/
inductive Delivers (limit : Option Duration) (inner : List (Reply Point)) :
    List (Reply Point) → Except Error (List Point) → Prop where
  /-- Every item is a point in time. -/
  | complete {points : List Point} (answers : List.Forall₂ (Yields limit) inner points) :
      Delivers limit inner inner (.ok points)
  /-- Some item is not, and the first one that is not ends the scan. -/
  | ended {done rest : List (Reply Point)} {item : Reply Point} {points : List Point}
      {error : Error} (items : inner = done ++ item :: rest)
      (answers : List.Forall₂ (Yields limit) done points)
      (fault : item.Fault "scan" limit error) :
      Delivers limit inner (done ++ [{ item with outcome := .error error }]) (.error error)

theorem untilFailure_cons_of_yields {item : Reply Point} {point : Point}
    (h : item.Yields limit point) (rest : List (Reply Point)) :
    untilFailure limit (item :: rest) = item :: untilFailure limit rest := by
  simp only [untilFailure, h.guarded_eq, h.1]

theorem collect_cons_of_yields {item : Reply Point} {point : Point}
    (h : item.Yields limit point) (rest : List (Reply Point)) :
    PointStore.collect (item :: rest) = (PointStore.collect rest).map (point :: ·) := by
  rw [PointStore.collect, h.1]
  cases PointStore.collect rest <;> rfl

theorem Delivers.cons {inner pulled : List (Reply Point)} {result : Except Error (List Point)}
    (h : Delivers limit inner pulled result) {item : Reply Point} {point : Point}
    (hitem : item.Yields limit point) :
    Delivers limit (item :: inner) (item :: pulled) (result.map (point :: ·)) := by
  cases h with
  | complete answers => exact .complete (.cons hitem answers)
  | @ended done rest faulty _ _ items answers fault =>
      have hsplit : item :: inner = (item :: done) ++ faulty :: rest := by
        rw [items, List.cons_append]
      exact .ended hsplit (.cons hitem answers) fault

theorem delivers_untilFailure (limit : Option Duration) (inner : List (Reply Point)) :
    Delivers limit inner (untilFailure limit inner)
      (PointStore.collect (untilFailure limit inner)) := by
  induction inner with
  | nil => exact .complete .nil
  | cons item rest ih =>
      rcases yields_or_fault "scan" limit item with ⟨point, hpoint⟩ | ⟨error, hfault⟩
      · rw [untilFailure_cons_of_yields hpoint, collect_cons_of_yields hpoint]
        exact ih.cons hpoint
      · have houtcome := outcome_guarded_eq_error_iff.mpr hfault
        have hitem : item.guarded "scan" limit = { item with outcome := .error error } := by
          rw [← houtcome]
          rfl
        rw [untilFailure_cons_of_fault hfault, hitem]
        exact .ended (List.nil_append (item :: rest)).symm .nil hfault

theorem Delivers.exists_error_iff {inner pulled : List (Reply Point)}
    {result : Except Error (List Point)} (h : Delivers limit inner pulled result) :
    (∃ error, result = .error error) ↔ ∃ item ∈ inner, ¬ ∃ point, item.Yields limit point := by
  cases h with
  | complete answers =>
      refine iff_of_false (fun ⟨_, herror⟩ => nomatch herror) fun ⟨item, hmem, hlate⟩ => ?_
      obtain ⟨point, -, hpoint⟩ := Procedure.exists_mem_right_of_forall₂ answers hmem
      exact hlate ⟨point, hpoint⟩
  | @ended done rest item _ error items _ fault =>
      refine iff_of_true ⟨error, rfl⟩ ⟨item, by simp [items], fun ⟨point, hpoint⟩ => ?_⟩
      exact hpoint.isFine "scan" error fault

end Reply

/-! ## Pulling -/

namespace Cursor

/-- A pull gives the first item, and leaves the others. -/
theorem pull_eq (limit : Option Duration) (cursor : Cursor) :
    (cursor.pull limit).1 = (cursor.items limit).head? ∧
      (cursor.pull limit).2.items limit = (cursor.items limit).tail := by
  obtain ⟨rest, failed⟩ := cursor
  cases failed with
  | true => exact ⟨rfl, rfl⟩
  | false =>
      cases rest with
      | nil => exact ⟨rfl, rfl⟩
      | cons item rest =>
          simp only [pull, items, Reply.untilFailure]
          cases (item.guarded "scan" limit).outcome <;> exact ⟨rfl, rfl⟩

theorem pullAt_eq (limit : Option Duration) (n : Nat) (cursor : Cursor) :
    pullAt limit n cursor = (cursor.items limit)[n]? := by
  induction n generalizing cursor with
  | zero => rw [pullAt, (pull_eq limit cursor).1, List.head?_eq_getElem?]
  | succ n ih => rw [pullAt, ih, (pull_eq limit cursor).2, List.getElem?_tail]

end Cursor

/-! ## Timed scans -/

/-- A timed scan gives the items of the wrapped one as long as they are points in time,
then the error of the first that is not, if there is one, and nothing after that,
whatever the wrapped scan still holds.  Collecting it gives all points or that error, and
the error exactly if some item is no point in time. -/
theorem PointStore.pullAt_timed_scan {store : PointStore σ ρ} {state : σ}
    {inner : List (Reply Point)} (hopen : (store.scan state).1.Yields limit inner) :
    ∃ pulled, ((store.timed limit).scan state).1.outcome = .ok pulled ∧
      (∀ n, Cursor.pullAt limit n { rest := inner } = pulled[n]?) ∧
      Reply.Delivers limit inner pulled (collect pulled) ∧
      ((∃ error, collect pulled = .error error) ↔
        ∃ item ∈ inner, ¬ ∃ point, item.Yields limit point) := by
  have hguarded : ((store.scan state).1.guarded "scan" limit).outcome = .ok inner := by
    rw [hopen.guarded_eq, hopen.1]
  have hdelivers := Reply.delivers_untilFailure limit inner
  exact ⟨Reply.untilFailure limit inner, timed_scan_eq_ok_iff.mpr ⟨inner, hguarded, rfl⟩,
    fun n => Cursor.pullAt_eq limit n { rest := inner }, hdelivers, hdelivers.exists_error_iff⟩

/-- The third item is a point, but a late one.  It is replaced by an error, and neither the
point after it nor the error after that is given. -/
theorem PointStore.pullAt_timed_scan_lateItem :
    let limit := some (Duration.ofMilliseconds 10)
    let item (id : Int) : Reply Point := .ok ⟨id, ⟨[0], [1.0]⟩⟩
    let late : Reply Point := { item 3 with elapsed := Duration.ofMilliseconds 11 }
    let overrun : Error := .storageUnavailable "scan" "call exceeded timeout of 10ms" none
    let inner := [item 1, item 2, late, item 4, { outcome := .error (.other "connection reset") }]
    let store : PointStore Unit SplitMix :=
      { Population.empty.store with scan := fun state => (.ok inner, state) }
    (store.scan ()).1.Yields limit inner ∧
      ∃ pulled, ((store.timed limit).scan ()).1.outcome = .ok pulled ∧
        pulled = [item 1, item 2, { late with outcome := .error overrun }] ∧
        (∀ n, 3 ≤ n → Cursor.pullAt limit n { rest := inner } = none) ∧
        collect pulled = .error overrun := by
  intro limit item late overrun inner store
  have hopen : (store.scan ()).1.Yields limit inner := by
    refine ⟨rfl, fun allowed hlimit => ?_⟩
    obtain rfl := Option.some.inj hlimit
    decide
  obtain ⟨pulled, hscan, hpulls, -, -⟩ := pullAt_timed_scan hopen
  obtain rfl : [item 1, item 2, { late with outcome := .error overrun }] = pulled :=
    Except.ok.inj hscan
  exact ⟨hopen, _, hscan, rfl, fun n hn => (hpulls n).trans (List.getElem?_eq_none hn), rfl⟩

end SampledKmeans
