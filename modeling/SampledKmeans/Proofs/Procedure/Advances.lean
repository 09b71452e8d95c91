import Mathlib.Logic.Function.Iterate
import SampledKmeans.Proofs.Procedure

/-!
# How procedures advance the random source

`Advances f procedure` says that every answer of a procedure leaves the random
source that `f` makes of the one at hand.  Neither the answer nor anything else in
the session has a part in it, so that two runs which start from one source and
advance it in the same way have one source again, whatever they work on.

Steps that draw nothing advance the source by the identity, and composed procedures
by the composition of what their parts do.  A list of procedures that all advance it
by `f` iterates `f` (`Advances.mapM`).
-/

namespace SampledKmeans.Procedure

variable {σ ρ α β : Type}

/-- Every answer of the procedure leaves the source `f` makes of the one at hand. -/
def Advances (f : ρ → ρ) (procedure : Procedure σ ρ α) : Prop :=
  ∀ session a after, procedure.Answers session a after → after.random = f session.random

variable {f g : ρ → ρ} {procedure : Procedure σ ρ α}

/-! ## Composition -/

/-- The second part may be judged by the answer of the first. -/
theorem Advances.bind {next : α → Procedure σ ρ β} (h : Advances f procedure)
    (hnext : ∀ session a between, procedure.Answers session a between → Advances g (next a)) :
    Advances (g ∘ f) (procedure >>= next) := by
  intro session b after hanswers
  obtain ⟨a, between, hfirst, hrest⟩ := answers_bind_iff.mp hanswers
  calc after.random
      = g between.random := hnext session a between hfirst between b after hrest
    _ = g (f session.random) := by rw [h session a between hfirst]

/-- A second part that draws nothing. -/
theorem Advances.bind_id {next : α → Procedure σ ρ β} (h : Advances f procedure)
    (hnext : ∀ a, Advances id (next a)) : Advances f (procedure >>= next) :=
  h.bind fun _ a _ _ => hnext a

/-- A first part that draws nothing. -/
theorem Advances.id_bind {next : α → Procedure σ ρ β} (h : Advances id procedure)
    (hnext : ∀ a, Advances f (next a)) : Advances f (procedure >>= next) :=
  h.bind fun _ a _ _ => hnext a

theorem Advances.mapM {step : α → Procedure σ ρ β} (h : ∀ a, Advances f (step a)) (l : List α) :
    Advances (f^[l.length]) (l.mapM step) := by
  induction l with
  | nil =>
      intro session bs after hanswers
      rw [(answers_pure_iff.mp hanswers).2]
      rfl
  | cons a l ih =>
      rw [List.mapM_cons]
      refine (h a).bind fun _ b _ _ => ?_
      intro session bs after hanswers
      obtain ⟨rest, between, hrest, hpure⟩ := answers_bind_iff.mp hanswers
      rw [(answers_pure_iff.mp hpure).2]
      exact ih session rest between hrest

/-! ## The steps of procedures -/

theorem advances_draw (request : ρ → α × ρ) :
    Advances (fun source => (request source).2) (draw request : Procedure σ ρ α) := by
  intro session a after hanswers
  change (Except.ok _, _) = (Except.ok a, after) at hanswers
  rw [← (Prod.mk.inj hanswers).2]

/-! ## Steps that draw nothing -/

theorem advances_pure (a : α) : Advances id (pure a : Procedure σ ρ α) := by
  intro session b after hanswers
  rw [(answers_pure_iff.mp hanswers).2]
  rfl

theorem advances_report (event : Event) : Advances id (report event : Procedure σ ρ Unit) := by
  intro session u after hanswers
  rw [answers_report_iff.mp hanswers]
  rfl

theorem advances_check (value : Except Error α) :
    Advances id (check value : Procedure σ ρ α) := by
  intro session a after hanswers
  rw [(answers_check_iff.mp hanswers).2]
  rfl

theorem advances_expect (value : Option α) : Advances id (expect value : Procedure σ ρ α) := by
  intro session a after hanswers
  rw [(answers_expect_iff.mp hanswers).2]
  rfl

theorem advances_call (request : σ → Reply α × σ) :
    Advances id (call request : Procedure σ ρ α) := by
  intro session a after hanswers
  rw [(answers_call_iff.mp hanswers).2]
  rfl

end SampledKmeans.Procedure
