/-
  File:      CampusConnect/Base/Delegation.lean
  Subject:   Authority that is handed on: who holds it, and from whom.

  * `Delegated`: an agent is a founder, or some label of the run granted it, taken by a root or by an
    agent who had been granted it before;
  * `Path.granted`: when authority arises by such labels only, every holder of a run has a chain of
    grants.
-/
import CampusConnect.Base.Runs

namespace Runs

universe u v w

variable {σ : Type u} {ι : Type v} {α : Type w}

/-- **A chain of grants** along the labels taken. -/
inductive Delegated (founder : α → Prop) (root : ι → Prop) (agent : ι → α)
    (grants : ι → α → Prop) : List ι → α → Prop where
  | founder {taken : List ι} {a : α} (h : founder a) : Delegated founder root agent grants taken a
  | byRoot {before after : List ι} {i : ι} {a : α} (hg : grants i a) (hr : root i) :
      Delegated founder root agent grants (before ++ i :: after) a
  | byHolder {before after : List ι} {i : ι} {a : α} (hg : grants i a)
      (h : Delegated founder root agent grants before (agent i)) :
      Delegated founder root agent grants (before ++ i :: after) a

variable {founder : α → Prop} {root : ι → Prop} {agent : ι → α} {grants : ι → α → Prop}

/-- What was granted stays granted. -/
theorem Delegated.later {taken : List ι} {a : α} (h : Delegated founder root agent grants taken a)
    (more : List ι) : Delegated founder root agent grants (taken ++ more) a := by
  cases h with
  | founder h => exact .founder h
  | byRoot hg hr =>
      rw [List.append_assoc, List.cons_append]
      exact .byRoot hg hr
  | byHolder hg h =>
      rw [List.append_assoc, List.cons_append]
      exact .byHolder hg h

variable {step : σ → ι → σ → Prop} {Holds : σ → α → Prop}

/-- **The delegation rule**: when whoever holds authority after a step held it before, or was granted it
    by a root or a holder, then every holder of a run has a chain of grants. -/
theorem Path.granted
    (hstep : ∀ s i s', step s i s' → ∀ a, Holds s' a →
      Holds s a ∨ (grants i a ∧ (root i ∨ Holds s (agent i))))
    {s s' : σ} {is : List ι} (h : Path step s is s') {a : α} (ha : Holds s' a) :
    Delegated (Holds s) root agent grants is a := by
  refine h.history (P := fun t taken => ∀ b, Holds t b →
    Delegated (Holds s) root agent grants taken b) ?_ (fun b hb => .founder hb) a ha
  intro t taken i u ht hi b hb
  rcases hstep t i u hi b hb with hold | ⟨hg, hr | hby⟩
  · exact (ht b hold).later [i]
  · exact .byRoot hg hr
  · exact .byHolder hg (ht _ hby)

end Runs
