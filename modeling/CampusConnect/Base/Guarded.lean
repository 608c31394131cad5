/-
  File:      CampusConnect/Base/Guarded.lean
  Subject:   Guarded programs: straight-line code that refuses with an error or goes on.

  * `refuse`, `fetch`: the two statements such code is made of, "raise when" and "load or raise";
  * `bind_accepts`, `refuse_accepts`, `fetch_accepts`: what an ACCEPTED program says about each
    of its statements. With them one `simp only` turns acceptance of a whole program into the
    conjunction of its guards and the equation of its result, and acceptance back from these;
  * `Ensures`: what every accepted run of a program returns, whatever its guards let through.
-/
import Mathlib.Control.Monad.Basic
import Mathlib.Logic.Basic

namespace Guarded

universe u v

variable {ε : Type u} {α β : Type v}

/-- `if c: raise e`. -/
def refuse (c : Prop) [Decidable c] (e : ε) : Except ε Unit :=
  if c then .error e else .ok ()

/-- `x = load(); if not x: raise e`. -/
def fetch (o : Option α) (e : ε) : Except ε α :=
  match o with
  | some a => .ok a
  | none => .error e

/-! ## Inversion of accepted programs -/

@[simp] theorem bind_accepts {x : Except ε α} {f : α → Except ε β} {b : β} :
    (x >>= f) = .ok b ↔ ∃ a, x = .ok a ∧ f a = .ok b := by
  cases x with
  | error e => constructor <;> simp [bind, Except.bind]
  | ok a => constructor <;> simp [bind, Except.bind]

@[simp] theorem pure_accepts {a b : α} : (pure a : Except ε α) = .ok b ↔ a = b :=
  ⟨fun h => Except.ok.inj h, fun h => h ▸ rfl⟩

@[simp] theorem refuse_accepts {c : Prop} [Decidable c] {e : ε} {u : Unit} :
    refuse c e = .ok u ↔ ¬ c := by
  unfold refuse
  by_cases hc : c <;> simp [hc]

@[simp] theorem fetch_accepts {o : Option α} {e : ε} {a : α} :
    fetch o e = .ok a ↔ o = some a := by
  cases o <;> simp [fetch]

/-- The binder of a statement that returns nothing drops out. -/
@[simp] theorem exists_unit {p : Unit → Prop} : (∃ u, p u) ↔ p () :=
  ⟨fun ⟨_, h⟩ => h, fun h => ⟨(), h⟩⟩

/-! ## What an accepted program returns -/

/-- Whatever the program returns meets `Q`. -/
def Ensures (Q : α → Prop) (x : Except ε α) : Prop := ∀ a, x = .ok a → Q a

/-- The last statement decides. -/
theorem Ensures.bind {Q : β → Prop} {x : Except ε α} {f : α → Except ε β}
    (h : ∀ a, Ensures Q (f a)) : Ensures Q (x >>= f) := by
  intro b hb
  obtain ⟨a, _, ha⟩ := bind_accepts.mp hb
  exact h a b ha

theorem Ensures.pure {Q : α → Prop} {a : α} (h : Q a) : Ensures Q (Pure.pure a : Except ε α) := by
  intro b hb
  rw [← pure_accepts.mp hb]
  exact h

end Guarded
