/-
  File:      CampusConnect/Objects.lean
  Subject:   The settlement objects of the sessions, and the `_source_fingerprint` on them.

  `prepare_settlement` keeps its fingerprint as a plain attribute of the ORM object it returns. The
  session refers to that object weakly: the attribute lasts as long as somebody holds the object, and
  is seen by the calls of that session only.

  * `Loaded`: the state of the event, with what is on the settlement object each session holds;
  * `Loaded.Action`: a call in a session, or the release of the object of a session;
  * `Loaded.step_call`: a call in a session is a call of `System`, with the object of that session;
  * `Call.Proceeds`, `Loaded.in_session`: calls one after the other in one session.
-/
import CampusConnect.System

namespace CampusConnect

open Guarded

/-! ## 1. The sessions -/

/-- The state of the event and, session by session, the fingerprint on the settlement object it holds:
    `none` when it holds none, or one without a fingerprint. -/
structure Loaded where
  state : State
  held : Nat → Option Text

/-- Before the first call of any session. -/
def Loaded.start (s : State) : Loaded := ⟨s, fun _ => none⟩

/-- What happens in a session: a call, or nobody refers to its settlement object any more. -/
inductive Loaded.Action where
  | call (session : Nat) (env : Env) (actor : User) (op : Op)
  | release (session : Nat)

/-- The call, with the object its session holds at `w`. -/
def Loaded.callAt (w : Loaded) (session : Nat) (env : Env) (actor : User) (op : Op) : Call :=
  { env := env, actor := actor, held := w.held session, op := op }

/-- A call leaves its session with the object it has used; other sessions keep theirs. -/
def Loaded.exec (cfg : Config) : Loaded.Action → Loaded → Result Loaded
  | .call session env actor op, w => do
      let s ← (w.callAt session env actor op).exec cfg w.state
      return ⟨s, Function.update w.held session s.attached⟩
  | .release session, w => return ⟨w.state, Function.update w.held session none⟩

/-- An action that is accepted. -/
def Loaded.Step (cfg : Config) (w : Loaded) (a : Loaded.Action) (w' : Loaded) : Prop :=
  Loaded.exec cfg a w = .ok w'

/-- What a session sees of the event. -/
def Loaded.seen (w : Loaded) (session : Nat) : State :=
  { w.state with attached := w.held session }

/-- The action prepares the settlement. -/
def Loaded.Action.Prepares : Loaded.Action → Prop
  | .call _ _ _ op => op.move = .settlement .prepared
  | .release _ => False

/-- The call in a session. -/
def Call.within (c : Call) (session : Nat) : Loaded.Action := .call session c.env c.actor c.op

/-! ## 2. Their calls -/

section Calls

variable {cfg : Config} {w w' : Loaded}

/-- **A call in a session** is a call with the object of that session. -/
theorem Loaded.step_call {session : Nat} {env : Env} {actor : User} {op : Op} :
    Loaded.Step cfg w (.call session env actor op) w' ↔
      ∃ s, CampusConnect.Step cfg w.state (w.callAt session env actor op) s ∧
        w' = ⟨s, Function.update w.held session s.attached⟩ := by
  unfold Loaded.Step Loaded.exec CampusConnect.Step
  simp only [bind_accepts, pure_accepts]
  exact exists_congr fun s => and_congr_right fun _ => eq_comm

/-- A release changes no row. -/
theorem Loaded.step_release {session : Nat} :
    Loaded.Step cfg w (.release session) w' ↔
      w' = ⟨w.state, Function.update w.held session none⟩ := by
  unfold Loaded.Step Loaded.exec
  rw [pure_accepts, eq_comm]

/-- The call on what its session sees. -/
def Call.Proceeds (cfg : Config) (s : State) (c : Call) (s' : State) : Prop :=
  c.op.exec cfg c.env c.actor s = .ok s'

/-- After a call its session sees what the call left. -/
theorem Loaded.seen_after (s : State) (held : Nat → Option Text) (session : Nat) :
    (Loaded.mk s (Function.update held session s.attached)).seen session = s := by
  show { s with attached := Function.update held session s.attached session } = s
  rw [Function.update_self]

/-- **Calls in one session**, which holds its object from each to the next. -/
theorem Loaded.in_session {session : Nat} {calls : List Call} {u : State}
    (h : Runs.Path (Call.Proceeds cfg) (w.seen session) calls u) :
    ∃ w', Runs.Path (Loaded.Step cfg) w (calls.map fun c => c.within session) w' ∧
      w'.seen session = u := by
  generalize hs : w.seen session = s at h
  induction h generalizing w with
  | nil s => exact ⟨w, .nil w, hs⟩
  | @cons s t u c calls hcall _ ih =>
      subst hs
      obtain ⟨w', hpath, hseen⟩ := ih (w := ⟨t, Function.update w.held session t.attached⟩)
        (Loaded.seen_after t w.held session)
      exact ⟨w', .cons (Loaded.step_call.mpr ⟨t, hcall, rfl⟩) hpath, hseen⟩

end Calls

end CampusConnect
