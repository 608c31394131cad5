/-
  File:      CampusConnect/Base/Transactions.lean
  Subject:   Transactions under READ COMMITTED, for any database and any requests.

  * `Prog`, `Script`: a transaction as a program of selects, plain or FOR UPDATE, that ends in what it
    writes;
  * `World`, `World.next`, `Moved`: any number of sessions over one database. A select sees the
    committed rows, a FOR UPDATE waits for the holders of its rows, the writes appear at the commit;
  * `Prog.after`, `Prog.since`: what a script has left after the views of a session, and the views
    from the lock of a row on;
  * `Reachable.invariant`, `Reachable.sessions`: invariants of the database, and of the sessions beside
    it; `Reachable.views`, `Reachable.older`, `Reachable.ordered`: what is read is as the database was;
  * `Reachable.pinned`: what is written under the lock of a row stays as its holder read it;
  * `Prog.serial`: what a script computes alone.
-/
import CampusConnect.Base.Runs

namespace Transactions

universe u

variable {ε σ κ ι α β : Type u}

/-! ## 1. Programs -/

/-- A program of selects. Each sees the committed database; a `lock` is granted the rows it finds. -/
inductive Prog (ε σ κ α : Type u) : Type u where
  | done (a : α)
  | refused (e : ε)
  | select (next : σ → Prog ε σ κ α)
  | lock (rows : σ → List κ) (next : σ → Prog ε σ κ α)

namespace Prog

def bind : Prog ε σ κ α → (α → Prog ε σ κ β) → Prog ε σ κ β
  | done a, f => f a
  | refused e, _ => refused e
  | select next, f => select fun s => (next s).bind f
  | lock rows next, f => lock rows fun s => (next s).bind f

instance : Monad (Prog ε σ κ) where
  pure := done
  bind := bind

/-- A plain select. -/
def view : Prog ε σ κ σ := select done

/-- A select FOR UPDATE. -/
def hold (rows : σ → List κ) : Prog ε σ κ σ := lock rows done

/-- A decision between the selects. -/
def lift : Except ε α → Prog ε σ κ α
  | .ok a => done a
  | .error e => refused e

end Prog

/-- A transaction ends with what it writes into the database at the commit. -/
abbrev Script (ε σ κ : Type u) := Prog ε σ κ (σ → Except ε σ)

/-! ## 2. Worlds -/

/-- A session under way: its request, what it has read so far, and what is left to do. -/
structure Txn (ε σ κ ι : Type u) where
  request : ι
  views : List σ
  rest : Script ε σ κ

/-- The committed database, the sessions, the holders of row locks, and the requests that have
    committed, in order. A row has one holder. -/
structure World (ε σ κ ι : Type u) where
  db : σ
  running : Nat → Option (Txn ε σ κ ι)
  holder : κ → Option Nat
  log : List ι

inductive Action (ι : Type u) where
  | start (i : Nat) (r : ι)
  | run (i : Nat)
  | abort (i : Nat)

/-- Why a session cannot move. -/
inductive Blocked where
  | busy
  | idle
  | waiting
  deriving DecidableEq

namespace World

/-- No session. -/
def idle (s : σ) : World ε σ κ ι where
  db := s
  running := fun _ => none
  holder := fun _ => none
  log := []

def put (w : World ε σ κ ι) (i : Nat) (t : Txn ε σ κ ι) : World ε σ κ ι :=
  { w with running := fun j => if j = i then some t else w.running j }

/-- The end of a session: its locks are released. -/
def leave (w : World ε σ κ ι) (i : Nat) : World ε σ κ ι :=
  { w with
    running := fun j => if j = i then none else w.running j
    holder := fun k => if w.holder k = some i then none else w.holder k }

def commit (w : World ε σ κ ι) (i : Nat) (r : ι) (s : σ) : World ε σ κ ι :=
  { w.leave i with db := s, log := w.log ++ [r] }

/-- Nobody else holds the row. -/
def Free (w : World ε σ κ ι) (i : Nat) (k : κ) : Prop := w.holder k = none ∨ w.holder k = some i

instance (w : World ε σ κ ι) (i : Nat) (k : κ) : Decidable (w.Free i k) :=
  inferInstanceAs (Decidable (_ ∨ _))

/-- The session after one more select, with what is left. -/
def Txn.read (t : Txn ε σ κ ι) (s : σ) (rest : Script ε σ κ) : Txn ε σ κ ι :=
  { t with views := t.views ++ [s], rest := rest }

/-- The sessions after a `put`: the new one, and the others as they were. -/
theorem put_running {w : World ε σ κ ι} {i j : Nat} {t u : Txn ε σ κ ι}
    (h : (w.put i t).running j = some u) : (j = i ∧ u = t) ∨ (j ≠ i ∧ w.running j = some u) := by
  have hif : (if j = i then some t else w.running j) = some u := h
  by_cases he : j = i
  · rw [if_pos he] at hif
    exact .inl ⟨he, (Option.some.inj hif).symm⟩
  · rw [if_neg he] at hif
    exact .inr ⟨he, hif⟩

/-- The sessions after one has left: the others as they were. -/
theorem leave_running {w : World ε σ κ ι} {i j : Nat} {u : Txn ε σ κ ι}
    (h : (w.leave i).running j = some u) : j ≠ i ∧ w.running j = some u := by
  have hif : (if j = i then none else w.running j) = some u := h
  by_cases he : j = i
  · rw [if_pos he] at hif
    cases hif
  · rw [if_neg he] at hif
    exact ⟨he, hif⟩

variable [DecidableEq κ]

def grant (w : World ε σ κ ι) (i : Nat) (rows : List κ) : World ε σ κ ι :=
  { w with holder := fun k => if k ∈ rows then some i else w.holder k }

/-- The next statement of a session. -/
def statement (w : World ε σ κ ι) (i : Nat) (t : Txn ε σ κ ι) : Except Blocked (World ε σ κ ι) :=
  match t.rest with
  | .done write =>
      match write w.db with
      | .ok s => .ok (w.commit i t.request s)
      | .error _ => .ok (w.leave i)
  | .refused _ => .ok (w.leave i)
  | .select next => .ok (w.put i (Txn.read t w.db (next w.db)))
  | .lock rows next =>
      if ∀ k ∈ rows w.db, w.Free i k then
        .ok ((w.put i (Txn.read t w.db (next w.db))).grant i (rows w.db))
      else .error .waiting

/-- One action of one session. -/
def next (script : ι → Script ε σ κ) (a : Action ι) (w : World ε σ κ ι) :
    Except Blocked (World ε σ κ ι) :=
  match a with
  | .start i r =>
      match w.running i with
      | some _ => .error .busy
      | none => .ok (w.put i { request := r, views := [], rest := script r })
  | .run i =>
      match w.running i with
      | some t => w.statement i t
      | none => .error .idle
  | .abort i =>
      match w.running i with
      | some _ => .ok (w.leave i)
      | none => .error .idle

/-- An action that is possible. -/
def Step (script : ι → Script ε σ κ) (w : World ε σ κ ι) (a : Action ι) (w' : World ε σ κ ι) : Prop :=
  w.next script a = .ok w'

end World

open World

/-! ## 3. Steps -/

section Steps

variable [DecidableEq κ] {script : ι → Script ε σ κ} {w w' : World ε σ κ ι} {a : Action ι}

/-- **What an action does.** -/
inductive Moved (script : ι → Script ε σ κ) (w : World ε σ κ ι) :
    Action ι → World ε σ κ ι → Prop where
  | started (i : Nat) (r : ι) (h : w.running i = none) :
      Moved script w (.start i r) (w.put i { request := r, views := [], rest := script r })
  | selected (i : Nat) (t : Txn ε σ κ ι) (next : σ → Script ε σ κ) (h : w.running i = some t)
      (hrest : t.rest = .select next) :
      Moved script w (.run i) (w.put i (Txn.read t w.db (next w.db)))
  | locked (i : Nat) (t : Txn ε σ κ ι) (rows : σ → List κ) (next : σ → Script ε σ κ)
      (h : w.running i = some t) (hrest : t.rest = .lock rows next)
      (hfree : ∀ k ∈ rows w.db, w.Free i k) :
      Moved script w (.run i) ((w.put i (Txn.read t w.db (next w.db))).grant i (rows w.db))
  | committed (i : Nat) (t : Txn ε σ κ ι) (write : σ → Except ε σ) (s : σ)
      (h : w.running i = some t) (hrest : t.rest = .done write) (hwrite : write w.db = .ok s) :
      Moved script w (.run i) (w.commit i t.request s)
  | left (i : Nat) (t : Txn ε σ κ ι) (a : Action ι) (h : w.running i = some t) :
      Moved script w a (w.leave i)

theorem World.Step.moved (h : World.Step script w a w') : Moved script w a w' := by
  unfold World.Step World.next at h
  cases a with
  | start i r =>
      cases hr : w.running i with
      | some t =>
          simp only [hr] at h
          cases h
      | none =>
          simp only [hr] at h
          cases h
          exact .started i r hr
  | abort i =>
      cases hr : w.running i with
      | some t =>
          simp only [hr] at h
          cases h
          exact .left i t _ hr
      | none =>
          simp only [hr] at h
          cases h
  | run i =>
      cases hr : w.running i with
      | none =>
          simp only [hr] at h
          cases h
      | some t =>
          simp only [hr, World.statement] at h
          cases hrest : t.rest with
          | done write =>
              simp only [hrest] at h
              cases hwrite : write w.db with
              | ok s =>
                  simp only [hwrite] at h
                  cases h
                  exact .committed i t write s hr hrest hwrite
              | error e =>
                  simp only [hwrite] at h
                  cases h
                  exact .left i t _ hr
          | refused e =>
              simp only [hrest] at h
              cases h
              exact .left i t _ hr
          | select next =>
              simp only [hrest] at h
              cases h
              exact .selected i t next hr hrest
          | lock rows next =>
              simp only [hrest] at h
              by_cases hfree : ∀ k ∈ rows w.db, w.Free i k
              · rw [if_pos hfree] at h
                cases h
                exact .locked i t rows next hr hrest hfree
              · rw [if_neg hfree] at h
                cases h

/-- A step leaves no session where there was none, unless it starts it. -/
theorem Moved.idle {j : Nat} (h : Moved script w a w') (hstart : ∀ r, a ≠ .start j r)
    (hidle : w.running j = none) : w'.running j = none := by
  have hput : ∀ (v : World ε σ κ ι) (i : Nat) (t : Txn ε σ κ ι), v.running j = none → i ≠ j →
      (v.put i t).running j = none := by
    intro v i t hv hne
    exact (if_neg fun he => hne he.symm).trans hv
  have hleave : ∀ i, (w.leave i).running j = none := by
    intro i
    show (if j = i then none else w.running j) = none
    by_cases he : j = i
    · exact if_pos he
    · exact (if_neg he).trans hidle
  have hother : ∀ i t, w.running i = some t → i ≠ j := by
    intro i t hi he
    rw [he, hidle] at hi
    cases hi
  cases h with
  | started i r hi => exact hput w i _ hidle fun he => hstart r (he ▸ rfl)
  | selected i t next hi hrest => exact hput w i _ hidle (hother i t hi)
  | locked i t rows next hi hrest hfree => exact hput w i _ hidle (hother i t hi)
  | committed i t write s hi hrest hwrite => exact hleave i
  | left i t a hi => exact hleave i

/-- In a run that does not start it, a session stays absent. -/
theorem World.unstarted {j : Nat} {actions : List (Action ι)}
    (h : Runs.Path (World.Step script) w actions w') (hstart : ∀ r, Action.start j r ∉ actions)
    (hidle : w.running j = none) : w'.running j = none := by
  induction h with
  | nil => exact hidle
  | cons hstep hpath ih =>
      refine ih (fun r hr => hstart r (List.mem_cons_of_mem _ hr)) (hstep.moved.idle ?_ hidle)
      intro r hr
      rw [hr] at hstart
      exact hstart r List.mem_cons_self

end Steps

/-! ## 4. What a session has seen -/

namespace Prog

/-- What is left of a program after the given views. -/
def after : Prog ε σ κ α → List σ → Prog ε σ κ α
  | p, [] => p
  | select next, v :: vs => (next v).after vs
  | lock _ next, v :: vs => (next v).after vs
  | done a, _ :: _ => done a
  | refused e, _ :: _ => refused e

/-- The views from the lock of a row on. -/
def since [DecidableEq κ] (k : κ) : Prog ε σ κ α → List σ → List σ
  | _, [] => []
  | select next, v :: vs => (next v).since k vs
  | lock rows next, v :: vs => if k ∈ rows v then v :: vs else (next v).since k vs
  | done _, _ :: _ => []
  | refused _, _ :: _ => []

theorem after_nil (p : Prog ε σ κ α) : p.after [] = p := by
  cases p <;> rfl

theorem after_append (p : Prog ε σ κ α) (vs ws : List σ) :
    p.after (vs ++ ws) = (p.after vs).after ws := by
  induction vs generalizing p with
  | nil => rw [List.nil_append, after_nil]
  | cons v vs ih =>
      cases p with
      | done a => cases ws <;> rfl
      | refused e => cases ws <;> rfl
      | select next => exact ih (next v)
      | lock rows next => exact ih (next v)

/-- A decision that is taken. -/
theorem after_lift {x : Except ε α} {vs : List σ} {a : α} :
    (lift x : Prog ε σ κ α).after vs = done a ↔ x = .ok a := by
  cases x with
  | ok b =>
      have hafter : (lift (.ok b) : Prog ε σ κ α).after vs = done b := by
        cases vs <;> rfl
      rw [hafter]
      exact ⟨fun h => congrArg Except.ok (done.inj h), fun h => congrArg done (Except.ok.inj h)⟩
  | error e =>
      have hafter : (lift (.error e) : Prog ε σ κ α).after vs = refused e := by
        cases vs <;> rfl
      rw [hafter]
      exact ⟨fun h => (nomatch h), fun h => (nomatch h)⟩

theorem after_done {b a : α} {vs : List σ} :
    (pure b : Prog ε σ κ α).after vs = done a ↔ b = a := by
  have hafter : (pure b : Prog ε σ κ α).after vs = done b := by
    cases vs <;> rfl
  rw [hafter]
  exact ⟨fun h => done.inj h, fun h => congrArg done h⟩

/-- A program that reads a view first has read one when it is done. -/
theorem after_reads {p : Prog ε σ κ α} {f : σ → Prog ε σ κ α} {a : α} (hnil : p.after [] ≠ done a)
    (hcons : ∀ v ws, p.after (v :: ws) = (f v).after ws) {vs : List σ} :
    p.after vs = done a ↔ ∃ v ws, vs = v :: ws ∧ (f v).after ws = done a := by
  constructor
  · intro h
    cases vs with
    | nil => exact (hnil h).elim
    | cons v ws => exact ⟨v, ws, rfl, (hcons v ws).symm.trans h⟩
  · intro ⟨v, ws, hvs, h⟩
    rw [hvs, hcons]
    exact h

theorem after_view {f : σ → Prog ε σ κ α} {vs : List σ} {a : α} :
    (view >>= f).after vs = done a ↔ ∃ v ws, vs = v :: ws ∧ (f v).after ws = done a :=
  after_reads (fun h => by cases h) fun _ _ => rfl

theorem after_hold {rows : σ → List κ} {f : σ → Prog ε σ κ α} {vs : List σ} {a : α} :
    (hold rows >>= f).after vs = done a ↔ ∃ v ws, vs = v :: ws ∧ (f v).after ws = done a :=
  after_reads (fun h => by cases h) fun _ _ => rfl

/-- A program goes on after the decisions it takes. -/
theorem after_decision {x : Except ε β} {f : β → Prog ε σ κ α} {vs : List σ} {a : α} :
    (lift x >>= f).after vs = done a ↔ ∃ b, x = .ok b ∧ (f b).after vs = done a := by
  cases x with
  | ok b =>
      constructor
      · intro h
        exact ⟨b, rfl, h⟩
      · intro hex
        obtain ⟨c, hok, h⟩ := hex
        cases hok
        exact h
  | error e =>
      constructor
      · intro h
        cases vs <;> cases h
      · intro hex
        obtain ⟨c, hok, _⟩ := hex
        cases hok

variable [DecidableEq κ]

theorem since_nil (k : κ) (p : Prog ε σ κ α) : p.since k ([] : List σ) = [] := by
  cases p <;> rfl

theorem since_lock (k : κ) (rows : σ → List κ) (next : σ → Prog ε σ κ α) (v : σ) (vs : List σ) :
    (lock rows next).since k (v :: vs) = if k ∈ rows v then v :: vs else (next v).since k vs := rfl

/-- A program that selects holds what it locks later. -/
theorem since_view {k : κ} {f : σ → Prog ε σ κ α} {v : σ} {vs : List σ} :
    (view >>= f).since k (v :: vs) = (f v).since k vs := rfl

theorem since_hold {k : κ} {rows : σ → List κ} {f : σ → Prog ε σ κ α} {v : σ} {vs : List σ} :
    (hold rows >>= f).since k (v :: vs) = if k ∈ rows v then v :: vs else (f v).since k vs := rfl

theorem since_decision {k : κ} {x : Except ε β} {f : β → Prog ε σ κ α} {b : β} (h : x = .ok b)
    (vs : List σ) : (lift x >>= f).since k vs = (f b).since k vs := by
  rw [h]
  rfl

/-- What is locked later is locked. -/
theorem since_hold_ne {k : κ} {rows : σ → List κ} {f : σ → Prog ε σ κ α} {v : σ} {vs : List σ}
    (h : (f v).since k vs ≠ []) : (hold rows >>= f).since k (v :: vs) ≠ [] := by
  rw [since_hold]
  by_cases hk : k ∈ rows v
  · rw [if_pos hk]
    exact List.cons_ne_nil _ _
  · rw [if_neg hk]
    exact h

theorem since_hold_mem {k : κ} {rows : σ → List κ} {f : σ → Prog ε σ κ α} {v : σ} {vs : List σ}
    (hk : k ∈ rows v) : (hold rows >>= f).since k (v :: vs) = v :: vs := by
  rw [since_hold, if_pos hk]

/-- A row is locked from its select on. -/
theorem since_hold_taken {k : κ} {rows : σ → List κ} {f : σ → Prog ε σ κ α} {v : σ} {vs : List σ}
    (hk : k ∈ rows v) : (hold rows >>= f).since k (v :: vs) ≠ [] := by
  rw [since_hold_mem hk]
  exact List.cons_ne_nil _ _

/-- One more view counts from the lock on, when the lock was there before. -/
theorem since_append {k : κ} {p : Prog ε σ κ α} {vs : List σ} (v : σ) (h : p.since k vs ≠ []) :
    p.since k (vs ++ [v]) = p.since k vs ++ [v] := by
  induction vs generalizing p with
  | nil => exact (h (since_nil k p)).elim
  | cons u vs ih =>
      cases p with
      | done a => exact (h rfl).elim
      | refused e => exact (h rfl).elim
      | select next => exact ih h
      | lock rows next =>
          rw [since_lock] at h
          rw [List.cons_append, since_lock, since_lock]
          by_cases hk : k ∈ rows u
          · rw [if_pos hk, if_pos hk]
            rfl
          · rw [if_neg hk] at h
            rw [if_neg hk, if_neg hk]
            exact ih h

/-- Without the lock so far, one more view counts when its select takes it. -/
theorem since_append_new {k : κ} {p : Prog ε σ κ α} {vs : List σ} (v : σ) (h : p.since k vs = []) :
    p.since k (vs ++ [v]) = (p.after vs).since k [v] := by
  induction vs generalizing p with
  | nil => rw [List.nil_append, after_nil]
  | cons u vs ih =>
      cases p with
      | done a => rfl
      | refused e => rfl
      | select next => exact ih h
      | lock rows next =>
          rw [since_lock] at h
          rw [List.cons_append, since_lock]
          by_cases hk : k ∈ rows u
          · rw [if_pos hk] at h
            cases h
          · rw [if_neg hk] at h
            rw [if_neg hk]
            exact ih h

end Prog

/-! ## 5. Reachable worlds -/

section Worlds

variable [DecidableEq κ] {script : ι → Script ε σ κ} {w w' : World ε σ κ ι} {a : Action ι}

/-- **Sessions follow their scripts, and hold the rows they have locked.** -/
structure Following (script : ι → Script ε σ κ) (w : World ε σ κ ι) : Prop where
  rest : ∀ i t, w.running i = some t → t.rest = (script t.request).after t.views
  held : ∀ i t k, w.running i = some t → (script t.request).since k t.views ≠ [] →
    w.holder k = some i

theorem Following.idle (script : ι → Script ε σ κ) (s : σ) : Following script (World.idle s) :=
  ⟨fun _ _ h => (nomatch h), fun _ _ _ h => (nomatch h)⟩

/-- A session that ends takes its own locks with it only. -/
theorem Following.leave (h : Following script w) (i : Nat) : Following script (w.leave i) := by
  refine ⟨fun j t hj => h.rest j t (leave_running hj).2, fun j t k hj hk => ?_⟩
  obtain ⟨hne, hj⟩ := leave_running hj
  have hold := h.held j t k hj hk
  show (if w.holder k = some i then none else w.holder k) = some j
  rw [hold, if_neg fun hs => hne (Option.some.inj hs)]

/-- What a session has left after its next view. -/
theorem Following.read {i : Nat} {t : Txn ε σ κ ι} {rest : Script ε σ κ} (h : Following script w)
    (hi : w.running i = some t) (hrest : t.rest.after [w.db] = rest) :
    rest = (script t.request).after (t.views ++ [w.db]) := by
  rw [Prog.after_append, ← h.rest i t hi, hrest]

theorem Moved.following (h : Following script w) (hm : Moved script w a w') : Following script w' := by
  cases hm with
  | started i r hidle =>
      refine ⟨fun j u hj => ?_, fun j u k hj hk => ?_⟩
      · rcases put_running hj with ⟨_, rfl⟩ | ⟨_, hj⟩
        · exact (Prog.after_nil _).symm
        · exact h.rest j u hj
      · rcases put_running hj with ⟨_, rfl⟩ | ⟨_, hj⟩
        · exact (hk (Prog.since_nil k _)).elim
        · exact h.held j u k hj hk
  | selected i t next hi hrest =>
      refine ⟨fun j u hj => ?_, fun j u k hj hk => ?_⟩
      · rcases put_running hj with ⟨_, rfl⟩ | ⟨_, hj⟩
        · refine h.read hi ?_
          rw [hrest]
          exact Prog.after_nil _
        · exact h.rest j u hj
      · rcases put_running hj with ⟨rfl, rfl⟩ | ⟨_, hj⟩
        · refine h.held j t k hi fun hnone => hk ?_
          show (script t.request).since k (t.views ++ [w.db]) = []
          rw [Prog.since_append_new w.db hnone, ← h.rest j t hi, hrest]
          exact Prog.since_nil k _
        · exact h.held j u k hj hk
  | locked i t rows next hi hrest hfree =>
      refine ⟨fun j u hj => ?_, fun j u k hj hk => ?_⟩
      · rcases put_running hj with ⟨_, rfl⟩ | ⟨_, hj⟩
        · refine h.read hi ?_
          rw [hrest]
          exact Prog.after_nil _
        · exact h.rest j u hj
      · show (if k ∈ rows w.db then some i else w.holder k) = some j
        rcases put_running hj with ⟨rfl, rfl⟩ | ⟨hne, hj⟩
        · by_cases hrow : k ∈ rows w.db
          · rw [if_pos hrow]
          · rw [if_neg hrow]
            refine h.held j t k hi fun hnone => hk ?_
            show (script t.request).since k (t.views ++ [w.db]) = []
            rw [Prog.since_append_new w.db hnone, ← h.rest j t hi, hrest, Prog.since_lock,
              if_neg hrow]
            exact Prog.since_nil k _
        · have hold := h.held j u k hj hk
          by_cases hrow : k ∈ rows w.db
          · rcases hfree k hrow with hnone | hown
            · rw [hold] at hnone
              cases hnone
            · rw [hold] at hown
              exact (hne (Option.some.inj hown)).elim
          · rw [if_neg hrow]
            exact hold
  | committed i t write s hi hrest hwrite =>
      have hleft := h.leave i
      exact ⟨hleft.rest, hleft.held⟩
  | left i t a hi => exact h.leave i

/-- The commit of a session: its script has nothing left but the write, which succeeds. -/
structure Commit (script : ι → Script ε σ κ) (w : World ε σ κ ι) (i : Nat) (t : Txn ε σ κ ι) (s : σ) :
    Prop where
  running : w.running i = some t
  write : ∃ write, (script t.request).after t.views = .done write ∧ write w.db = .ok s

/-- Nothing is left but the write. -/
def Prog.Finished : Prog ε σ κ α → Prop
  | done _ => True
  | _ => False

instance : (p : Prog ε σ κ α) → Decidable p.Finished
  | .done _ => .isTrue trivial
  | .refused _ | .select _ | .lock _ _ => .isFalse id

/-- A condition on commits only: on the request, what it has read and the committed database. -/
def OnCommit (P : ι → List σ → σ → Prop) (w : World ε σ κ ι) : Action ι → Prop
  | .run i => ∀ t ∈ w.running i, t.rest.Finished → P t.request t.views w.db
  | .start _ _ | .abort _ => True

instance (P : ι → List σ → σ → Prop) [∀ r vs s, Decidable (P r vs s)] (w : World ε σ κ ι) :
    (a : Action ι) → Decidable (OnCommit P w a)
  | .run i => inferInstanceAs (Decidable (∀ t ∈ w.running i, _ → _))
  | .start _ _ | .abort _ => .isTrue trivial

/-- The worlds of all runs from an initial database whose steps meet the condition. -/
def Reachable (script : ι → Script ε σ κ) (init : σ → Prop) (ok : World ε σ κ ι → Action ι → Prop) :
    World ε σ κ ι → Prop :=
  Runs.Reach (fun w => ∃ s, init s ∧ w = World.idle s) (Runs.restrict (World.Step script) ok)

variable {init : σ → Prop} {ok : World ε σ κ ι → Action ι → Prop}

theorem Reachable.following (h : Reachable script init ok w) : Following script w := by
  refine Runs.Reach.invariant (P := Following script) ?_ ?_ h
  · intro w hex
    obtain ⟨s, _, rfl⟩ := hex
    exact .idle script s
  · intro w a w' hw hs
    exact hs.1.moved.following hw

theorem OnCommit.commit {P : ι → List σ → σ → Prop} (h : Reachable script init ok w) {i : Nat}
    {t : Txn ε σ κ ι} {s : σ} (hok : OnCommit P w (.run i)) (hcommit : Commit script w i t s) :
    P t.request t.views w.db := by
  obtain ⟨write, hdone, _⟩ := hcommit.write
  refine hok t hcommit.running ?_
  rw [(Reachable.following h).rest i t hcommit.running, hdone]
  exact trivial

/-- **What a step does to the database**: nothing, or it is a commit. -/
theorem Reachable.step (h : Reachable script init ok w) {a : Action ι} {w' : World ε σ κ ι}
    (hs : World.Step script w a w') :
    (w'.db = w.db ∧ w'.log = w.log) ∨
      ∃ i t, a = .run i ∧ Commit script w i t w'.db ∧ w'.log = w.log ++ [t.request] := by
  cases hs.moved with
  | started i r hidle => exact .inl ⟨rfl, rfl⟩
  | selected i t next hi hrest => exact .inl ⟨rfl, rfl⟩
  | locked i t rows next hi hrest hfree => exact .inl ⟨rfl, rfl⟩
  | committed i t write s hi hrest hwrite =>
      refine .inr ⟨i, t, rfl, ⟨hi, write, ?_, hwrite⟩, rfl⟩
      rw [← (Reachable.following h).rest i t hi, hrest]
  | left i t a hi => exact .inl ⟨rfl, rfl⟩

/-- **Invariants of the database**: what each commit keeps, with the requests committed so far. -/
theorem Reachable.invariant {P : List ι → σ → Prop} (hinit : ∀ s, init s → P [] s)
    (hcommit : ∀ w i t s, Reachable script init ok w → ok w (.run i) → Commit script w i t s →
      P w.log w.db → P (w.log ++ [t.request]) s) (h : Reachable script init ok w) :
    P w.log w.db := by
  refine Runs.Reach.invariant_given (J := Reachable script init ok) (P := fun w => P w.log w.db)
    (fun _ hw => hw) ?_ ?_ h
  · intro w hex
    obtain ⟨s, hs, rfl⟩ := hex
    exact hinit s hs
  · intro w a w' hw hp hs
    have hfollow := Reachable.following hw
    obtain ⟨hstep, hok⟩ := hs
    cases hstep.moved with
    | started i r hidle => exact hp
    | selected i t next hi hrest => exact hp
    | locked i t rows next hi hrest hfree => exact hp
    | committed i t write s hi hrest hwrite =>
        refine hcommit w i t s hw hok ⟨hi, write, ?_, hwrite⟩ hp
        rw [← hfollow.rest i t hi, hrest]
    | left i t a hi => exact hp

/-- A row has one holder. -/
theorem Reachable.exclusive (h : Reachable script init ok w) {i j : Nat} {t u : Txn ε σ κ ι} {k : κ}
    (hi : w.running i = some t) (hj : w.running j = some u)
    (ht : (script t.request).since k t.views ≠ []) (hu : (script u.request).since k u.views ≠ []) :
    i = j := by
  have hfollow := Reachable.following h
  have hmine := hfollow.held i t k hi ht
  rw [hfollow.held j u k hj hu] at hmine
  exact (Option.some.inj hmine).symm

/-- **Invariants of the sessions**: of the request and the views of each session under way and of the
    database. A session's own select keeps it, and so do the commits of the others. -/
theorem Reachable.sessions {P : ι → List σ → σ → Prop} (hstart : ∀ r s, P r [] s)
    (hread : ∀ w r vs, Reachable script init ok w → P r vs w.db → P r (vs ++ [w.db]) w.db)
    (hcommit : ∀ w i t s, Reachable script init ok w → ok w (.run i) → Commit script w i t s →
      (∀ j u, w.running j = some u → P u.request u.views w.db) →
      ∀ j u, j ≠ i → w.running j = some u → P u.request u.views s)
    (h : Reachable script init ok w) : ∀ i t, w.running i = some t → P t.request t.views w.db := by
  refine Runs.Reach.invariant_given (J := Reachable script init ok)
    (P := fun w => ∀ i t, w.running i = some t → P t.request t.views w.db) (fun _ hw => hw) ?_ ?_ h
  · rintro w ⟨s, _, rfl⟩ i t hi
    cases hi
  · intro w a w' hw hp hs j u hj
    have hfollow := Reachable.following hw
    obtain ⟨hstep, hok⟩ := hs
    have hput : ∀ (i : Nat) (t : Txn ε σ κ ι) (rest : Script ε σ κ), w.running i = some t →
        (w.put i (Txn.read t w.db rest)).running j = some u → P u.request u.views w.db := by
      intro i t rest hi hu
      rcases put_running hu with ⟨_, rfl⟩ | ⟨_, hj⟩
      · exact hread w t.request t.views hw (hp i t hi)
      · exact hp j u hj
    cases hstep.moved with
    | started i r hidle =>
        rcases put_running hj with ⟨_, rfl⟩ | ⟨_, hj⟩
        · exact hstart r w.db
        · exact hp j u hj
    | selected i t next hi hrest => exact hput i t _ hi hj
    | locked i t rows next hi hrest hfree => exact hput i t _ hi hj
    | committed i t write s hi hrest hwrite =>
        obtain ⟨hne, hju⟩ := leave_running (w := w) (i := i) hj
        have hdone : Commit script w i t s :=
          ⟨hi, write, by rw [← hfollow.rest i t hi, hrest], hwrite⟩
        exact hcommit w i t s hw hok hdone hp j u hne hju
    | left i t a hi => exact hp j u (leave_running hj).2

/-- What holds of every committed database holds of everything a session has read. -/
theorem Reachable.views {P : σ → Prop} (hdb : ∀ w, Reachable script init ok w → P w.db)
    (h : Reachable script init ok w) : ∀ i t, w.running i = some t → ∀ v ∈ t.views, P v := by
  refine Reachable.sessions (P := fun _ vs _ => ∀ v ∈ vs, P v) ?_ ?_ ?_ h
  · intro r s v hv
    cases hv
  · intro w r vs hw hp v hv
    rcases List.mem_append.mp hv with hold | hnew
    · exact hp v hold
    · rw [List.mem_singleton.mp hnew]
      exact hdb w hw
  · intro w i t s _ _ _ hp j u _ hj
    exact hp j u hj

/-- **What a session has read is older than the database**, in every preorder that commits climb. -/
theorem Reachable.older {R : σ → σ → Prop} (hrefl : ∀ s, R s s)
    (htrans : ∀ s t u, R s t → R t u → R s u)
    (hcommit : ∀ w i t s, Reachable script init ok w → ok w (.run i) → Commit script w i t s → R w.db s)
    (h : Reachable script init ok w) : ∀ i t, w.running i = some t → ∀ v ∈ t.views, R v w.db := by
  refine Reachable.sessions (P := fun _ vs s => ∀ v ∈ vs, R v s) ?_ ?_ ?_ h
  · intro r s v hv
    cases hv
  · intro w r vs _ hp v hv
    rcases List.mem_append.mp hv with hold | hnew
    · exact hp v hold
    · rw [List.mem_singleton.mp hnew]
      exact hrefl w.db
  · intro w i t s hw hok hc hp j u _ hj v hv
    exact htrans v w.db s (hp j u hj v hv) (hcommit w i t s hw hok hc)

/-- **A session reads forward**, in every preorder that commits climb. -/
theorem Reachable.ordered {R : σ → σ → Prop} (hrefl : ∀ s, R s s)
    (htrans : ∀ s t u, R s t → R t u → R s u)
    (hcommit : ∀ w i t s, Reachable script init ok w → ok w (.run i) → Commit script w i t s → R w.db s)
    (h : Reachable script init ok w) : ∀ i t, w.running i = some t → t.views.Pairwise R := by
  have hboth := Reachable.sessions (P := fun _ vs s => vs.Pairwise R ∧ ∀ v ∈ vs, R v s) ?_ ?_ ?_ h
  · intro i t hi
    exact (hboth i t hi).1
  · intro r s
    refine ⟨List.Pairwise.nil, fun v hv => ?_⟩
    cases hv
  · intro w r vs _ hp
    refine ⟨List.pairwise_append.mpr ⟨hp.1, List.pairwise_singleton _ _, ?_⟩, fun v hv => ?_⟩
    · intro v hv u hu
      rw [List.mem_singleton.mp hu]
      exact hp.2 v hv
    · rcases List.mem_append.mp hv with hold | hnew
      · exact hp.2 v hold
      · rw [List.mem_singleton.mp hnew]
        exact hrefl w.db
  · intro w i t s hw hok hc hp j u _ hj
    obtain ⟨hord, hold⟩ := hp j u hj
    exact ⟨hord, fun v hv => htrans v w.db s (hold v hv) (hcommit w i t s hw hok hc)⟩

/-- The only view of one more select, from a lock on, is the database it read. -/
theorem Prog.since_single {k : κ} {p : Prog ε σ κ α} {s v : σ} (h : v ∈ p.since k [s]) : v = s := by
  cases p with
  | done a => cases h
  | refused e => cases h
  | select next =>
      have hnil : v ∈ (next s).since k [] := h
      rw [Prog.since_nil] at hnil
      cases hnil
  | lock rows next =>
      rw [Prog.since_lock] at h
      by_cases hrow : k ∈ rows s
      · rw [if_pos hrow] at h
        exact List.mem_singleton.mp h
      · rw [if_neg hrow, Prog.since_nil] at h
        cases h

/-- **Written under a lock, read under it**: when every commit that changes what `f` reads holds the
    row `k`, a session that holds it still sees what it saw since the lock. -/
theorem Reachable.pinned {f : σ → β} {k : κ}
    (hwrites : ∀ w i t s, Reachable script init ok w → ok w (.run i) → Commit script w i t s →
      f s = f w.db ∨ (script t.request).since k t.views ≠ [])
    (h : Reachable script init ok w) : ∀ i t, w.running i = some t →
      ∀ v ∈ (script t.request).since k t.views, f v = f w.db := by
  refine Reachable.sessions (P := fun r vs s => ∀ v ∈ (script r).since k vs, f v = f s) ?_ ?_ ?_ h
  · intro r s v hv
    rw [Prog.since_nil] at hv
    cases hv
  · intro w r vs _ hp v hv
    by_cases hsome : (script r).since k vs = []
    · rw [Prog.since_append_new w.db hsome] at hv
      rw [Prog.since_single hv]
    · rw [Prog.since_append w.db hsome] at hv
      rcases List.mem_append.mp hv with hold | hnew
      · exact hp v hold
      · rw [List.mem_singleton.mp hnew]
  · intro w i t s hw hok hcommit hp j u hne hj v hv
    have hold := hp j u hj v hv
    rcases hwrites w i t s hw hok hcommit with hsame | hheld
    · exact hold.trans hsame.symm
    · have hsame := Reachable.exclusive hw hcommit.running hj hheld (List.ne_nil_of_mem hv)
      exact (hne hsame.symm).elim

/-! ## 6. A session alone -/

/-- The outcome of a script when every select sees the same database. -/
def Prog.serial : Script ε σ κ → σ → Except ε σ
  | .done write, s => write s
  | .refused e, _ => .error e
  | .select next, s => (next s).serial s
  | .lock _ next, s => (next s).serial s

end Worlds

theorem Prog.serial_view {f : σ → Script ε σ κ} {s : σ} :
    (Prog.view >>= f : Prog ε σ κ (σ → Except ε σ)).serial s = (f s).serial s := rfl

theorem Prog.serial_hold {rows : σ → List κ} {f : σ → Script ε σ κ} {s : σ} :
    (Prog.hold rows >>= f : Prog ε σ κ (σ → Except ε σ)).serial s = (f s).serial s := rfl

theorem Prog.serial_decision {x : Except ε β} {f : β → Script ε σ κ} {b : β}
    (h : x = .ok b) (s : σ) :
    (Prog.lift x >>= f : Prog ε σ κ (σ → Except ε σ)).serial s = (f b).serial s := by
  rw [h]
  rfl

theorem Prog.serial_done {write : σ → Except ε σ} {s : σ} :
    (pure write : Prog ε σ κ (σ → Except ε σ)).serial s = write s := rfl

end Transactions
