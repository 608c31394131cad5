/-
  File:      CampusConnect/Campus.lean
  Subject:   The whole database: the proposals with their events and documents, the clubs with their
             rosters, and the halls, under one sequence of calls.

  * `Campus`, `Campus.env`, `Campus.reviewEnv`: what a call on one proposal reads of everything else;
  * `CampusOp`, `Campus.exec`: a visit, a call on clubs and rosters, a new hall;
  * `Campus.Step`, `Campus.Opening`, `Campus.Reachable`: the accepted calls and the states they reach;
  * `CampusStep`, `Campus.Step.step`: what an accepted call does, by component.
-/
import CampusConnect.Guarantees.Roster
import CampusConnect.Registry
import CampusConnect.Services.Halls

namespace CampusConnect

open Guarded

/-! ## 1. Everything together -/

structure Campus where
  registry : Registry
  governance : Governance
  inventory : HallInventory

/-- The confirmed bookings of the given dossiers. -/
def bookingsOf (dossiers : List Dossier) : List HallBookingConfirmed :=
  dossiers.flatMap fun d => d.proposal.booking.toList

namespace Campus

/-- The rows of `hall_bookings_confirmed`. -/
def bookings (c : Campus) : List HallBookingConfirmed := bookingsOf c.registry.dossiers

/-- What any call reads of clubs and rosters. -/
def env (c : Campus) (env : Env) : Env :=
  { env with
    members := c.governance.members.map MemberRow.toClubMember
    clubs := c.governance.store.clubs.map ClubRow.toClub }

/-- What a call on the `i`-th proposal reads outside it. -/
def reviewEnv (cfg : Config) (c : Campus) (i : Nat) (env : ReviewEnv) : ReviewEnv :=
  { env with
    toEnv := c.env env.toEnv
    backend := cfg.backend
    halls := c.inventory.halls.map HallRow.toHall
    otherBookings := bookingsOf (c.registry.dossiers.eraseIdx i)
    otherKeys := (c.registry.dossiers.eraseIdx i).filterMap fun d => d.proposal.request.idempotencyKey }

end Campus

/-- A request on the `i`-th dossier reads the rows of the campus. -/
def Request.among (cfg : Config) (c : Campus) (i : Nat) : Request → Request
  | .review env actor op => .review (c.reviewEnv cfg i env) actor op
  | .event call => .event { call with env := c.env call.env }

/-- A visit reads the rows of the campus. -/
def Visit.among (cfg : Config) (c : Campus) : Visit → Visit
  | .draft env actor newId eventIn => .draft (c.env env) actor newId eventIn
  | .request i r => .request i (r.among cfg c i)
  | .upload env actor newId eventId u => .upload (c.env env) actor newId eventId u
  | .deleteDocument env actor eventId docId => .deleteDocument (c.env env) actor eventId docId

/-! ## 2. Calls -/

/-- What somebody asks of the campus. -/
inductive CampusOp where
  | visit (v : Visit)
  | govern (op : GovernanceOp)
  | createHall (now : Instant) (newId : Uuid) (hallIn : HallCreate) (actor : User)

/-- One call. A refused one is rolled back. -/
def Campus.exec (cfg : Config) (nfkd : Text → Text) (files : FileSettings) (op : CampusOp)
    (c : Campus) : Result Campus :=
  match op with
  | .visit v => do
      let w ← Registry.exec cfg files (v.among cfg c) c.registry
      return { c with registry := w }
  | .govern op => do
      let g ← op.exec cfg nfkd c.governance
      return { c with governance := g }
  | .createHall now newId hallIn actor => do
      let inventory ← VenueService.createHall now newId hallIn actor c.inventory
      return { c with inventory := inventory }

namespace Campus

/-- An accepted call. -/
def Step (cfg : Config) (nfkd : Text → Text) (files : FileSettings) (c : Campus) (op : CampusOp)
    (c' : Campus) : Prop :=
  exec cfg nfkd files op c = .ok c'

/-- **The states a run starts from**: no proposal and no document; the clubs, the rosters and the
    halls may have been seeded, under the constraints of their tables. -/
structure Opening (c : Campus) : Prop where
  registry : c.registry = Registry.empty
  clubs : c.governance.store.Distinct
  roster : c.governance.Keyed
  halls : (c.inventory.halls.map fun h => h.id).Nodup

/-- The states of all runs. -/
def Reachable (cfg : Config) (nfkd : Text → Text) (files : FileSettings) : Campus → Prop :=
  Runs.Reach Opening (Step cfg nfkd files)

end Campus

/-! ## 3. What an accepted call does -/

/-- **One call, by component.** -/
inductive CampusStep (cfg : Config) (nfkd : Text → Text) (files : FileSettings) (c : Campus) :
    CampusOp → Campus → Prop where
  | visited (v : Visit) (w : Registry) (h : Registry.Step cfg files c.registry (v.among cfg c) w) :
      CampusStep cfg nfkd files c (.visit v) { c with registry := w }
  | governed (op : GovernanceOp) (g : Governance)
      (h : Governance.Step cfg nfkd c.governance op g) :
      CampusStep cfg nfkd files c (.govern op) { c with governance := g }
  | built (now : Instant) (newId : Uuid) (hallIn : HallCreate) (actor : User)
      (inventory : HallInventory)
      (h : VenueService.createHall now newId hallIn actor c.inventory = .ok inventory) :
      CampusStep cfg nfkd files c (.createHall now newId hallIn actor) { c with inventory := inventory }

section Steps

variable {cfg : Config} {nfkd : Text → Text} {files : FileSettings} {c c' : Campus} {op : CampusOp}

/-- **Every accepted call is one of these.** -/
theorem Campus.Step.step (h : Campus.Step cfg nfkd files c op c') :
    CampusStep cfg nfkd files c op c' := by
  unfold Campus.Step Campus.exec at h
  cases op with
  | visit v =>
      simp only [bind_accepts, pure_accepts] at h
      obtain ⟨w, hw, rfl⟩ := h
      exact .visited v w hw
  | govern op =>
      simp only [bind_accepts, pure_accepts] at h
      obtain ⟨g, hg, rfl⟩ := h
      exact .governed op g hg
  | createHall now newId hallIn actor =>
      simp only [bind_accepts, pure_accepts] at h
      obtain ⟨inventory, hinv, rfl⟩ := h
      exact .built now newId hallIn actor inventory hinv

/-- What an accepted visit does to the dossiers: a new draft, a request on one of them, or nothing. -/
theorem Registry.Step.dossiers {w w' : Registry} {v : Visit} (h : Registry.Step cfg files w v w') :
    (∃ env actor newId eventIn d, v = .draft env actor newId eventIn ∧
        Dossier.create env actor newId eventIn = .ok d ∧ w' = w.add d) ∨
      (∃ i r d d', v = .request i r ∧ w.dossiers[i]? = some d ∧
        Dossier.Step cfg d (Request.within w i r) d' ∧ w' = w.update i d') ∨
      w'.dossiers = w.dossiers := by
  unfold Registry.Step Registry.exec at h
  cases v with
  | draft env actor newId eventIn =>
      simp only [bind_accepts, pure_accepts] at h
      obtain ⟨d, hd, _, _, rfl⟩ := h
      exact .inl ⟨env, actor, newId, eventIn, d, rfl, hd, rfl⟩
  | request i r =>
      simp only [bind_accepts, fetch_accepts, pure_accepts] at h
      obtain ⟨d, hd, d', hd', _, _, _, _, rfl⟩ := h
      exact .inr (.inl ⟨i, r, d, d', rfl, hd, hd', rfl⟩)
  | upload env actor newId eventId u =>
      simp only [bind_accepts, pure_accepts] at h
      obtain ⟨f, _, rfl⟩ := h
      exact .inr (.inr rfl)
  | deleteDocument env actor eventId docId =>
      simp only [bind_accepts, pure_accepts] at h
      obtain ⟨f, _, rfl⟩ := h
      exact .inr (.inr rfl)

/-- **The registry of a campus is one**: what holds of every reachable registry holds of it. -/
theorem Campus.Reachable.registry (h : Campus.Reachable cfg nfkd files c) :
    Registry.Reachable cfg files c.registry := by
  refine Runs.Reach.invariant (P := fun c => Registry.Reachable cfg files c.registry) ?_ ?_ h
  · intro c hc
    exact .start hc.registry
  · intro c op c' hr hs
    cases Campus.Step.step hs with
    | visited v w hw => exact .next hr hw
    | governed op g hg => exact hr
    | built now newId hallIn actor inventory hinv => exact hr

end Steps

/-! ## 4. A small campus -/

namespace Sample

/-- A club with its secretary, and one hall. -/
def campus : Campus where
  registry := Registry.empty
  governance :=
    { store :=
        { clubs :=
            [{ id := uid 13, name := "club".toList, facultyAdvisorId := some (uid 5), isActive := true
               slug := "club".toList, description := none, academicYear := "2025".toList
               logoUrl := none, createdBy := uid 4 }]
          auditLogs := [] }
      members :=
        [{ clubId := uid 13, userId := uid 1, memberRole := .secretary, isActive := true
           id := uid 70, joinedAt := 0 }]
      rosterLogs := [] }
  inventory := ⟨[⟨⟨uid 60, "hall".toList, 100, true⟩, none⟩], []⟩

theorem campus_opening : Campus.Opening campus :=
  ⟨rfl, ⟨by decide, by decide⟩, ⟨by decide, by decide⟩, by decide⟩

end Sample

end CampusConnect
