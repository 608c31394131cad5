/-
  File:      CampusConnect/Services/Common.lean
  Subject:   What every service call works with: the configuration, the rest of the database,
             the guards the services share, the audit entry and the flush.

  The services fetch their event by its key; the model has one event, so a call here is a call
  addressed to it. Rows of other tables (members, clubs, documents, other events' expenses) are
  read only and come from `Env`, which may differ from call to call.
-/
import CampusConnect.Base.Guarded
import CampusConnect.Model.Domain

namespace CampusConnect

open Guarded Rows

/-! ## 1. Configuration and environment -/

/-- The database below the ORM. -/
inductive Backend where
  | sqlite
  | postgresql
  deriving DecidableEq, Repr

/-- What is fixed for a deployment: the backend, the settings the services read and the library
    functions they call. -/
structure Config where
  backend : Backend
  /-- `hashlib.sha256(text.encode("utf-8")).hexdigest()`. -/
  sha256 : Text → Text
  /-- `str.lower`. -/
  lower : Text → Text
  /-- SQL `lower`. -/
  sqlLower : Text → Text
  /-- `settings.ALLOW_ADVISOR_EVENT_CLOSEOUT`. -/
  allowAdvisorEventCloseout : Bool

/-- What a call reads outside its event. -/
structure Env where
  now : Instant
  members : List ClubMember
  clubs : List Club
  documents : List Document
  /-- The expenses of all other events. -/
  otherExpenses : List ActualExpense

/-- Some active secretary row of the club names the user. -/
def Env.IsSecretary (env : Env) (clubId userId : Uuid) : Prop :=
  ∃ m ∈ env.members, m.clubId = clubId ∧ m.userId = userId ∧ m.memberRole = .secretary ∧
    m.isActive = true

/-- Some active membership row of the club names the user. -/
def Env.IsMember (env : Env) (clubId userId : Uuid) : Prop :=
  ∃ m ∈ env.members, m.clubId = clubId ∧ m.userId = userId ∧ m.isActive = true

/-- The user is the designated faculty advisor of the club. -/
def Env.IsAdvisor (env : Env) (clubId userId : Uuid) : Prop :=
  ∃ c ∈ env.clubs.find? (fun c => c.id = clubId), c.facultyAdvisorId = some userId

instance (env : Env) (c u : Uuid) : Decidable (env.IsSecretary c u) :=
  inferInstanceAs (Decidable (∃ m ∈ env.members, _))

instance (env : Env) (c u : Uuid) : Decidable (env.IsMember c u) :=
  inferInstanceAs (Decidable (∃ m ∈ env.members, _))

instance (env : Env) (c u : Uuid) : Decidable (env.IsAdvisor c u) :=
  inferInstanceAs (Decidable (∃ c ∈ env.clubs.find? _, _))

/-- `SELECT … WHERE id = … AND is_active`. -/
def Env.activeDocument (env : Env) (id : Uuid) : Option Document :=
  env.documents.find? (fun d => d.id = id ∧ d.isActive = true)

/-- The document is attached to the event or to its proposal. -/
def Document.BelongsTo (doc : Document) (event : Event) : Prop :=
  doc.eventId = some event.id ∨ doc.eventRequestId = some event.eventRequestId

instance (doc : Document) (event : Event) : Decidable (doc.BelongsTo event) :=
  inferInstanceAs (Decidable (_ ∨ _))

/-! ## 2. The event status guard -/

/-- `CLOSED` and `ARCHIVED`, the statuses in which an event is sealed. -/
def Event.Sealed (event : Event) : Prop :=
  event.status = .closed ∨ event.status = .archived

instance (event : Event) : Decidable event.Sealed :=
  inferInstanceAs (Decidable (_ ∨ _))

/-- `_ensure_event_mutable`, copied word for word in the four services that use it. -/
def ensureEventMutable (event : Event) : Result Unit :=
  refuse event.Sealed
    ⟨.conflict, "Event '%s' is in terminal status '%s' and cannot be modified.",
      [.uuid event.id, .name event.status.value]⟩

@[simp] theorem ensureEventMutable_accepts {event : Event} {u : Unit} :
    ensureEventMutable event = .ok u ↔ ¬ event.Sealed := by
  unfold ensureEventMutable
  exact refuse_accepts

/-! ## 3. Audit entries -/

/-- What a service passes to `_create_audit_entry`. -/
structure AuditEntry where
  actorId : Uuid
  actorEmail : Text
  actorRole : UserRole
  action : AuditAction
  entityType : String
  entityId : Uuid
  previousState : Option StateDict
  newState : Option StateDict
  reason : Option Text
  createdAt : Instant
  deriving DecidableEq, Repr

/-- The row written for an entry: its key is stored as `str(entity_id)`. -/
def AuditEntry.row (e : AuditEntry) : AuditLog where
  actorId := e.actorId
  actorEmail := e.actorEmail
  actorRole := e.actorRole
  action := e.action
  entityType := e.entityType
  entityId := e.entityId.str
  previousState := e.previousState
  newState := e.newState
  reason := e.reason
  createdAt := e.createdAt

/-- `_create_audit_entry`. -/
def createAuditEntry (env : Env) (actor : User) (action : AuditAction) (entityType : String)
    (entityId : Uuid) (previousState newState : Option StateDict)
    (reason : Option Text := none) : AuditEntry where
  actorId := actor.id
  actorEmail := actor.email
  actorRole := actor.role
  action := action
  entityType := entityType
  entityId := entityId
  previousState := previousState
  newState := newState
  reason := reason
  createdAt := env.now

/-- Append audit entries. -/
def State.log (s : State) (entries : List AuditEntry) : State :=
  { s with auditLogs := s.auditLogs ++ entries.map AuditEntry.row }

section Log

variable (s : State) (entries : List AuditEntry)

@[simp] theorem State.log_proposal : (s.log entries).proposal = s.proposal := rfl
@[simp] theorem State.log_event : (s.log entries).event = s.event := rfl
@[simp] theorem State.log_report : (s.log entries).report = s.report := rfl
@[simp] theorem State.log_advance : (s.log entries).advance = s.advance := rfl
@[simp] theorem State.log_incomes : (s.log entries).incomes = s.incomes := rfl
@[simp] theorem State.log_expenses : (s.log entries).expenses = s.expenses := rfl
@[simp] theorem State.log_settlement : (s.log entries).settlement = s.settlement := rfl
@[simp] theorem State.log_payments : (s.log entries).payments = s.payments := rfl
@[simp] theorem State.log_settlementRevisions :
    (s.log entries).settlementRevisions = s.settlementRevisions := rfl
@[simp] theorem State.log_closure : (s.log entries).closure = s.closure := rfl
@[simp] theorem State.log_closureRevisions :
    (s.log entries).closureRevisions = s.closureRevisions := rfl
@[simp] theorem State.log_attached : (s.log entries).attached = s.attached := rfl
@[simp] theorem State.log_auditLogs :
    (s.log entries).auditLogs = s.auditLogs ++ entries.map AuditEntry.row := rfl

end Log

/-- The key of one entry of a state object. -/
def StateDict.get (d : StateDict) (key : String) : Option Value :=
  (d.find? (fun p => p.1 = key)).map Prod.snd

/-! ## 4. Ownership of a club -/

/-- `ClubService.verify_club_ownership`. -/
def verifyClubOwnership (env : Env) (clubId : Uuid) (actor : User) (actionDescription : String) :
    Result Club := do
  let club ← fetch (env.clubs.find? (fun c => c.id = clubId ∧ c.deletedAt = none))
    ⟨.notFound, "Club with ID '%s' not found.", [.uuid clubId]⟩
  if actor.role = .systemAdmin then return club
  else if actor.role = .clubSecretary then do
    refuse (¬ env.IsSecretary clubId actor.id)
      ⟨.resourceOwnership, "Access denied: You are not an active secretary of club '%s' to %s.",
        [.text club.name, .name actionDescription]⟩
    return club
  else .error ⟨.forbidden, "User role '%s' is not authorized to %s.",
    [.name actor.role.value, .name actionDescription]⟩

/-! ## 5. Flushes

A session computes with the rows it loaded and writes the columns it assigned, by primary key, into
the rows as committed. Called one after the other the two are the same; the operations on a proposal
are given as what they flush, so that one definition serves sequential and concurrent runs. -/

/-- What a call reads outside its proposal. -/
structure ReviewEnv extends Env where
  backend : Backend
  /-- The active users, in the order the query returns them. -/
  users : List User
  /-- The steps of the default template, when there is one. -/
  template : Option (List WorkflowTemplateStep)
  halls : List Hall
  /-- The confirmed bookings of all other proposals. -/
  otherBookings : List HallBookingConfirmed
  /-- The idempotency keys of all other proposals. -/
  otherKeys : List Text
  /-- `settings.BUDGET_INSTITUTE_CONTRIBUTION_CAP`, in hundredths. -/
  budgetInstituteContributionCap : Int
  /-- `settings.HALL_BOOKING_MIN_ADVANCE_DAYS`. -/
  hallBookingMinAdvanceDays : Int

/-- The flush of one call: the writes, the confirmed event it creates and its audit entries. -/
structure Flush where
  write : Proposal → Result Proposal
  event : Option Event := none
  entries : List AuditEntry := []

/-- A call that writes nothing. -/
def Flush.nothing : Flush := { write := .ok }

/-- `except IntegrityError: raise ConflictError(message)` around the commit. -/
def asConflict {α : Type} (message : String) (r : Result α) : Result α :=
  r.mapError fun e => if e.kind = .integrity then ⟨.conflict, message, []⟩ else e

@[simp] theorem asConflict_accepts {α : Type} {message : String} {r : Result α} {a : α} :
    asConflict message r = .ok a ↔ r = .ok a := by
  cases r with
  | error e => exact ⟨fun h => (nomatch h), fun h => (nomatch h)⟩
  | ok b => exact Iff.rfl

/-- A column after `obj.column = new`: a value equal to the loaded one is not written. -/
def assigned {α : Type} [DecidableEq α] (loaded new committed : α) : α :=
  if new = loaded then committed else new

/-- A column after `if new is not None: obj.column = new`. -/
def patched {α : Type} [DecidableEq α] (loaded : α) (new : Option α) (committed : α) : α :=
  match new with
  | none => committed
  | some v => assigned loaded v committed

section Columns

variable {α : Type} [DecidableEq α]

@[simp] theorem assigned_self (x v : α) : assigned x v x = v := by
  unfold assigned
  by_cases h : v = x
  · rw [if_pos h, h]
  · rw [if_neg h]

@[simp] theorem patched_self (x : α) (v : Option α) : patched x v x = v.getD x := by
  cases v with
  | none => rfl
  | some v => exact assigned_self x v

end Columns

namespace Proposal

variable (p : Proposal)

/-- `UPDATE venue_requests … WHERE id = …`. -/
def updateVenue (id : Uuid) (f : VenueRequest → VenueRequest) : Result Proposal := do
  let v ← fetch (p.venueRequest.filter (fun v => v.id = id)) staleDataError
  refuse (¬ (f v).Check) integrityError
  return { p with venueRequest := some (f v) }

/-- `UPDATE budget_proposals … WHERE id = …`, with its line items. -/
def updateBudget (id : Uuid) (f : BudgetProposal → BudgetProposal) : Result Proposal := do
  let b ← fetch (p.budgetProposal.filter (fun b => b.id = id)) staleDataError
  refuse (¬ (f b).Check) integrityError
  return { p with budgetProposal := some (f b) }

/-- `UPDATE hall_bookings_confirmed … WHERE id = …`. -/
def updateBooking (id : Uuid) (f : HallBookingConfirmed → HallBookingConfirmed) :
    Result Proposal := do
  let b ← fetch (p.booking.filter (fun b => b.id = id)) staleDataError
  return { p with booking := some (f b) }

/-- `UPDATE workflow_instances … WHERE id = …`. -/
def updateInstance (id : Uuid) (f : WorkflowInstance → WorkflowInstance) : Result Proposal := do
  let t ← fetch (p.instances.update id f) staleDataError
  return { p with instances := t }

/-- `UPDATE workflow_instance_steps … WHERE id = …`. -/
def updateStep (id : Uuid) (f : WorkflowInstanceStep → WorkflowInstanceStep) : Result Proposal := do
  let t ← fetch (p.steps.update id f) staleDataError
  return { p with steps := t }

/-- `UPDATE event_requests …`. -/
def updateRequest (f : EventRequest → EventRequest) : Proposal :=
  { p with request := f p.request }

section Accepted

variable {p} {q : Proposal} {id : Uuid}

theorem updateVenue_accepts {f : VenueRequest → VenueRequest} :
    p.updateVenue id f = .ok q ↔
      ∃ v, p.venueRequest = some v ∧ v.id = id ∧ (f v).Check ∧
        q = { p with venueRequest := some (f v) } := by
  simp only [updateVenue, bind_accepts, fetch_accepts, Option.filter_eq_some_iff, refuse_accepts,
    not_not, exists_unit, pure_accepts, decide_eq_true_eq]
  constructor
  · intro h
    obtain ⟨r, ⟨hr, hid⟩, hc, rfl⟩ := h
    exact ⟨r, hr, hid, hc, rfl⟩
  · intro h
    obtain ⟨r, hr, hid, hc, rfl⟩ := h
    exact ⟨r, ⟨hr, hid⟩, hc, rfl⟩

theorem updateBudget_accepts {f : BudgetProposal → BudgetProposal} :
    p.updateBudget id f = .ok q ↔
      ∃ b, p.budgetProposal = some b ∧ b.id = id ∧ (f b).Check ∧
        q = { p with budgetProposal := some (f b) } := by
  simp only [updateBudget, bind_accepts, fetch_accepts, Option.filter_eq_some_iff, refuse_accepts,
    not_not, exists_unit, pure_accepts, decide_eq_true_eq]
  constructor
  · intro h
    obtain ⟨r, ⟨hr, hid⟩, hc, rfl⟩ := h
    exact ⟨r, hr, hid, hc, rfl⟩
  · intro h
    obtain ⟨r, hr, hid, hc, rfl⟩ := h
    exact ⟨r, ⟨hr, hid⟩, hc, rfl⟩

theorem updateBooking_accepts {f : HallBookingConfirmed → HallBookingConfirmed} :
    p.updateBooking id f = .ok q ↔
      ∃ b, p.booking = some b ∧ b.id = id ∧ q = { p with booking := some (f b) } := by
  simp only [updateBooking, bind_accepts, fetch_accepts, Option.filter_eq_some_iff, pure_accepts,
    decide_eq_true_eq]
  constructor
  · intro h
    obtain ⟨r, ⟨hr, hid⟩, rfl⟩ := h
    exact ⟨r, hr, hid, rfl⟩
  · intro h
    obtain ⟨r, hr, hid, rfl⟩ := h
    exact ⟨r, ⟨hr, hid⟩, rfl⟩

theorem updateInstance_accepts {f : WorkflowInstance → WorkflowInstance} :
    p.updateInstance id f = .ok q ↔
      ∃ i t, p.instances.find id = some i ∧ p.instances.replace (f i) = some t ∧
        q = { p with instances := t } := by
  simp only [updateInstance, bind_accepts, fetch_accepts, Table.update_eq_some, pure_accepts]
  constructor
  · intro h
    obtain ⟨t, ⟨i, hi, ht⟩, rfl⟩ := h
    exact ⟨i, t, hi, ht, rfl⟩
  · intro h
    obtain ⟨i, t, hi, ht, rfl⟩ := h
    exact ⟨t, ⟨i, hi, ht⟩, rfl⟩

theorem updateStep_accepts {f : WorkflowInstanceStep → WorkflowInstanceStep} :
    p.updateStep id f = .ok q ↔
      ∃ s t, p.steps.find id = some s ∧ p.steps.replace (f s) = some t ∧
        q = { p with steps := t } := by
  simp only [updateStep, bind_accepts, fetch_accepts, Table.update_eq_some, pure_accepts]
  constructor
  · intro h
    obtain ⟨t, ⟨i, hi, ht⟩, rfl⟩ := h
    exact ⟨i, t, hi, ht, rfl⟩
  · intro h
    obtain ⟨i, t, hi, ht, rfl⟩ := h
    exact ⟨t, ⟨i, hi, ht⟩, rfl⟩

end Accepted

end Proposal

end CampusConnect
