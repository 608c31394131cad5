/-
  File:      CampusConnect/Services/Cancellation.lean
  Subject:   Cancelling a proposal or a confirmed event (`event_service.py`).

  * `cancelProposal`: withdraws a proposal that has no event yet, with its workflow and its hall;
  * `cancelConfirmedEvent`: cancels a SCHEDULED or IN_PROGRESS event, releases its hall and turns
    down a pending advance;
  * `cancelAnyEvent`: the endpoint's dispatch between the two;
  * `CancellationStep`, `cancelProposal_step`, ..: what an accepted cancellation does.
-/
import CampusConnect.Services.Settlement

namespace CampusConnect

open Guarded Rows

namespace EventService

/-! ## 1. Proposals -/

/-- The status a pending step of a cancelled workflow gets. -/
def skipPending (instanceId : Uuid) (step : WorkflowInstanceStep) : WorkflowInstanceStep :=
  if step.instanceId = instanceId ∧ step.status = .pending then { step with status := .skipped }
  else step

theorem skipPending_key (i : Uuid) (step : WorkflowInstanceStep) :
    Row.key (skipPending i step) = Row.key step := by
  unfold skipPending
  by_cases h : step.instanceId = i ∧ step.status = .pending
  · rw [if_pos h]; rfl
  · rw [if_neg h]

/-- The instance the proposal points to, when it is still IN_PROGRESS. -/
def activeInstance (p : Proposal) : Option WorkflowInstance :=
  (p.request.workflowInstanceId.bind p.instances.find).filter (fun wf => wf.status = .inProgress)

/-- Cancel the active instance and skip its pending steps. -/
def cancelWorkflow (p : Proposal) : Proposal :=
  match activeInstance p with
  | none => p
  | some wf =>
      { p with
        instances := (p.instances.replace { wf with status := .cancelled }).getD p.instances
        steps := p.steps.modify (skipPending wf.id) (skipPending_key _) (fun _ _ => trivial) }

/-- The booking that is in force. -/
def activeBooking (p : Proposal) : Option HallBookingConfirmed :=
  p.booking.filter (fun b => b.isActive = true)

/-- Release the hall. -/
def releaseHall (p : Proposal) : Proposal :=
  match activeBooking p with
  | none => p
  | some b => { p with booking := some { b with isActive := false } }

/-- The audit entry of a release; `owner` names the row the booking is released for. -/
def releaseEntries (env : Env) (actor : User) (p : Proposal) (owner : String × Value)
    (why : String) (reason : Text) : List AuditEntry :=
  match activeBooking p with
  | none => []
  | some b =>
      [createAuditEntry env actor .hallReleased "hall_booking_confirmed" b.id
        (some [("is_active", .flag true), owner])
        (some [("is_active", .flag false), ("reason", .text (why.toList ++ reason))])]

/-- An approved venue request falls back to REJECTED. -/
def withdrawVenue (vr : VenueRequest) : VenueRequest :=
  if vr.status = .approved then { vr with status := .rejected } else vr

/-- The statuses `cancel_proposal` accepts, in the order it refuses the others. -/
def verifyCancellable (status : EventRequestStatus) : Result Unit := do
  refuse (status = .cancelled) ⟨.workflowState, "Event proposal is already cancelled.", []⟩
  refuse (status = .rejected)
    ⟨.workflowState, "Cannot cancel an already rejected event proposal.", []⟩
  refuse (status = .approved)
    ⟨.workflowState, "Proposal has already been approved and scheduled as an event. Use event " ++
      "cancellation instead.", []⟩

/-- The rows `cancel_proposal` leaves. -/
def withdrawn (p : Proposal) : Proposal :=
  let q := releaseHall (cancelWorkflow p)
  { q with
    request := { q.request with status := .cancelled, versionLock := q.request.versionLock + 1 }
    venueRequest := q.venueRequest.map withdrawVenue }

/-- The authority check: SYSTEM_ADMIN, else the club. -/
def verifyProposalOwner (env : Env) (p : Proposal) (actor : User) : Result Unit :=
  if actor.role = .systemAdmin then return ()
  else do
    let _ ← verifyClubOwnership env p.request.clubId actor "cancel this event proposal"
    return ()

/-- `cancel_proposal`. -/
def cancelProposal (env : Env) (actor : User) (reason : Text) (p : Proposal) :
    Result (Proposal × List AuditEntry) := do
  refuse (p.request.deletedAt ≠ none)
    ⟨.notFound, "Event proposal with ID '%s' was not found.", [.uuid p.request.id]⟩
  verifyProposalOwner env p actor
  verifyCancellable p.request.status
  return (withdrawn p,
    releaseEntries env actor p ("event_request_id", .uuid p.request.id) "Proposal cancelled: "
        reason ++
      [createAuditEntry env actor .proposalCancelled "event_request" p.request.id
        (some [("status", .name p.request.status.value)])
        (some [("status", .name EventRequestStatus.cancelled.value),
          ("cancellation_reason", .text reason)])])

/-! ## 2. Confirmed events -/

/-- The authority check: three institutional roles, else the club. -/
def verifyCancelAuthority (env : Env) (event : Event) (actor : User) : Result Unit :=
  if actor.role = .principal ∨ actor.role = .deanStudentAffairs ∨ actor.role = .systemAdmin then
    return ()
  else do
    let _ ← verifyClubOwnership env event.clubId actor "cancel this confirmed event"
    return ()

/-- The event statuses `cancel_confirmed_event` refuses, in its order. -/
def verifyEventCancellable (event : Event) : Result Unit := do
  refuse event.Sealed
    ⟨.conflict, "Cannot cancel event in terminal status '%s'. Certification is locked.",
      [.name event.status.value]⟩
  refuse (event.status = .completed)
    ⟨.workflowState, "Cannot cancel an event that has already completed. Completed events must " ++
      "proceed through post-event closeout.", []⟩
  refuse (event.status = .closureRequested)
    ⟨.workflowState, "Cannot cancel an event currently under closeout review.", []⟩
  refuse (event.status = .cancelled) ⟨.workflowState, "Event is already cancelled.", []⟩

/-- The advance row after a cancellation: a pending one is turned down. -/
def cancelledAdvance (reason : Text) (a : CashAdvance) : CashAdvance :=
  if a.Pending then
    { a with
      status := .rejected
      rejectionReason := some ("Event cancelled: ".toList ++ reason) }
  else a

/-- The stored row; the CHECK constraints do not look at the status. -/
def cancelStoredAdvance (reason : Text) (a : Stored CashAdvance) : Stored CashAdvance :=
  ⟨cancelledAdvance reason a.1, by
    unfold cancelledAdvance
    by_cases hp : a.1.Pending
    · rw [if_pos hp]; exact a.2
    · rw [if_neg hp]; exact a.2⟩

/-- `advance_status_note`. -/
def advanceNote (advance : Option (Stored CashAdvance)) : Value :=
  match advance with
  | none => .null
  | some a =>
      if a.1.Pending then .name "REJECTED_ON_CANCELLATION"
      else if a.1.status = .disbursed then .name "DISBURSED_REFUND_REQUIRED"
      else .null

/-- The audit entry of an advance that is turned down. -/
def advanceEntries (env : Env) (actor : User) (reason : Text)
    (advance : Option (Stored CashAdvance)) : List AuditEntry :=
  match advance with
  | none => []
  | some a =>
      if a.1.Pending then
        [createAuditEntry env actor .advanceRejected "cash_advance" a.1.id
          (some [("status", .name a.1.status.value)])
          (some [("status", .name CashAdvanceStatus.rejected.value),
            ("rejection_reason", .text ("Event cancelled: ".toList ++ reason))])]
      else []

/-- The event row a cancellation leaves. -/
def cancelledEvent (env : Env) (actor : User) (reason : Text) (event : Event) : Event :=
  { event with
    status := .cancelled
    cancelledAt := some env.now
    cancelledBy := some actor.id
    cancellationReason := some reason }

/-- `cancel_confirmed_event`. -/
def cancelConfirmedEvent (env : Env) (actor : User) (reason : Text) (s : State) :
    Result State := do
  verifyCancelAuthority env s.event actor
  verifyEventCancellable s.event
  return { s with
    proposal := releaseHall s.proposal
    advance := s.advance.map (cancelStoredAdvance reason)
    event := cancelledEvent env actor reason s.event }.log
    (releaseEntries env actor s.proposal ("event_id", .uuid s.event.id) "Event cancelled: "
        reason ++
      advanceEntries env actor reason s.advance ++
      [createAuditEntry env actor .eventStatusChanged "event" s.event.id
        (some [("status", .name s.event.status.value)])
        (some [("status", .name EventStatus.cancelled.value),
          ("cancellation_reason", .text reason), ("cancelled_by", .uuid actor.id),
          ("cancelled_at", .time env.now), ("advance_status", advanceNote s.advance)])])

/-- `cancel_any_event`: an event under either of its keys, else a proposal. -/
def cancelAnyEvent (env : Env) (actor : User) (identifier : Uuid) (reason : Text) (s : State) :
    Result State :=
  if s.event.id = identifier ∨ s.event.eventRequestId = identifier then
    cancelConfirmedEvent env actor reason s
  else if s.proposal.request.id = identifier then do
    let (p, entries) ← cancelProposal env actor reason s.proposal
    return { s with proposal := p }.log entries
  else
    .error ⟨.notFound, "Event proposal or confirmed event with ID '%s' was not found.",
      [.uuid identifier]⟩

end EventService

/-! ## 3. What a cancellation does -/

/-- **One cancellation**, of the proposal or of the event. -/
inductive CancellationStep (s : State) : State → Prop where
  | proposal (entries : List AuditEntry)
      (hfrom : s.proposal.request.status ≠ .approved) :
      CancellationStep s ({ s with proposal := EventService.withdrawn s.proposal }.log entries)
  | event (event : Event) (advance : Option (Stored CashAdvance)) (entries : List AuditEntry)
      (hfrom : s.event.status = .scheduled ∨ s.event.status = .inProgress)
      (hid : event.id = s.event.id) (hreq : event.eventRequestId = s.event.eventRequestId)
      (hver : event.approvedVersionId = s.event.approvedVersionId)
      (hst : event.status = .cancelled)
      (hpend : ∀ a ∈ advance, ¬ a.1.Pending)
      (hadv : disbursedPart advance = disbursedPart s.advance) :
      CancellationStep s
        ({ s with
          proposal := EventService.releaseHall s.proposal
          advance := advance
          event := event }.log entries)

namespace EventService

variable {env : Env} {actor : User} {reason : Text} {s s' : State}

theorem cancelProposal_accepts {p q : Proposal} {entries : List AuditEntry}
    (h : cancelProposal env actor reason p = .ok (q, entries)) :
    p.request.status ≠ .approved ∧ q = withdrawn p := by
  simp only [cancelProposal, verifyCancellable, bind_accepts, refuse_accepts, exists_unit,
    pure_accepts, Prod.mk.injEq] at h
  obtain ⟨_, _, ⟨_, _, happ⟩, rfl, rfl⟩ := h
  exact ⟨happ, rfl⟩

theorem not_pending_cancelledAdvance (a : CashAdvance) : ¬ (cancelledAdvance reason a).Pending := by
  unfold cancelledAdvance
  by_cases hp : a.Pending
  · rw [if_pos hp]
    intro hor
    rcases hor with h | h <;> cases h
  · rw [if_neg hp]
    exact hp

theorem disbursedPart_cancelledAdvance (advance : Option (Stored CashAdvance)) :
    disbursedPart (advance.map (cancelStoredAdvance reason)) = disbursedPart advance := by
  cases advance with
  | none => rfl
  | some a =>
      unfold disbursedPart cancelStoredAdvance cancelledAdvance
      by_cases hp : a.1.Pending
      · have hne : a.1.status ≠ .disbursed := by
          rcases hp with h | h <;> rw [h] <;> decide
        simp only [Option.map_some, if_pos hp, if_neg hne]
        rfl
      · simp only [Option.map_some, if_neg hp]

theorem cancelConfirmedEvent_step (h : cancelConfirmedEvent env actor reason s = .ok s') :
    CancellationStep s s' := by
  simp only [cancelConfirmedEvent, verifyEventCancellable, bind_accepts, refuse_accepts,
    exists_unit, pure_accepts] at h
  obtain ⟨_, ⟨hsealed, hcomp, hreq, hcan⟩, rfl⟩ := h
  have hfrom : s.event.status = .scheduled ∨ s.event.status = .inProgress := by
    unfold Event.Sealed at hsealed
    cases hst : s.event.status <;> simp_all
  refine .event _ _ _ hfrom rfl rfl rfl rfl ?_ (disbursedPart_cancelledAdvance s.advance)
  intro a ha
  obtain ⟨b, _, rfl⟩ := Option.mem_map.mp ha
  exact not_pending_cancelledAdvance b.1

theorem cancelAnyEvent_step {identifier : Uuid}
    (h : cancelAnyEvent env actor identifier reason s = .ok s') : CancellationStep s s' := by
  unfold cancelAnyEvent at h
  by_cases hid : s.event.id = identifier ∨ s.event.eventRequestId = identifier
  · rw [if_pos hid] at h
    exact cancelConfirmedEvent_step h
  · rw [if_neg hid] at h
    by_cases hreq : s.proposal.request.id = identifier
    · rw [if_pos hreq, bind_accepts] at h
      obtain ⟨⟨q, entries⟩, hcan, heq⟩ := h
      obtain ⟨happ, rfl⟩ := cancelProposal_accepts hcan
      rw [pure_accepts] at heq
      rw [← heq]
      exact .proposal entries happ
    · rw [if_neg hreq] at h
      cases h

/-! ## 4. What a cancellation leaves of the proposal -/

/-- Releasing the hall leaves the booking row inactive and touches no other row. -/
theorem releaseHall_eq (p : Proposal) :
    releaseHall p = { p with booking := p.booking.map fun b => { b with isActive := false } } := by
  unfold releaseHall activeBooking
  cases hb : p.booking with
  | none =>
      show p = { p with booking := none }
      rw [← hb]
  | some b =>
      by_cases hact : b.isActive = true
      · rw [Option.filter_some, if_pos (by rw [decide_eq_true_eq]; exact hact), Option.map_some]
      · rw [Option.filter_some, if_neg (by rw [decide_eq_true_eq]; exact hact), Option.map_some]
        have hoff : b.isActive = false := Bool.eq_false_iff.mpr hact
        show p = { p with booking := some { b with isActive := false } }
        rw [← hoff, ← hb]

theorem releaseHall_versions (p : Proposal) : (releaseHall p).versions = p.versions := by
  unfold releaseHall
  cases activeBooking p <;> rfl

theorem releaseHall_budget (p : Proposal) :
    (releaseHall p).budgetProposal = p.budgetProposal := by
  unfold releaseHall
  cases activeBooking p <;> rfl

theorem cancelWorkflow_versions (p : Proposal) : (cancelWorkflow p).versions = p.versions := by
  unfold cancelWorkflow
  cases activeInstance p <;> rfl

theorem cancelWorkflow_budget (p : Proposal) :
    (cancelWorkflow p).budgetProposal = p.budgetProposal := by
  unfold cancelWorkflow
  cases activeInstance p <;> rfl

theorem withdrawn_versions (p : Proposal) : (withdrawn p).versions = p.versions := by
  show (releaseHall (cancelWorkflow p)).versions = p.versions
  rw [releaseHall_versions, cancelWorkflow_versions]

theorem withdrawn_budget (p : Proposal) : (withdrawn p).budgetProposal = p.budgetProposal := by
  show (releaseHall (cancelWorkflow p)).budgetProposal = p.budgetProposal
  rw [releaseHall_budget, cancelWorkflow_budget]

theorem withdrawn_venue (p : Proposal) :
    (withdrawn p).venueRequest = p.venueRequest.map withdrawVenue := by
  have hflow : (cancelWorkflow p).venueRequest = p.venueRequest := by
    unfold cancelWorkflow
    cases activeInstance p <;> rfl
  show (releaseHall (cancelWorkflow p)).venueRequest.map withdrawVenue = _
  rw [releaseHall_eq, ← hflow]

theorem withdrawn_booking (p : Proposal) :
    (withdrawn p).booking = p.booking.map fun b => { b with isActive := false } := by
  have hflow : (cancelWorkflow p).booking = p.booking := by
    unfold cancelWorkflow
    cases activeInstance p <;> rfl
  show (releaseHall (cancelWorkflow p)).booking = _
  rw [releaseHall_eq, ← hflow]

end EventService

end CampusConnect
