/-
  File:      CampusConnect/Services/Drafting.lean
  Subject:   Event proposals before and after the review (`event_service.py`): the draft, its
             edits, and the confirmed event an approval creates.

  * `requireEditable`, `verifyActiveClub`: the guards every edit of a proposal starts with;
  * `createDraft`, `updateDraft`: the draft and its optimistic lock;
  * `createConfirmedEvent`: the event of an approved proposal, from the version of the highest
    number, the booking in force and the venue request.
-/
import CampusConnect.Services.Advance
import CampusConnect.Services.Cancellation

namespace CampusConnect

open Guarded Rows

/-! ## 1. The guards of an edit -/

/-- `DRAFT` and `REVISION_REQUIRED`. -/
def EventRequest.Editable (r : EventRequest) : Prop :=
  r.status = .draft ∨ r.status = .revisionRequired

instance (r : EventRequest) : Decidable r.Editable := inferInstanceAs (Decidable (_ ∨ _))

/-- `SELECT … WHERE id = … AND deleted_at IS NULL`. -/
def requireProposal (r : EventRequest) : Result Unit :=
  refuse (r.deletedAt ≠ none)
    ⟨.notFound, "Event proposal with ID '%s' was not found.", [.uuid r.id]⟩

/-- The lifecycle guard. Each of its callers has a text of its own. -/
def requireEditable (r : EventRequest) (message : String) : Result Unit :=
  refuse (¬ r.Editable) ⟨.workflowState, message, [.name r.status.value]⟩

/-- The ownership guard, and the club must be active. -/
def verifyActiveClub (env : Env) (clubId : Uuid) (actor : User)
    (actionDescription inactive : String) : Result Club := do
  let club ← verifyClubOwnership env clubId actor actionDescription
  refuse (club.isActive = false) ⟨.badRequest, inactive, [.text club.name]⟩
  return club

/-- The four guards of a venue or budget edit, with the texts of the caller. -/
def openForEditing (env : Env) (actor : User) (r : EventRequest)
    (message actionDescription inactive : String) : Result Unit := do
  requireProposal r
  requireEditable r message
  let _ ← verifyActiveClub env r.clubId actor actionDescription inactive
  return ()

@[simp] theorem requireProposal_accepts {r : EventRequest} {u : Unit} :
    requireProposal r = .ok u ↔ r.deletedAt = none := by
  unfold requireProposal
  rw [refuse_accepts, not_not]

@[simp] theorem requireEditable_accepts {r : EventRequest} {message : String} {u : Unit} :
    requireEditable r message = .ok u ↔ r.Editable := by
  unfold requireEditable
  rw [refuse_accepts, not_not]

theorem openForEditing_editable {env : Env} {actor : User} {r : EventRequest}
    {message action inactive : String} {u : Unit}
    (h : openForEditing env actor r message action inactive = .ok u) : r.Editable := by
  simp only [openForEditing, bind_accepts, requireProposal_accepts, requireEditable_accepts,
    exists_unit] at h
  exact h.2.1

namespace EventService

/-! ## 2. The draft -/

structure EventRequestCreate where
  clubId : Uuid
  title : Text
  description : Option Text := none
  eventType : EventType
  expectedAttendees : Option Nat := none
  eventDate : Option Instant := none
  chiefGuestName : Option Text := none
  chiefGuestDesignation : Option Text := none
  chiefGuestInstitution : Option Text := none
  academicYear : Text
  deriving DecidableEq, Repr

/-- `none` where the payload leaves a field out. -/
structure EventRequestUpdate where
  title : Option Text := none
  description : Option Text := none
  eventType : Option EventType := none
  expectedAttendees : Option Nat := none
  eventDate : Option Instant := none
  chiefGuestName : Option Text := none
  chiefGuestDesignation : Option Text := none
  chiefGuestInstitution : Option Text := none
  academicYear : Option Text := none
  expectedVersion : Option Nat := none
  deriving DecidableEq, Repr

/-- `create_draft`. -/
def createDraft (env : Env) (actor : User) (newId : Uuid) (eventIn : EventRequestCreate) :
    Result (Proposal × List AuditEntry) := do
  let _ ← verifyActiveClub env eventIn.clubId actor "propose events for this club"
    "Club '%s' is currently inactive and cannot propose events."
  return ({ request :=
      { id := newId
        clubId := eventIn.clubId
        submittedBy := actor.id
        title := eventIn.title
        description := eventIn.description
        eventType := eventIn.eventType
        expectedAttendees := eventIn.expectedAttendees
        eventDate := eventIn.eventDate
        chiefGuestName := eventIn.chiefGuestName
        chiefGuestDesignation := eventIn.chiefGuestDesignation
        chiefGuestInstitution := eventIn.chiefGuestInstitution
        status := .draft
        currentVersion := 0
        versionLock := 0
        academicYear := eventIn.academicYear
        createdAt := env.now } },
    [createAuditEntry env actor .proposalCreated "event_request" newId none
      (some [("title", .text eventIn.title), ("club_id", .uuid eventIn.clubId),
        ("event_type", .name eventIn.eventType.value),
        ("status", .name EventRequestStatus.draft.value),
        ("academic_year", .text eventIn.academicYear),
        ("expected_attendees", Value.ofNumber eventIn.expectedAttendees)])])

/-- The columns an edit of the draft assigns, computed from the row `seen` and written into the
    row `r`. -/
def editRequest (eventIn : EventRequestUpdate) (seen r : EventRequest) : EventRequest :=
  { r with
    title := patched seen.title eventIn.title r.title
    description := patched seen.description (eventIn.description.map some) r.description
    eventType := patched seen.eventType eventIn.eventType r.eventType
    expectedAttendees :=
      patched seen.expectedAttendees (eventIn.expectedAttendees.map some) r.expectedAttendees
    eventDate := patched seen.eventDate (eventIn.eventDate.map some) r.eventDate
    chiefGuestName :=
      patched seen.chiefGuestName (eventIn.chiefGuestName.map some) r.chiefGuestName
    chiefGuestDesignation := patched seen.chiefGuestDesignation
      (eventIn.chiefGuestDesignation.map some) r.chiefGuestDesignation
    chiefGuestInstitution := patched seen.chiefGuestInstitution
      (eventIn.chiefGuestInstitution.map some) r.chiefGuestInstitution
    academicYear := patched seen.academicYear eventIn.academicYear r.academicYear
    versionLock := seen.versionLock + 1 }

/-- `prev_state` and `new_state` of an edit. -/
def requestState (r : EventRequest) : StateDict :=
  [("title", .text r.title), ("description", Value.ofText r.description),
    ("event_type", .name r.eventType.value),
    ("expected_attendees", Value.ofNumber r.expectedAttendees),
    ("event_date", Value.ofTime r.eventDate), ("status", .name r.status.value),
    ("academic_year", .text r.academicYear), ("version_lock", .number r.versionLock)]

/-- `update_draft`. The optimistic lock comes before the lifecycle. -/
def updateDraft (env : Env) (actor : User) (eventIn : EventRequestUpdate) (seen : Proposal) :
    Result Flush := do
  let r := seen.request
  requireProposal r
  refuse (∃ v ∈ eventIn.expectedVersion, r.versionLock ≠ v)
    ⟨.optimisticLock, "Event proposal draft has been modified concurrently. Expected version %s, " ++
      "but current version is %s. Please refetch the latest draft and reapply your changes.",
      [Value.ofNumber eventIn.expectedVersion, .number r.versionLock]⟩
  requireEditable r ("Cannot edit event proposal in '%s' status. Only proposals in DRAFT or " ++
    "REVISION_REQUIRED state can be modified.")
  let _ ← verifyActiveClub env r.clubId actor "edit this event proposal"
    "Club '%s' is currently inactive and cannot modify proposals."
  return {
    write := fun p => .ok (p.updateRequest (editRequest eventIn r))
    entries := [createAuditEntry env actor .proposalUpdated "event_request" r.id
      (some (requestState r)) (some (requestState (editRequest eventIn r r)))] }

/-- What an update of the draft does to the rows it has read. -/
theorem updateDraft_writes {env : Env} {actor : User} {eventIn : EventRequestUpdate}
    {p q : Proposal} {f : Flush} (h : updateDraft env actor eventIn p = .ok f)
    (hw : f.write p = .ok q) :
    p.request.Editable ∧ f.event = none ∧
      q = p.updateRequest (editRequest eventIn p.request) := by
  simp only [updateDraft, bind_accepts, requireEditable_accepts, exists_unit, pure_accepts] at h
  obtain ⟨_, _, hed, _, _, rfl⟩ := h
  exact ⟨hed, rfl, (Except.ok.inj hw).symm⟩

/-! ## 3. The confirmed event -/

/-- `a or b` on a text column. -/
def orText (a b : Option Text) : Option Text :=
  match a with
  | some (c :: t) => some (c :: t)
  | _ => b

/-- `create_confirmed_event`. One event per proposal: an event already there is returned. -/
def createConfirmedEvent (env : Env) (actor : User) (newId : Uuid) (existing : Option Event)
    (p : Proposal) : Event × List AuditEntry :=
  match existing with
  | some event => (event, [])
  | none =>
      let r := p.request
      let approvedVersion := SettlementService.latestVersion p.versions
      let booking := activeBooking p
      let vr := p.venueRequest
      let hallId := (booking.map HallBookingConfirmed.hallId).or (vr.map VenueRequest.hallId)
      let defaultDt := r.eventDate.getD r.createdAt
      let snapshot := (approvedVersion.bind EventRequestVersion.snapshot).bind
        VersionSnapshot.content
      let event : Event :=
        { id := newId
          eventRequestId := r.id
          approvedVersionId := (approvedVersion.map EventRequestVersion.id).getD r.id
          clubId := r.clubId
          hallId := hallId
          title := (orText (orText (snapshot.map ProposalContent.title) (some r.title))
            (some "Confirmed Event".toList)).getD []
          description := orText (snapshot.bind ProposalContent.description) r.description
          eventType := (snapshot.map ProposalContent.eventType).getD r.eventType
          eventDate := ((booking.map HallBookingConfirmed.bookingDate).or
            (vr.map VenueRequest.requestedDate)).getD defaultDt
          startTime := ((booking.map HallBookingConfirmed.startTime).or
            (vr.map VenueRequest.startTime)).getD defaultDt
          endTime := ((booking.map HallBookingConfirmed.endTime).or
            (vr.map VenueRequest.endTime)).getD defaultDt
          expectedAttendees :=
            (snapshot.bind ProposalContent.expectedAttendees).or r.expectedAttendees
          status := .scheduled
          academicYear := r.academicYear }
      (event, [createAuditEntry env actor .eventCreated "event" newId none
        (some [("event_request_id", .uuid r.id), ("title", .text event.title),
          ("status", .name EventStatus.scheduled.value), ("hall_id", Value.ofUuid hallId)])])

end EventService

end CampusConnect
