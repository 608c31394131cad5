/-
  File:      CampusConnect/Services/Venue.lean
  Subject:   The venue request of a proposal (`venue_service.py`): create, update, delete.

  * `HallTaken`: the overlap query, which also finds the proposal's own booking;
  * `createVenueRequest`, `updateVenueRequest`, `deleteVenueRequest`.
-/
import CampusConnect.Services.Drafting

namespace CampusConnect

open Guarded Rows

namespace VenueService

/-! ## 1. Halls -/

/-- `get_hall`. -/
def getHall (env : ReviewEnv) (hallId : Uuid) : Result Hall :=
  fetch (env.halls.find? (fun h => h.id = hallId))
    ⟨.notFound, "Hall with ID '%s' was not found.", [.uuid hallId]⟩

/-- `a or b` on a count: zero is falsy. -/
def orNumber (a b : Option Nat) : Option Nat :=
  match a with
  | some (n + 1) => some (n + 1)
  | _ => b

/-- `if audience and audience > hall.capacity: raise`. -/
def verifyCapacity (audience : Option Nat) (hall : Hall) : Result Unit :=
  refuse (∃ n ∈ audience, n > hall.capacity)
    ⟨.badRequest, "Expected audience (%s) exceeds hall capacity (%s).",
      [Value.ofNumber audience, .number hall.capacity]⟩

/-- Some booking in force overlaps the slot in the hall; the proposal's own is not left out. -/
def HallTaken (env : ReviewEnv) (p : Proposal) (hallId : Uuid) (startTime endTime : Instant) :
    Prop :=
  ∃ b ∈ p.booking.toList ++ env.otherBookings, b.hallId = hallId ∧ b.isActive = true ∧
    b.startTime < endTime ∧ b.endTime > startTime

instance (env : ReviewEnv) (p : Proposal) (hallId : Uuid) (startTime endTime : Instant) :
    Decidable (HallTaken env p hallId startTime endTime) :=
  inferInstanceAs (Decidable (∃ b ∈ p.booking.toList ++ env.otherBookings, _))

/-- The refusal of a taken slot; an update that leaves the slot alone does not look. -/
def verifyHallFree (env : ReviewEnv) (p : Proposal) (looks : Prop) [Decidable looks] (hall : Hall)
    (startTime endTime : Instant) : Result Unit :=
  refuse (looks ∧ HallTaken env p hall.id startTime endTime)
    ⟨.hallConflict, "Hall '%s' is already confirmed for another booking during the requested time " ++
      "slot.", [.text hall.name]⟩

/-! ## 2. Create -/

structure VenueRequestCreate where
  hallId : Uuid
  requestedDate : Instant
  startTime : Instant
  endTime : Instant
  expectedAudience : Option Nat := none
  facilities : VenueFacilities := {}
  deriving DecidableEq, Repr

/-- The lead time: not in the past, and for anyone but an administrator some days ahead. -/
def verifyLeadTime (env : ReviewEnv) (actor : User) (startTime : Instant) : Result Unit := do
  refuse (startTime - env.now < 0)
    ⟨.badRequest, "Cannot request venue booking in the past.", []⟩
  refuse (actor.role ≠ .systemAdmin ∧
      startTime - env.now < env.hallBookingMinAdvanceDays * 86400)
    ⟨.advanceBookingViolation, "Hall bookings must be requested at least %s days in advance.",
      [.number env.hallBookingMinAdvanceDays.toNat]⟩

def requestedVenue (newId : Uuid) (venueIn : VenueRequestCreate) (hall : Hall) : VenueRequest where
  id := newId
  hallId := venueIn.hallId
  hallName := some hall.name
  requestedDate := venueIn.requestedDate
  startTime := venueIn.startTime
  endTime := venueIn.endTime
  expectedAudience := venueIn.expectedAudience
  facilities := venueIn.facilities
  status := .pending

/-- `create_venue_request`. -/
def createVenueRequest (env : ReviewEnv) (actor : User) (newId : Uuid)
    (venueIn : VenueRequestCreate) (seen : Proposal) : Result Flush := do
  let r := seen.request
  openForEditing env.toEnv actor r
    ("Cannot request venue for proposal in '%s' status. Only proposals in DRAFT or " ++
      "REVISION_REQUIRED state can request venues.") "request a venue for this event"
    "Club '%s' is currently inactive and cannot request venues."
  let hall ← getHall env venueIn.hallId
  refuse (hall.isActive = false)
    ⟨.badRequest, "Hall '%s' is currently inactive and cannot be booked.", [.text hall.name]⟩
  verifyCapacity (orNumber venueIn.expectedAudience r.expectedAttendees) hall
  verifyLeadTime env actor venueIn.startTime
  refuse (seen.venueRequest ≠ none)
    ⟨.conflict, "A venue request already exists for this event proposal. Use PATCH to update it.",
      []⟩
  verifyHallFree env seen True hall venueIn.startTime venueIn.endTime
  let vr := requestedVenue newId venueIn hall
  return {
    write := fun p => asConflict "Could not save venue request due to database conflict." do
      refuse (p.venueRequest ≠ none ∨ ¬ vr.Check) integrityError
      return { p with venueRequest := some vr }
    entries := [createAuditEntry env.toEnv actor .hallBooked "venue_request" newId none
      (some [("event_id", .uuid r.id), ("hall_id", .uuid hall.id), ("hall_name", .text hall.name),
        ("start_time", .time venueIn.startTime), ("end_time", .time venueIn.endTime),
        ("status", .name VenueRequestStatus.pending.value)])] }

/-! ## 3. Update and delete -/

/-- `none` where the payload leaves a field out. -/
structure VenueRequestUpdate where
  hallId : Option Uuid := none
  requestedDate : Option Instant := none
  startTime : Option Instant := none
  endTime : Option Instant := none
  expectedAudience : Option Nat := none
  requiresStage : Option Bool := none
  requiresAudio : Option Bool := none
  requiresLcd : Option Bool := none
  requiresAc : Option Bool := none
  requiresProjector : Option Bool := none
  additionalRequirements : Option Text := none
  deriving DecidableEq, Repr

/-- `get_venue_request`. -/
def getVenueRequest (p : Proposal) : Result VenueRequest :=
  fetch p.venueRequest
    ⟨.notFound, "No venue request found for event proposal '%s'.", [.uuid p.request.id]⟩

def editFacilities (venueIn : VenueRequestUpdate) (seen f : VenueFacilities) : VenueFacilities where
  requiresStage := patched seen.requiresStage venueIn.requiresStage f.requiresStage
  requiresAudio := patched seen.requiresAudio venueIn.requiresAudio f.requiresAudio
  requiresLcd := patched seen.requiresLcd venueIn.requiresLcd f.requiresLcd
  requiresAc := patched seen.requiresAc venueIn.requiresAc f.requiresAc
  requiresProjector := patched seen.requiresProjector venueIn.requiresProjector f.requiresProjector
  additionalRequirements := patched seen.additionalRequirements
    (venueIn.additionalRequirements.map some) f.additionalRequirements

/-- The columns an update assigns; its status, and so an approval of it, stays. -/
def editVenue (venueIn : VenueRequestUpdate) (hall : Hall) (seen vr : VenueRequest) :
    VenueRequest :=
  { vr with
    hallId := patched seen.hallId venueIn.hallId vr.hallId
    hallName := patched seen.hallName (venueIn.hallId.map fun _ => some hall.name) vr.hallName
    requestedDate := patched seen.requestedDate venueIn.requestedDate vr.requestedDate
    startTime := patched seen.startTime venueIn.startTime vr.startTime
    endTime := patched seen.endTime venueIn.endTime vr.endTime
    expectedAudience :=
      patched seen.expectedAudience (venueIn.expectedAudience.map some) vr.expectedAudience
    facilities := editFacilities venueIn seen.facilities vr.facilities }

/-- `prev_state` and `new_state` of an update. -/
def slotState (vr : VenueRequest) : StateDict :=
  [("hall_id", .uuid vr.hallId), ("start_time", .time vr.startTime),
    ("end_time", .time vr.endTime)]

/-- `update_venue_request`. -/
def updateVenueRequest (env : ReviewEnv) (actor : User) (venueIn : VenueRequestUpdate)
    (seen : Proposal) : Result Flush := do
  openForEditing env.toEnv actor seen.request
    ("Cannot update venue for proposal in '%s' status. Only proposals in DRAFT or " ++
      "REVISION_REQUIRED state can modify venue requirements.")
    "modify venue requirements for this event"
    "Club '%s' is currently inactive and cannot modify venue requests."
  let vr ← getVenueRequest seen
  let targetStart := venueIn.startTime.getD vr.startTime
  let targetEnd := venueIn.endTime.getD vr.endTime
  refuse (targetEnd ≤ targetStart) ⟨.badRequest, "end_time must be strictly after start_time.", []⟩
  let hall ← getHall env (venueIn.hallId.getD vr.hallId)
  refuse (hall.isActive = false)
    ⟨.badRequest, "Hall '%s' is currently inactive.", [.text hall.name]⟩
  verifyCapacity (orNumber (orNumber venueIn.expectedAudience vr.expectedAudience)
    seen.request.expectedAttendees) hall
  verifyHallFree env seen (venueIn.hallId ≠ none ∨ venueIn.startTime ≠ none ∨ venueIn.endTime ≠ none)
    hall targetStart targetEnd
  return {
    write := fun p => asConflict "Could not update venue request due to database conflict."
      (p.updateVenue vr.id (editVenue venueIn hall vr))
    entries := [createAuditEntry env.toEnv actor .proposalUpdated "venue_request" vr.id
      (some (slotState vr)) (some (slotState (editVenue venueIn hall vr vr)))] }

/-- The foreign key of the bookings: PostgreSQL refuses to delete a request some booking names. -/
def Referenced (env : ReviewEnv) (p : Proposal) (vr : VenueRequest) : Prop :=
  env.backend = .postgresql ∧ ∃ b ∈ p.booking, b.venueRequestId = vr.id

instance (env : ReviewEnv) (p : Proposal) (vr : VenueRequest) : Decidable (Referenced env p vr) :=
  inferInstanceAs (Decidable (_ ∧ ∃ b ∈ p.booking, _))

/-- `delete_venue_request`. -/
def deleteVenueRequest (env : ReviewEnv) (actor : User) (seen : Proposal) : Result Flush := do
  openForEditing env.toEnv actor seen.request
    ("Cannot delete venue for proposal in '%s' status. Only proposals in DRAFT or " ++
      "REVISION_REQUIRED state can remove venue requirements.")
    "remove venue requirements for this event"
    "Club '%s' is currently inactive and cannot remove venue requests."
  let vr ← getVenueRequest seen
  return {
    write := fun p => do
      refuse (Referenced env p vr) integrityError
      return { p with venueRequest := p.venueRequest.filter (fun v => v.id ≠ vr.id) }
    entries := [createAuditEntry env.toEnv actor .hallReleased "venue_request" vr.id
      (some [("hall_id", .uuid vr.hallId), ("event_id", .uuid seen.request.id)]) none] }

/-! ## 4. What the calls write -/

section Writes

variable {env : ReviewEnv} {actor : User} {p q : Proposal} {f : Flush}

theorem createVenueRequest_writes {newId : Uuid} {venueIn : VenueRequestCreate}
    (h : createVenueRequest env actor newId venueIn p = .ok f) (hw : f.write p = .ok q) :
    p.request.Editable ∧ f.event = none ∧ p.venueRequest = none ∧
      ∃ hall : Hall, (requestedVenue newId venueIn hall).Check ∧
        q = { p with venueRequest := some (requestedVenue newId venueIn hall) } := by
  simp only [createVenueRequest, getHall, bind_accepts, fetch_accepts, refuse_accepts, exists_unit,
    pure_accepts, not_not] at h
  obtain ⟨hopen, hall, _, _, _, _, hnone, _, rfl⟩ := h
  simp only [asConflict_accepts, bind_accepts, refuse_accepts, exists_unit, pure_accepts, not_or,
    not_not] at hw
  obtain ⟨⟨_, hcheck⟩, rfl⟩ := hw
  exact ⟨openForEditing_editable hopen, rfl, hnone, hall, hcheck, rfl⟩

theorem updateVenueRequest_writes {venueIn : VenueRequestUpdate}
    (h : updateVenueRequest env actor venueIn p = .ok f) (hw : f.write p = .ok q) :
    p.request.Editable ∧ f.event = none ∧
      ∃ (vr : VenueRequest) (hall : Hall), p.venueRequest = some vr ∧
        (editVenue venueIn hall vr vr).Check ∧
        q = { p with venueRequest := some (editVenue venueIn hall vr vr) } := by
  simp only [updateVenueRequest, getHall, getVenueRequest, bind_accepts, fetch_accepts,
    refuse_accepts, exists_unit, pure_accepts] at h
  obtain ⟨hopen, vr, hvr, _, hall, _, _, _, _, rfl⟩ := h
  simp only [asConflict_accepts, Proposal.updateVenue_accepts] at hw
  obtain ⟨v, hv, _, hcheck, rfl⟩ := hw
  obtain rfl : vr = v := Option.some.inj (hvr.symm.trans hv)
  exact ⟨openForEditing_editable hopen, rfl, vr, hall, hvr, hcheck, rfl⟩

theorem deleteVenueRequest_writes (h : deleteVenueRequest env actor p = .ok f)
    (hw : f.write p = .ok q) :
    p.request.Editable ∧ f.event = none ∧ q = { p with venueRequest := none } := by
  simp only [deleteVenueRequest, getVenueRequest, bind_accepts, fetch_accepts, pure_accepts] at h
  obtain ⟨_, hopen, vr, hvr, rfl⟩ := h
  simp only [bind_accepts, refuse_accepts, exists_unit, pure_accepts] at hw
  obtain ⟨_, rfl⟩ := hw
  refine ⟨openForEditing_editable hopen, rfl, ?_⟩
  rw [hvr]
  simp

end Writes

end VenueService

end CampusConnect
