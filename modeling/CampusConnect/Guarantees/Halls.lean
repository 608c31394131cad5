/-
  File:      CampusConnect/Guarantees/Halls.lean
  Subject:   The two overlap queries against the exclusion constraint of the bookings.

  * `Blocks`: an active booking of the hall and a half-open slot meet, as sets of instants;
    `excluded_iff`, `venueConflict_iff`, `hallTaken_iff`: the constraint and the queries in these terms;
  * `QueryExact`, `venue_conflict_exact_iff`: when the query of the second step finds what the
    constraint refuses, `other_day_overlooked`: a slot it misses;
  * `VenueEdit`, `venue_edit_conflict_iff`: when an edit of the venue conflicts with others only,
    `own_booking_blocks`: a proposal sent back that its own booking blocks.
-/
import CampusConnect.Review
import Mathlib.Data.Int.ConditionallyCompleteOrder
import Mathlib.Order.ConditionallyCompleteLattice.Basic
import Mathlib.Order.Interval.Set.LinearOrder

namespace CampusConnect

open Guarded Rows VenueService WorkflowService

/-! ## 1. Half-open slots -/

/-- Two nonempty half-open intervals meet exactly when each begins before the other ends. -/
theorem Ico_meets_iff {α : Type*} [LinearOrder α] {a b c d : α} (hab : a < b) (hcd : c < d) :
    (Set.Ico a b ∩ Set.Ico c d).Nonempty ↔ a < d ∧ c < b := by
  rw [Set.Ico_inter_Ico, Set.nonempty_Ico, max_lt_iff, lt_min_iff, lt_min_iff]
  constructor
  · intro h
    exact ⟨h.1.2, h.2.1⟩
  · intro h
    exact ⟨⟨hab, h.1⟩, h.2, hcd⟩

/-- `tstzrange(start_time, end_time, '[)')`. -/
def HallBookingConfirmed.range (b : HallBookingConfirmed) : Set Instant :=
  Set.Ico b.startTime b.endTime

def VenueRequest.range (vr : VenueRequest) : Set Instant := Set.Ico vr.startTime vr.endTime

/-- The CHECK constraint of `hall_bookings_confirmed`. -/
def HallBookingConfirmed.Check (b : HallBookingConfirmed) : Prop := b.startTime < b.endTime

instance (b : HallBookingConfirmed) : Decidable b.Check := inferInstanceAs (Decidable (_ < _))

/-- The booking is in force and takes the hall at some instant of the slot. -/
def Blocks (o : HallBookingConfirmed) (hallId : Uuid) (slot : Set Instant) : Prop :=
  o.isActive = true ∧ o.hallId = hallId ∧ (o.range ∩ slot).Nonempty

section Slots

variable {env : ReviewEnv} {p : Proposal} {o b : HallBookingConfirmed} {vr : VenueRequest}
  {hallId : Uuid} {startTime endTime : Instant}

theorem blocks_iff (ho : o.Check) (hslot : startTime < endTime) :
    Blocks o hallId (Set.Ico startTime endTime) ↔
      o.isActive = true ∧ o.hallId = hallId ∧ o.startTime < endTime ∧ startTime < o.endTime := by
  unfold Blocks HallBookingConfirmed.range
  rw [Ico_meets_iff ho hslot]

/-- **What the constraint refuses**: a row another booking in force overlaps. -/
theorem excluded_iff (hrows : ∀ o ∈ env.otherBookings, o.Check) (hb : b.Check) :
    Excluded env b ↔
      env.backend = .postgresql ∧ ∃ o ∈ env.otherBookings, Blocks o b.hallId b.range := by
  have hsame : (∃ o ∈ env.otherBookings, Blocks o b.hallId b.range) ↔
      ∃ o ∈ env.otherBookings, o.isActive = true ∧ o.hallId = b.hallId ∧
        o.startTime < b.endTime ∧ b.startTime < o.endTime :=
    exists_congr fun o => and_congr_right fun ho => blocks_iff (hrows o ho) hb
  rw [hsame]
  rfl

/-- **What the second step looks for**: an overlap, but under the requested date only. -/
theorem venueConflict_iff (hrows : ∀ o ∈ env.otherBookings, o.Check) (hvr : vr.Check) :
    VenueConflict env vr ↔ ∃ o ∈ env.otherBookings, o.bookingDate = vr.requestedDate ∧
      Blocks o vr.hallId vr.range := by
  unfold VenueConflict VenueRequest.range
  refine exists_congr fun o => and_congr_right fun ho => ?_
  rw [blocks_iff (hrows o ho) hvr]
  tauto

/-- **What an edit looks for**: an overlap with any booking, the proposal's own among them. -/
theorem hallTaken_iff (hrows : ∀ o ∈ env.otherBookings, o.Check) (hown : ∀ b ∈ p.booking, b.Check)
    (hslot : startTime < endTime) :
    HallTaken env p hallId startTime endTime ↔
      (∃ b ∈ p.booking, Blocks b hallId (Set.Ico startTime endTime)) ∨
        ∃ o ∈ env.otherBookings, Blocks o hallId (Set.Ico startTime endTime) := by
  have hiff : ∀ o : HallBookingConfirmed, o.Check →
      ((o.hallId = hallId ∧ o.isActive = true ∧ o.startTime < endTime ∧ o.endTime > startTime) ↔
        Blocks o hallId (Set.Ico startTime endTime)) := by
    intro o ho
    rw [blocks_iff ho hslot]
    tauto
  unfold HallTaken
  simp only [List.mem_append, Option.mem_toList]
  constructor
  · intro h
    obtain ⟨o, hmem, hfound⟩ := h
    rcases hmem with hm | hm
    · exact .inl ⟨o, hm, (hiff o (hown o hm)).mp hfound⟩
    · exact .inr ⟨o, hm, (hiff o (hrows o hm)).mp hfound⟩
  · intro h
    rcases h with ⟨o, hm, hblock⟩ | ⟨o, hm, hblock⟩
    · exact ⟨o, .inl hm, (hiff o (hown o hm)).mpr hblock⟩
    · exact ⟨o, .inr hm, (hiff o (hrows o hm)).mpr hblock⟩

end Slots

/-! ## 2. The second step -/

/-- The refusal of the conflict query. -/
def venueConflict : Failure :=
  ⟨.conflict, "Venue conflict: Hall is already confirmed for another booking during this time " ++
    "slot.", []⟩

/-- The row in force after the second step: the one already there, or a new one of the request. -/
def bookingToConfirm (newId : Uuid) (vr : VenueRequest) (p : Proposal) : HallBookingConfirmed :=
  p.booking.getD (bookingOf newId vr)

/-- A new row has the hall and the slot of the request. -/
theorem bookingToConfirm_new {newId : Uuid} {vr : VenueRequest} {p : Proposal}
    (hb : p.booking = none) : bookingToConfirm newId vr p = bookingOf newId vr := by
  unfold bookingToConfirm
  rw [hb]
  rfl

theorem bookingToConfirm_kept {newId : Uuid} {vr : VenueRequest} {p : Proposal}
    {b : HallBookingConfirmed} (hb : p.booking = some b) : bookingToConfirm newId vr p = b := by
  unfold bookingToConfirm
  rw [hb]
  rfl

/-- The dates of the bookings in force of other proposals that meet a slot of a hall. -/
def datesTaken (env : ReviewEnv) (hallId : Uuid) (slot : Set Instant) : Set Instant :=
  {date | ∃ o ∈ env.otherBookings, Blocks o hallId slot ∧ o.bookingDate = date}

/-- The booking is for the hall and the slot of the request. -/
def HallBookingConfirmed.IsFor (b : HallBookingConfirmed) (vr : VenueRequest) : Prop :=
  b.hallId = vr.hallId ∧ b.startTime = vr.startTime ∧ b.endTime = vr.endTime

/-- **The condition on the stored rows.** Either the row in force is for what is requested, and what meets
    it is nothing or has a booking of the requested date in it. Or an earlier row is kept for another
    hall or slot, and both that row and, under the requested date, the request are free, or neither. -/
inductive QueryExact (env : ReviewEnv) (vr : VenueRequest) (p : Proposal) : Prop where
  | requested (hkept : ∀ b ∈ p.booking, b.IsFor vr)
      (hdates : datesTaken env vr.hallId vr.range = ∅ ∨
        vr.requestedDate ∈ datesTaken env vr.hallId vr.range)
  | bothFree (b : HallBookingConfirmed) (hb : p.booking = some b) (hother : ¬ b.IsFor vr)
      (hkept : datesTaken env b.hallId b.range = ∅)
      (hdates : vr.requestedDate ∉ datesTaken env vr.hallId vr.range)
  | bothTaken (b : HallBookingConfirmed) (hb : p.booking = some b) (hother : ¬ b.IsFor vr)
      (hkept : datesTaken env b.hallId b.range ≠ ∅)
      (hdates : vr.requestedDate ∈ datesTaken env vr.hallId vr.range)

/-- **Bookings under the requested date**, and a kept row that is the request's, are exact. -/
theorem QueryExact.of_dates {env : ReviewEnv} {vr : VenueRequest} {p : Proposal}
    (hkept : ∀ b ∈ p.booking, b.IsFor vr)
    (hdates : ∀ o ∈ env.otherBookings, Blocks o vr.hallId vr.range →
      o.bookingDate = vr.requestedDate) : QueryExact env vr p := by
  refine .requested hkept ?_
  rcases Set.eq_empty_or_nonempty (datesTaken env vr.hallId vr.range) with hnone | hsome
  · exact .inl hnone
  · obtain ⟨_, o, ho, hblock, _⟩ := hsome
    exact .inr ⟨o, ho, hblock, hdates o ho hblock⟩

section SecondStep

variable {env : ReviewEnv} {actor : User} {stepId newBookingId newEventId : Uuid}
  {comments : Option Text} {existing : Option Event} {p : Proposal} {step : WorkflowInstanceStep}
  {inst : WorkflowInstance} {vr : VenueRequest}

/-- A decision that passes its guards is refused for the venue exactly when the query finds one. -/
theorem approveStep_conflict_iff (hload : loadStep stepId p = .ok (step, inst))
    (hver : verifyDecision approveWords actor step inst p.request = .ok ())
    (h2 : step.stepOrder = 2) (hvr : p.venueRequest = some vr) :
    approveStep env actor stepId comments newBookingId newEventId existing p =
      .error venueConflict ↔ VenueConflict env vr := by
  have hquery : (step.stepOrder = 2 ∧ ∃ vr ∈ p.venueRequest, VenueConflict env vr) ↔
      VenueConflict env vr := by
    rw [hvr]
    simp [h2]
  unfold approveStep
  rw [hload]
  simp only [bind, Except.bind, hver, refuse, hquery]
  by_cases hc : VenueConflict env vr
  · simp [hc, venueConflict]
  · simp [hc, pure, Except.pure]

/-- The query finds a booking when one meets the request under its date. -/
theorem found_iff : (∃ o ∈ env.otherBookings, o.bookingDate = vr.requestedDate ∧
    Blocks o vr.hallId vr.range) ↔ vr.requestedDate ∈ datesTaken env vr.hallId vr.range :=
  exists_congr fun _ => and_congr_right fun _ => and_comm

/-- A slot is overlapped when it has a date on which it is taken. -/
theorem overlapped_iff {hallId : Uuid} {slot : Set Instant} :
    (∃ o ∈ env.otherBookings, Blocks o hallId slot) ↔ datesTaken env hallId slot ≠ ∅ := by
  rw [← Set.nonempty_iff_ne_empty]
  constructor
  · intro h
    obtain ⟨o, ho, hblock⟩ := h
    exact ⟨o.bookingDate, o, ho, hblock, rfl⟩
  · intro h
    obtain ⟨date, o, ho, hblock, _⟩ := h
    exact ⟨o, ho, hblock⟩

/-- A row for the request, kept or new, has its hall and slot. -/
theorem bookingToConfirm_isFor (newId : Uuid) (hkept : ∀ b ∈ p.booking, b.IsFor vr) :
    (bookingToConfirm newId vr p).hallId = vr.hallId ∧
      (bookingToConfirm newId vr p).range = vr.range := by
  cases hb : p.booking with
  | none =>
      rw [bookingToConfirm_new hb]
      exact ⟨rfl, rfl⟩
  | some b =>
      obtain ⟨hhall, hstart, hend⟩ := hkept b hb
      rw [bookingToConfirm_kept hb]
      unfold HallBookingConfirmed.range VenueRequest.range
      rw [hstart, hend]
      exact ⟨hhall, rfl⟩

/-- **The conflict query of the second step.** At the second step of a proposal with a venue request,
    the query refuses exactly what overlaps another proposal's booking in force, when and only when
    the stored rows meet the condition; and that overlap is what the constraint refuses. -/
theorem venue_conflict_exact_iff (hload : loadStep stepId p = .ok (step, inst))
    (hver : verifyDecision approveWords actor step inst p.request = .ok ())
    (h2 : step.stepOrder = 2) (hvr : p.venueRequest = some vr) (hcheck : vr.Check)
    (hrows : ∀ o ∈ env.otherBookings, o.Check) (hown : ∀ b ∈ p.booking, b.Check) :
    ((approveStep env actor stepId comments newBookingId newEventId existing p =
        .error venueConflict ↔
      ∃ o ∈ env.otherBookings, Blocks o (bookingToConfirm newBookingId vr p).hallId
        (bookingToConfirm newBookingId vr p).range) ↔ QueryExact env vr p) ∧
    (Excluded env (bookingToConfirm newBookingId vr p) ↔ env.backend = .postgresql ∧
      ∃ o ∈ env.otherBookings, Blocks o (bookingToConfirm newBookingId vr p).hallId
        (bookingToConfirm newBookingId vr p).range) := by
  have hrow : (bookingToConfirm newBookingId vr p).Check := by
    cases hb : p.booking with
    | none =>
        rw [bookingToConfirm_new hb]
        exact hcheck
    | some b =>
        rw [bookingToConfirm_kept hb]
        exact hown b hb
  refine ⟨?_, excluded_iff hrows hrow⟩
  rw [approveStep_conflict_iff hload hver h2 hvr, venueConflict_iff hrows hcheck, found_iff,
    overlapped_iff]
  by_cases hkept : ∀ b ∈ p.booking, b.IsFor vr
  · obtain ⟨hhall, hrange⟩ := bookingToConfirm_isFor newBookingId hkept
    rw [hhall, hrange]
    constructor
    · intro hiff
      refine .requested hkept ?_
      by_cases hnone : datesTaken env vr.hallId vr.range = ∅
      · exact .inl hnone
      · exact .inr (hiff.mpr hnone)
    · intro hexact
      cases hexact with
      | requested _ hdates =>
          rcases hdates with hnone | hdated
          · rw [hnone]
            exact ⟨fun h => absurd h (Set.notMem_empty _), fun h => absurd rfl h⟩
          · exact ⟨fun _ => Set.nonempty_iff_ne_empty.mp ⟨_, hdated⟩, fun _ => hdated⟩
      | bothFree b hb hother _ _ => exact absurd (hkept b hb) hother
      | bothTaken b hb hother _ _ => exact absurd (hkept b hb) hother
  · obtain ⟨b, hb, hother⟩ : ∃ b, p.booking = some b ∧ ¬ b.IsFor vr := by
      simp only [not_forall] at hkept
      obtain ⟨b, hb, hother⟩ := hkept
      exact ⟨b, hb, hother⟩
    rw [bookingToConfirm_kept hb]
    constructor
    · intro hiff
      by_cases hdated : vr.requestedDate ∈ datesTaken env vr.hallId vr.range
      · exact .bothTaken b hb hother (hiff.mp hdated) hdated
      · refine .bothFree b hb hother ?_ hdated
        by_contra hsome
        exact hdated (hiff.mpr hsome)
    · intro hexact
      cases hexact with
      | requested hall _ => exact absurd (hall b hb) hother
      | bothFree b' hb' _ hfree hdates =>
          cases hb.symm.trans hb'
          exact ⟨fun h => absurd h hdates, fun h => absurd hfree h⟩
      | bothTaken b' hb' _ htaken hdates =>
          cases hb.symm.trans hb'
          exact ⟨fun _ => htaken, fun _ => hdates⟩

end SecondStep

namespace Sample

/-- A booking of the hall 60 from 500 to 1500, by another proposal. -/
def nightBooking (bookingDate : Instant) : HallBookingConfirmed where
  id := uid 410
  hallId := uid 60
  venueRequestId := uid 411
  bookingDate := bookingDate
  startTime := 500
  endTime := 1500
  isActive := true

/-- PostgreSQL, with that booking. -/
def nightEnv (bookingDate : Instant) : ReviewEnv :=
  { reviewEnv staff with
    backend := .postgresql
    otherBookings := [nightBooking bookingDate] }

theorem nightEnv_rows (bookingDate : Instant) :
    ∀ o ∈ (nightEnv bookingDate).otherBookings, o.Check := by
  intro o ho
  rw [List.mem_singleton.mp ho]
  show (500 : Int) < 1500
  omega

/-- The sample proposal waits for the second step, its hall requested for 1000 and not yet booked. -/
theorem awaits_second_step :
    ∃ d step inst vr, Dossier.Reachable (config .postgresql) d ∧
      loadStep (uid 312) d.proposal = .ok (step, inst) ∧
      verifyDecision approveWords warden step inst d.proposal.request = .ok () ∧
      step.stepOrder = 2 ∧ d.proposal.venueRequest = some vr ∧ d.proposal.booking = none ∧
      vr.hallId = uid 60 ∧ vr.requestedDate = 1000 ∧ vr.startTime = 1000 ∧ vr.endTime = 2000 := by
  have hrun : Runs.Ends (afterOnPostgres (fun _ _ => True)
      (plan ++ [submit staff secretary 1, approve advisor 1 1])) fun d =>
      Runs.Ends (loadStep (uid 312) d.proposal) (fun found =>
        Runs.Ends (verifyDecision approveWords warden found.1 found.2 d.proposal.request)
          (fun _ => True) ∧ found.1.stepOrder = 2) ∧
      d.proposal.booking = none ∧ ∃ vr ∈ d.proposal.venueRequest,
        vr.hallId = uid 60 ∧ vr.requestedDate = 1000 ∧ vr.startTime = 1000 ∧ vr.endTime = 2000 := by
    decide
  obtain ⟨d, hok, ⟨⟨step, inst⟩, hload, ⟨_, hver, _⟩, h2⟩, hb, vr, hvr, hslot⟩ := hrun
  obtain ⟨d0, h0, hpath⟩ := path_of_afterOnPostgres hok
  exact ⟨d, step, inst, vr, (Runs.Reach.start h0).path (Runs.Path.of_restrict hpath), hload, hver, h2,
    hvr, hb, hslot⟩

/-- The booking overlaps the request of the sample proposal. -/
theorem nightBooking_blocks {vr : VenueRequest} (bookingDate : Instant)
    (hslot : vr.hallId = uid 60 ∧ vr.requestedDate = 1000 ∧ vr.startTime = 1000 ∧
      vr.endTime = 2000) :
    vr.Check ∧ Blocks (nightBooking bookingDate) vr.hallId vr.range := by
  obtain ⟨hhall, _, hstart, hend⟩ := hslot
  have hcheck : vr.Check := by
    unfold VenueRequest.Check
    rw [hstart, hend]
    decide
  refine ⟨hcheck, ?_⟩
  unfold VenueRequest.range
  rw [blocks_iff (nightEnv_rows bookingDate _ (List.mem_singleton_self _)) hcheck]
  refine ⟨rfl, hhall.symm, ?_, ?_⟩
  · rw [hend]
    show (500 : Int) < 2000
    omega
  · rw [hstart]
    show (1000 : Int) < 1500
    omega

end Sample

/-- Dated 1000, the booking meets the condition, and is found. -/
theorem venue_conflict_exact_iff_night :
    ∃ (d : Dossier) (vr : VenueRequest), Dossier.Reachable (Sample.config .postgresql) d ∧
      d.proposal.venueRequest = some vr ∧
      approveStep (Sample.nightEnv 1000) Sample.warden (Sample.uid 312) none (Sample.uid 400)
        (Sample.uid 10) none d.proposal = .error venueConflict := by
  obtain ⟨d, step, inst, vr, hreach, hload, hver, h2, hvr, hb, hslot⟩ := Sample.awaits_second_step
  obtain ⟨hcheck, hblock⟩ := Sample.nightBooking_blocks 1000 hslot
  have hnew : bookingToConfirm (Sample.uid 400) vr d.proposal = bookingOf (Sample.uid 400) vr :=
    bookingToConfirm_new hb
  have hown : ∀ b ∈ d.proposal.booking, b.Check := by
    intro b hmem
    rw [hb] at hmem
    cases hmem
  have hexact : QueryExact (Sample.nightEnv 1000) vr d.proposal := by
    refine .of_dates ?_ ?_
    · intro b hmem
      rw [hb] at hmem
      cases hmem
    · intro o ho _
      rw [List.mem_singleton.mp ho]
      exact hslot.2.1.symm
  refine ⟨d, vr, hreach, hvr, ?_⟩
  refine ((venue_conflict_exact_iff hload hver h2 hvr hcheck (Sample.nightEnv_rows 1000) hown).1.mpr
    hexact).mpr ⟨Sample.nightBooking 1000, List.mem_singleton_self _, ?_⟩
  rw [hnew]
  exact hblock

/-- **A booking of the night before is overlooked**: dated 500, it overlaps the request and PostgreSQL
    would refuse the new row, but the query of the second step does not find it. -/
theorem other_day_overlooked :
    ∃ (d : Dossier) (vr : VenueRequest), Dossier.Reachable (Sample.config .postgresql) d ∧
      d.proposal.venueRequest = some vr ∧ vr.Check ∧
      approveStep (Sample.nightEnv 500) Sample.warden (Sample.uid 312) none (Sample.uid 400)
        (Sample.uid 10) none d.proposal ≠ .error venueConflict ∧
      Excluded (Sample.nightEnv 500) (bookingToConfirm (Sample.uid 400) vr d.proposal) ∧
      ∃ o ∈ (Sample.nightEnv 500).otherBookings,
        Blocks o (bookingToConfirm (Sample.uid 400) vr d.proposal).hallId
          (bookingToConfirm (Sample.uid 400) vr d.proposal).range := by
  obtain ⟨d, step, inst, vr, hreach, hload, hver, h2, hvr, hb, hslot⟩ := Sample.awaits_second_step
  obtain ⟨hcheck, hblock⟩ := Sample.nightBooking_blocks 500 hslot
  have hnew : bookingToConfirm (Sample.uid 400) vr d.proposal = bookingOf (Sample.uid 400) vr :=
    bookingToConfirm_new hb
  have hblocked : ∃ o ∈ (Sample.nightEnv 500).otherBookings,
      Blocks o (bookingToConfirm (Sample.uid 400) vr d.proposal).hallId
        (bookingToConfirm (Sample.uid 400) vr d.proposal).range := by
    rw [hnew]
    exact ⟨Sample.nightBooking 500, List.mem_singleton_self _, hblock⟩
  have hrow : (bookingToConfirm (Sample.uid 400) vr d.proposal).Check := by
    rw [hnew]
    exact hcheck
  refine ⟨d, vr, hreach, hvr, hcheck, ?_, ?_, hblocked⟩
  · rw [ne_eq, approveStep_conflict_iff hload hver h2 hvr]
    intro hfound
    obtain ⟨o, ho, _, hdate, _⟩ := hfound
    rw [List.mem_singleton.mp ho, hslot.2.1] at hdate
    exact absurd hdate (by decide)
  · exact (excluded_iff (Sample.nightEnv_rows 500) hrow).mpr ⟨rfl, hblocked⟩

/-! ## 3. The edit of a venue -/

/-- The refusal of a taken slot. -/
def hallTaken (hall : Hall) : Failure :=
  ⟨.hallConflict, "Hall '%s' is already confirmed for another booking during the requested time " ++
    "slot.", [.text hall.name]⟩

/-- **A new venue request that passes the checks before the conflict query.** -/
structure VenueCreation (env : ReviewEnv) (actor : User) (venueIn : VenueRequestCreate) (p : Proposal)
    (hall : Hall) : Prop where
  opened : openForEditing env.toEnv actor p.request
    ("Cannot request venue for proposal in '%s' status. Only proposals in DRAFT or " ++
      "REVISION_REQUIRED state can request venues.") "request a venue for this event"
    "Club '%s' is currently inactive and cannot request venues." = .ok ()
  found : getHall env venueIn.hallId = .ok hall
  active : hall.isActive = true
  capacity : verifyCapacity (orNumber venueIn.expectedAudience p.request.expectedAttendees) hall =
    .ok ()
  notice : verifyLeadTime env actor venueIn.startTime = .ok ()
  first : p.venueRequest = none

/-- **An edit of hall or times that passes the checks before the conflict query.** -/
structure VenueEdit (env : ReviewEnv) (actor : User) (venueIn : VenueRequestUpdate) (p : Proposal)
    (vr : VenueRequest) (hall : Hall) : Prop where
  opened : openForEditing env.toEnv actor p.request
    ("Cannot update venue for proposal in '%s' status. Only proposals in DRAFT or " ++
      "REVISION_REQUIRED state can modify venue requirements.")
    "modify venue requirements for this event"
    "Club '%s' is currently inactive and cannot modify venue requests." = .ok ()
  request : p.venueRequest = some vr
  ordered : venueIn.startTime.getD vr.startTime < venueIn.endTime.getD vr.endTime
  found : getHall env (venueIn.hallId.getD vr.hallId) = .ok hall
  active : hall.isActive = true
  capacity : verifyCapacity (orNumber (orNumber venueIn.expectedAudience vr.expectedAudience)
    p.request.expectedAttendees) hall = .ok ()
  supplied : venueIn.hallId ≠ none ∨ venueIn.startTime ≠ none ∨ venueIn.endTime ≠ none

/-- **The condition on an edit, denied**: the proposal's own booking is the only one in its way. -/
def OwnBookingOnly (env : ReviewEnv) (p : Proposal) (target : VenueRequest) : Prop :=
  (∃ b ∈ p.booking, Blocks b target.hallId target.range) ∧
    ∀ o ∈ env.otherBookings, ¬ Blocks o target.hallId target.range

section Edit

variable {env : ReviewEnv} {actor : User} {venueIn : VenueRequestUpdate} {p : Proposal}
  {vr : VenueRequest} {hall : Hall}

theorem getHall_id {hallId : Uuid} (h : getHall env hallId = .ok hall) : hall.id = hallId := by
  unfold getHall at h
  rw [fetch_accepts] at h
  have hfound := List.find?_some h
  rw [decide_eq_true_eq] at hfound
  exact hfound

/-- **A new request that passes the other checks** is refused exactly for a slot the query finds taken. -/
theorem VenueCreation.conflict_iff {newId : Uuid} {venueIn : VenueRequestCreate}
    (h : VenueCreation env actor venueIn p hall) :
    createVenueRequest env actor newId venueIn p = .error (hallTaken hall) ↔
      HallTaken env p venueIn.hallId venueIn.startTime venueIn.endTime := by
  have hactive : ¬ hall.isActive = false := by
    rw [h.active]
    decide
  have hfirst : ¬ p.venueRequest ≠ none := not_not_intro h.first
  unfold createVenueRequest
  simp only [h.opened, h.found, h.capacity, h.notice, bind, Except.bind, refuse, if_neg hactive,
    if_neg hfirst, verifyHallFree, getHall_id h.found, true_and]
  by_cases ht : HallTaken env p venueIn.hallId venueIn.startTime venueIn.endTime
  · simp [ht, hallTaken]
  · simp [ht, pure, Except.pure]

/-- An edit that passes the other checks is refused exactly for a hall the query finds taken. -/
theorem VenueEdit.conflict_iff (h : VenueEdit env actor venueIn p vr hall) :
    updateVenueRequest env actor venueIn p = .error (hallTaken hall) ↔
      HallTaken env p hall.id (venueIn.startTime.getD vr.startTime)
        (venueIn.endTime.getD vr.endTime) := by
  have hrequest : getVenueRequest p = .ok vr := by
    unfold getVenueRequest
    rw [fetch_accepts]
    exact h.request
  have hordered : ¬ venueIn.endTime.getD vr.endTime ≤ venueIn.startTime.getD vr.startTime :=
    not_le.mpr h.ordered
  have hactive : ¬ hall.isActive = false := by
    rw [h.active]
    decide
  unfold updateVenueRequest
  simp only [h.opened, hrequest, h.found, h.capacity, bind, Except.bind, refuse, if_neg hordered,
    if_neg hactive, verifyHallFree, h.supplied, true_and]
  by_cases ht : HallTaken env p hall.id (venueIn.startTime.getD vr.startTime)
      (venueIn.endTime.getD vr.endTime)
  · simp [ht, hallTaken]
  · simp [ht, pure, Except.pure]

/-- **The conflict of an edit.** An edit that supplies a hall, a start or an end and passes the other
    checks is refused for the hall exactly when another proposal's booking in force overlaps the
    resulting slot, if and only if the proposal's own booking is not the only one in its way. -/
theorem venue_edit_conflict_iff (h : VenueEdit env actor venueIn p vr hall)
    (hrows : ∀ o ∈ env.otherBookings, o.Check) (hown : ∀ b ∈ p.booking, b.Check) :
    (updateVenueRequest env actor venueIn p = .error (hallTaken hall) ↔
      ∃ o ∈ env.otherBookings, Blocks o (editVenue venueIn hall vr vr).hallId
        (editVenue venueIn hall vr vr).range) ↔
    ¬ OwnBookingOnly env p (editVenue venueIn hall vr vr) := by
  have hhall : (editVenue venueIn hall vr vr).hallId = hall.id := by
    rw [getHall_id h.found]
    exact patched_self ..
  have hrange : (editVenue venueIn hall vr vr).range =
      Set.Ico (venueIn.startTime.getD vr.startTime) (venueIn.endTime.getD vr.endTime) := by
    unfold VenueRequest.range editVenue
    simp only [patched_self]
  unfold OwnBookingOnly
  rw [h.conflict_iff, hallTaken_iff hrows hown h.ordered, hhall, hrange]
  constructor
  · intro hiff hmine
    obtain ⟨o, ho, hblock⟩ := hiff.mp (.inl hmine.1)
    exact hmine.2 o ho hblock
  · intro hnot
    constructor
    · intro htaken
      rcases htaken with hmine | hother
      · by_contra hnone
        exact hnot ⟨hmine, fun o ho hblock => hnone ⟨o, ho, hblock⟩⟩
      · exact hother
    · intro hother
      exact .inr hother

end Edit

namespace Sample

def postgresEnv : ReviewEnv := { reviewEnv staff with backend := .postgresql }

/-- The club ends its event 100 seconds earlier. -/
def earlierEnd : VenueRequestUpdate := { endTime := some 1900 }

/-- The club moves its event to the hall 61. -/
def otherHall : VenueRequestUpdate := { hallId := some (uid 61) }

/-- Hall and capacity of an edit are in order. -/
def HallInOrder (venueIn : VenueRequestUpdate) (p : Proposal) (vr : VenueRequest) : Prop :=
  Runs.Ends (getHall postgresEnv (venueIn.hallId.getD vr.hallId)) fun hall =>
    hall.isActive = true ∧
      Runs.Ends (verifyCapacity (orNumber (orNumber venueIn.expectedAudience vr.expectedAudience)
        p.request.expectedAttendees) hall) fun _ => True

instance (venueIn : VenueRequestUpdate) (p : Proposal) (vr : VenueRequest) :
    Decidable (HallInOrder venueIn p vr) := inferInstanceAs (Decidable (Runs.Ends _ _))

/-- Sent back after the second step, the sample proposal may edit its venue; its own booking of the
    hall 60 from 1000 to 2000 is in force. -/
theorem sent_back_booked :
    ∃ d vr hall other b, Dossier.Reachable (config .postgresql) d ∧
      VenueEdit postgresEnv secretary earlierEnd d.proposal vr hall ∧
      VenueEdit postgresEnv secretary otherHall d.proposal vr other ∧
      d.proposal.booking = some b ∧ b.isActive = true ∧ b.hallId = vr.hallId ∧
      vr.hallId = uid 60 ∧ b.startTime = 1000 ∧ b.endTime = 2000 ∧ vr.startTime = 1000 ∧
      vr.endTime = 2000 := by
  have hrun : Runs.Ends (afterOnPostgres (fun _ _ => True) (plan ++ [submit staff secretary 1,
      approve advisor 1 1, approve warden 1 2, revise officer 1 3])) fun d =>
      Runs.Ends (openForEditing postgresEnv.toEnv secretary d.proposal.request
        ("Cannot update venue for proposal in '%s' status. Only proposals in DRAFT or " ++
          "REVISION_REQUIRED state can modify venue requirements.")
        "modify venue requirements for this event"
        "Club '%s' is currently inactive and cannot modify venue requests.") (fun _ => True) ∧
      ∃ vr ∈ d.proposal.venueRequest, ∃ b ∈ d.proposal.booking,
        HallInOrder earlierEnd d.proposal vr ∧ HallInOrder otherHall d.proposal vr ∧
        b.isActive = true ∧ b.hallId = vr.hallId ∧ vr.hallId = uid 60 ∧ b.startTime = 1000 ∧
        b.endTime = 2000 ∧ vr.startTime = 1000 ∧ vr.endTime = 2000 := by
    decide
  obtain ⟨d, hok, ⟨_, hopen, _⟩, vr, hvr, b, hb, hfirst, hsecond, hslot⟩ := hrun
  obtain ⟨hall, hhall, hactive, _, hcap, _⟩ := hfirst
  obtain ⟨other, hother, hactive', _, hcap', _⟩ := hsecond
  obtain ⟨d0, h0, hpath⟩ := path_of_afterOnPostgres hok
  have hstart : vr.startTime = 1000 := hslot.2.2.2.2.2.1
  have hend : vr.endTime = 2000 := hslot.2.2.2.2.2.2
  have hordered : vr.startTime < (1900 : Instant) := by
    rw [hstart]
    decide
  have hordered' : vr.startTime < vr.endTime := by
    rw [hstart, hend]
    decide
  exact ⟨d, vr, hall, other, b, (Runs.Reach.start h0).path (Runs.Path.of_restrict hpath),
    ⟨hopen, hvr, hordered, hhall, hactive, hcap, .inr (.inr (by decide))⟩,
    ⟨hopen, hvr, hordered', hother, hactive', hcap', .inl (by decide)⟩, hb, hslot⟩

end Sample

/-- The hall 61 is free for the sample proposal sent back. -/
theorem venue_edit_conflict_iff_moved :
    ∃ d vr hall, Dossier.Reachable (Sample.config .postgresql) d ∧
      VenueEdit Sample.postgresEnv Sample.secretary Sample.otherHall d.proposal vr hall ∧
      updateVenueRequest Sample.postgresEnv Sample.secretary Sample.otherHall
        d.proposal ≠ .error (hallTaken hall) := by
  obtain ⟨d, vr, _, other, b, hreach, _, hedit, hb, hact, hhall, hsixty, hbs, hbe, hvs, hve⟩ :=
    Sample.sent_back_booked
  have hrows : ∀ o ∈ Sample.postgresEnv.otherBookings, o.Check :=
    fun o ho => nomatch ho
  have hown : ∀ c ∈ d.proposal.booking, c.Check := by
    intro c hc
    obtain rfl : b = c := Option.some.inj (hb.symm.trans hc)
    unfold HallBookingConfirmed.Check
    rw [hbs, hbe]
    decide
  have hnot : ¬ OwnBookingOnly Sample.postgresEnv d.proposal
      (editVenue Sample.otherHall other vr vr) := by
    intro hmine
    obtain ⟨⟨c, hc, _, hsame, _⟩, _⟩ := hmine
    obtain rfl : b = c := Option.some.inj (hb.symm.trans hc)
    have htarget : (editVenue Sample.otherHall other vr vr).hallId = Sample.uid 61 :=
      patched_self vr.hallId (some (Sample.uid 61))
    rw [hhall, hsixty, htarget] at hsame
    exact absurd hsame (by decide)
  refine ⟨d, vr, other, hreach, hedit, fun hrefused => ?_⟩
  obtain ⟨o, ho, _⟩ := ((venue_edit_conflict_iff hedit hrows hown).mpr hnot).mp hrefused
  cases ho

/-- **The proposal's own booking blocks its revision**: sent back with the hall 60 booked, it cannot
    end earlier there, though no other proposal has a booking. -/
theorem own_booking_blocks :
    ∃ d vr hall, Dossier.Reachable (Sample.config .postgresql) d ∧
      VenueEdit Sample.postgresEnv Sample.secretary Sample.earlierEnd d.proposal vr hall ∧
      updateVenueRequest Sample.postgresEnv Sample.secretary Sample.earlierEnd
        d.proposal = .error (hallTaken hall) ∧
      Sample.postgresEnv.otherBookings = [] := by
  obtain ⟨d, vr, hall, _, b, hreach, hedit, _, hb, hact, hhall, _, hbs, hbe, hvs, hve⟩ :=
    Sample.sent_back_booked
  refine ⟨d, vr, hall, hreach, hedit, hedit.conflict_iff.mpr ?_, rfl⟩
  refine ⟨b, ?_, hhall.trans (getHall_id hedit.found).symm, hact, ?_, ?_⟩
  · rw [hb]
    exact List.mem_append_left _ (List.mem_singleton_self b)
  · rw [hbs]
    show (1000 : Int) < 1900
    omega
  · rw [hbe]
    show (2000 : Instant) > vr.startTime
    rw [hvs]
    decide

end CampusConnect
