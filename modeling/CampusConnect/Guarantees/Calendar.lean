/-
  File:      CampusConnect/Guarantees/Calendar.lean
  Subject:   The bookings of all proposals: no hall is given to two of them at one time.

  * `Proposal.Slotted`, `Traced.slotted`: the slots of a dossier, and when its booking is out of force;
  * `Dossier.Step.booking`: what a request does to the booking, `Disjoined`, `Charted`: the invariant of
    the calendar, `CampusOp.Dated`: the condition under which the second step's query is enough;
  * `no_double_booking`: two proposals never hold one hall at one instant;
  * `availability_exact`: what the availability query answers is what the calendar says and what a
    venue request meets.
-/
import CampusConnect.Campus
import CampusConnect.Guarantees.Evidence
import CampusConnect.Guarantees.Halls
import CampusConnect.Guarantees.Release
import Mathlib.Order.CompletePartialOrder

namespace CampusConnect

open Guarded Rows EventService VenueService WorkflowService

/-! ## 1. The booking of one dossier -/

/-- The requested slot and the booked one end after they begin, and a booking that is out of force is
    that of a proposal that has ended. -/
structure Proposal.Slotted (p : Proposal) : Prop where
  venue : ∀ vr ∈ p.venueRequest, vr.Check
  booking : ∀ b ∈ p.booking, b.Check
  released : ∀ b ∈ p.booking, b.isActive = false → p.request.status.Ended

section Dossiers

variable {cfg : Config} {env : ReviewEnv} {actor : User} {d d' : Dossier} {p q : Proposal}
  {op : ReviewOp} {r : Request}

/-- The booking after the second step: the one there was, in force, or a new one of the request. -/
theorem VenueApproved.books {newId : Uuid} {v : Option VenueRequest}
    {b : Option HallBookingConfirmed} (h : VenueApproved env actor newId p v b)
    (hlive : ∀ b ∈ p.booking, b.isActive = true) :
    b = p.booking ∨ ∃ vr, p.venueRequest = some vr ∧ b = some (bookingOf newId vr) ∧
      ¬ Excluded env (bookingOf newId vr) := by
  cases h with
  | absent hnone => exact .inl rfl
  | booked vr hvr hb hfree => exact .inr ⟨vr, hvr, rfl, hfree⟩
  | kept vr b' hvr hb hfree =>
      have hact := hlive b' hb
      refine .inl ?_
      rw [hb, ← hact]

/-- The slots of the venue request are not written by a decision. -/
theorem VenueApproved.checked {newId : Uuid} {v : Option VenueRequest}
    {b : Option HallBookingConfirmed} (h : VenueApproved env actor newId p v b)
    (hp : p.Slotted) :
    (∀ vr ∈ v, vr.Check) ∧ ∀ b' ∈ b, b'.Check ∧ (b'.isActive = true ∨ p.booking = some b') := by
  cases h with
  | absent hnone =>
      refine ⟨fun vr hvr => ?_, fun b' hb' => ⟨hp.booking b' hb', .inr hb'⟩⟩
      cases hvr
  | booked vr hvr hb hfree =>
      refine ⟨fun v hv => ?_, fun b' hb' => ?_⟩
      · cases hv
        exact hp.venue vr hvr
      · cases hb'
        exact ⟨hp.venue vr hvr, .inl rfl⟩
  | kept vr b hvr hb hfree =>
      refine ⟨fun v hv => ?_, fun b' hb' => ?_⟩
      · cases hv
        exact hp.venue vr hvr
      · cases hb'
        exact ⟨hp.booking b hb, .inl rfl⟩

/-- The slots of a proposal that ends: its venue request keeps its slot, its booking is released. -/
theorem Proposal.Slotted.ended (h : p.Slotted) (f : VenueRequest → VenueRequest)
    (hf : ∀ vr, vr.Check → (f vr).Check) (hvenue : q.venueRequest = p.venueRequest.map f)
    (hbooking : q.booking = p.booking.map releasedBooking) (hend : q.request.status.Ended) :
    q.Slotted := by
  refine ⟨fun vr hvr => ?_, fun b hb => ?_, fun _ _ _ => hend⟩
  · rw [hvenue] at hvr
    obtain ⟨v, hv, rfl⟩ := Option.map_eq_some_iff.mp hvr
    exact hf v (h.venue v hv)
  · rw [hbooking] at hb
    obtain ⟨b', hb', rfl⟩ := Option.map_eq_some_iff.mp hb
    exact h.booking b' hb'

/-- **The step lemma of the slots.** -/
theorem ReviewStep.slotted (hstand : Standing p) (h : p.Slotted) (hs : ReviewStep env actor p op q) :
    q.Slotted := by
  by_cases hend : p.request.status.Ended
  · obtain ⟨verificationIn, bp, _, _, rfl⟩ := hs.of_ended hstand hend
    exact ⟨h.venue, h.booking, h.released⟩
  have hlive : ∀ b ∈ p.booking, b.isActive = true := by
    intro b hb
    by_contra hout
    exact hend (h.released b hb (Bool.eq_false_iff.mpr hout))
  -- what leaves the booking leaves it in force
  have hkept : ∀ {r : Proposal}, (∀ vr ∈ r.venueRequest, vr.Check) → r.booking = p.booking →
      r.Slotted := by
    intro r hv hb
    refine ⟨hv, fun b hmem => h.booking b (hb ▸ hmem), fun b hmem hout => ?_⟩
    rw [hlive b (hb ▸ hmem)] at hout
    cases hout
  cases hs with
  | drafted eventIn hed => exact hkept h.venue rfl
  | repeated summary key keys ha => exact h
  | submitted summary key keys _ hsub =>
      exact hkept (fun vr hvr => h.venue vr (hsub.venue ▸ hvr)) hsub.booking
  | approved stepId comments newBookingId newEventId step inst _ hd happ =>
      by_cases h2 : step.stepOrder = 2
      · obtain ⟨hv, hb⟩ := VenueApproved.checked (happ.venue h2) h
        refine ⟨hv, fun b hmem => (hb b hmem).1, fun b hmem hout => ?_⟩
        rcases (hb b hmem).2 with hact | hold
        · rw [hact] at hout
          cases hout
        · rw [hlive b hold] at hout
          cases hout
      · obtain ⟨hvenue, hbooking⟩ := happ.venueKept h2
        exact hkept (fun vr hvr => h.venue vr (hvenue ▸ hvr)) hbooking
  | rejected stepId comments step inst _ hd hrej =>
      refine h.ended (rejectedVenue comments) (fun vr hvr => hvr) hrej.venue hrej.booking ?_
      rw [hrej.request]
      exact .inr (.inl rfl)
  | revised stepId comments step inst t hd ht => exact hkept h.venue rfl
  | venueCreated newId venueIn hall hed hnone hc =>
      refine hkept (fun vr hvr => ?_) rfl
      cases hvr
      exact hc
  | venueUpdated venueIn vr hall hed hvr hc =>
      refine hkept (fun v hv => ?_) rfl
      cases hv
      exact hc
  | venueDeleted hed => exact hkept (fun v hv => by cases hv) rfl
  | budgetCreated newId newItemId budgetIn items hed hnone hc hids => exact hkept h.venue rfl
  | budgetUpdated budgetIn bp hed hbp hc => exact hkept h.venue rfl
  | budgetDeleted hed => exact hkept h.venue rfl
  | itemAdded newId itemIn bp total hed hbp => exact hkept h.venue rfl
  | itemUpdated itemId itemIn bp item total hed hbp hitem => exact hkept h.venue rfl
  | itemDeleted itemId bp item total hed hbp hitem => exact hkept h.venue rfl
  | verified verificationIn bp hbp => exact hkept h.venue rfl

/-- The step lemma of the slots, for every request. -/
theorem Traced.slotted (hin : InStanding d) (h : d.proposal.Slotted) (hs : Traced cfg d r d') :
    d'.proposal.Slotted := by
  cases hs with
  | review env actor op d q entries hstep =>
      rw [Dossier.proposal_flushed]
      exact hstep.slotted hin.rows h
  | withdrawn c p logs entries hst =>
      refine h.ended withdrawVenue (fun vr hvr => ?_) (withdrawn_venue p) (withdrawn_booking p) ?_
      · unfold withdrawVenue
        by_cases happ : vr.status = .approved
        · rw [if_pos happ]
          exact hvr
        · rw [if_neg happ]
          exact hvr
      · rw [Dossier.proposal_proposed, (withdrawn_rows p).2.2.2]
        exact .inr (.inr rfl)
  | event c s s' hstep =>
      rcases hstep.proposal hin.approved with hsame | ⟨_, hrel⟩
      · rw [Dossier.proposal_confirmed, hsame]
        exact h
      · rw [Dossier.proposal_confirmed, hrel, releaseHall_eq]
        exact h.ended id (fun vr hvr => hvr) Option.map_id'.symm rfl (.inl hin.approved)

/-- A new draft has no venue request and no booking. -/
theorem Drafted.unbooked (h : Drafted d) : d.proposal.booking = none := by
  obtain ⟨request, logs, rfl, _⟩ := h.row
  rfl

theorem Drafted.slotted (h : Drafted d) : d.proposal.Slotted := by
  obtain ⟨request, logs, rfl, _⟩ := h.row
  refine ⟨fun vr hvr => ?_, fun b hb => ?_, fun b hb => ?_⟩
  · cases hvr
  · cases hb
  · cases hb

/-- **What a request does to the booking**: it stays, is out of force, or is a new one of the requested
    slot, which the constraint and the query of the second step have both let pass. -/
theorem Dossier.Step.booking (hin : InStanding d) (h : d.proposal.Slotted)
    (hs : Dossier.Step cfg d r d') :
    d'.proposal.booking = d.proposal.booking ∨ (∀ b ∈ d'.proposal.booking, b.isActive = false) ∨
      ∃ env actor stepId comments newBookingId newEventId vr,
        r = .review env actor (.approveStep stepId comments newBookingId newEventId) ∧
        d.proposal.venueRequest = some vr ∧
        d'.proposal.booking = some (bookingOf newBookingId vr) ∧
        ¬ Excluded env (bookingOf newBookingId vr) ∧ ¬ VenueConflict env vr := by
  have hfree : ∀ {b : Option HallBookingConfirmed}, b = d.proposal.booking.map releasedBooking →
      ∀ b' ∈ b, b'.isActive = false := by
    intro b hb b' hmem
    rw [hb] at hmem
    obtain ⟨o, _, rfl⟩ := Option.map_eq_some_iff.mp hmem
    rfl
  cases r with
  | event c =>
      cases hs.traced with
      | withdrawn c p logs entries hst => exact .inr (.inl (hfree (withdrawn_booking p)))
      | event c s s' hstep =>
          rcases hstep.proposal hin.approved with hsame | ⟨_, hrel⟩
          · exact .inl (by rw [Dossier.proposal_confirmed, hsame]; rfl)
          · refine .inr (.inl (hfree ?_))
            rw [Dossier.proposal_confirmed, hrel, releaseHall_eq]
            rfl
  | review env actor op =>
      obtain ⟨f, q, hf, hq, hrows⟩ := hs.flush
      rw [hrows]
      by_cases happrove : ∃ stepId comments newBookingId newEventId,
          op = .approveStep stepId comments newBookingId newEventId
      · obtain ⟨stepId, comments, newBookingId, newEventId, rfl⟩ := happrove
        obtain ⟨step, inst, hd, hconflict, happ, _⟩ := approveStep_writes hf hq
        by_cases h2 : step.stepOrder = 2
        · -- the proposal is under review, so that a booking it has is in force
          have hlive : ∀ b ∈ d.proposal.booking, b.isActive = true := by
            intro b hb
            by_contra hout
            exact (h.released b hb (Bool.eq_false_iff.mpr hout)).not_underReview
              (hin.rows.deciding hd).request
          rcases VenueApproved.books (happ.venue h2) hlive with hsame | ⟨vr, hvr, hnew, hexcl⟩
          · exact .inl hsame
          · refine .inr (.inr ⟨env, actor, stepId, comments, newBookingId, newEventId, vr, rfl, hvr,
              hnew, hexcl, fun hc => hconflict ⟨h2, vr, hvr, hc⟩⟩)
        · exact .inl (happ.venueKept h2).2
      · obtain ⟨hstep, _⟩ := ReviewOp.step hf hq
        cases hstep with
        | submitted summary key keys _ hsub => exact .inl hsub.booking
        | approved stepId comments newBookingId newEventId step inst _ hd happ =>
            exact (happrove ⟨stepId, comments, newBookingId, newEventId, rfl⟩).elim
        | rejected stepId comments step inst _ hd hrej => exact .inr (.inl (hfree hrej.booking))
        | _ => exact .inl rfl

end Dossiers

/-! ## 2. The calendar -/

/-- The date of the request is the day of its first and of its last instant. -/
def VenueRequest.Dated (day : Instant → Instant) (vr : VenueRequest) : Prop :=
  day vr.startTime = vr.requestedDate ∧ day (vr.endTime - 1) = vr.requestedDate

instance (day : Instant → Instant) (vr : VenueRequest) : Decidable (vr.Dated day) :=
  inferInstanceAs (Decidable (_ ∧ _))

def HallBookingConfirmed.Dated (day : Instant → Instant) (b : HallBookingConfirmed) : Prop :=
  day b.startTime = b.bookingDate ∧ day (b.endTime - 1) = b.bookingDate

/-- **The condition**: what an approver books is a slot within the day it is requested for. -/
def CampusOp.Dated (day : Instant → Instant) (c : Campus) : CampusOp → Prop
  | .visit (.request i (.review _ _ (.approveStep _ _ _ _))) =>
      ∀ d ∈ c.registry.dossiers[i]?, ∀ vr ∈ d.proposal.venueRequest, vr.Dated day
  | _ => True

instance (day : Instant → Instant) (c : Campus) : (op : CampusOp) → Decidable (op.Dated day c)
  | .visit (.request i (.review _ _ (.approveStep ..))) =>
      inferInstanceAs (Decidable (∀ d ∈ c.registry.dossiers[i]?, ∀ vr ∈ d.proposal.venueRequest, _))
  | .visit (.request _ (.review _ _ (.updateDraft ..)))
  | .visit (.request _ (.review _ _ (.submitProposal ..)))
  | .visit (.request _ (.review _ _ (.rejectStep ..)))
  | .visit (.request _ (.review _ _ (.requestRevision ..)))
  | .visit (.request _ (.review _ _ (.createVenueRequest ..)))
  | .visit (.request _ (.review _ _ (.updateVenueRequest ..)))
  | .visit (.request _ (.review _ _ .deleteVenueRequest))
  | .visit (.request _ (.review _ _ (.createBudgetProposal ..)))
  | .visit (.request _ (.review _ _ (.updateBudgetProposal ..)))
  | .visit (.request _ (.review _ _ .deleteBudgetProposal))
  | .visit (.request _ (.review _ _ (.addLineItem ..)))
  | .visit (.request _ (.review _ _ (.updateLineItem ..)))
  | .visit (.request _ (.review _ _ (.deleteLineItem ..)))
  | .visit (.request _ (.review _ _ (.verifyBudget ..)))
  | .visit (.request _ (.event _)) | .visit (.draft ..) | .visit (.upload ..)
  | .visit (.deleteDocument ..) | .govern _ | .createHall .. => isTrue trivial

/-- No two dossiers hold one hall at one instant. -/
def Disjoined (dossiers : List Dossier) : Prop :=
  ∀ (i j : Nat) (d e : Dossier), i ≠ j → dossiers[i]? = some d → dossiers[j]? = some e →
    ∀ b ∈ d.proposal.booking, ∀ o ∈ e.proposal.booking, b.isActive = true → o.isActive = true →
      b.hallId = o.hallId → Disjoint b.range o.range

/-- **The invariant of the calendar**; on SQLite the bookings in force are dated, too. -/
structure Charted (cfg : Config) (day : Instant → Instant) (w : Registry) : Prop where
  keyed : Keyed w
  slotted : ∀ (i : Nat) (d : Dossier), w.dossiers[i]? = some d → d.proposal.Slotted
  apart : Disjoined w.dossiers
  dated : cfg.backend = .postgresql ∨ ∀ (i : Nat) (d : Dossier), w.dossiers[i]? = some d →
    ∀ b ∈ d.proposal.booking, b.isActive = true → b.Dated day

section Calendar

variable {cfg : Config} {nfkd : Text → Text} {files : FileSettings} {day : Instant → Instant}
  {c c' : Campus} {op : CampusOp} {w : Registry} {d d' : Dossier} {i : Nat}

/-- A slot within one day is of that day throughout. -/
theorem day_of_mem {startTime endTime date t : Instant} (hday : Monotone day)
    (hfirst : day startTime = date) (hlast : day (endTime - 1) = date)
    (ht : t ∈ Set.Ico startTime endTime) : day t = date := by
  obtain ⟨hle, hlt⟩ := ht
  have hfrom : date ≤ day t := by
    rw [← hfirst]
    exact hday hle
  have hto : day t ≤ date := by
    rw [← hlast]
    exact hday (Int.le_sub_one_of_lt hlt)
  exact le_antisymm hto hfrom

/-- The bookings another proposal reads. -/
theorem mem_bookingsOf {dossiers : List Dossier} {b : HallBookingConfirmed} :
    b ∈ bookingsOf (dossiers.eraseIdx i) ↔
      ∃ (j : Nat) (e : Dossier), j ≠ i ∧ dossiers[j]? = some e ∧ b ∈ e.proposal.booking := by
  unfold bookingsOf
  rw [List.mem_flatMap]
  constructor
  · rintro ⟨e, he, hb⟩
    obtain ⟨j, hj, hget⟩ := List.mem_eraseIdx_iff_getElem?.mp he
    exact ⟨j, e, hj, hget, Option.mem_toList.mp hb⟩
  · rintro ⟨j, e, hj, hget, hb⟩
    exact ⟨e, List.mem_eraseIdx_iff_getElem?.mpr ⟨j, hj, hget⟩, Option.mem_toList.mpr hb⟩

/-- **A new booking is apart from the others**: by the constraint on PostgreSQL, and elsewhere by the query
    of the second step, where the slots are dated. -/
theorem Charted.apart_new (h : Charted cfg day w) (hday : Monotone day) {env : ReviewEnv}
    (hback : env.backend = cfg.backend)
    (hother : env.otherBookings = bookingsOf (w.dossiers.eraseIdx i))
    {newId : Uuid} {vr : VenueRequest} (hcheck : vr.Check)
    (hexcl : ¬ Excluded env (bookingOf newId vr)) (hquery : ¬ VenueConflict env vr)
    (hdated : cfg.backend = .postgresql ∨ vr.Dated day) {j : Nat} {e : Dossier} (hj : j ≠ i)
    (he : w.dossiers[j]? = some e) {o : HallBookingConfirmed} (ho : o ∈ e.proposal.booking)
    (hact : o.isActive = true) (hhall : vr.hallId = o.hallId) : Disjoint vr.range o.range := by
  have hrows : ∀ o ∈ env.otherBookings, o.Check := by
    intro o ho
    rw [hother] at ho
    obtain ⟨k, f, _, hf, hmem⟩ := mem_bookingsOf.mp ho
    exact (h.slotted k f hf).booking o hmem
  have hmem : o ∈ env.otherBookings := by
    rw [hother]
    exact mem_bookingsOf.mpr ⟨j, e, hj, he, ho⟩
  rw [Set.disjoint_iff_inter_eq_empty, ← Set.not_nonempty_iff_eq_empty]
  rintro ⟨t, hvr, hot⟩
  have hblocks : Blocks o vr.hallId vr.range := ⟨hact, hhall.symm, t, hot, hvr⟩
  by_cases hpg : cfg.backend = .postgresql
  · have hslot : (bookingOf newId vr).Check := hcheck
    exact hexcl ((excluded_iff hrows hslot).mpr ⟨hback.trans hpg, o, hmem, hblocks⟩)
  · -- both are of the day of the instant they share
    obtain ⟨hfirst, hlast⟩ := hdated.resolve_left hpg
    obtain ⟨hfirst', hlast'⟩ := h.dated.resolve_left hpg j e he o ho hact
    have hdate := day_of_mem hday hfirst hlast hvr
    have hdate' := day_of_mem hday hfirst' hlast' hot
    exact hquery ((venueConflict_iff hrows hcheck).mpr
      ⟨o, hmem, hdate'.symm.trans hdate, hblocks⟩)

/-- A change of one dossier that leaves its booking, releases it, or sets one apart from the others. -/
theorem Charted.updated (h : Charted cfg day w) (hk : Keyed (w.update i d'))
    (hd : w.dossiers[i]? = some d) (hslot : d'.proposal.Slotted)
    (hnew : ∀ b ∈ d'.proposal.booking, b.isActive = true → b ∈ d.proposal.booking ∨
      ((∀ (j : Nat) (e : Dossier), j ≠ i → w.dossiers[j]? = some e → ∀ o ∈ e.proposal.booking,
          o.isActive = true → b.hallId = o.hallId → Disjoint b.range o.range) ∧
        (cfg.backend = .postgresql ∨ b.Dated day))) : Charted cfg day (w.update i d') := by
  -- the changed dossier against another one
  have hone : ∀ (j : Nat) (e : Dossier), j ≠ i → w.dossiers[j]? = some e →
      ∀ b ∈ d'.proposal.booking, ∀ o ∈ e.proposal.booking, b.isActive = true → o.isActive = true →
        b.hallId = o.hallId → Disjoint b.range o.range := by
    intro j e hj he b hb o ho hbact hoact hhall
    rcases hnew b hb hbact with hold | ⟨hapart, _⟩
    · exact h.apart i j d e hj.symm hd he b hold o ho hbact hoact hhall
    · exact hapart j e hj he o ho hoact hhall
  refine ⟨hk, fun j e he => ?_, fun j k e f hjk he hf b hb o ho hbact hoact hhall => ?_, ?_⟩
  · rcases Registry.get_update hd he with ⟨_, rfl⟩ | ⟨_, he⟩
    · exact hslot
    · exact h.slotted j e he
  · rcases Registry.get_update hd he with ⟨hj, rfl⟩ | ⟨hj, hold⟩
    · rcases Registry.get_update hd hf with ⟨hk, _⟩ | ⟨hk, hold⟩
      · exact (hjk (hj.trans hk.symm)).elim
      · exact hone k f hk hold b hb o ho hbact hoact hhall
    · rcases Registry.get_update hd hf with ⟨_, rfl⟩ | ⟨_, hold'⟩
      · exact (hone j e hj hold o ho b hb hoact hbact hhall.symm).symm
      · exact h.apart j k e f hjk hold hold' b hb o ho hbact hoact hhall
  · by_cases hpg : cfg.backend = .postgresql
    · exact .inl hpg
    · have hdated := h.dated.resolve_left hpg
      refine .inr fun j e he b hb hact => ?_
      rcases Registry.get_update hd he with ⟨_, rfl⟩ | ⟨_, hold⟩
      · rcases hnew b hb hact with hold | ⟨_, hday⟩
        · exact hdated i d hd b hold hact
        · exact hday.resolve_left hpg
      · exact hdated j e hold b hb hact

/-- **The step lemma of the calendar.** -/
theorem Charted.visited (hday : Monotone day) (h : Charted cfg day c.registry) {v : Visit}
    (hs : Registry.Step cfg files c.registry (v.among cfg c) w)
    (hok : cfg.backend = .postgresql ∨ (CampusOp.visit v).Dated day c) : Charted cfg day w := by
  have hk : Keyed w := hs.step.keyed h.keyed
  rcases hs.dossiers with ⟨env, actor, newId, eventIn, d, _, hd, rfl⟩ |
    ⟨i, r, d, d', hv, hd, hstep, rfl⟩ | hsame
  · -- a new draft has no venue request and no booking
    have hdraft : Drafted d := ⟨env, actor, newId, eventIn, hd⟩
    have hnone := hdraft.unbooked
    refine ⟨hk, fun j e he => ?_, fun j k e f hjk he hf b hb o ho => ?_, ?_⟩
    · rcases Registry.get_add he with ⟨_, rfl⟩ | ⟨_, hold⟩
      · exact hdraft.slotted
      · exact h.slotted j e hold
    · rcases Registry.get_add he with ⟨_, rfl⟩ | ⟨_, hold⟩
      · rw [hnone] at hb
        cases hb
      · rcases Registry.get_add hf with ⟨_, rfl⟩ | ⟨_, hold'⟩
        · rw [hnone] at ho
          cases ho
        · exact h.apart j k e f hjk hold hold' b hb o ho
    · refine h.dated.imp id fun hdated j e he b hb => ?_
      rcases Registry.get_add he with ⟨_, rfl⟩ | ⟨_, hold⟩
      · rw [hnone] at hb
        cases hb
      · exact hdated j e hold b hb
  · have hin := (h.keyed.standing i d hd).1
    have hslot := h.slotted i d hd
    refine h.updated hk hd (hstep.traced.slotted hin hslot) fun b hb hact => ?_
    rcases hstep.booking hin hslot with hsame | hfree |
      ⟨env, actor, stepId, comments, newBookingId, newEventId, vr, hr, hvr, hnew, hexcl, hquery⟩
    · exact .inl (hsame ▸ hb)
    · rw [hfree b hb] at hact
      cases hact
    · -- the approver reads the bookings of the others
      rw [hnew] at hb
      cases hb
      have hcheck := hslot.venue vr hvr
      cases v with
      | request k r' =>
          cases r' with
          | review env' actor' op' =>
              cases hv
              cases hr
              have hdated : cfg.backend = .postgresql ∨ vr.Dated day :=
                hok.imp id fun hd' => hd' d hd vr hvr
              refine .inr ⟨fun j e hj he o ho hoact hhall => ?_, hdated⟩
              exact h.apart_new hday rfl rfl hcheck hexcl hquery hdated hj he ho hoact hhall
          | event call =>
              cases hv
              cases hr
      | draft env' actor' newId eventIn => cases hv
      | upload env' actor' newId eventId u => cases hv
      | deleteDocument env' actor' eventId docId => cases hv
  · refine ⟨hk, fun j e he => h.slotted j e (hsame ▸ he), ?_, ?_⟩
    · rw [hsame]
      exact h.apart
    · rw [hsame]
      exact h.dated

theorem Campus.Opening.charted (files : FileSettings) (h : Campus.Opening c) :
    Charted cfg day c.registry := by
  have hkeyed : Keyed c.registry ∧ Ledgered files c.registry := Registry.Empty.ledgered h.registry
  refine ⟨hkeyed.1, ?_, ?_, .inr ?_⟩ <;> rw [h.registry]
  · intro i d hd
    cases hd
  · intro i j d e _ hd
    cases hd
  · intro i d hd
    cases hd

/-- The calls of a run in which only dated slots are booked, unless the constraint is there. -/
def Campus.DatedStep (cfg : Config) (nfkd : Text → Text) (files : FileSettings)
    (day : Instant → Instant) : Campus → CampusOp → Campus → Prop :=
  Runs.restrict (Campus.Step cfg nfkd files) fun c op => cfg.backend = .postgresql ∨ op.Dated day c

/-- **The run lemma.** -/
theorem charted_of_reach (hday : Monotone day)
    (h : Runs.Reach Campus.Opening (Campus.DatedStep cfg nfkd files day) c) :
    Charted cfg day c.registry := by
  refine Runs.Reach.invariant (P := fun c => Charted cfg day c.registry)
    (fun c hc => hc.charted files) ?_ h
  rintro c op c' hc ⟨hs, hok⟩
  cases Campus.Step.step hs with
  | visited v w hw => exact hc.visited hday hw hok
  | governed op g hg => exact hc
  | built now newId hallIn actor inventory hinv => exact hc

end Calendar

/-- **No hall is given away twice**: in every state that the calls on the campus reach, by whomever and in
    whatever order, the bookings in force that two proposals have of one hall share no instant; on
    PostgreSQL whatever is requested, and on SQLite as long as nobody approves a venue whose slot
    leaves the day it is requested for. -/
theorem no_double_booking (cfg : Config) (nfkd : Text → Text) (files : FileSettings)
    (day : Instant → Instant) (hday : Monotone day) {c : Campus}
    (h : Runs.Reach Campus.Opening (Campus.DatedStep cfg nfkd files day) c) :
    Disjoined c.registry.dossiers ∧
      ∀ b ∈ c.bookings, b.startTime < b.endTime := by
  have hc := charted_of_reach hday h
  refine ⟨hc.apart, fun b hb => ?_⟩
  obtain ⟨d, hd, hmem⟩ := List.mem_flatMap.mp hb
  obtain ⟨i, hi⟩ := List.mem_iff_getElem?.mp hd
  exact (hc.slotted i d hi).booking b (Option.mem_toList.mp hmem)

namespace Sample

/-- The day an instant is in. -/
def dayOf (t : Instant) : Instant := t / 86400 * 86400

theorem dayOf_monotone : Monotone dayOf := by
  intro s t hst
  have hdiv : s / 86400 ≤ t / 86400 := Int.ediv_le_ediv (by decide) hst
  exact Int.mul_le_mul_of_nonneg_right hdiv (by decide)

/-- The `i`-th proposal, with the key `n`, gets the hall for 1000 seconds. -/
def bookHall (i n : Nat) (startTime : Instant) : List CampusOp :=
  (.draft env secretary (uid n)
      { clubId := uid 13
        title := "event".toList
        eventType := .workshop
        academicYear := "2025".toList } ::
    [review secretary (.createVenueRequest (uid (n + 1))
        { hallId := uid 60
          requestedDate := 0
          startTime := startTime
          endTime := startTime + 1000 }),
      submit staff secretary 1, approve advisor 1 1, approve warden 1 2].map (Visit.request i)).map
    CampusOp.visit

/-- The last state of a run from the campus in which only dated slots are booked. -/
def datedRun (ops : List CampusOp) : Result Campus :=
  Runs.run (Runs.only (fun c op => (config .sqlite).backend = .postgresql ∨ CampusOp.Dated dayOf c op)
    noEvent (Campus.exec (config .sqlite) id files)) ops campus

/-- A third proposal, with the key 700, asks for the hall between the two. -/
def thirdDraft : CampusOp :=
  .visit (.draft env secretary (uid 700)
    { clubId := uid 13
      title := "event".toList
      eventType := .workshop
      academicYear := "2025".toList })

def between : VenueRequestCreate :=
  { hallId := uid 60
    requestedDate := 0
    startTime := 1500
    endTime := 2500 }

/-- Two proposals have the hall, one after the other, and a third is a draft. -/
theorem two_bookings : ∃ c d hall, Runs.Reach Campus.Opening
    (Campus.DatedStep (config .sqlite) id files dayOf) c ∧ c.bookings.length = 2 ∧
      Runs.Ends (checkHallAvailability c.inventory.halls c.bookings (uid 60) 0 (some 1500) (some 2500))
        (fun answer => answer.isAvailable = false ∧
          answer.bookedSlots = [⟨1000, 2000⟩, ⟨2000, 3000⟩]) ∧
      c.registry.dossiers[2]? = some d ∧
      VenueCreation (c.reviewEnv (config .sqlite) 2 (reviewEnv staff)) secretary between d.proposal
        hall := by
  have hrun : Runs.Ends (datedRun (bookHall 0 500 1000 ++ bookHall 1 600 2000 ++ [thirdDraft])) fun c =>
      c.bookings.length = 2 ∧
        Runs.Ends (checkHallAvailability c.inventory.halls c.bookings (uid 60) 0 (some 1500)
          (some 2500)) (fun answer =>
            answer.isAvailable = false ∧ answer.bookedSlots = [⟨1000, 2000⟩, ⟨2000, 3000⟩]) ∧
        ∃ d ∈ c.registry.dossiers[2]?, d.proposal.venueRequest = none ∧
          Runs.Ends (openForEditing (c.reviewEnv (config .sqlite) 2 (reviewEnv staff)).toEnv secretary
            d.proposal.request
            ("Cannot request venue for proposal in '%s' status. Only proposals in DRAFT or " ++
              "REVISION_REQUIRED state can request venues.") "request a venue for this event"
            "Club '%s' is currently inactive and cannot request venues.") (fun _ => True) ∧
          Runs.Ends (verifyLeadTime (c.reviewEnv (config .sqlite) 2 (reviewEnv staff)) secretary
            between.startTime) (fun _ => True) ∧
          Runs.Ends (getHall (c.reviewEnv (config .sqlite) 2 (reviewEnv staff)) between.hallId)
            fun hall => hall.isActive = true ∧
              Runs.Ends (verifyCapacity (orNumber between.expectedAudience
                d.proposal.request.expectedAttendees) hall) fun _ => True := by
    decide +kernel
  obtain ⟨c, hc, hlength, hends, d, hd, hfirst, ⟨_, hopen, _⟩, ⟨_, hnotice, _⟩, hall, hfound, hactive,
    _, hcap, _⟩ := hrun
  exact ⟨c, d, hall, Runs.Reach.path (.start campus_opening) (Runs.path_of_run_only hc), hlength, hends,
    hd, hopen, hfound, hactive, hcap, hnotice, hfirst⟩

end Sample

theorem no_double_booking_sample : ∃ c : Campus, c.bookings.length = 2 ∧
    Disjoined c.registry.dossiers := by
  obtain ⟨c, _, _, hc, hlength, _⟩ := Sample.two_bookings
  exact ⟨c, hlength, (no_double_booking _ _ _ Sample.dayOf Sample.dayOf_monotone hc).1⟩

/-! ## 3. Availability -/

section Availability

variable {cfg : Config} {day : Instant → Instant} {c : Campus} {i : Nat} {d : Dossier}

theorem mem_bookings {b : HallBookingConfirmed} :
    b ∈ c.bookings ↔
      ∃ (j : Nat) (e : Dossier), c.registry.dossiers[j]? = some e ∧ b ∈ e.proposal.booking := by
  unfold Campus.bookings bookingsOf
  rw [List.mem_flatMap]
  constructor
  · rintro ⟨e, he, hb⟩
    obtain ⟨j, hj⟩ := List.mem_iff_getElem?.mp he
    exact ⟨j, e, hj, Option.mem_toList.mp hb⟩
  · rintro ⟨j, e, hj, hb⟩
    exact ⟨e, List.mem_of_getElem? hj, Option.mem_toList.mpr hb⟩

/-- A proposal reads its own booking and those of the others, which is all there are. -/
theorem mem_bookings_iff {b : HallBookingConfirmed} (hd : c.registry.dossiers[i]? = some d) :
    b ∈ c.bookings ↔
      b ∈ d.proposal.booking.toList ++ bookingsOf (c.registry.dossiers.eraseIdx i) := by
  rw [mem_bookings, List.mem_append, Option.mem_toList, mem_bookingsOf]
  constructor
  · rintro ⟨j, e, he, hb⟩
    by_cases hj : j = i
    · rw [hj, hd] at he
      cases he
      exact .inl hb
    · exact .inr ⟨j, e, hj, he, hb⟩
  · rintro (hb | ⟨j, e, _, he, hb⟩)
    · exact ⟨i, d, hd, hb⟩
    · exact ⟨j, e, he, hb⟩

/-- In a list of dossiers without clashes the bookings in force of a hall are pairwise apart. -/
theorem Disjoined.pairwise {dossiers : List Dossier} (h : Disjoined dossiers) :
    (bookingsOf dossiers).Pairwise fun b o => b.isActive = true → o.isActive = true →
      b.hallId = o.hallId → Disjoint b.range o.range := by
  unfold bookingsOf
  rw [List.pairwise_flatMap]
  constructor
  · intro d _
    cases d.proposal.booking with
    | none => exact .nil
    | some b => exact List.pairwise_singleton _ _
  · rw [List.pairwise_iff_getElem]
    intro i j hi hj hij b hb o ho
    refine h i j _ _ (by omega) (List.getElem?_eq_getElem hi) (List.getElem?_eq_getElem hj) b ?_ o ?_
    · exact Option.mem_toList.mp hb
    · exact Option.mem_toList.mp ho

/-- The slots listed for a hall are pairwise apart. -/
theorem Charted.slots_apart (h : Charted cfg day c.registry) (hallId : Uuid) :
    ((c.bookings.filter fun b => b.hallId = hallId ∧ b.isActive = true).map
      fun b => (⟨b.startTime, b.endTime⟩ : HallAvailabilitySlot)).Pairwise fun x y =>
        Disjoint (Set.Ico x.startTime x.endTime) (Set.Ico y.startTime y.endTime) := by
  rw [List.pairwise_map]
  refine (h.apart.pairwise.filter _).imp_of_mem fun {b o} hb ho hapart => ?_
  have hb' := (List.mem_filter.mp hb).2
  have ho' := (List.mem_filter.mp ho).2
  rw [decide_eq_true_eq] at hb' ho'
  exact hapart hb'.2 ho'.2 (hb'.1.trans ho'.1.symm)

end Availability

/-- **The availability query is exact**: in every state the calls reach, the query of a hall and a slot
    lists slots that do not meet each other, and says the hall is free exactly when no booking in
    force takes it at an instant of the slot. A new venue request of any proposal that passes the checks
    before is refused for the slot exactly when it says the hall is not; and where it says so of the slot
    of a request, neither the query of the second step nor the constraint stands in the way of booking
    it. -/
theorem availability_exact (cfg : Config) (nfkd : Text → Text) (files : FileSettings)
    (day : Instant → Instant) (hday : Monotone day) {c : Campus}
    (h : Runs.Reach Campus.Opening (Campus.DatedStep cfg nfkd files day) c) (hallId : Uuid)
    (targetDate startTime endTime : Instant) (hslot : startTime < endTime)
    {answer : HallAvailabilityResponse}
    (hanswer : checkHallAvailability c.inventory.halls c.bookings hallId targetDate (some startTime)
      (some endTime) = .ok answer) :
    (answer.bookedSlots.Pairwise fun x y =>
      Disjoint (Set.Ico x.startTime x.endTime) (Set.Ico y.startTime y.endTime)) ∧
    (answer.isAvailable = true ↔
      ∀ b ∈ c.bookings, ¬ Blocks b hallId (Set.Ico startTime endTime)) ∧
    ∀ (i : Nat) (d : Dossier) (env : ReviewEnv), c.registry.dossiers[i]? = some d →
      (HallTaken (c.reviewEnv cfg i env) d.proposal hallId startTime endTime ↔
        answer.isAvailable = false) ∧
      (∀ (actor : User) (newId : Uuid) (venueIn : VenueRequestCreate) (hall : Hall),
        VenueCreation (c.reviewEnv cfg i env) actor venueIn d.proposal hall →
        venueIn.hallId = hallId → venueIn.startTime = startTime → venueIn.endTime = endTime →
          (createVenueRequest (c.reviewEnv cfg i env) actor newId venueIn d.proposal =
            .error (hallTaken hall) ↔ answer.isAvailable = false)) ∧
      ∀ (vr : VenueRequest) (newId : Uuid), vr.hallId = hallId → vr.startTime = startTime →
        vr.endTime = endTime → answer.isAvailable = true →
          ¬ VenueConflict (c.reviewEnv cfg i env) vr ∧
            ¬ Excluded (c.reviewEnv cfg i env) (bookingOf newId vr) := by
  have hc := charted_of_reach hday h
  obtain ⟨hslots, hfree⟩ := checkHallAvailability_accepts hanswer
  have hcheck : ∀ b ∈ c.bookings, b.Check := by
    intro b hb
    obtain ⟨j, e, he, hmem⟩ := mem_bookings.mp hb
    exact (hc.slotted j e he).booking b hmem
  have htaken : ∀ (i : Nat) (d : Dossier) (env : ReviewEnv), c.registry.dossiers[i]? = some d →
      (HallTaken (c.reviewEnv cfg i env) d.proposal hallId startTime endTime ↔
        answer.isAvailable = false) := by
    intro i d env hd
    rw [← Bool.not_eq_true, hfree, not_not]
    unfold HallTaken
    refine exists_congr fun b => and_congr_left' ?_
    exact (mem_bookings_iff hd).symm
  refine ⟨?_, ?_, fun i d env hd => ⟨htaken i d env hd, ?_,
    fun vr newId hhall hstart hend havail => ?_⟩⟩
  · rw [hslots]
    exact hc.slots_apart hallId
  · rw [hfree, not_exists]
    refine forall_congr' fun b => ?_
    rw [not_and]
    refine forall_congr' fun hb => not_congr ?_
    rw [blocks_iff (hcheck b hb) hslot]
    tauto
  · intro actor newId venueIn hall hcreation hhall hstart hend
    rw [hcreation.conflict_iff, hhall, hstart, hend]
    exact htaken i d env hd
  · have hnone := hfree.mp havail
    -- the bookings of the others are among those of the campus
    have hmem : ∀ b ∈ (c.reviewEnv cfg i env).otherBookings, b ∈ c.bookings := fun b hb =>
      (mem_bookings_iff hd).mpr (List.mem_append_right _ hb)
    constructor
    · rintro ⟨b, hb, hhall', _, hact, hs, he⟩
      exact hnone ⟨b, hmem b hb, hhall'.trans hhall, hact, hend ▸ hs, hstart ▸ he⟩
    · rintro ⟨_, b, hb, hact, hhall', hs, he⟩
      exact hnone ⟨b, hmem b hb, hhall'.trans hhall, hact, hend ▸ hs, hstart ▸ he⟩

/-- The hall is not free between the two bookings, and a request for it is refused. -/
theorem availability_exact_sample : ∃ (c : Campus) (d : Dossier) (hall : Hall), c.bookings.length = 2 ∧
    c.registry.dossiers[2]? = some d ∧
    createVenueRequest (c.reviewEnv (Sample.config .sqlite) 2 (Sample.reviewEnv Sample.staff))
      Sample.secretary (Sample.uid 701) Sample.between d.proposal = .error (hallTaken hall) := by
  obtain ⟨c, d, hall, hc, hlength, ⟨answer, hanswer, havail, _⟩, hd, hcreation⟩ := Sample.two_bookings
  have hexact := availability_exact _ _ _ Sample.dayOf Sample.dayOf_monotone hc (Sample.uid 60) 0 1500
    2500 (by decide) hanswer
  exact ⟨c, d, hall, hlength, hd, ((hexact.2.2 2 d _ hd).2.1 _ _ _ hall hcreation rfl rfl rfl).mpr havail⟩

end CampusConnect
