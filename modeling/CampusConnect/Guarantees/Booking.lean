/-
  File:      CampusConnect/Guarantees/Booking.lean
  Subject:   The hall that is booked and the hall that was approved.

  * `SecondApproved`: the second step of the current instance is APPROVED;
  * `Request.KeepsBooking`: the condition on a request under which booking and venue stay together;
  * `Agreed`, `Traced.agreed`: the invariant and its step lemma;
  * `booked_hall_approved`: the law over runs of such requests, `booked_hall_differs`: a hall changed in
    a revision is approved again, and the old one stays booked.
-/
import CampusConnect.Guarantees.Sanction
import CampusConnect.Guarantees.Stamps

namespace CampusConnect

open Guarded Rows EventService VenueService WorkflowService

/-! ## 1. Booking and venue -/

abbrev Slot := Uuid × Instant × Instant

def HallBookingConfirmed.slot (b : HallBookingConfirmed) : Slot := (b.hallId, b.startTime, b.endTime)

def VenueTerms.slot (t : VenueTerms) : Slot := (t.hallId, t.startTime, t.endTime)

/-- The second step of the current instance is APPROVED. -/
def SecondApproved (p : Proposal) : Prop :=
  ∃ st ∈ p.steps.rows, p.request.workflowInstanceId = some st.instanceId ∧ st.stepOrder = 2 ∧
    st.status = .approved

instance (p : Proposal) : Decidable (SecondApproved p) :=
  inferInstanceAs (Decidable (∃ st ∈ p.steps.rows, _ ∧ _ ∧ _))

/-- The hall is booked for the slot. -/
def BookedAs (p : Proposal) (slot : Slot) : Prop :=
  ∃ b ∈ p.booking, b.isActive = true ∧ b.slot = slot

instance (p : Proposal) (slot : Slot) : Decidable (BookedAs p slot) :=
  inferInstanceAs (Decidable (∃ b ∈ p.booking, _ ∧ _))

/-- An approved second step has booked the hall of the venue request. -/
def HallBooked (p : Proposal) : Prop :=
  SecondApproved p → ∀ vr, p.venueRequest = some vr → BookedAs p vr.slot

/-- The event takes place where and when the version it names says. -/
def HeldAsApproved (d : Dossier) : Prop :=
  ∀ e, d.event = some e → d.proposal.venueRequest ≠ none →
    ∃ v ∈ d.proposal.versions, v.id = e.approvedVersionId ∧ ∃ c, v.content = some c ∧
      ∃ t, c.venue = some t ∧ e.hallId = some t.hallId ∧ e.startTime = t.startTime ∧
        e.endTime = t.endTime

/-- The slot of the venue request an operation writes. -/
def ReviewOp.venueSlot (p : Proposal) : ReviewOp → Option Slot
  | .createVenueRequest _ venueIn => some (venueIn.hallId, venueIn.startTime, venueIn.endTime)
  | .updateVenueRequest venueIn => p.venueRequest.map fun vr =>
      (venueIn.hallId.getD vr.hallId, venueIn.startTime.getD vr.startTime,
        venueIn.endTime.getD vr.endTime)
  | _ => none

/-- The requests of a review that goes on: nothing is rejected, withdrawn or done with the event. -/
def Request.Continues : Request → Prop
  | .review _ _ (.rejectStep _ _) => False
  | .review _ _ _ => True
  | .event _ => False

/-- **The condition**: a venue request written while the second step is APPROVED is for the booked
    hall and slot; a booking there is when the second step is approved is for the venue's; and so is
    an active one when the last step is. -/
def Request.KeepsBooking (d : Dossier) : Request → Prop
  | .review _ _ (.approveStep stepId _ _ _) =>
      ∀ st ∈ d.proposal.steps.rows, st.id = stepId → ∀ vr ∈ d.proposal.venueRequest,
        ∀ b ∈ d.proposal.booking,
          (st.stepOrder = 2 → b.slot = vr.slot) ∧
            (nextStep d.proposal st = none → b.isActive = true → b.slot = vr.slot)
  | .review _ _ op =>
      SecondApproved d.proposal → ∀ slot ∈ op.venueSlot d.proposal, BookedAs d.proposal slot
  | .event _ => True

instance : (r : Request) → Decidable r.Continues
  | .review _ _ (.rejectStep ..) => isFalse id
  | .review _ _ (.updateDraft ..) | .review _ _ (.submitProposal ..)
  | .review _ _ (.approveStep ..) | .review _ _ (.requestRevision ..)
  | .review _ _ (.createVenueRequest ..) | .review _ _ (.updateVenueRequest ..)
  | .review _ _ .deleteVenueRequest | .review _ _ (.createBudgetProposal ..)
  | .review _ _ (.updateBudgetProposal ..) | .review _ _ .deleteBudgetProposal
  | .review _ _ (.addLineItem ..) | .review _ _ (.updateLineItem ..)
  | .review _ _ (.deleteLineItem ..) | .review _ _ (.verifyBudget ..) => isTrue trivial
  | .event _ => isFalse id

instance (d : Dossier) : (r : Request) → Decidable (r.KeepsBooking d)
  | .review _ _ (.approveStep ..) => inferInstanceAs (Decidable
      (∀ st ∈ d.proposal.steps.rows, _ → ∀ vr ∈ d.proposal.venueRequest,
        ∀ b ∈ d.proposal.booking, (_ → _) ∧ (_ → _ → _)))
  | .review _ _ (.createVenueRequest ..) | .review _ _ (.updateVenueRequest ..) =>
      inferInstanceAs (Decidable (SecondApproved d.proposal → ∀ slot ∈ ReviewOp.venueSlot _ _, _))
  | .review _ _ (.updateDraft ..) | .review _ _ (.submitProposal ..)
  | .review _ _ (.rejectStep ..) | .review _ _ (.requestRevision ..)
  | .review _ _ .deleteVenueRequest | .review _ _ (.createBudgetProposal ..)
  | .review _ _ (.updateBudgetProposal ..) | .review _ _ .deleteBudgetProposal
  | .review _ _ (.addLineItem ..) | .review _ _ (.updateLineItem ..)
  | .review _ _ (.deleteLineItem ..) | .review _ _ (.verifyBudget ..) =>
      isTrue fun _ _ h => nomatch h
  | .event _ => isTrue trivial

/-! ## 2. The booking -/

section Steps

variable {env : ReviewEnv} {actor : User} {p q : Proposal} {op : ReviewOp} {d : Dossier}

theorem HallBooked.congr (h : HallBooked p) (hs : q.steps = p.steps)
    (hw : q.request.workflowInstanceId = p.request.workflowInstanceId)
    (hv : q.venueRequest = p.venueRequest) (hb : q.booking = p.booking) : HallBooked q := by
  intro hsec vr hvr
  unfold SecondApproved at hsec
  unfold BookedAs
  rw [hs, hw] at hsec
  rw [hv] at hvr
  rw [hb]
  exact h hsec vr hvr

/-- A decision other than an approval of the second step adds no approved second step. -/
theorem SecondApproved.before {step : WorkflowInstanceStep} {inst : WorkflowInstance}
    {status : WorkflowStepStatus} {comments : Option Text} (h : SecondApproved q)
    (ht : p.steps.replace (decideStep env status comments step inst step) = some q.steps)
    (hw : q.request.workflowInstanceId = p.request.workflowInstanceId)
    (hst : status = .approved → step.stepOrder ≠ 2) : SecondApproved p := by
  obtain ⟨st, hm, hlink, hord, happ⟩ := h
  rw [hw] at hlink
  rcases Table.mem_replace ht hm with rfl | ⟨hold, _⟩
  · exact (hst happ hord).elim
  · exact ⟨st, hold, hlink, hord, happ⟩

/-- The steps of a new instance are pending, and no others are its own. -/
theorem Submitted.not_secondApproved {summary key : Option Text} {keys : SubmissionKeys}
    (h : Standing p) (hs : Submitted env actor summary key keys p q) : ¬ SecondApproved q := by
  obtain ⟨t, ht, hins⟩ := hs.instances
  have hnew : ∀ j ∈ t, j.id ≠ keys.inst := fun j hj he =>
    (Table.insert_eq_some.mp hins).1.2 (List.mem_map.mpr ⟨j, hj, he⟩)
  have hapart := h.apart (h.retired hs.editable ht) hnew
  have hlink : q.request.workflowInstanceId = some keys.inst :=
    (congrArg EventRequest.workflowInstanceId hs.request).trans rfl
  intro hex
  obtain ⟨st, hm, hown, _, happ⟩ := hex
  rw [hlink] at hown
  rcases (Table.mem_insertAll hs.steps).mp hm with hold | hfresh
  · exact hapart st hold (Option.some.inj hown).symm
  · rw [(mem_instanceSteps hfresh).2.1] at happ
    cases happ

/-- The second step books the hall of the venue request, when what is booked already agrees. -/
theorem VenueApproved.booked_as {newId : Uuid} {v : Option VenueRequest}
    {b : Option HallBookingConfirmed} (h : VenueApproved env actor newId p v b)
    (hok : ∀ vr ∈ p.venueRequest, ∀ b ∈ p.booking, b.slot = vr.slot) :
    ∀ vr, v = some vr → ∃ b' ∈ b, b'.isActive = true ∧ b'.slot = vr.slot := by
  intro vr hvr
  cases h with
  | absent hnone => cases hvr
  | booked vr' hvr' hb hfree =>
      cases hvr
      exact ⟨_, rfl, rfl, rfl⟩
  | kept vr' b' hvr' hb hfree =>
      cases hvr
      exact ⟨_, rfl, rfl, hok vr' hvr' b' hb⟩

/-- **The step lemma of the booking.** -/
theorem ReviewStep.hallBooked (hstand : Standing d.proposal) (h : HallBooked d.proposal)
    (hs : ReviewStep env actor d.proposal op q) (hc : (Request.review env actor op).Continues)
    (hok : (Request.review env actor op).KeepsBooking d) : HallBooked q := by
  cases hs with
  | submitted summary key keys _ hsub =>
      intro hsec
      exact (Submitted.not_secondApproved hstand hsub hsec).elim
  | approved stepId comments newBookingId newEventId step inst _ hd happ =>
      have hw : q.request.workflowInstanceId = d.proposal.request.workflowInstanceId :=
        (congrArg EventRequest.workflowInstanceId happ.request).trans rfl
      intro hsec vr hvr
      by_cases h2 : step.stepOrder = 2
      · refine VenueApproved.booked_as (happ.venue h2) (fun vr hvr b hb => ?_) vr hvr
        exact (hok step (Table.mem_of_find hd.stepFound) hd.step_id vr hvr b hb).1 h2
      · obtain ⟨hvenue, hbooking⟩ := happ.venueKept h2
        have hsec' := SecondApproved.before hsec happ.steps hw fun _ => h2
        obtain ⟨b, hb, hact, hslot⟩ := h hsec' vr (hvenue ▸ hvr)
        exact ⟨b, hbooking.trans hb, hact, hslot⟩
  | rejected stepId comments step inst _ hd hrej => exact hc.elim
  | revised stepId comments step inst t hd ht =>
      intro hsec vr hvr
      exact h (SecondApproved.before hsec ht rfl fun he => nomatch he) vr hvr
  | venueCreated newId venueIn hall hed hnone hcheck =>
      intro hsec vr hvr
      cases hvr
      exact hok hsec _ rfl
  | venueUpdated venueIn vr hall hed hvr hcheck =>
      intro hsec v hv
      cases hv
      have hslot := hok hsec _ (congrArg (Option.map _) hvr)
      have hsame : (editVenue venueIn hall vr vr).slot = (venueIn.hallId.getD vr.hallId,
          venueIn.startTime.getD vr.startTime, venueIn.endTime.getD vr.endTime) := by
        unfold VenueRequest.slot editVenue
        simp only [patched_self]
      rw [hsame]
      exact hslot
  | venueDeleted hed =>
      intro _ vr hvr
      cases hvr
  | _ => exact h.congr rfl rfl rfl rfl

/-! ## 3. The event -/

/-- The last approval makes an event with the hall and the slot of the venue request, when an active
    booking agrees with it. -/
theorem ReviewOp.creates_slot {existing : Option Event} {stepId newBookingId newEventId : Uuid}
    {comments : Option Text} {e : Event} {vr : VenueRequest}
    (h : ReviewOp.creates env actor existing p
      (.approveStep stepId comments newBookingId newEventId) = some e)
    (hvr : p.venueRequest = some vr)
    (hok : ∀ st, p.steps.find stepId = some st → nextStep p st = none →
      ∀ b, p.booking = some b → b.isActive = true → b.slot = vr.slot) :
    e.hallId = some vr.hallId ∧ e.startTime = vr.startTime ∧ e.endTime = vr.endTime := by
  obtain ⟨step, hfind, he⟩ := Option.bind_eq_some_iff.mp h
  unfold approvedEvent at he
  split at he
  · cases he
  · cases he
  · next hlast =>
      cases he
      have hagree := hok step hfind hlast
      unfold activeBooking
      simp only [hvr, Option.map_some]
      cases hb : p.booking with
      | none => exact ⟨rfl, rfl, rfl⟩
      | some b =>
          by_cases hact : b.isActive = true
          · have hslot := hagree b hb hact
            unfold HallBookingConfirmed.slot VenueRequest.slot at hslot
            obtain ⟨hhall, htimes⟩ := Prod.mk.inj hslot
            obtain ⟨hstart, hend⟩ := Prod.mk.inj htimes
            simp only [Option.filter_some, decide_eq_true_eq, hact, if_true, Option.map_some,
              Option.some_or, Option.getD_some]
            exact ⟨congrArg some hhall, hstart, hend⟩
          · simp only [Option.filter_some, decide_eq_true_eq, hact]
            exact ⟨rfl, rfl, rfl⟩

/-- The event made for a proposal under review is held as the current version says. -/
theorem held_of_created {existing : Option Event} {stepId newBookingId newEventId : Uuid}
    {comments : Option Text} {e : Event} (hstand : Standing p) (hfrozen : Frozen p)
    (hrev : p.request.status.Reviewed)
    (h : ReviewOp.creates env actor existing p
      (.approveStep stepId comments newBookingId newEventId) = some e)
    {vr : VenueRequest} (hvr : p.venueRequest = some vr)
    (hok : ∀ st, p.steps.find stepId = some st → nextStep p st = none →
      ∀ b, p.booking = some b → b.isActive = true → b.slot = vr.slot) :
    ∃ v ∈ p.versions, v.id = e.approvedVersionId ∧ ∃ c, v.content = some c ∧
      ∃ t, c.venue = some t ∧ e.hallId = some t.hallId ∧ e.startTime = t.startTime ∧
        e.endTime = t.endTime := by
  obtain ⟨v, hv, hn, hcontent⟩ := hfrozen hrev
  have hname := ReviewOp.creates_version h (hstand.latest hv hn)
  have hslot := ReviewOp.creates_slot h hvr hok
  refine ⟨v, hv, hname.symm, p.content, hcontent, vr.terms, ?_, hslot⟩
  show p.venueRequest.map VenueRequest.terms = _
  rw [hvr]
  rfl

end Steps

/-! ## 4. The law -/

/-- **Booking and event agree with what was approved.** -/
structure Agreed (d : Dossier) : Prop where
  standing : InStanding d
  frozen : Frozen d.proposal
  hall : HallBooked d.proposal
  event : HeldAsApproved d

section Runs

variable {cfg : Config} {d d' : Dossier} {r : Request}

/-- **The step lemma of the event.** -/
theorem Traced.held (h : Agreed d) (hs : Traced cfg d r d') (hc : r.Continues)
    (hok : r.KeepsBooking d) : HeldAsApproved d' := by
  cases hs with
  | review env actor op d q entries hstep =>
      intro e he hvenue
      rw [Dossier.event_flushed] at he
      rw [Dossier.proposal_flushed] at hvenue ⊢
      cases hev : d.event with
      | some e0 =>
          -- there is an event: the operation only verifies the budget
          rw [hev, Option.some_or] at he
          cases he
          have hended : d.proposal.request.status.Ended :=
            .inl (h.standing.event.mpr fun hn => by rw [hev] at hn; cases hn)
          obtain ⟨verificationIn, bp, _, _, rfl⟩ := hstep.of_ended h.standing.rows hended
          exact h.event e hev hvenue
      | none =>
          rw [hev, Option.none_or] at he
          cases hstep with
          | approved stepId comments newBookingId newEventId step inst _ hd happ =>
              have hat := h.standing.rows.deciding hd
              have hvr : ∃ vr, d.proposal.venueRequest = some vr := by
                cases hv : d.proposal.venueRequest with
                | some vr => exact ⟨vr, rfl⟩
                | none =>
                    by_cases h2 : step.stepOrder = 2
                    · have hterms := VenueApproved.terms (happ.venue h2)
                      rw [hv, Option.map_none, Option.map_eq_none_iff] at hterms
                      exact (hvenue hterms).elim
                    · exact (hvenue ((happ.venueKept h2).1.trans hv)).elim
              obtain ⟨vr, hvr⟩ := hvr
              rw [happ.versions]
              refine held_of_created h.standing.rows h.frozen ?_ he hvr fun st hfind hlast b hb => ?_
              · exact hat.request.elim .inl fun hr => .inr (.inl hr)
              · exact (hok st (Table.mem_of_find hfind) (Table.key_of_find hfind) vr hvr b hb).2 hlast
          | _ => cases he
  | withdrawn c p logs entries hcan => exact hc.elim
  | event c s s' hstep => exact hc.elim

theorem Traced.agreed (h : Agreed d) (hs : Traced cfg d r d') (hc : r.Continues)
    (hok : r.KeepsBooking d) : Agreed d' := by
  refine ⟨h.standing.step hs, hs.frozen h.standing h.frozen, ?_, hs.held h hc hok⟩
  cases hs with
  | review env actor op d q entries hstep =>
      rw [Dossier.proposal_flushed]
      exact hstep.hallBooked h.standing.rows h.hall hc hok
  | withdrawn c p logs entries hcan => exact hc.elim
  | event c s s' hstep => exact hc.elim

theorem Drafted.agreed (h : Drafted d) : Agreed d := by
  refine ⟨h.inStanding, h.frozen, ?_, ?_⟩
  · intro hex
    obtain ⟨st, hm, _⟩ := hex
    rw [h.steps] at hm
    cases hm
  · obtain ⟨request, logs, rfl, _⟩ := h.row
    exact fun e he => nomatch he

/-- **The booked hall is the approved hall.** In every run of a review that goes on, all of whose
    requests keep booking and venue together: an approved second step of the current instance has
    booked the hall and the slot of the venue request, and the event of a proposal with a venue
    has the hall and the slot of the version it names. -/
theorem booked_hall_approved (cfg : Config) {d0 d : Dossier} {requests : List Request}
    (h0 : Drafted d0)
    (hp : Runs.Path (Runs.restrict (Dossier.Step cfg) fun e r => r.Continues ∧ r.KeepsBooking e)
      d0 requests d) :
    HallBooked d.proposal ∧ HeldAsApproved d := by
  have hrun := Runs.Path.preserves (P := Agreed)
    (fun e r e' he hs => hs.1.traced.agreed he hs.2.1 hs.2.2) hp h0.agreed
  exact ⟨hrun.hall, hrun.event⟩

/-- The sample proposal, sent back after its second step, submitted again and approved. -/
theorem booked_hall_approved_sample :
    ∃ d0 requests d, Drafted d0 ∧ Runs.Path (Dossier.Step (Sample.config .sqlite)) d0 requests d ∧
      SecondApproved d.proposal ∧ d.proposal.venueRequest ≠ none ∧ d.event ≠ none ∧
      HallBooked d.proposal ∧ HeldAsApproved d := by
  have hrun : Runs.Ends (Sample.afterOnly (fun d r => r.Continues ∧ r.KeepsBooking d)
      (Sample.plan ++ [Sample.submit Sample.staff Sample.secretary 1,
        Sample.approve Sample.advisor 1 1, Sample.approve Sample.warden 1 2,
        Sample.revise Sample.officer 1 3, Sample.submit Sample.staff Sample.secretary 2] ++
        Sample.approveAll 2)) fun d =>
      SecondApproved d.proposal ∧ d.proposal.venueRequest ≠ none ∧ d.event ≠ none := by
    decide
  obtain ⟨d, hok, hsec, hvenue, hev⟩ := hrun
  obtain ⟨d0, h0, hpath⟩ := Sample.path_of_afterOnly hok
  obtain ⟨hhall, hheld⟩ := booked_hall_approved (Sample.config .sqlite) h0 hpath
  exact ⟨d0, _, d, h0, Runs.Path.of_restrict hpath, hsec, hvenue, hev, hhall, hheld⟩

/-- Sent back after the second step, the proposal moves to the hall 61, is submitted again and
    approved: the hall 60 stays booked, and the event takes place there. -/
theorem booked_hall_differs :
    ∃ d0 requests d, Drafted d0 ∧
      Runs.Path (Runs.restrict (Dossier.Step (Sample.config .sqlite)) fun _ r => r.Continues)
        d0 requests d ∧ ¬ HallBooked d.proposal ∧ ¬ HeldAsApproved d := by
  have hrun : Runs.Ends (Sample.afterOnly (fun _ r => r.Continues)
      (Sample.plan ++ [Sample.submit Sample.staff Sample.secretary 1,
        Sample.approve Sample.advisor 1 1, Sample.approve Sample.warden 1 2,
        Sample.revise Sample.officer 1 3,
        Sample.review Sample.secretary (.updateVenueRequest { hallId := some (Sample.uid 61) }),
        Sample.submit Sample.staff Sample.secretary 2] ++ Sample.approveAll 2)) fun d =>
      SecondApproved d.proposal ∧
        (∃ vr ∈ d.proposal.venueRequest, ¬ BookedAs d.proposal vr.slot) ∧
        (∃ e ∈ d.event, e.hallId = some (Sample.uid 60) ∧ ∀ v ∈ d.proposal.versions,
          v.id = e.approvedVersionId → ∀ s ∈ v.snapshot, ∀ t ∈ s.venue,
            t.hallId = Sample.uid 61) := by
    decide
  obtain ⟨d, hok, hsec, ⟨vr, hvr, hno⟩, e, he, hhall, hversion⟩ := hrun
  obtain ⟨d0, h0, hpath⟩ := Sample.path_of_afterOnly hok
  refine ⟨d0, _, d, h0, hpath, fun hbooked => hno (hbooked hsec vr hvr), fun hheld => ?_⟩
  obtain ⟨v, hv, hid, c, hc, t, ht, hsame, _⟩ := hheld e he fun hn => by rw [hn] at hvr; cases hvr
  obtain ⟨snapshot, hsnap, hdecode⟩ := Option.bind_eq_some_iff.mp hc
  obtain ⟨venue, hvenue, rfl⟩ := VersionSnapshot.decode_venue hdecode ht
  have hdiff := hversion v hv hid snapshot hsnap venue hvenue
  rw [hhall] at hsame
  have heq : Sample.uid 60 = venue.hallId := Option.some.inj hsame
  rw [hdiff] at heq
  exact absurd heq (by decide)

end Runs

end CampusConnect
