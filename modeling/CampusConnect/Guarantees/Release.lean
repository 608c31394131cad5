/-
  File:      CampusConnect/Guarantees/Release.lean
  Subject:   What the end of a proposal or of its event gives back: the hall and the advance.

  * `Terminated`: the proposal REJECTED or CANCELLED, or its event CANCELLED;
  * `Op.exec_cancels`, `Op.exec_cancelled`: how an event becomes cancelled, and what it takes then;
  * `Released`, `Traced.released`: the invariant and its step lemma;
  * `termination_releases`: the end is permanent, and so is the release.
-/
import CampusConnect.Guarantees.Standing

namespace CampusConnect

open Guarded Rows EventService WorkflowService

/-! ## 1. The end -/

namespace Dossier

def advance : Dossier → Option (Stored CashAdvance)
  | .proposed _ _ => none
  | .confirmed s => s.advance

/-- The event is CANCELLED. -/
def EventCancelled (d : Dossier) : Prop := ∃ e, d.event = some e ∧ e.status = .cancelled

/-- The proposal is REJECTED or CANCELLED, or its event is CANCELLED. -/
def Terminated (d : Dossier) : Prop :=
  d.proposal.request.status = .rejected ∨ d.proposal.request.status = .cancelled ∨ d.EventCancelled

/-- No booking is active. -/
def HallFree (d : Dossier) : Prop := ∀ b, d.proposal.booking = some b → b.isActive = false

/-- The advance is paid out. -/
def Disbursed (d : Dossier) : Prop := ∃ a, d.advance = some a ∧ a.1.status = .disbursed

end Dossier

/-! ## 2. Calls on a cancelled event -/

section Calls

variable {cfg : Config} {env : Env} {actor : User} {s s' : State}

theorem requestAdvance_live {newId : Uuid} {amount : Int} {reason : Text}
    (h : SettlementService.requestAdvance env actor newId amount reason s = .ok s') :
    s.event.status ≠ .cancelled := by
  simp only [SettlementService.requestAdvance, bind_accepts, refuse_accepts, exists_unit] at h
  obtain ⟨_, _, hlive, _⟩ := h
  exact fun hc => hlive (.inr hc)

/-- What a cancellation of the event leaves of its hall and its advance. -/
def CancelsEvent (s s' : State) : Prop :=
  s'.proposal = releaseHall s.proposal ∧
    ∃ reason, s'.advance = s.advance.map (cancelStoredAdvance reason)

theorem cancelConfirmedEvent_cancels {reason : Text}
    (h : cancelConfirmedEvent env actor reason s = .ok s') : CancelsEvent s s' := by
  simp only [cancelConfirmedEvent, bind_accepts, exists_unit, pure_accepts] at h
  obtain ⟨_, _, rfl⟩ := h
  exact ⟨rfl, reason, rfl⟩

theorem cancelAnyEvent_cancels {identifier : Uuid} {reason : Text}
    (h : cancelAnyEvent env actor identifier reason s = .ok s')
    (hlive : s.event.status ≠ .cancelled) (hc : s'.event.status = .cancelled) :
    CancelsEvent s s' := by
  unfold cancelAnyEvent at h
  by_cases hid : s.event.id = identifier ∨ s.event.eventRequestId = identifier
  · rw [if_pos hid] at h
    exact cancelConfirmedEvent_cancels h
  · rw [if_neg hid] at h
    by_cases hreq : s.proposal.request.id = identifier
    · simp only [if_pos hreq, bind_accepts, pure_accepts] at h
      obtain ⟨r, _, rfl⟩ := h
      exact (hlive hc).elim
    · rw [if_neg hreq] at h
      cases h

/-- An event is cancelled by a cancellation of the event only. -/
theorem Op.exec_cancels {op : Op} (h : op.exec cfg env actor s = .ok s')
    (hlive : s.event.status ≠ .cancelled) (hc : s'.event.status = .cancelled) :
    CancelsEvent s s' := by
  have hproposal : ∀ {reason : Text}, ((EventService.cancelProposal env actor reason
      s.proposal).map fun r => { s with proposal := r.1 }.log r.2) = .ok s' → False := by
    intro reason hr
    cases hres : EventService.cancelProposal env actor reason s.proposal with
    | error e =>
        rw [hres] at hr
        cases hr
    | ok r =>
        rw [hres] at hr
        cases hr
        exact hlive hc
  have heff := Op.exec_effect h
  generalize hm : op.move = m at heff
  cases heff with
  | read => exact (hlive hc).elim
  | advance m row entries hstep => exact (hlive hc).elim
  | income m t entries hstep => exact (hlive hc).elim
  | expense m t entries hstep => exact (hlive hc).elim
  | settlement m s' hstep => cases hstep <;> exact (hlive hc).elim
  | execution status report entries hstep =>
      cases hstep with
      | started hfrom => cases hc
      | completed row hfrom hnone hst => cases hc
      | revised rep row hmut hrep hfrom hid => exact (hlive hc).elim
  | closeout m s' hstep =>
      cases hstep with
      | requestedAgain hfrom => exact (hlive hc).elim
      | archivedAgain hfrom => exact (hlive hc).elim
      | petitioned entries hfrom => exact (hlive hc).elim
      | _ => cases hc
  | cancellation s' hstep =>
      cases op <;> cases hm
      case cancelProposal.refl reason => exact (hproposal h).elim
      case cancelConfirmedEvent.refl reason => exact cancelConfirmedEvent_cancels h
      case cancelAnyEvent.refl identifier reason =>
        exact cancelAnyEvent_cancels h hlive hc

/-- **A cancelled event stays cancelled**, and its advance stays as it is. -/
theorem Op.exec_cancelled {op : Op} (h : op.exec cfg env actor s = .ok s')
    (hc : s.event.status = .cancelled) (hdone : ∀ a, s.advance = some a → ¬ a.1.Pending) :
    s'.event.status = .cancelled ∧ s'.advance = s.advance := by
  have heff := Op.exec_effect h
  generalize hm : op.move = m at heff
  have hfrom : ∀ st : EventStatus, s.event.status = st → st = .cancelled :=
    fun st he => he.symm.trans hc
  cases heff with
  | read => exact ⟨hc, rfl⟩
  | advance m row entries hstep =>
      cases hstep with
      | requested row hmut hnone hset hst hamt =>
          cases op <;> cases hm
          exact (requestAdvance_live h hc).elim
      | approved advance row hmut hadv hreq hst hamt hgrant =>
          exact (hdone advance hadv (.inl hreq)).elim
      | rejected advance row hadv hreq hst hamt => exact (hdone advance hadv (.inl hreq)).elim
      | disbursed advance row hadv happ hst hpos hamt =>
          exact (hdone advance hadv (.inr happ)).elim
  | income m t entries hstep => exact ⟨hc, rfl⟩
  | expense m t entries hstep => exact ⟨hc, rfl⟩
  | settlement m s' hstep => cases hstep <;> exact ⟨hc, rfl⟩
  | execution status report entries hstep =>
      cases hstep with
      | started hst => cases hfrom _ hst
      | completed row hst hnone hrow => rcases hst with hst | hst <;> cases hfrom _ hst
      | revised rep row hmut hrep hst hid => exact ⟨hc, rfl⟩
  | closeout m s' hstep =>
      cases hstep with
      | requestedAgain hst => cases hfrom _ hst
      | archivedAgain hst => cases hfrom _ hst
      | requested entries hst hready => cases hfrom _ hst
      | certified r report closure entries hst hready hr hrep hset hrid => cases hfrom _ hst
      | rejected entries hst => cases hfrom _ hst
      | petitioned entries hst => cases hfrom _ hst
      | reopened r row revision newId reason actor entries hst hnum hr hset hfig hrow =>
          cases hfrom _ hst
      | archived entries hst => cases hfrom _ hst
  | cancellation s' hstep =>
      cases hstep with
      | proposal entries happ => exact ⟨hc, rfl⟩
      | event event advance entries hst hid hreq hver hcan hpend hadv =>
          rcases hst with hst | hst <;> cases hfrom _ hst

end Calls

/-! ## 3. The invariant -/

theorem not_disbursed_cancelledAdvance {reason : Text} {a : CashAdvance}
    (h : (cancelledAdvance reason a).status = .disbursed) : a.status = .disbursed := by
  unfold cancelledAdvance at h
  by_cases hp : a.Pending
  · rw [if_pos hp] at h
    cases h
  · rw [if_neg hp] at h
    exact h

/-- **An end gives back the hall, and leaves no advance to pay out.** -/
structure Released (d : Dossier) : Prop where
  hall : d.Terminated → d.HallFree
  advance : d.EventCancelled → ∀ a, d.advance = some a → ¬ a.1.Pending

section Steps

variable {cfg : Config} {d d' : Dossier} {r : Request}

/-- The end of a proposal in standing: its event is cancelled, or it has none. -/
theorem InStanding.terminated (h : InStanding d) :
    d.Terminated ↔ d.proposal.request.status = .rejected ∨
      d.proposal.request.status = .cancelled ∨
      (d.proposal.request.status = .approved ∧ d.EventCancelled) := by
  constructor
  · intro hor
    rcases hor with hr | hr | ⟨e, he, hc⟩
    · exact .inl hr
    · exact .inr (.inl hr)
    · refine .inr (.inr ⟨h.event.mpr fun hn => ?_, e, he, hc⟩)
      rw [hn] at he
      cases he
  · intro hor
    rcases hor with hr | hr | ⟨_, hc⟩
    · exact .inl hr
    · exact .inr (.inl hr)
    · exact .inr (.inr hc)

theorem InStanding.ended_of_terminated (h : InStanding d) (ht : d.Terminated) :
    d.proposal.request.status.Ended := by
  rcases h.terminated.mp ht with hr | hr | ⟨hr, _⟩
  · exact .inr (.inl hr)
  · exact .inr (.inr hr)
  · exact .inl hr

/-- A review operation leaves the event and its advance as they are, once there is one. -/
theorem Dossier.advance_flushed (d : Dossier) (q : Proposal) (event : Option Event)
    (entries : List AuditEntry) : (d.flushed q event entries).advance = d.advance := by
  cases d with
  | proposed p logs => cases event <;> rfl
  | confirmed s => rfl

/-- The event row of an accepted operation is new, and not cancelled. -/
theorem ReviewOp.creates_live {env : ReviewEnv} {actor : User} {existing : Option Event}
    {p : Proposal} {op : ReviewOp} {e : Event} (h : op.creates env actor existing p = some e) :
    e.status = .scheduled := by
  obtain ⟨newId, rfl⟩ := ReviewOp.creates_some h
  rfl

/-- An operation that rejects the proposal releases its booking; none withdraws it. -/
theorem ReviewStep.rejects {env : ReviewEnv} {actor : User} {p q : Proposal} {op : ReviewOp}
    (hs : ReviewStep env actor p op q) (hopen : ¬ p.request.status.Ended)
    (hst : q.request.status = .rejected ∨ q.request.status = .cancelled) :
    q.booking = p.booking.map releasedBooking := by
  have hsame : q.request.status ≠ p.request.status := by
    intro he
    rw [he] at hst
    exact hopen (.inr hst)
  cases hs with
  | rejected stepId comments step inst _ hd hrej => exact hrej.booking
  | submitted summary key keys _ hsub =>
      rw [hsub.request] at hst
      rcases hst with he | he <;> cases he
  | approved stepId comments newBookingId newEventId step inst _ hd happ =>
      rcases happ.moved.cases with ⟨next, _, _, hr⟩ | ⟨_, _, hr⟩
      · rw [hr] at hst hsame
        by_cases hsub : p.request.status = .submitted
        · rw [if_pos hsub] at hst
          rcases hst with he | he <;> cases he
        · rw [if_neg hsub] at hsame
          exact (hsame rfl).elim
      · rw [hr] at hst
        rcases hst with he | he <;> cases he
  | revised stepId comments step inst t hd ht => rcases hst with he | he <;> cases he
  | _ => exact (hsame rfl).elim

/-- Entering a session changes neither the event, nor its advance, nor the proposal. -/
theorem Call.enter_rows (c : Call) (s : State) :
    (c.enter s).event = s.event ∧ (c.enter s).advance = s.advance ∧
      (c.enter s).proposal = s.proposal :=
  ⟨rfl, rfl, rfl⟩

/-- **A cancelled event stays cancelled, with its advance as it is.** -/
theorem Traced.event_cancelled (h : Released d) (hs : Traced cfg d r d') (hc : d.EventCancelled) :
    d'.EventCancelled ∧ d'.advance = d.advance := by
  obtain ⟨e, he, hst⟩ := hc
  cases hs with
  | review env actor op d q entries hstep =>
      refine ⟨⟨e, ?_, hst⟩, Dossier.advance_flushed ..⟩
      rw [Dossier.event_flushed, he]
      rfl
  | withdrawn c p logs entries hcan => cases he
  | event c s s' hstep =>
      obtain ⟨hev, hadv, _⟩ := c.enter_rows s
      have hpend := h.advance ⟨e, he, hst⟩
      cases he
      obtain ⟨hc', hsame⟩ := Op.exec_cancelled hstep (hev ▸ hst)
        fun a ha => hpend a (by rw [hadv] at ha; exact ha)
      exact ⟨⟨s'.event, rfl, hc'⟩, hsame.trans hadv⟩

/-- The cancellation of the event. -/
theorem Traced.cancels (hs : Traced cfg d r d') (hlive : ¬ d.EventCancelled)
    (hc : d'.EventCancelled) :
    ∃ s s', d = .confirmed s ∧ d' = .confirmed s' ∧ CancelsEvent s s' := by
  obtain ⟨e, he, hst⟩ := hc
  cases hs with
  | review env actor op d q entries hstep =>
      rw [Dossier.event_flushed] at he
      cases hev : d.event with
      | some e0 =>
          rw [hev, Option.some_or] at he
          cases he
          exact (hlive ⟨e, hev, hst⟩).elim
      | none =>
          rw [hev, Option.none_or] at he
          rw [ReviewOp.creates_live he] at hst
          cases hst
  | withdrawn c p logs entries hcan => cases he
  | event c s s' hstep =>
      obtain ⟨hev, hadv, hprop⟩ := c.enter_rows s
      cases he
      have hcancels := Op.exec_cancels hstep (fun hc => hlive ⟨s.event, rfl, hev ▸ hc⟩) hst
      unfold CancelsEvent at hcancels
      rw [hprop, hadv] at hcancels
      exact ⟨s, s', rfl, rfl, hcancels⟩

/-- **The end is permanent.** -/
theorem Traced.terminated (hin : InStanding d) (h : Released d) (hs : Traced cfg d r d')
    (ht : d.Terminated) : d'.Terminated := by
  have hkeep := hin.ended_step hs (hin.ended_of_terminated ht)
  rcases ht with hr | hr | hc
  · exact .inl (hkeep.trans hr)
  · exact .inr (.inl (hkeep.trans hr))
  · exact .inr (.inr (hs.event_cancelled h hc).1)

theorem Dossier.HallFree.of_released {e : Dossier}
    (h : e.proposal.booking = d.proposal.booking.map releasedBooking) : e.HallFree := by
  intro b hb
  rw [h] at hb
  obtain ⟨b', _, rfl⟩ := Option.map_eq_some_iff.mp hb
  rfl

/-- **The step lemma.** -/
theorem Traced.released (hin : InStanding d) (h : Released d) (hs : Traced cfg d r d') :
    Released d' := by
  have hcancel : ¬ d.EventCancelled → d'.EventCancelled → d'.HallFree ∧
      ∀ a, d'.advance = some a → ¬ a.1.Pending := by
    intro hlive hc
    obtain ⟨s, s', rfl, rfl, hprop, reason, hadv⟩ := hs.cancels hlive hc
    refine ⟨.of_released (d := .confirmed s) ?_, fun a ha => ?_⟩
    · show s'.proposal.booking = s.proposal.booking.map releasedBooking
      rw [hprop, releaseHall_eq]
      rfl
    · rw [show s'.advance = some a from ha] at hadv
      obtain ⟨b, _, rfl⟩ := Option.map_eq_some_iff.mp hadv.symm
      exact not_pending_cancelledAdvance b.1
  refine ⟨fun ht => ?_, fun hc => ?_⟩
  · by_cases hend : d.Terminated
    · -- ended before: the booking stays released
      have hfree := h.hall hend
      have hended := hin.ended_of_terminated hend
      cases hs with
      | review env actor op d q entries hstep =>
          obtain ⟨verificationIn, bp, _, _, rfl⟩ := hstep.of_ended hin.rows hended
          intro b hb
          rw [Dossier.proposal_flushed] at hb
          exact hfree b hb
      | withdrawn c p logs entries hcan =>
          refine .of_released (d := .proposed p logs) ?_
          exact withdrawn_booking p
      | event c s s' hstep =>
          rcases hstep.proposal hin.approved with hsame | ⟨_, hrel⟩
          · intro b hb
            rw [Dossier.proposal_confirmed, hsame] at hb
            exact hfree b hb
          · refine .of_released (d := .confirmed s) ?_
            rw [Dossier.proposal_confirmed, hrel, releaseHall_eq]
            rfl
    · by_cases hc : d'.EventCancelled
      · exact (hcancel (fun hd => hend (.inr (.inr hd))) hc).1
      · have hst : d'.proposal.request.status = .rejected ∨
            d'.proposal.request.status = .cancelled := by
          rcases ht with hr | hr | hd
          · exact .inl hr
          · exact .inr hr
          · exact (hc hd).elim
        cases hs with
        | review env actor op d q entries hstep =>
            rw [Dossier.proposal_flushed] at hst
            refine .of_released (d := d) ?_
            rw [Dossier.proposal_flushed]
            refine hstep.rejects (fun hended => ?_) hst
            obtain ⟨verificationIn, bp, _, _, rfl⟩ := hstep.of_ended hin.rows hended
            exact hend (hst.elim .inl fun hr => .inr (.inl hr))
        | withdrawn c p logs entries hcan =>
            refine .of_released (d := .proposed p logs) ?_
            exact withdrawn_booking p
        | event c s s' hstep =>
            have hkeep := hin.ended_step (.event c s s' hstep) (.inl hin.approved)
            rw [hkeep] at hst
            exact (hend (hst.elim .inl fun hr => .inr (.inl hr))).elim
  · by_cases hd : d.EventCancelled
    · rw [(hs.event_cancelled h hd).2]
      exact h.advance hd
    · exact (hcancel hd hc).2

theorem Drafted.released (h : Drafted d) : Released d := by
  obtain ⟨request, logs, rfl, _⟩ := h.row
  refine ⟨fun _ b hb => ?_, fun hc => ?_⟩
  · cases hb
  · obtain ⟨e, he, _⟩ := hc
    cases he

theorem Dossier.Reachable.released (h : Dossier.Reachable cfg d) : Released d :=
  Runs.Reach.invariant_given (fun _ hr => Dossier.Reachable.inStanding hr)
    (fun _ h0 => h0.released) (fun _ _ _ hin hrel hs => hs.traced.released hin hrel) h

/-! ## 4. The end is permanent -/

/-- An ended dossier stays one over every run. -/
theorem Dossier.Reachable.terminated_path {requests : List Request} (h : Dossier.Reachable cfg d)
    (ht : d.Terminated) (hp : Runs.Path (Dossier.Step cfg) d requests d') : d'.Terminated := by
  have hrun := Runs.Path.preserves (P := fun e => Dossier.Reachable cfg e ∧ e.Terminated) ?_ hp
    ⟨h, ht⟩
  · exact hrun.2
  · rintro e r e' ⟨he, hte⟩ hs
    exact ⟨.next he hs, hs.traced.terminated he.inStanding he.released hte⟩

/-- Over every run from the cancellation of the event on, its advance stays as it is. -/
theorem Dossier.Reachable.cancelled_path {requests : List Request} (h : Dossier.Reachable cfg d)
    (hc : d.EventCancelled) (hp : Runs.Path (Dossier.Step cfg) d requests d') :
    d'.EventCancelled ∧ d'.advance = d.advance := by
  have hrun := Runs.Path.preserves
    (P := fun e => Dossier.Reachable cfg e ∧ e.EventCancelled ∧ e.advance = d.advance) ?_ hp
    ⟨h, hc, rfl⟩
  · exact hrun.2
  · rintro e r e' ⟨he, hce, hadv⟩ hs
    obtain ⟨hc', hsame⟩ := hs.traced.event_cancelled he.released hce
    exact ⟨.next he hs, hc', hsame.trans hadv⟩

/-- The cancellation itself pays nothing out. -/
theorem Traced.disburses_nothing (hs : Traced cfg d r d') (h : Released d)
    (hc : d'.EventCancelled) (hd : d'.Disbursed) : d.Disbursed := by
  obtain ⟨a, ha, hst⟩ := hd
  by_cases hlive : d.EventCancelled
  · rw [(hs.event_cancelled h hlive).2] at ha
    exact ⟨a, ha, hst⟩
  · obtain ⟨s, s', rfl, rfl, _, reason, hadv⟩ := hs.cancels hlive hc
    rw [show s'.advance = some a from ha] at hadv
    obtain ⟨b, hb, rfl⟩ := Option.map_eq_some_iff.mp hadv.symm
    exact ⟨b, hb, not_disbursed_cancelledAdvance hst⟩

/-- **The end gives back the hall and the advance, for good.** Once the proposal is REJECTED or
    CANCELLED or its event is CANCELLED, it stays so, and no booking is active from there on. A
    cancelled event keeps its advance as it is, REJECTED or DISBURSED, and one that was not paid out
    before the cancellation is never paid out after it. -/
theorem termination_releases (cfg : Config) {d : Dossier} (h : Dossier.Reachable cfg d) :
    (d.Terminated → ∀ requests d', Runs.Path (Dossier.Step cfg) d requests d' →
      d'.Terminated ∧ d'.HallFree) ∧
    (d.EventCancelled → ∀ requests d', Runs.Path (Dossier.Step cfg) d requests d' →
      d'.EventCancelled ∧ d'.advance = d.advance ∧
        ∀ a, d'.advance = some a → a.1.status = .rejected ∨ a.1.status = .disbursed) ∧
    (¬ d.Disbursed → ∀ r d1, Dossier.Step cfg d r d1 → d1.EventCancelled →
      ∀ requests d', Runs.Path (Dossier.Step cfg) d1 requests d' → ¬ d'.Disbursed) := by
  refine ⟨?_, ?_, ?_⟩
  · intro ht requests d' hp
    have ht' := h.terminated_path ht hp
    have hr : Dossier.Reachable cfg d' := h.path hp
    exact ⟨ht', hr.released.hall ht'⟩
  · intro hc requests d' hp
    obtain ⟨hc', hsame⟩ := h.cancelled_path hc hp
    have hr : Dossier.Reachable cfg d' := h.path hp
    refine ⟨hc', hsame, fun a ha => ?_⟩
    have hdone := hr.released.advance hc' a ha
    cases hst : a.1.status with
    | requested => exact (hdone (.inl hst)).elim
    | approved => exact (hdone (.inr hst)).elim
    | disbursed => exact .inr rfl
    | rejected => exact .inl rfl
  · intro hunpaid r d1 hs hc requests d' hp hex
    obtain ⟨a, ha, hst⟩ := hex
    have hr : Dossier.Reachable cfg d1 := .next h hs
    rw [(hr.cancelled_path hc hp).2] at ha
    exact hunpaid (hs.traced.disburses_nothing h.released hc ⟨a, ha, hst⟩)

/-- The sample proposal, approved; its event asks for an advance and is cancelled. -/
theorem termination_releases_cancelled :
    ∃ d, Dossier.Reachable (Sample.config .sqlite) d ∧ d.EventCancelled ∧ d.advance ≠ none ∧
      d.proposal.booking ≠ none ∧
      (∀ requests d', Runs.Path (Dossier.Step (Sample.config .sqlite)) d requests d' →
        d'.Terminated ∧ d'.HallFree) ∧
      ∀ requests d', Runs.Path (Dossier.Step (Sample.config .sqlite)) d requests d' →
        d'.EventCancelled ∧ d'.advance = d.advance ∧
          ∀ a, d'.advance = some a → a.1.status = .rejected ∨ a.1.status = .disbursed := by
  have hrun : Runs.Ends (Sample.after (Sample.plan ++
      [Sample.submit Sample.staff Sample.secretary 1] ++ Sample.approveAll 1 ++
      [.event (Sample.bySecretary (.requestAdvance (Sample.uid 70) 5000 [])),
        .event (Sample.bySecretary (.cancelConfirmedEvent "rain".toList))]))
      fun d => (∃ e ∈ d.event, e.status = .cancelled) ∧ d.advance ≠ none ∧
        d.proposal.booking ≠ none := by
    decide
  obtain ⟨d, hok, hc, hadv, hbooking⟩ := hrun
  obtain ⟨d0, h0, hpath⟩ := Sample.path_of_after hok
  have h : Dossier.Reachable (Sample.config .sqlite) d := Runs.Reach.path (.start h0) hpath
  obtain ⟨hterm, hkept, _⟩ := termination_releases (Sample.config .sqlite) h
  exact ⟨d, h, hc, hadv, hbooking, hterm (.inr (.inr hc)), hkept hc⟩

end Steps

end CampusConnect
