/-
  File:      CampusConnect/Concurrency/Cancelling.lean
  Subject:   Cancellation of a proposal or its event while steps are approved and the event completes.

  * `DecisionRequest.script`: the three transactions. The cancellation loads its row before it locks
    it, and keeps the attributes it was loaded with; an approval locks its step, and nothing else until
    its flush; the completion locks the event;
  * `CancelCommit`, `ApprovalCommit`, `CompletionCommit`: what a commit has read, locked and written;
  * `AwaitsReview`: a step that awaits a decision belongs to a proposal under review. Approvals keep it
    without a lock on the proposal, since a withdrawal has to lock the step too;
  * `LegalChange`: the legal transitions of a proposal and its event;
  * `locked_decisions`: each request takes one, as long as every cancellation and every settlement
    request would also pass its check on the row its lock returned.
-/
import CampusConnect.Concurrency.Dossiers
import CampusConnect.Concurrency.Settlements
import CampusConnect.Guarantees.Standing

namespace CampusConnect

open Guarded Rows Transactions EventService WorkflowService

/-! ## 1. The transactions -/

inductive DecisionRequest where
  | cancelAnyEvent (env : Env) (actor : User) (identifier : Uuid) (reason : Text)
  | approveStep (env : ReviewEnv) (actor : User) (stepId : Uuid) (comments : Option Text)
      (newBookingId newEventId : Uuid)
  | completeAndSubmitReport (env : Env) (actor : User) (newId : Uuid)
      (reportIn : PostEventReportCreate)

/-- The columns `cancel_confirmed_event` assigns. -/
def Event.flushCancelled (loaded row c : Event) : Event :=
  { c with
    status := assigned loaded.status row.status c.status
    cancelledAt := assigned loaded.cancelledAt row.cancelledAt c.cancelledAt
    cancelledBy := assigned loaded.cancelledBy row.cancelledBy c.cancelledBy
    cancellationReason := assigned loaded.cancellationReason row.cancellationReason
      c.cancellationReason }

/-- The columns of an advance that is turned down; the CHECK constraints do not look at them. -/
def rejectAdvance (reason : Text) (a : Stored CashAdvance) : Stored CashAdvance :=
  ⟨{ a.1 with
    status := .rejected
    rejectionReason := some ("Event cancelled: ".toList ++ reason) }, a.2⟩

/-- `UPDATE cash_advances … WHERE id = …`, when the advance was loaded as pending. -/
def turnDownAdvance (reason : Text) (loaded committed : Option (Stored CashAdvance)) :
    Result (Option (Stored CashAdvance)) :=
  match loaded.filter fun a => a.1.Pending with
  | none => pure committed
  | some a => do
      let row ← fetch (committed.filter fun r => r.1.id = a.1.id) staleDataError
      return some (rejectAdvance reason row)

/-- The advance row, as a FOR UPDATE select finds it. -/
def advanceRows (d : Dossier) : List DossierKey :=
  if d.state.bind State.advance = none then [] else [.advance]

/-- The event row, as a FOR UPDATE select finds it. -/
def eventRows (d : Dossier) : List DossierKey := if d.state = none then [] else [.event]

namespace DecisionRequest

/-- The writes of `cancel_confirmed_event`. -/
def writeCancellation (reason : Text) (seen s' : State) (db : Dossier) : Result Dossier := do
  let s ← fetch db.state staleDataError
  let q ← vacateHall seen.proposal s.proposal
  let advance ← turnDownAdvance reason seen.advance s.advance
  return .confirmed { s with
    proposal := q
    event := Event.flushCancelled seen.event s'.event s.event
    advance := advance
    auditLogs := s.auditLogs ++ s'.entriesSince seen }

/-- `cancel_confirmed_event` of the event `loaded`: its lock leaves the attributes as they are. -/
def cancelEventScript (env : Env) (actor : User) (reason : Text) (loaded : State) :
    DossierProg (Dossier → Result Dossier) := do
  let _ ← Prog.hold fun _ => [.event]
  let booking ← Prog.hold bookingRows
  let advance ← Prog.hold advanceRows
  let seen : State := { loaded with
    proposal := { loaded.proposal with booking := booking.proposal.booking }
    advance := advance.state.bind State.advance }
  let s' ← Prog.lift (cancelConfirmedEvent env actor reason seen)
  return writeCancellation reason seen s'

/-- The event, by one of its keys. -/
def eventUnder (identifier : Uuid) (d : Dossier) : Option State :=
  d.state.filter fun s => s.event.id = identifier ∨ s.event.eventRequestId = identifier

/-- The proposal, by its key. -/
def requestUnder (identifier : Uuid) (d : Dossier) : Option EventRequest :=
  if d.proposal.request.id = identifier ∧ d.proposal.request.deletedAt = none then
    some d.proposal.request
  else none

/-- `cancel_any_event`. -/
def cancelScript (env : Env) (actor : User) (identifier : Uuid) (reason : Text) :
    DossierProg (Dossier → Result Dossier) := do
  let found ← Prog.view
  match eventUnder identifier found with
  | some loaded => cancelEventScript env actor reason loaded
  | none => do
      let proposal ← Prog.view
      let request ← Prog.lift (fetch (requestUnder identifier proposal)
        ⟨.notFound, "Event proposal or confirmed event with ID '%s' was not found.",
          [.uuid identifier]⟩)
      let _ ← Prog.hold fun _ => [.request]
      withdrawScript env actor reason request

/-- The step row, as a FOR UPDATE select finds it. -/
def stepRows (stepId : Uuid) (d : Dossier) : List DossierKey :=
  if d.proposal.steps.find stepId = none then [] else [.step stepId]

/-- The rows the flush of an approval writes, its step apart. -/
def approvalRows (seen : Proposal) (step : WorkflowInstanceStep) (event : Option Event) :
    List DossierKey :=
  .workflow step.instanceId ::
    ((if (nextStep seen step).isNone ∨ seen.request.status = .submitted then [.request] else []) ++
      (if step.stepOrder = 2 ∧ seen.venueRequest ≠ none then [.venue, .booking] else []) ++
      (if step.stepOrder = 3 ∧ seen.budgetProposal ≠ none then [.budget] else []) ++
      if event = none then [] else [.event])

theorem request_mem_approvalRows {seen : Proposal} {step : WorkflowInstanceStep}
    {event : Option Event} (h : (nextStep seen step).isNone ∨ seen.request.status = .submitted) :
    DossierKey.request ∈ approvalRows seen step event := by
  unfold approvalRows
  rw [if_pos h]
  simp

theorem event_mem_approvalRows {seen : Proposal} {step : WorkflowInstanceStep} {event : Option Event}
    (h : event ≠ none) : DossierKey.event ∈ approvalRows seen step event := by
  unfold approvalRows
  rw [if_neg h]
  simp

/-- The rows an approval decides on. The second step keeps the venue request and the booking it has
    loaded first. -/
def approvalSeen (step : WorkflowInstanceStep) (flow request venue booking budget next versions
    lateBooking lateVenue : Dossier) : Proposal where
  request := request.proposal.request
  venueRequest := if step.stepOrder = 2 then venue.proposal.venueRequest
    else lateVenue.proposal.venueRequest
  budgetProposal := budget.proposal.budgetProposal
  versions := versions.proposal.versions
  instances := flow.proposal.instances
  steps := (next.proposal.steps.replace step).getD next.proposal.steps
  booking := if step.stepOrder = 2 then booking.proposal.booking else lateBooking.proposal.booking

/-- `approve_step`: the step is locked, with the attributes of that select; the instance, the proposal
    and what the decision needs beside them are selected after it. -/
def approveScript (env : ReviewEnv) (actor : User) (stepId : Uuid) (comments : Option Text)
    (newBookingId newEventId : Uuid) : DossierProg (Dossier → Result Dossier) := do
  let held ← Prog.hold (stepRows stepId)
  let step ← Prog.lift (fetch (held.proposal.steps.find stepId)
    ⟨.notFound, "Workflow step with ID '%s' was not found.", [.uuid stepId]⟩)
  let flow ← Prog.view
  let request ← Prog.view
  let venue ← Prog.view
  let booking ← Prog.view
  let budget ← Prog.view
  let next ← Prog.view
  let existing ← Prog.view
  let versions ← Prog.view
  let lateBooking ← Prog.view
  let lateVenue ← Prog.view
  let seen := approvalSeen step flow request venue booking budget next versions lateBooking lateVenue
  let f ← Prog.lift (WorkflowService.approveStep env actor stepId comments newBookingId newEventId
    existing.event seen)
  let _ ← Prog.hold fun _ => approvalRows seen step f.event
  return writeFlush f

/-- The writes of `complete_and_submit_report`. The report is inserted. -/
def writeCompletion (seen s' : State) (db : Dossier) : Result Dossier := do
  let s ← fetch db.state staleDataError
  refuse (s.report ≠ none) integrityError
  return .confirmed { s with
    event := Event.flush seen.event s'.event s.event
    report := s'.report
    auditLogs := s.auditLogs ++ s'.entriesSince seen }

/-- `complete_and_submit_report`. -/
def completeScript (env : Env) (actor : User) (newId : Uuid) (reportIn : PostEventReportCreate) :
    DossierProg (Dossier → Result Dossier) := do
  let held ← Prog.hold eventRows
  let event ← Prog.lift (fetch held.state noEvent)
  let report ← Prog.view
  let seen : State := { event with report := report.state.bind State.report }
  let s' ← Prog.lift (EventExecutionService.completeAndSubmitReport env actor newId reportIn seen)
  return writeCompletion seen s'

/-- The transaction of a request. -/
def script : DecisionRequest → DossierProg (Dossier → Result Dossier)
  | .cancelAnyEvent env actor identifier reason => cancelScript env actor identifier reason
  | .approveStep env actor stepId comments newBookingId newEventId =>
      approveScript env actor stepId comments newBookingId newEventId
  | .completeAndSubmitReport env actor newId reportIn => completeScript env actor newId reportIn

/-! ## 2. What a commit has read, locked and written -/

section Commits

variable {vs : List Dossier} {write : Dossier → Result Dossier} {db db' : Dossier}

/-- The commit of an event's cancellation. -/
structure EventCancelled (loaded : State) (script : DossierProg (Dossier → Result Dossier))
    (vs : List Dossier) (db db' : Dossier) : Prop where
  cancellable : loaded.event.status = .scheduled ∨ loaded.event.status = .inProgress
  locked : ∃ held rest, vs = held :: rest ∧ script.since .event vs = vs
  rows : ∃ s s', db = .confirmed s ∧ db' = .confirmed s' ∧ s'.event.status = .cancelled ∧
    ∃ booking, s'.proposal = { s.proposal with booking := booking }

theorem state_confirmed {d : Dossier} {s : State} (h : d.state = some s) : d = .confirmed s := by
  cases d with
  | proposed p logs => cases h
  | confirmed t =>
      obtain rfl : t = s := Option.some.inj h
      rfl

theorem verifyEventCancellable_accepts {event : Event} {u : Unit}
    (h : verifyEventCancellable event = .ok u) :
    event.status = .scheduled ∨ event.status = .inProgress := by
  simp only [verifyEventCancellable, bind_accepts, refuse_accepts, exists_unit] at h
  obtain ⟨hsealed, hcomp, hreq, hcan⟩ := h
  unfold Event.Sealed at hsealed
  cases hst : event.status <;> simp_all

theorem cancelEvent_commit {env : Env} {actor : User} {reason : Text} {loaded : State}
    (h : (cancelEventScript env actor reason loaded).after vs = .done write)
    (hw : write db = .ok db') :
    EventCancelled loaded (cancelEventScript env actor reason loaded) vs db db' := by
  unfold cancelEventScript at h
  obtain ⟨held, vs1, rfl, h1⟩ := Prog.after_hold.mp h
  obtain ⟨booking, vs2, rfl, h2⟩ := Prog.after_hold.mp h1
  obtain ⟨advance, vs3, rfl, h3⟩ := Prog.after_hold.mp h2
  obtain ⟨s', hs', h4⟩ := Prog.after_decision.mp h3
  obtain rfl := Prog.after_done.mp h4
  simp only [cancelConfirmedEvent, bind_accepts, exists_unit, pure_accepts] at hs'
  obtain ⟨_, hver, rfl⟩ := hs'
  have hfrom := verifyEventCancellable_accepts hver
  simp only [writeCancellation, bind_accepts, fetch_accepts, pure_accepts] at hw
  obtain ⟨s, hstate, q, hq, advance', _, rfl⟩ := hw
  obtain ⟨row, hrow⟩ := vacateHall_writes hq
  refine ⟨hfrom, ⟨held, _, rfl, ?_⟩, s, _, state_confirmed hstate, rfl, ?_, row, hrow⟩
  · unfold cancelEventScript
    exact Prog.since_hold_mem (List.mem_singleton.mpr rfl)
  · show assigned loaded.event.status EventStatus.cancelled s.event.status = .cancelled
    unfold assigned
    rw [if_neg]
    intro hst
    rcases hfrom with he | he <;> rw [he] at hst <;> cases hst

theorem requestUnder_eq_some {identifier : Uuid} {d : Dossier} {request : EventRequest}
    (h : requestUnder identifier d = some request) : request = d.proposal.request := by
  unfold requestUnder at h
  by_cases hid : d.proposal.request.id = identifier ∧ d.proposal.request.deletedAt = none
  · rw [if_pos hid] at h
    exact (Option.some.inj h).symm
  · rw [if_neg hid] at h
    cases h

/-- **The commit of a cancellation**: of the event it has found, or of the proposal it has loaded
    before it locked the row. -/
inductive CancelCommit (identifier : Uuid) (script : DossierProg (Dossier → Result Dossier))
    (vs : List Dossier) (db db' : Dossier) : Prop where
  | event (found held : Dossier) (loaded : State) (rest : List Dossier) (hvs : vs = found :: held :: rest)
      (hfound : eventUnder identifier found = some loaded)
      (hlock : held ∈ script.since .event vs)
      (s s' : State) (hdb : db = .confirmed s) (hdb' : db' = .confirmed s')
      (hst : s'.event.status = .cancelled)
      (hrows : ∃ booking, s'.proposal = { s.proposal with booking := booking })
  | proposal (found proposal held flow steps : Dossier) (rest : List Dossier) (seen : Proposal)
      (hvs : vs = found :: proposal :: held :: rest) (hfound : eventUnder identifier found = none)
      (hlock : held ∈ script.since .request vs) (hflow : flow ∈ vs) (hsteps : steps ∈ vs)
      (hrequest : seen.request = proposal.proposal.request)
      (hinsts : seen.instances = flow.proposal.instances)
      (hseen : seen.steps = steps.proposal.steps)
      (hwrite : withdraw seen db.proposal = .ok db'.proposal)
      (hinst : ∀ i, activeInstance seen = some i → script.since (.workflow i.id) vs ≠ [])
      (hskip : ∀ id ∈ stepsToSkip seen, script.since (.step id) vs ≠ [])
      (hevent : db'.event = db.event)

theorem cancel_commit {env : Env} {actor : User} {identifier : Uuid} {reason : Text}
    (h : (cancelScript env actor identifier reason).after vs = .done write)
    (hw : write db = .ok db') :
    CancelCommit identifier (cancelScript env actor identifier reason) vs db db' := by
  unfold cancelScript at h
  obtain ⟨found, vs1, rfl, h1⟩ := Prog.after_view.mp h
  cases hfound : eventUnder identifier found with
  | some loaded =>
      rw [hfound] at h1
      obtain ⟨_, ⟨held, rest, rfl, hsince⟩, s, s', hdb, hdb', hst, hrows⟩ := cancelEvent_commit h1 hw
      refine .event found held loaded rest rfl hfound ?_ s s' hdb hdb' hst hrows
      unfold cancelScript
      rw [Prog.since_view, hfound]
      show held ∈ (cancelEventScript env actor reason loaded).since .event (held :: rest)
      rw [hsince]
      exact List.mem_cons_self
  | none =>
      rw [hfound] at h1
      obtain ⟨proposal, vs2, rfl, h2⟩ := Prog.after_view.mp h1
      obtain ⟨request, hreq, h3⟩ := Prog.after_decision.mp h2
      obtain ⟨held, vs3, rfl, h4⟩ := Prog.after_hold.mp h3
      obtain ⟨_, ⟨flow, steps, seen, hflow, hsteps, hrequest, hinsts, hseen, hwrite, hinst, hskip⟩,
        hevent⟩ := withdraw_commit h4 hw
      have hscript : ∀ k, (cancelScript env actor identifier reason).since k
          (found :: proposal :: held :: vs3) =
          if k ∈ [DossierKey.request] then held :: vs3
          else (withdrawScript env actor reason request).since k vs3 := by
        intro k
        unfold cancelScript
        rw [Prog.since_view, hfound]
        show (Prog.view >>= fun proposal => _).since k (proposal :: held :: vs3) = _
        rw [Prog.since_view, Prog.since_decision hreq, Prog.since_hold]
      have hlater : ∀ k, (withdrawScript env actor reason request).since k vs3 ≠ [] →
          (cancelScript env actor identifier reason).since k (found :: proposal :: held :: vs3) ≠
            [] := by
        intro k hk
        rw [hscript]
        by_cases hrow : k ∈ [DossierKey.request]
        · rw [if_pos hrow]
          exact List.cons_ne_nil _ _
        · rw [if_neg hrow]
          exact hk
      rw [fetch_accepts] at hreq
      refine .proposal found proposal held flow steps vs3 seen rfl hfound ?_ ?_ ?_ ?_ hinsts hseen
        hwrite (fun i hi => hlater _ (hinst i hi)) (fun id hid => hlater _ (hskip id hid)) hevent
      · rw [hscript, if_pos (List.mem_singleton.mpr rfl)]
        exact List.mem_cons_self
      · exact List.mem_cons_of_mem _ (List.mem_cons_of_mem _ (List.mem_cons_of_mem _ hflow))
      · exact List.mem_cons_of_mem _ (List.mem_cons_of_mem _ (List.mem_cons_of_mem _ hsteps))
      · rw [hrequest]
        exact requestUnder_eq_some hreq

/-- Where an approval takes the committed instance and proposal, decided on the status it has loaded. -/
inductive ApprovalMoved (loaded : EventRequestStatus) (inst : WorkflowInstance) (p q : Proposal) :
    Prop where
  | next (order : Nat)
      (hi : p.instances.update inst.id (fun i => { i with currentStepOrder := order }) =
        some q.instances)
      (hr : q.request = { p.request with
        status := if loaded = .submitted then .inReview else p.request.status })
  | last (hi : p.instances.update inst.id (fun i => { i with status := .completed }) =
        some q.instances)
      (hr : q.request = { p.request with status := .approved })

/-- The second and the third step write no workflow row. -/
theorem interlock_rows {env : ReviewEnv} {actor : User} {comments : Option Text} {newId : Uuid}
    {step : WorkflowInstanceStep} {seen p q : Proposal}
    (h : interlock env actor comments newId step seen p = .ok q) :
    ∃ v b bp, q = { p with venueRequest := v, booking := b, budgetProposal := bp } := by
  unfold interlock at h
  by_cases h2 : step.stepOrder = 2
  · rw [if_pos h2] at h
    unfold approveVenue at h
    cases hv : seen.venueRequest with
    | none =>
        simp only [hv, pure_accepts] at h
        exact ⟨p.venueRequest, p.booking, p.budgetProposal, h.symm⟩
    | some vr =>
        simp only [hv, bind_accepts, Proposal.updateVenue_accepts] at h
        obtain ⟨_, ⟨v, _, _, _, rfl⟩, hb⟩ := h
        unfold confirmBooking at hb
        cases hsb : seen.booking with
        | none =>
            simp only [hsb, bind_accepts, refuse_accepts, exists_unit, pure_accepts] at hb
            obtain ⟨_, rfl⟩ := hb
            exact ⟨_, _, _, rfl⟩
        | some b =>
            simp only [hsb] at hb
            by_cases hact : b.isActive = true
            · rw [if_pos hact, pure_accepts] at hb
              subst hb
              exact ⟨_, _, _, rfl⟩
            · rw [if_neg hact] at hb
              simp only [bind_accepts, refuse_accepts, exists_unit,
                Proposal.updateBooking_accepts] at hb
              obtain ⟨_, c, _, _, rfl⟩ := hb
              exact ⟨_, _, _, rfl⟩
  · rw [if_neg h2] at h
    by_cases h3 : step.stepOrder = 3
    · rw [if_pos h3] at h
      unfold approveBudget at h
      cases hb : seen.budgetProposal with
      | none =>
          simp only [hb, pure_accepts] at h
          exact ⟨p.venueRequest, p.booking, p.budgetProposal, h.symm⟩
      | some bp =>
          simp only [hb] at h
          obtain ⟨b, _, _, _, rfl⟩ := Proposal.updateBudget_accepts.mp h
          exact ⟨_, _, _, rfl⟩
    · rw [if_neg h3, pure_accepts] at h
      exact ⟨p.venueRequest, p.booking, p.budgetProposal, h.symm⟩

/-- **What an approval flushes**: decided on the rows `seen`, written into the rows `p`. -/
theorem approveStep_flush {env : ReviewEnv} {actor : User} {stepId : Uuid} {comments : Option Text}
    {newBookingId newEventId : Uuid} {existing : Option Event} {seen p q : Proposal} {f : Flush}
    (h : WorkflowService.approveStep env actor stepId comments newBookingId newEventId existing seen =
      .ok f) (hw : f.write p = .ok q) :
    ∃ step inst, StepDecision actor stepId seen step inst ∧
      p.steps.update stepId (decideStep env .approved comments step inst) = some q.steps ∧
      ApprovalMoved seen.request.status inst p q ∧
      (q.request.status ≠ p.request.status →
        (nextStep seen step).isNone ∨ seen.request.status = .submitted) ∧
      ∀ e ∈ f.event, e.status = .scheduled := by
  simp only [WorkflowService.approveStep, bind_accepts, refuse_accepts, exists_unit,
    pure_accepts] at h
  obtain ⟨⟨step, inst⟩, hload, hver, _, rfl⟩ := h
  have hd := decision_accepts hload hver
  simp only [bind_accepts] at hw
  obtain ⟨p1, h1, p2, h2, h3⟩ := hw
  simp only [Proposal.updateStep, bind_accepts, fetch_accepts, pure_accepts] at h1
  obtain ⟨t, ht, rfl⟩ := h1
  rw [hd.step_id] at ht
  obtain ⟨v, b, bp, rfl⟩ := interlock_rows h2
  refine ⟨step, inst, hd, ?_⟩
  unfold advance at h3
  cases hnext : nextStep seen step with
  | some next =>
      simp only [hnext, Proposal.updateInstance, bind_accepts, fetch_accepts, pure_accepts] at h3
      obtain ⟨r, ⟨u, hu, rfl⟩, rfl⟩ := h3
      refine ⟨ht, .next next.stepOrder hu ?_, ?_, ?_⟩
      · unfold Proposal.updateRequest
        by_cases hst : seen.request.status = .submitted
        · simp only [if_pos hst]
        · simp only [if_neg hst]
      · intro hne
        refine .inr ?_
        by_contra hst
        refine hne ?_
        unfold Proposal.updateRequest
        simp only [if_neg hst]
      · intro e he
        unfold approvedEvent at he
        simp only [hnext] at he
        cases he
  | none =>
      simp only [hnext, Proposal.updateInstance, bind_accepts, fetch_accepts, pure_accepts] at h3
      obtain ⟨r, ⟨u, hu, rfl⟩, rfl⟩ := h3
      refine ⟨ht, .last hu rfl, fun _ => .inl rfl, ?_⟩
      intro e he
      unfold approvedEvent at he
      cases existing with
      | some old =>
          simp only [hnext] at he
          cases he
      | none =>
          simp only [hnext] at he
          obtain rfl := Option.some.inj he
          rfl

/-- The step row a session has locked is the one of its key in what it goes on with. -/
theorem locked_step {t : Table WorkflowInstanceStep} {step other : WorkflowInstanceStep}
    (h : ((t.replace step).getD t).find step.id = some other) : other = step := by
  obtain ⟨u, hu⟩ := t.replace_of_check (a := step) trivial
  rw [hu] at h
  have hfind := Table.find_replace hu step.id
  rw [show u.find step.id = some other from h] at hfind
  obtain ⟨b, hb, hother⟩ := Option.map_eq_some_iff.mp hfind.symm
  have hkey : Row.key b = Row.key step := Table.key_of_find hb
  rw [if_pos hkey] at hother
  exact hother.symm

/-- **The commit of an approval**: its step is the locked one, its instance the one it has selected. -/
structure ApprovalCommit (env : ReviewEnv) (actor : User) (comments : Option Text) (stepId : Uuid)
    (held flow : Dossier) (step : WorkflowInstanceStep) (inst : WorkflowInstance)
    (loaded : EventRequestStatus) (script : DossierProg (Dossier → Result Dossier))
    (vs : List Dossier) (db db' : Dossier) : Prop where
  views : ∃ rest, vs = held :: flow :: rest
  stepFound : held.proposal.steps.find stepId = some step
  instFound : flow.proposal.instances.find step.instanceId = some inst
  pending : step.status = .pending
  inProgress : inst.status = .inProgress
  current : step.stepOrder = inst.currentStepOrder
  steps : db.proposal.steps.update stepId (decideStep env .approved comments step inst) =
    some db'.proposal.steps
  moved : ApprovalMoved loaded inst db.proposal db'.proposal
  stepLock : script.since (.step stepId) vs = vs
  instLock : script.since (.workflow inst.id) vs ≠ []
  requestLock : db'.proposal.request.status ≠ db.proposal.request.status →
    script.since .request vs ≠ []
  event : db'.event = db.event ∨ (db.event = none ∧ script.since .event vs ≠ [] ∧
    ∃ e, db'.event = some e ∧ e.status = .scheduled)

theorem approve_commit {env : ReviewEnv} {actor : User} {stepId : Uuid} {comments : Option Text}
    {newBookingId newEventId : Uuid}
    (h : (approveScript env actor stepId comments newBookingId newEventId).after vs = .done write)
    (hw : write db = .ok db') :
    ∃ held flow step inst loaded, ApprovalCommit env actor comments stepId held flow step inst loaded
      (approveScript env actor stepId comments newBookingId newEventId) vs db db' := by
  unfold approveScript at h
  obtain ⟨held, vs1, rfl, h1⟩ := Prog.after_hold.mp h
  obtain ⟨step, hstep, h2⟩ := Prog.after_decision.mp h1
  simp only [Prog.after_view] at h2
  obtain ⟨flow, _, rfl, request, _, rfl, venue, _, rfl, booking, _, rfl, budget, _, rfl, next, _, rfl,
    existing, _, rfl, versions, _, rfl, lateBooking, _, rfl, lateVenue, vs2, rfl, h3⟩ := h2
  obtain ⟨f, hf, h4⟩ := Prog.after_decision.mp h3
  obtain ⟨last, vs3, rfl, h5⟩ := Prog.after_hold.mp h4
  obtain rfl := Prog.after_done.mp h5
  obtain ⟨hq, hevent, hfresh⟩ := writeFlush_accepts hw
  obtain ⟨other, inst, hd, hsteps, hmoved, hstatus, hscheduled⟩ := approveStep_flush hf hq
  have hfound : held.proposal.steps.find stepId = some step := fetch_accepts.mp hstep
  have hid : step.id = stepId := Table.key_of_find hfound
  have hsame : other = step := by
    have hfind := hd.stepFound
    rw [← hid] at hfind
    exact locked_step hfind
  subst hsame
  have hown : inst.id = other.instanceId := hd.inst_id
  -- the rows of the flush are locked at its end
  have hlocks : ∀ k, k ∈ approvalRows (approvalSeen other flow request venue booking budget next
      versions lateBooking lateVenue) other f.event →
      (approveScript env actor stepId comments newBookingId newEventId).since k
        (held :: flow :: request :: venue :: booking :: budget :: next :: existing :: versions ::
          lateBooking :: lateVenue :: last :: vs3) ≠ [] := by
    intro k hk
    unfold approveScript
    refine Prog.since_hold_ne ?_
    rw [Prog.since_decision hstep]
    simp only [Prog.since_view]
    rw [Prog.since_decision hf]
    refine List.ne_nil_of_mem (a := last) ?_
    rw [Prog.since_hold, if_pos hk]
    exact List.mem_cons_self
  refine ⟨held, flow, other, inst, _, ⟨_, rfl⟩, hfound, hd.instFound, hd.pending, hd.inProgress,
    hd.current, hsteps, hmoved, ?_, ?_, ?_, ?_⟩
  · unfold approveScript
    refine Prog.since_hold_mem ?_
    unfold stepRows
    rw [hfound]
    exact List.mem_singleton.mpr rfl
  · rw [hown]
    exact hlocks _ List.mem_cons_self
  · intro hne
    exact hlocks _ (request_mem_approvalRows (hstatus hne))
  · cases hfe : f.event with
    | none =>
        rw [hfe, Option.or_none] at hevent
        exact .inl hevent
    | some e =>
        have hnew : f.event ≠ none := by
          rw [hfe]
          exact Option.some_ne_none e
        have hnone : db.event = none := hfresh hnew
        refine .inr ⟨hnone, hlocks _ (event_mem_approvalRows hnew), e, ?_, hscheduled e hfe⟩
        rw [hevent, hnone, hfe]
        rfl

/-- The commit of a completion. -/
structure CompletionCommit (script : DossierProg (Dossier → Result Dossier)) (vs : List Dossier)
    (db db' : Dossier) : Prop where
  locked : ∃ held event rest, vs = held :: rest ∧ held.event = some event ∧
    (event.status = .scheduled ∨ event.status = .inProgress) ∧ script.since .event vs = vs
  rows : ∃ s s', db = .confirmed s ∧ db' = .confirmed s' ∧ s'.event.status = .completed ∧
    s'.proposal = s.proposal

theorem complete_commit {env : Env} {actor : User} {newId : Uuid} {reportIn : PostEventReportCreate}
    (h : (completeScript env actor newId reportIn).after vs = .done write) (hw : write db = .ok db') :
    CompletionCommit (completeScript env actor newId reportIn) vs db db' := by
  unfold completeScript at h
  obtain ⟨held, vs1, rfl, h1⟩ := Prog.after_hold.mp h
  obtain ⟨event, hevent, h2⟩ := Prog.after_decision.mp h1
  obtain ⟨report, vs2, rfl, h3⟩ := Prog.after_view.mp h2
  obtain ⟨s', hs', h4⟩ := Prog.after_decision.mp h3
  obtain rfl := Prog.after_done.mp h4
  have hstate : held.state = some event := fetch_accepts.mp hevent
  have hheld := state_confirmed hstate
  simp only [EventExecutionService.completeAndSubmitReport, bind_accepts, fetch_accepts, exists_unit,
    refuse_accepts, not_not, pure_accepts] at hs'
  obtain ⟨_, _, _, hfrom, _, row, _, rfl⟩ := hs'
  simp only [writeCompletion, bind_accepts, fetch_accepts, refuse_accepts, exists_unit,
    pure_accepts] at hw
  obtain ⟨s, hdb, _, rfl⟩ := hw
  refine ⟨⟨held, event.event, _, rfl, ?_, hfrom.symm, ?_⟩, s, _, state_confirmed hdb, rfl, ?_, rfl⟩
  · rw [hheld]
    rfl
  · unfold completeScript
    refine Prog.since_hold_mem ?_
    unfold eventRows
    rw [hstate]
    exact List.mem_singleton.mpr rfl
  · show assigned event.event.status EventStatus.completed s.event.status = .completed
    unfold assigned
    rw [if_neg]
    intro hst
    rcases hfrom with he | he <;> rw [he] at hst <;> cases hst

end Commits

/-! ## 3. Alone -/

/-- The request at `d`. None of the three uses the settlement object of its session. -/
def request (d : Dossier) : DecisionRequest → Request
  | .cancelAnyEvent env actor identifier reason =>
      .event ⟨env, actor, d.attached, .cancelAnyEvent identifier reason⟩
  | .approveStep env actor stepId comments newBookingId newEventId =>
      .review env actor (.approveStep stepId comments newBookingId newEventId)
  | .completeAndSubmitReport env actor newId reportIn =>
      .event ⟨env, actor, d.attached, .completeAndSubmitReport newId reportIn⟩

section Alone

variable {d d' : Dossier}

theorem cancelEvent_serial {env : Env} {actor : User} {reason : Text} {s s' : State}
    (h : cancelConfirmedEvent env actor reason s = .ok s') :
    (cancelEventScript env actor reason s).serial (.confirmed s) = .ok (.confirmed s') := by
  show (Prog.lift (cancelConfirmedEvent env actor reason s) >>= fun s' =>
    pure (writeCancellation reason s s') : DossierProg (Dossier → Result Dossier)).serial _ = _
  rw [Prog.serial_decision h, Prog.serial_done]
  simp only [cancelConfirmedEvent, bind_accepts, exists_unit, pure_accepts] at h
  obtain ⟨_, _, rfl⟩ := h
  have hhall : vacateHall s.proposal s.proposal = .ok (releaseHall s.proposal) := by
    unfold vacateHall releaseHall
    cases hb : activeBooking s.proposal with
    | none => rfl
    | some b =>
        obtain ⟨hfound, _⟩ := Option.filter_eq_some_iff.mp hb
        exact Proposal.updateBooking_accepts.mpr ⟨b, hfound, rfl, rfl⟩
  have hadvance : turnDownAdvance reason s.advance s.advance =
      .ok (s.advance.map (cancelStoredAdvance reason)) := by
    unfold turnDownAdvance
    cases ha : s.advance with
    | none => rfl
    | some a =>
        unfold cancelStoredAdvance cancelledAdvance rejectAdvance
        by_cases hp : a.1.Pending
        · rw [Option.filter_some, if_pos (decide_eq_true hp)]
          simp only [bind_accepts, fetch_accepts, pure_accepts]
          refine ⟨a, ?_, ?_⟩
          · rw [Option.filter_some, if_pos (decide_eq_true rfl)]
          · simp only [Option.map_some, if_pos hp]
        · rw [Option.filter_some, if_neg (by rw [decide_eq_true_eq]; exact hp)]
          simp only [Option.map_some, if_neg hp, pure_accepts]
  simp only [writeCancellation, bind_accepts, fetch_accepts, pure_accepts]
  refine ⟨s, rfl, _, hhall, _, hadvance, ?_⟩
  unfold Event.flushCancelled
  simp only [assigned_self, State.log, State.entriesSince, List.drop_left]
  rfl

theorem cancel_serial {cfg : Config} {env : Env} {actor : User} {identifier : Uuid} {reason : Text}
    (hcheck : ∀ v ∈ d.proposal.venueRequest, v.Check)
    (h : Dossier.exec cfg (request d (.cancelAnyEvent env actor identifier reason)) d = .ok d') :
    (cancelScript env actor identifier reason).serial d = .ok d' := by
  have hwithdraw : ∀ {q entries}, eventUnder identifier d = none →
      d.proposal.request.id = identifier →
      cancelProposal env actor reason d.proposal = .ok (q, entries) →
      (cancelScript env actor identifier reason).serial d = .ok (d.flushed q none entries) := by
    intro q entries hnone hid hcan
    have hlive : d.proposal.request.deletedAt = none := by
      simp only [cancelProposal, bind_accepts, refuse_accepts, exists_unit, not_not, ne_eq] at hcan
      exact hcan.1
    have hfound : requestUnder identifier d = some d.proposal.request := if_pos ⟨hid, hlive⟩
    unfold cancelScript
    rw [Prog.serial_view, hnone]
    show (Prog.view >>= fun proposal => _ : DossierProg (Dossier → Result Dossier)).serial d = _
    rw [Prog.serial_view, Prog.serial_decision (fetch_accepts.mpr hfound), Prog.serial_hold]
    exact withdraw_serial hcheck hcan
  cases d with
  | proposed p logs =>
      simp only [Dossier.exec, request, bind_accepts, pure_accepts] at h
      obtain ⟨⟨q, entries⟩, hon, rfl⟩ := h
      unfold Call.onProposal at hon
      by_cases hid : p.request.id = identifier
      · simp only [if_pos hid] at hon
        exact hwithdraw rfl hid hon
      · simp only [if_neg hid] at hon
        cases hon
  | confirmed s =>
      simp only [Dossier.exec, request, bind_accepts, pure_accepts] at h
      obtain ⟨s', hs', rfl⟩ := h
      have hs : EventService.cancelAnyEvent env actor identifier reason s = .ok s' := hs'
      unfold EventService.cancelAnyEvent at hs
      by_cases hev : s.event.id = identifier ∨ s.event.eventRequestId = identifier
      · rw [if_pos hev] at hs
        unfold cancelScript
        have hfound : eventUnder identifier (.confirmed s) = some s := by
          unfold eventUnder Dossier.state
          rw [Option.filter_some, if_pos (decide_eq_true hev)]
        rw [Prog.serial_view, hfound]
        exact cancelEvent_serial hs
      · rw [if_neg hev] at hs
        have hnone : eventUnder identifier (.confirmed s) = none := by
          unfold eventUnder Dossier.state
          rw [Option.filter_some, if_neg (by rw [decide_eq_true_eq]; exact hev)]
        by_cases hid : s.proposal.request.id = identifier
        · rw [if_pos hid, bind_accepts] at hs
          obtain ⟨⟨q, entries⟩, hcan, heq⟩ := hs
          rw [pure_accepts] at heq
          rw [← heq]
          exact hwithdraw hnone hid hcan
        · rw [if_neg hid] at hs
          cases hs

theorem approve_serial {cfg : Config} {env : ReviewEnv} {actor : User} {stepId : Uuid}
    {comments : Option Text} {newBookingId newEventId : Uuid}
    (h : Dossier.exec cfg
      (request d (.approveStep env actor stepId comments newBookingId newEventId)) d = .ok d') :
    (approveScript env actor stepId comments newBookingId newEventId).serial d = .ok d' := by
  simp only [Dossier.exec, request, ReviewOp.flush, bind_accepts, pure_accepts] at h
  obtain ⟨f, hf, q, hq, rfl⟩ := h
  obtain ⟨step, inst, hd, _, _, hev⟩ := approveStep_writes hf hq
  have hsteps : (d.proposal.steps.replace step).getD d.proposal.steps = d.proposal.steps := by
    rw [Table.replace_self (Table.mem_of_find hd.stepFound)]
    rfl
  have hseen : approvalSeen step d d d d d d d d d = d.proposal := by
    unfold approvalSeen
    simp only [ite_self, hsteps]
  unfold approveScript
  rw [Prog.serial_hold, Prog.serial_decision (fetch_accepts.mpr hd.stepFound)]
  simp only [Prog.serial_view, hseen]
  rw [Prog.serial_decision hf, Prog.serial_hold, Prog.serial_done]
  simp only [writeFlush, bind_accepts, refuse_accepts, exists_unit, pure_accepts]
  refine ⟨?_, q, hq, rfl⟩
  intro hex
  obtain ⟨hnew, hold⟩ := hex
  refine hnew ?_
  rw [hev]
  unfold approvedEvent
  obtain ⟨e, he⟩ := Option.ne_none_iff_exists'.mp hold
  rw [he]
  cases nextStep d.proposal step <;> rfl

theorem complete_serial {cfg : Config} {env : Env} {actor : User} {newId : Uuid}
    {reportIn : PostEventReportCreate}
    (h : Dossier.exec cfg (request d (.completeAndSubmitReport env actor newId reportIn)) d =
      .ok d') :
    (completeScript env actor newId reportIn).serial d = .ok d' := by
  cases d with
  | proposed p logs =>
      simp only [Dossier.exec, request, bind_accepts] at h
      obtain ⟨_, hon, _⟩ := h
      cases hon
  | confirmed s =>
      simp only [Dossier.exec, request, bind_accepts, pure_accepts] at h
      obtain ⟨s', hs', rfl⟩ := h
      have hs : EventExecutionService.completeAndSubmitReport env actor newId reportIn s =
          .ok s' := hs'
      show (Prog.lift (EventExecutionService.completeAndSubmitReport env actor newId reportIn s) >>=
        fun s' => pure (writeCompletion s s') : DossierProg (Dossier → Result Dossier)).serial _ = _
      rw [Prog.serial_decision hs, Prog.serial_done]
      simp only [EventExecutionService.completeAndSubmitReport, bind_accepts, fetch_accepts,
        exists_unit, refuse_accepts, EventExecutionService.verifyNoReport_accepts,
        pure_accepts] at hs
      obtain ⟨_, _, _, _, hnone, row, _, rfl⟩ := hs
      simp only [writeCompletion, bind_accepts, fetch_accepts, refuse_accepts, exists_unit,
        pure_accepts]
      refine ⟨s, rfl, fun hsome => hsome hnone, ?_⟩
      unfold Event.flush
      simp only [assigned_self, State.log, State.entriesSince, List.drop_left]

/-- **Alone, each transaction is the request of the sequential system.** -/
theorem serial {cfg : Config} {r : DecisionRequest}
    (hcheck : ∀ v ∈ d.proposal.venueRequest, v.Check)
    (h : Dossier.exec cfg (r.request d) d = .ok d') : r.script.serial d = .ok d' := by
  cases r with
  | cancelAnyEvent env actor identifier reason => exact cancel_serial hcheck h
  | approveStep env actor stepId comments newBookingId newEventId => exact approve_serial h
  | completeAndSubmitReport env actor newId reportIn => exact complete_serial h

end Alone

end DecisionRequest

/-! ## 4. Interleavings -/

section Runs

variable {cfg : Config} {ok : World Failure Dossier DossierKey DecisionRequest →
  Action DecisionRequest → Prop} {w : World Failure Dossier DossierKey DecisionRequest}

/-- The worlds of all interleavings of these requests from a state that requests one after the other
    have reached, under a condition on each step. -/
abbrev DecisionWorld (cfg : Config)
    (ok : World Failure Dossier DossierKey DecisionRequest → Action DecisionRequest → Prop)
    (w : World Failure Dossier DossierKey DecisionRequest) : Prop :=
  Transactions.Reachable DecisionRequest.script (Dossier.Reachable cfg) ok w

/-- **What a commit does**, one case for each transaction. -/
inductive DecisionCommit (r : DecisionRequest) (vs : List Dossier) (db db' : Dossier) : Prop where
  | cancelled (env : Env) (actor : User) (identifier : Uuid) (reason : Text)
      (hr : r = .cancelAnyEvent env actor identifier reason)
      (h : DecisionRequest.CancelCommit identifier r.script vs db db')
  | approved (env : ReviewEnv) (actor : User) (comments : Option Text) (stepId : Uuid)
      (held flow : Dossier) (step : WorkflowInstanceStep) (inst : WorkflowInstance)
      (loaded : EventRequestStatus) (newBookingId newEventId : Uuid)
      (hr : r = .approveStep env actor stepId comments newBookingId newEventId)
      (h : DecisionRequest.ApprovalCommit env actor comments stepId held flow step inst loaded
        r.script vs db db')
  | completed (h : DecisionRequest.CompletionCommit r.script vs db db')

theorem DecisionRequest.commit {i : Nat} {t : Txn Failure Dossier DossierKey DecisionRequest}
    {s : Dossier} (hcommit : Commit DecisionRequest.script w i t s) :
    DecisionCommit t.request t.views w.db s := by
  obtain ⟨write, hdone, hw⟩ := hcommit.write
  cases hr : t.request with
  | cancelAnyEvent env actor identifier reason =>
      rw [hr] at hdone
      exact .cancelled env actor identifier reason rfl (DecisionRequest.cancel_commit hdone hw)
  | approveStep env actor stepId comments newBookingId newEventId =>
      rw [hr] at hdone
      obtain ⟨held, flow, step, inst, loaded, h⟩ := DecisionRequest.approve_commit hdone hw
      exact .approved env actor comments stepId held flow step inst loaded newBookingId newEventId rfl h
  | completeAndSubmitReport env actor newId reportIn =>
      rw [hr] at hdone
      exact .completed (DecisionRequest.complete_commit hdone hw)

/-- What moves one way only: a step is decided once, an instance ends once. -/
structure Older (p q : Proposal) : Prop where
  link : q.request.workflowInstanceId = p.request.workflowInstanceId
  steps : ∀ id s, q.steps.find id = some s → ∃ o, p.steps.find id = some o ∧
    o.instanceId = s.instanceId ∧ o.stepOrder = s.stepOrder ∧ (s.status = .pending → o.status = .pending)
  instances : ∀ id i, q.instances.find id = some i → ∃ o, p.instances.find id = some o ∧
    (i.status = .inProgress → o.status = .inProgress)

theorem Older.refl (p : Proposal) : Older p p :=
  ⟨rfl, fun _ s h => ⟨s, h, rfl, rfl, id⟩, fun _ i h => ⟨i, h, id⟩⟩

theorem Older.trans {p q r : Proposal} (h : Older p q) (h' : Older q r) : Older p r := by
  refine ⟨h'.link.trans h.link, ?_, ?_⟩
  · intro id s hs
    obtain ⟨o, ho, hown, hord, hpend⟩ := h'.steps id s hs
    obtain ⟨o', ho', hown', hord', hpend'⟩ := h.steps id o ho
    exact ⟨o', ho', hown'.trans hown, hord'.trans hord, fun hp => hpend' (hpend hp)⟩
  · intro id i hi
    obtain ⟨o, ho, hprog⟩ := h'.instances id i hi
    obtain ⟨o', ho', hprog'⟩ := h.instances id o ho
    exact ⟨o', ho', fun hp => hprog' (hprog hp)⟩

/-- The rows the workflow is made of. -/
structure SameWorkflow (p q : Proposal) : Prop where
  request : q.request = p.request
  steps : q.steps = p.steps
  instances : q.instances = p.instances

theorem SameWorkflow.older {p q : Proposal} (h : SameWorkflow p q) : Older p q := by
  have hrefl := Older.refl p
  refine ⟨by rw [h.request], ?_, ?_⟩
  · rw [h.steps]
    exact hrefl.steps
  · rw [h.instances]
    exact hrefl.instances

/-- What a withdrawal has read, written and locked of the workflow. -/
structure WithdrawalCommit (script : DossierProg (Dossier → Result Dossier)) (vs : List Dossier)
    (seen : Proposal) (db db' : Dossier) : Prop where
  request : ∃ v ∈ vs, seen.request = v.proposal.request
  instances : ∃ v ∈ vs, seen.instances = v.proposal.instances
  steps : ∃ v ∈ vs, seen.steps = v.proposal.steps
  stopped : WorkflowStopped seen db.proposal db'.proposal
  link : db'.proposal.request.workflowInstanceId = db.proposal.request.workflowInstanceId
  skipped : ∀ id ∈ stepsToSkip seen, script.since (.step id) vs ≠ []

/-- **What a commit does to the workflow**: nothing, or it stops it, or it approves one step. -/
inductive WorkflowCommit (r : DecisionRequest) (vs : List Dossier) (db db' : Dossier) : Prop where
  | same (h : SameWorkflow db.proposal db'.proposal)
  | withdrawn (seen : Proposal) (h : WithdrawalCommit r.script vs seen db db')
  | approved (env : ReviewEnv) (actor : User) (comments : Option Text) (stepId : Uuid)
      (held flow : Dossier) (step : WorkflowInstanceStep) (inst : WorkflowInstance)
      (loaded : EventRequestStatus) (newBookingId newEventId : Uuid)
      (hr : r = .approveStep env actor stepId comments newBookingId newEventId)
      (h : DecisionRequest.ApprovalCommit env actor comments stepId held flow step inst loaded
        r.script vs db db')

theorem DecisionCommit.workflow {r : DecisionRequest} {vs : List Dossier} {db db' : Dossier}
    (h : DecisionCommit r vs db db') : WorkflowCommit r vs db db' := by
  cases h with
  | cancelled env actor identifier reason hr h =>
      cases h with
      | event found held loaded rest hvs hfound hlock s s' hdb hdb' hst hrows =>
          obtain ⟨booking, hrow⟩ := hrows
          refine .same ?_
          rw [hdb, hdb', Dossier.proposal_confirmed, Dossier.proposal_confirmed, hrow]
          exact ⟨rfl, rfl, rfl⟩
      | proposal found proposal held flow steps rest seen hvs hfound hlock hflow hsteps hrequest
          hinsts hseen hwrite hinst hskip hevent =>
          obtain ⟨hreq, hstopped, _⟩ := withdraw_writes hwrite
          have hmem : proposal ∈ vs := by
            rw [hvs]
            exact List.mem_cons_of_mem _ List.mem_cons_self
          exact .withdrawn seen
            { request := ⟨proposal, hmem, hrequest⟩
              instances := ⟨flow, hflow, hinsts⟩
              steps := ⟨steps, hsteps, hseen⟩
              stopped := hstopped
              link := by rw [hreq]
              skipped := hskip }
  | approved env actor comments stepId held flow step inst loaded newBookingId newEventId hr h =>
      exact .approved env actor comments stepId held flow step inst loaded newBookingId newEventId hr h
  | completed h =>
      obtain ⟨s, s', hdb, hdb', _, hrow⟩ := h.rows
      refine .same ?_
      rw [hdb, hdb', Dossier.proposal_confirmed, Dossier.proposal_confirmed, hrow]
      exact ⟨rfl, rfl, rfl⟩

/-- An instance that a withdrawal does not stop is the committed one. -/
theorem WorkflowStopped.other {seen p q : Proposal} (h : WorkflowStopped seen p q) {id : Uuid}
    (hid : ∀ wf, activeInstance seen = some wf → id ≠ wf.id) :
    q.instances.find id = p.instances.find id := by
  cases h with
  | idle hact hi hs => rw [hi]
  | stopped wf hact hi hs => rw [Table.find_update hi (fun _ => rfl), if_neg (hid wf hact)]

/-- An instance that is in progress after a withdrawal is not the one it has stopped. -/
theorem WorkflowStopped.inProgress {seen p q : Proposal} (h : WorkflowStopped seen p q) {id : Uuid}
    {inst wf : WorkflowInstance} (hfind : q.instances.find id = some inst)
    (hprog : inst.status = .inProgress) (hact : activeInstance seen = some wf) : id ≠ wf.id := by
  cases h with
  | idle hidle hi hs =>
      rw [hidle] at hact
      cases hact
  | stopped wf' hact' hi hs =>
      obtain rfl : wf' = wf := Option.some.inj (hact'.symm.trans hact)
      intro hid
      rw [Table.find_update hi (fun _ => rfl), if_pos hid] at hfind
      obtain ⟨o, _, rfl⟩ := Option.map_eq_some_iff.mp hfind
      cases hprog

theorem WorkflowStopped.older {seen p q : Proposal} (h : WorkflowStopped seen p q)
    (hlink : q.request.workflowInstanceId = p.request.workflowInstanceId) : Older p q := by
  cases h with
  | idle hact hi hs =>
      have hrefl := Older.refl p
      refine ⟨hlink, ?_, ?_⟩
      · rw [hs]
        exact hrefl.steps
      · rw [hi]
        exact hrefl.instances
  | stopped wf hact hi hs =>
      refine ⟨hlink, ?_, ?_⟩
      · intro id s hfind
        rw [hs, Table.find_modify] at hfind
        obtain ⟨o, ho, rfl⟩ := Option.map_eq_some_iff.mp hfind
        refine ⟨o, ho, ?_⟩
        unfold skipLoaded
        by_cases hskip : o.id ∈ pendingSteps seen wf
        · rw [if_pos hskip]
          exact ⟨rfl, rfl, fun hp => nomatch hp⟩
        · rw [if_neg hskip]
          exact ⟨rfl, rfl, fun hp => hp⟩
      · intro id i hfind
        rw [Table.find_update hi (fun _ => rfl)] at hfind
        by_cases hid : id = wf.id
        · rw [if_pos hid] at hfind
          obtain ⟨o, ho, rfl⟩ := Option.map_eq_some_iff.mp hfind
          exact ⟨o, ho, fun hp => nomatch hp⟩
        · rw [if_neg hid] at hfind
          exact ⟨i, hfind, fun hp => hp⟩

/-- An approval moves no other instance. -/
theorem DecisionRequest.ApprovalMoved.other {loaded : EventRequestStatus} {inst : WorkflowInstance}
    {p q : Proposal} (h : DecisionRequest.ApprovalMoved loaded inst p q) {id : Uuid}
    (hid : id ≠ inst.id) : q.instances.find id = p.instances.find id := by
  cases h with
  | next order hi hr => rw [Table.find_update hi (fun _ => rfl), if_neg hid]
  | last hi hr => rw [Table.find_update hi (fun _ => rfl), if_neg hid]

theorem DecisionRequest.ApprovalMoved.link {loaded : EventRequestStatus} {inst : WorkflowInstance}
    {p q : Proposal} (h : DecisionRequest.ApprovalMoved loaded inst p q) :
    q.request.workflowInstanceId = p.request.workflowInstanceId := by
  cases h with
  | next order hi hr => rw [hr]
  | last hi hr => rw [hr]

theorem DecisionRequest.ApprovalMoved.older_instances {loaded : EventRequestStatus}
    {inst : WorkflowInstance} {p q : Proposal} (h : DecisionRequest.ApprovalMoved loaded inst p q)
    (id : Uuid) (i : WorkflowInstance) (hfind : q.instances.find id = some i) :
    ∃ o, p.instances.find id = some o ∧ (i.status = .inProgress → o.status = .inProgress) := by
  by_cases hid : id = inst.id
  · cases h with
    | next order hi hr =>
        rw [Table.find_update hi (fun _ => rfl), if_pos hid] at hfind
        obtain ⟨o, ho, rfl⟩ := Option.map_eq_some_iff.mp hfind
        exact ⟨o, ho, fun hp => hp⟩
    | last hi hr =>
        rw [Table.find_update hi (fun _ => rfl), if_pos hid] at hfind
        obtain ⟨o, ho, rfl⟩ := Option.map_eq_some_iff.mp hfind
        exact ⟨o, ho, fun hp => nomatch hp⟩
  · rw [h.other hid] at hfind
    exact ⟨i, hfind, fun hp => hp⟩

theorem DecisionCommit.older {r : DecisionRequest} {vs : List Dossier} {db db' : Dossier}
    (h : DecisionCommit r vs db db') : Older db.proposal db'.proposal := by
  cases h.workflow with
  | same h => exact h.older
  | withdrawn seen h => exact h.stopped.older h.link
  | approved env actor comments stepId held flow step inst loaded newBookingId newEventId hr h =>
      refine ⟨h.moved.link, fun id s hfind => ?_, h.moved.older_instances⟩
      rw [Table.find_update h.steps (fun _ => rfl)] at hfind
      by_cases hid : id = stepId
      · rw [if_pos hid] at hfind
        obtain ⟨o, ho, rfl⟩ := Option.map_eq_some_iff.mp hfind
        exact ⟨o, ho, rfl, rfl, fun hp => nomatch hp⟩
      · rw [if_neg hid] at hfind
        exact ⟨s, hfind, rfl, rfl, fun hp => hp⟩

/-- **What a session has read is older than what is committed.** -/
theorem DecisionWorld.older (h : DecisionWorld cfg ok w) {i : Nat}
    {t : Txn Failure Dossier DossierKey DecisionRequest} (hi : w.running i = some t) :
    ∀ v ∈ t.views, Older v.proposal w.db.proposal := by
  refine Transactions.Reachable.older (R := fun d d' => Older d.proposal d'.proposal)
    (fun d => Older.refl d.proposal) ?_ ?_ h i t hi
  · intro d e f h1 h2
    exact Older.trans h1 h2
  · intro w i t s _ _ hcommit
    exact (DecisionRequest.commit hcommit).older

/-! ## 5. What the locks pin -/

/-- A step that a withdrawal does not skip is the committed one. -/
theorem WorkflowStopped.step {seen p q : Proposal} (h : WorkflowStopped seen p q) {id : Uuid}
    (hid : id ∉ stepsToSkip seen) : q.steps.find id = p.steps.find id := by
  cases h with
  | idle hact hi hs => rw [hs]
  | stopped wf hact hi hs =>
      unfold stepsToSkip at hid
      rw [hact] at hid
      rw [hs, Table.find_modify]
      cases hfind : p.steps.find id with
      | none => rfl
      | some step =>
          have hkey : step.id = id := Table.key_of_find hfind
          unfold skipLoaded
          rw [Option.map_some, hkey, if_neg hid]

/-- A locked step stays as it is. -/
theorem DecisionWorld.step_pinned (h : DecisionWorld cfg ok w) (id : Uuid) {i : Nat}
    {t : Txn Failure Dossier DossierKey DecisionRequest} (hi : w.running i = some t) :
    ∀ v ∈ t.request.script.since (.step id) t.views,
      v.proposal.steps.find id = w.db.proposal.steps.find id := by
  refine Transactions.Reachable.pinned (f := fun d : Dossier => d.proposal.steps.find id) ?_ h i t hi
  intro w i t s _ _ hcommit
  cases (DecisionRequest.commit hcommit).workflow with
  | same h =>
      refine .inl ?_
      rw [h.steps]
  | withdrawn seen h =>
      by_cases hid : id ∈ stepsToSkip seen
      · exact .inr (h.skipped id hid)
      · exact .inl (h.stopped.step hid)
  | approved env actor comments stepId held flow step inst loaded newBookingId newEventId hr h =>
      by_cases hid : id = stepId
      · refine .inr ?_
        obtain ⟨rest, hvs⟩ := h.views
        rw [hid, h.stepLock, hvs]
        exact List.cons_ne_nil _ _
      · refine .inl ?_
        rw [Table.find_update h.steps (fun _ => rfl), if_neg hid]

/-- The status of a locked proposal stays as it is. -/
theorem DecisionWorld.request_pinned (h : DecisionWorld cfg ok w) {i : Nat}
    {t : Txn Failure Dossier DossierKey DecisionRequest} (hi : w.running i = some t) :
    ∀ v ∈ t.request.script.since .request t.views,
      v.proposal.request.status = w.db.proposal.request.status := by
  refine Transactions.Reachable.pinned (f := fun d : Dossier => d.proposal.request.status) ?_ h i t hi
  intro w i t s _ _ hcommit
  cases DecisionRequest.commit hcommit with
  | cancelled env actor identifier reason hr h =>
      cases h with
      | event found held loaded rest hvs hfound hlock s s' hdb hdb' hst hrows =>
          obtain ⟨booking, hrow⟩ := hrows
          refine .inl ?_
          rw [hdb, hdb', Dossier.proposal_confirmed, Dossier.proposal_confirmed, hrow]
      | proposal found proposal held flow steps rest seen hvs hfound hlock hflow hsteps hrequest
          hinsts hseen hwrite hinst hskip hevent => exact .inr (List.ne_nil_of_mem hlock)
  | approved env actor comments stepId held flow step inst loaded newBookingId newEventId hr h =>
      by_cases hst : s.proposal.request.status = w.db.proposal.request.status
      · exact .inl hst
      · exact .inr (h.requestLock hst)
  | completed h =>
      obtain ⟨s, s', hdb, hdb', _, hrow⟩ := h.rows
      refine .inl ?_
      rw [hdb, hdb', Dossier.proposal_confirmed, Dossier.proposal_confirmed, hrow]

/-- The status of the event. -/
def eventStatus (d : Dossier) : Option EventStatus := d.event.map Event.status

/-- The status of a locked event stays as it is. -/
theorem DecisionWorld.event_pinned (h : DecisionWorld cfg ok w) {i : Nat}
    {t : Txn Failure Dossier DossierKey DecisionRequest} (hi : w.running i = some t) :
    ∀ v ∈ t.request.script.since .event t.views, eventStatus v = eventStatus w.db := by
  refine Transactions.Reachable.pinned (f := eventStatus) ?_ h i t hi
  intro w i t s _ _ hcommit
  cases DecisionRequest.commit hcommit with
  | cancelled env actor identifier reason hr h =>
      cases h with
      | event found held loaded rest hvs hfound hlock s s' hdb hdb' hst hrows =>
          exact .inr (List.ne_nil_of_mem hlock)
      | proposal found proposal held flow steps rest seen hvs hfound hlock hflow hsteps hrequest
          hinsts hseen hwrite hinst hskip hevent => exact .inl (congrArg (Option.map Event.status) hevent)
  | approved env actor comments stepId held flow step inst loaded newBookingId newEventId hr h =>
      rcases h.event with hsame | ⟨_, hlock, _⟩
      · exact .inl (congrArg (Option.map Event.status) hsame)
      · exact .inr hlock
  | completed h =>
      obtain ⟨held, event, rest, hvs, _, _, hlock⟩ := h.locked
      refine .inr ?_
      rw [hlock, hvs]
      exact List.cons_ne_nil _ _

/-! ## 6. Approvals decide on the committed rows -/

/-- One step of each order in an instance. -/
def OneStepEach (p : Proposal) : Prop :=
  ∀ a b s t, p.steps.find a = some s → p.steps.find b = some t → s.instanceId = t.instanceId →
    s.stepOrder = t.stepOrder → a = b

theorem Older.oneStepEach {p q : Proposal} (h : Older p q) (hp : OneStepEach p) : OneStepEach q := by
  intro a b s t hs ht hown hord
  obtain ⟨o, ho, howns, hords, _⟩ := h.steps a s hs
  obtain ⟨o', ho', hownt, hordt, _⟩ := h.steps b t ht
  exact hp a b o o' ho ho' (howns.trans (hown.trans hownt.symm)) (hords.trans (hord.trans hordt.symm))

theorem Standing.oneStepEach {p : Proposal} (h : Standing p) : OneStepEach p := by
  intro a b s t hs ht hown hord
  have hsame := h.distinct s (Table.mem_of_find hs) t (Table.mem_of_find ht) hown hord
  have ha : s.id = a := Table.key_of_find hs
  have hb : t.id = b := Table.key_of_find ht
  rw [← ha, ← hb, hsame]

theorem DecisionWorld.oneStepEach (h : DecisionWorld cfg ok w) : OneStepEach w.db.proposal := by
  refine Transactions.Reachable.invariant (P := fun _ d => OneStepEach d.proposal) ?_ ?_ h
  · intro d hd
    exact hd.inStanding.rows.oneStepEach
  · intro w i t s _ _ hcommit hone
    exact (DecisionRequest.commit hcommit).older.oneStepEach hone

/-- The step a request is about. -/
def DecisionRequest.stepId : DecisionRequest → Option Uuid
  | .approveStep _ _ stepId _ _ _ => some stepId
  | _ => none

/-- An approval under way holds the lock of its step. -/
theorem DecisionRequest.step_lock {r : DecisionRequest} {stepId : Uuid} {held : Dossier}
    {rest : List Dossier} {step : WorkflowInstanceStep} (hr : r.stepId = some stepId)
    (hstep : held.proposal.steps.find stepId = some step) :
    r.script.since (.step stepId) (held :: rest) = held :: rest := by
  cases r with
  | approveStep env actor id comments newBookingId newEventId =>
      obtain rfl : id = stepId := Option.some.inj hr
      unfold DecisionRequest.script DecisionRequest.approveScript
      refine Prog.since_hold_mem ?_
      unfold DecisionRequest.stepRows
      rw [hstep]
      exact List.mem_singleton.mpr rfl
  | cancelAnyEvent env actor identifier reason => cases hr
  | completeAndSubmitReport env actor newId reportIn => cases hr

/-- The instance that an approval has selected is the committed one, while its step is to be decided. -/
def Selected (r : DecisionRequest) (vs : List Dossier) (db : Dossier) : Prop :=
  ∀ stepId held flow rest step inst, r.stepId = some stepId → vs = held :: flow :: rest →
    held.proposal.steps.find stepId = some step →
    flow.proposal.instances.find step.instanceId = some inst → step.status = .pending →
    inst.status = .inProgress → step.stepOrder = inst.currentStepOrder →
    db.proposal.instances.find step.instanceId = some inst

/-- A pending step of the loaded instance is among those a withdrawal has to lock. -/
theorem mem_pendingSteps {seen : Proposal} {wf : WorkflowInstance} {id : Uuid}
    {step : WorkflowInstanceStep} (h : seen.steps.find id = some step) (hown : step.instanceId = wf.id)
    (hst : step.status = .pending) : id ∈ pendingSteps seen wf := by
  have hid : step.id = id := Table.key_of_find h
  unfold pendingSteps
  exact List.mem_map.mpr
    ⟨step, List.mem_filter.mpr ⟨Table.mem_of_find h, decide_eq_true ⟨hown, hst⟩⟩, hid⟩

/-- **The step lock protects the instance**: whoever changes it has to hold the step as well. -/
theorem DecisionWorld.selected (h : DecisionWorld cfg ok w) : ∀ i t, w.running i = some t →
    Selected t.request t.views w.db := by
  refine Transactions.Reachable.sessions (P := Selected) ?_ ?_ ?_ h
  · intro r s stepId held flow rest step inst _ hvs
    cases hvs
  · intro w r vs _ hp stepId held flow rest step inst hr hvs hstep hinst hpend hprog hcur
    match vs, hvs with
    | [v], hvs =>
        -- the instance has just been read
        cases hvs
        exact hinst
    | v :: v' :: vs', hvs =>
        cases hvs
        exact hp stepId held flow vs' step inst hr rfl hstep hinst hpend hprog hcur
  · intro w i t s hw _ hcommit hp j u hne hj stepId held flow rest step inst hr hvs hstep hinst hpend
      hprog hcur
    have hdb := hp j u hj stepId held flow rest step inst hr hvs hstep hinst hpend hprog hcur
    have hlock : u.request.script.since (.step stepId) u.views = held :: flow :: rest := by
      rw [hvs]
      exact DecisionRequest.step_lock hr hstep
    have hmine : u.request.script.since (.step stepId) u.views ≠ [] := by
      rw [hlock]
      exact List.cons_ne_nil _ _
    have hrow : w.db.proposal.steps.find stepId = some step := by
      rw [← hstep]
      refine (DecisionWorld.step_pinned hw stepId hj held ?_).symm
      rw [hlock]
      exact List.mem_cons_self
    have halone : t.request.script.since (.step stepId) t.views = [] := by
      by_contra hheld
      exact hne (Transactions.Reachable.exclusive hw hcommit.running hj hheld hmine).symm
    cases (DecisionRequest.commit hcommit).workflow with
    | same hc =>
        rw [hc.instances]
        exact hdb
    | withdrawn seen hc =>
        rw [hc.stopped.other ?_]
        · exact hdb
        · -- the withdrawal has read the step as pending, and locks it
          intro wf hact hown
          obtain ⟨v, hv, hseen⟩ := hc.steps
          obtain ⟨o, ho, howno, _, hpendo⟩ :=
            (DecisionWorld.older hw hcommit.running v hv).steps stepId step hrow
          rw [← hseen] at ho
          have hmem : stepId ∈ stepsToSkip seen := by
            unfold stepsToSkip
            rw [hact]
            exact mem_pendingSteps ho (howno.trans hown) (hpendo hpend)
          exact hc.skipped stepId hmem halone
    | approved env actor comments stepId' held' flow' step' inst' loaded newBookingId newEventId hreq
        hc =>
        rw [hc.moved.other ?_]
        · exact hdb
        · -- two approvals at the same place of one instance are approvals of one step
          intro hown
          obtain ⟨rest', hvs'⟩ := hc.views
          have hid' : inst'.id = step'.instanceId := Table.key_of_find hc.instFound
          have hreq' : t.request.stepId = some stepId' := by
            rw [hreq]
            rfl
          have hdb' := hp i t hcommit.running stepId' held' flow' rest' step' inst' hreq' hvs'
            hc.stepFound hc.instFound hc.pending hc.inProgress hc.current
          have hrow' : w.db.proposal.steps.find stepId' = some step' := by
            rw [← hc.stepFound]
            refine (DecisionWorld.step_pinned hw stepId' hcommit.running held' ?_).symm
            rw [hc.stepLock, hvs']
            exact List.mem_cons_self
          have hsame : inst = inst' := by
            rw [← hid', ← hown, hdb] at hdb'
            exact Option.some.inj hdb'
          have hord : step.stepOrder = step'.stepOrder := by
            rw [hcur, hsame, hc.current]
          have hone := DecisionWorld.oneStepEach hw stepId stepId' step step' hrow hrow'
            (hown.trans hid') hord
          rw [hone, hc.stepLock, hvs'] at halone
          cases halone

/-- **A step that awaits a decision** belongs to the instance of a proposal under review. -/
def AwaitsReview (p : Proposal) : Prop :=
  ∀ id s i, p.steps.find id = some s → p.instances.find s.instanceId = some i → s.status = .pending →
    i.status = .inProgress → s.stepOrder = i.currentStepOrder →
    p.request.workflowInstanceId = some i.id ∧
      (p.request.status = .submitted ∨ p.request.status = .inReview)

theorem Standing.awaitsReview {p : Proposal} (h : Standing p) : AwaitsReview p := by
  intro id s i hs hi hpend hprog hcur
  have hid : i.id = s.instanceId := Table.key_of_find hi
  obtain ⟨hlink, hwait⟩ := h.inProgress i (Table.mem_of_find hi) hprog
  refine ⟨hlink, ?_⟩
  rcases hwait with hr | hr | ⟨_, hno⟩
  · exact .inl hr
  · exact .inr hr
  · exact (hno s (Table.mem_of_find hs) hid.symm hcur hpend).elim

/-- The rows of an approval that commits, as they are committed. -/
theorem DecisionWorld.approving (h : DecisionWorld cfg ok w) {i : Nat}
    {t : Txn Failure Dossier DossierKey DecisionRequest} (hi : w.running i = some t)
    {env : ReviewEnv} {actor : User} {comments : Option Text} {stepId newBookingId newEventId : Uuid}
    {held flow : Dossier} {step : WorkflowInstanceStep} {inst : WorkflowInstance}
    {loaded : EventRequestStatus} {s : Dossier}
    (hr : t.request = .approveStep env actor stepId comments newBookingId newEventId)
    (hc : DecisionRequest.ApprovalCommit env actor comments stepId held flow step inst loaded
      t.request.script t.views w.db s) :
    w.db.proposal.steps.find stepId = some step ∧
      w.db.proposal.instances.find step.instanceId = some inst := by
  obtain ⟨rest, hvs⟩ := hc.views
  have hreq : t.request.stepId = some stepId := by
    rw [hr]
    rfl
  refine ⟨?_, DecisionWorld.selected h i t hi stepId held flow rest step inst hreq hvs hc.stepFound
    hc.instFound hc.pending hc.inProgress hc.current⟩
  rw [← hc.stepFound]
  refine (DecisionWorld.step_pinned h stepId hi held ?_).symm
  rw [hc.stepLock, hvs]
  exact List.mem_cons_self

theorem DecisionRequest.ApprovalMoved.underReview {loaded : EventRequestStatus}
    {inst : WorkflowInstance} {p q : Proposal} (h : DecisionRequest.ApprovalMoved loaded inst p q)
    (hst : p.request.status = .submitted ∨ p.request.status = .inReview) :
    (q.request.status = .submitted ∨ q.request.status = .inReview) ∨ q.request.status = .approved := by
  cases h with
  | next order hi hr =>
      refine .inl ?_
      rw [hr]
      by_cases hl : loaded = .submitted
      · simp only [if_pos hl]
        exact .inr trivial
      · simp only [if_neg hl]
        exact hst
  | last hi hr =>
      refine .inr ?_
      rw [hr]

/-- A withdrawal that has read the committed instance, in progress and linked, stops it. -/
theorem DecisionWorld.stops (h : DecisionWorld cfg ok w) {i : Nat}
    {t : Txn Failure Dossier DossierKey DecisionRequest} (hi : w.running i = some t) {s : Dossier}
    {seen : Proposal} (hc : WithdrawalCommit t.request.script t.views seen w.db s)
    {inst : WorkflowInstance} (hfind : w.db.proposal.instances.find inst.id = some inst)
    (hlink : w.db.proposal.request.workflowInstanceId = some inst.id)
    (hprog : inst.status = .inProgress) :
    ∃ wf, activeInstance seen = some wf ∧ wf.id = inst.id := by
  obtain ⟨v, hv, hrequest⟩ := hc.request
  obtain ⟨v', hv', hinsts⟩ := hc.instances
  have hseenLink : seen.request.workflowInstanceId = some inst.id := by
    rw [hrequest, ← (DecisionWorld.older h hi v hv).link]
    exact hlink
  obtain ⟨wf, hwf, hprog'⟩ := (DecisionWorld.older h hi v' hv').instances inst.id inst hfind
  have hread : seen.instances.find inst.id = some wf := by
    rw [hinsts]
    exact hwf
  refine ⟨wf, ?_, Table.key_of_find hread⟩
  unfold activeInstance
  rw [hseenLink, Option.bind_some, hread]
  exact Option.filter_eq_some_iff.mpr ⟨rfl, decide_eq_true (hprog' hprog)⟩

/-- **Every commit keeps the steps that await a decision under review.** -/
theorem DecisionWorld.awaitsReview (h : DecisionWorld cfg ok w) : AwaitsReview w.db.proposal := by
  refine Transactions.Reachable.invariant (P := fun _ d => AwaitsReview d.proposal) ?_ ?_ h
  · intro d hd
    exact hd.inStanding.rows.awaitsReview
  · intro w i t s hw _ hcommit hlaw id step inst hstep hinst hpend hprog hcur
    have holder := (DecisionRequest.commit hcommit).older
    obtain ⟨o, ho, howno, hordo, hpendo⟩ := holder.steps id step hstep
    have hid : inst.id = step.instanceId := Table.key_of_find hinst
    -- the law of the committed rows, where the commit has left the instance alone
    have hbefore : s.proposal.instances.find step.instanceId =
        w.db.proposal.instances.find step.instanceId →
        w.db.proposal.request.workflowInstanceId = some inst.id ∧
          (w.db.proposal.request.status = .submitted ∨ w.db.proposal.request.status = .inReview) := by
      intro hkept
      rw [hkept, ← howno] at hinst
      exact hlaw id o inst ho hinst (hpendo hpend) hprog (hordo.trans hcur)
    cases (DecisionRequest.commit hcommit).workflow with
    | same hc =>
        rw [hc.request]
        exact hbefore (by rw [hc.instances])
    | withdrawn seen hc =>
        -- no instance of the withdrawn proposal is left in progress with its step open
        have hkept := hc.stopped.other fun wf hact => hc.stopped.inProgress hinst hprog hact
        have hfind : w.db.proposal.instances.find inst.id = some inst := by
          rw [hid, ← hkept]
          exact hinst
        obtain ⟨wf, hact, hwf⟩ :=
          DecisionWorld.stops hw hcommit.running hc hfind (hbefore hkept).1 hprog
        exact (hc.stopped.inProgress hinst hprog hact (hid.symm.trans hwf.symm)).elim
    | approved env actor comments stepId held flow step' inst' loaded newBookingId newEventId hreq hc =>
        obtain ⟨hrow, hdb⟩ := DecisionWorld.approving hw hcommit.running hreq hc
        obtain ⟨hlink, hst⟩ := hlaw stepId step' inst' hrow hdb hc.pending hc.inProgress hc.current
        by_cases hown : step.instanceId = inst'.id
        · cases hmoved : hc.moved with
          | next order hi hr =>
              refine ⟨?_, ?_⟩
              · rw [holder.link, hid, hown]
                exact hlink
              · rcases hc.moved.underReview hst with hrev | happ
                · exact hrev
                · -- the proposal is not approved by a step that has a successor
                  rw [hr] at happ ⊢
                  by_cases hl : loaded = .submitted
                  · simp only [if_pos hl] at happ
                    cases happ
                  · simp only [if_neg hl]
                    exact hst
          | last hi hr =>
              rw [Table.find_update hi (fun _ => rfl), if_pos hown] at hinst
              obtain ⟨j, _, rfl⟩ := Option.map_eq_some_iff.mp hinst
              cases hprog
        · -- another instance in progress would be linked as well
          obtain ⟨hlink', _⟩ := hbefore (hc.moved.other hown)
          rw [hlink] at hlink'
          refine (hown ?_).elim
          rw [Option.some.inj hlink', hid]

/-! ## 7. The law -/

/-- The statuses `cancel_proposal` accepts. -/
def EventRequestStatus.Cancellable (status : EventRequestStatus) : Prop :=
  status ≠ .cancelled ∧ status ≠ .rejected ∧ status ≠ .approved

instance (status : EventRequestStatus) : Decidable status.Cancellable :=
  inferInstanceAs (Decidable (_ ∧ _ ∧ _))

/-- The statuses that an event is cancelled and completed from. -/
def EventStatus.Open (status : EventStatus) : Prop := status = .scheduled ∨ status = .inProgress

instance (status : EventStatus) : Decidable status.Open := inferInstanceAs (Decidable (_ ∨ _))

/-- **The legal transitions of a proposal** by an approval and by a cancellation. -/
inductive ProposalTransition : EventRequestStatus → EventRequestStatus → Prop where
  | advanced : ProposalTransition .submitted .inReview
  | approved (st : EventRequestStatus) (h : st = .submitted ∨ st = .inReview) :
      ProposalTransition st .approved
  | cancelled (st : EventRequestStatus) (h : st.Cancellable) : ProposalTransition st .cancelled

/-- **The legal transitions of an event**, from its creation on. -/
inductive EventTransition : Option EventStatus → Option EventStatus → Prop where
  | created : EventTransition none (some .scheduled)
  | completed (st : EventStatus) (h : st.Open) : EventTransition (some st) (some .completed)
  | cancelled (st : EventStatus) (h : st.Open) : EventTransition (some st) (some .cancelled)

/-- The statuses of the proposal and of its event change by legal transitions, or not at all. -/
structure LegalChange (d d' : Dossier) : Prop where
  proposal : d'.proposal.request.status = d.proposal.request.status ∨
    ProposalTransition d.proposal.request.status d'.proposal.request.status
  event : eventStatus d' = eventStatus d ∨ EventTransition (eventStatus d) (eventStatus d')

/-- The cancellation's own check passes on the row its lock returned: on the event it has found, or on
    the proposal. -/
def DecisionRequest.Checked (views : List Dossier) : DecisionRequest → Prop
  | .cancelAnyEvent _ _ identifier _ => ∀ found ∈ views[0]?,
      if (DecisionRequest.eventUnder identifier found).isSome then
        ∀ held ∈ views[1]?, ∀ st ∈ eventStatus held, st.Open
      else ∀ held ∈ views[2]?, held.proposal.request.status.Cancellable
  | .approveStep .. | .completeAndSubmitReport .. => True

instance (views : List Dossier) : (r : DecisionRequest) → Decidable (r.Checked views)
  | .cancelAnyEvent _ _ identifier _ => inferInstanceAs (Decidable (∀ found ∈ views[0]?,
      if (DecisionRequest.eventUnder identifier found).isSome then _ else _))
  | .approveStep .. | .completeAndSubmitReport .. => .isTrue trivial

/-- Every commit is of a checked request. -/
abbrev CheckedDecisions : World Failure Dossier DossierKey DecisionRequest → Action DecisionRequest →
    Prop :=
  OnCommit fun r views _ => r.Checked views

/-- **The step lemma**: a checked commit changes the statuses by legal transitions. -/
theorem DecisionWorld.legal (h : DecisionWorld cfg ok w) {i : Nat}
    {t : Txn Failure Dossier DossierKey DecisionRequest} {s : Dossier}
    (hcommit : Commit DecisionRequest.script w i t s) (hchecked : t.request.Checked t.views) :
    LegalChange w.db s := by
  cases DecisionRequest.commit hcommit with
  | cancelled env actor identifier reason hreq hc =>
      rw [hreq] at hchecked
      cases hc with
      | event found held loaded rest hvs hfound hlock s1 s2 hdb1 hdb2 hst hrows =>
          obtain ⟨booking, hrow⟩ := hrows
          refine ⟨.inl ?_, .inr ?_⟩
          · rw [hdb1, hdb2, Dossier.proposal_confirmed, Dossier.proposal_confirmed, hrow]
          · have hpin := DecisionWorld.event_pinned h hcommit.running held hlock
            have hnow : eventStatus w.db = some s1.event.status := by
              rw [hdb1]
              rfl
            have hthen : eventStatus s = some .cancelled := by
              rw [hdb2, ← hst]
              rfl
            have hfirst := hchecked found (by rw [hvs]; rfl)
            rw [if_pos (by rw [hfound]; rfl)] at hfirst
            rw [hnow, hthen]
            exact .cancelled _ (hfirst held (by rw [hvs]; rfl) _ (hpin.trans hnow))
      | proposal found proposal held flow steps rest seen hvs hfound hlock hflow hsteps hrequest
          hinsts hseen hwrite hinst hskip hevent =>
          obtain ⟨hq, _⟩ := withdraw_writes hwrite
          have hpin := DecisionWorld.request_pinned h hcommit.running held hlock
          have hfirst := hchecked found (by rw [hvs]; rfl)
          rw [if_neg (by rw [hfound]; exact Bool.false_ne_true)] at hfirst
          have hst := hfirst held (by rw [hvs]; rfl)
          rw [hpin] at hst
          refine ⟨.inr ?_, .inl (congrArg (Option.map Event.status) hevent)⟩
          rw [hq]
          exact .cancelled _ hst
  | approved env actor comments stepId held flow step inst loaded newBookingId newEventId hreq hc =>
      obtain ⟨hrow, hdb⟩ := DecisionWorld.approving h hcommit.running hreq hc
      obtain ⟨_, hst⟩ := DecisionWorld.awaitsReview h stepId step inst hrow hdb hc.pending
        hc.inProgress hc.current
      refine ⟨?_, ?_⟩
      · cases hc.moved with
        | next order hi hr =>
            rw [hr]
            by_cases hl : loaded = .submitted
            · simp only [if_pos hl]
              rcases hst with he | he
              · rw [he]
                exact .inr .advanced
              · exact .inl he.symm
            · simp only [if_neg hl]
              exact .inl trivial
        | last hi hr =>
            rw [hr]
            exact .inr (.approved _ hst)
      · rcases hc.event with hsame | ⟨hnone, _, e, he, hsched⟩
        · exact .inl (congrArg (Option.map Event.status) hsame)
        · refine .inr ?_
          unfold eventStatus
          rw [hnone, he, Option.map_none, Option.map_some, hsched]
          exact .created
  | completed hc =>
      obtain ⟨held, event, rest, hvs, hheld, hopen, hlock⟩ := hc.locked
      obtain ⟨s1, s2, hdb1, hdb2, hst, hrow⟩ := hc.rows
      have hpin := DecisionWorld.event_pinned h hcommit.running held (by
        rw [hlock, hvs]
        exact List.mem_cons_self)
      refine ⟨.inl ?_, .inr ?_⟩
      · rw [hdb1, hdb2, Dossier.proposal_confirmed, Dossier.proposal_confirmed, hrow]
      · have hnow : eventStatus w.db = some event.status := by
          rw [← hpin]
          unfold eventStatus
          rw [hheld]
          rfl
        have hthen : eventStatus s = some .completed := by
          rw [hdb2, ← hst]
          rfl
        rw [hnow, hthen]
        exact .completed _ hopen

/-- An approved proposal is not cancelled. -/
theorem LegalChange.approved {d d' : Dossier} (h : LegalChange d d')
    (happ : d.proposal.request.status = .approved) : d'.proposal.request.status ≠ .cancelled := by
  intro hcan
  rcases h.proposal with hsame | htrans
  · rw [hcan, happ] at hsame
    cases hsame
  · rw [hcan, happ] at htrans
    cases htrans with
    | cancelled st hst => exact hst.2.2 rfl

/-- A completed event is not cancelled. -/
theorem LegalChange.completed {d d' : Dossier} (h : LegalChange d d')
    (hcomp : eventStatus d = some .completed) : eventStatus d' ≠ some .cancelled := by
  intro hcan
  rcases h.event with hsame | htrans
  · rw [hcan, hcomp] at hsame
    cases hsame
  · rw [hcan, hcomp] at htrans
    cases htrans with
    | cancelled st hst => rcases hst with he | he <;> cases he

/-- The status of a settlement changes by the legal transitions of the requests that commit. -/
def LegalDecision (w w' : World Failure State RowKey SettlementRequest) : Prop :=
  w'.db = w.db ∨ ∃ q committed row, w'.log = w.log ++ [q] ∧ w.db.settlement = some committed ∧
    w'.db.settlement = some row ∧ q.op.move.Transition committed.1.status row.1.status

/-- **A locked decision is taken on the current row.** In every run of cancellations, approvals and
    completions, and in every run of submissions, audits and reopenings of a settlement, whose
    requests would also pass their status check on the row their lock returned, each commit changes
    statuses by legal transitions only; an approved proposal and a completed event are not cancelled,
    and a submission is decided once. -/
theorem locked_decisions (cfg : Config) :
    (∀ w a w', DecisionWorld cfg CheckedDecisions w → World.Step DecisionRequest.script w a w' →
      CheckedDecisions w a → LegalChange w.db w'.db ∧
        (w.db.proposal.request.status = .approved → w'.db.proposal.request.status ≠ .cancelled) ∧
        (eventStatus w.db = some .completed → eventStatus w'.db ≠ some .cancelled)) ∧
    ∀ s0, (∀ w a w', SettlementWorld cfg s0 CheckedCommits w →
        World.Step (SettlementRequest.script cfg) w a w' → CheckedCommits w a → LegalDecision w w') ∧
      ∀ w, SettlementWorld cfg s0 CheckedCommits w → committedMoves .audited w.log ≤
        committedMoves .submitted w.log + awaitingDecision s0 := by
  refine ⟨?_, fun s0 => ⟨?_, ?_⟩⟩
  · intro w a w' hw hstep hok
    have hlegal : LegalChange w.db w'.db := by
      rcases Transactions.Reachable.step hw hstep with ⟨hsame, _⟩ | ⟨i, t, rfl, hcommit, _⟩
      · rw [hsame]
        exact ⟨.inl rfl, .inl rfl⟩
      · exact DecisionWorld.legal hw hcommit (OnCommit.commit hw hok hcommit)
    exact ⟨hlegal, hlegal.approved, hlegal.completed⟩
  · intro w a w' hw hstep hok
    rcases Transactions.Reachable.step hw hstep with ⟨hsame, _⟩ | ⟨i, t, rfl, hcommit, hlog⟩
    · exact .inl hsame
    · obtain ⟨committed, row, hcom, hset, htrans⟩ :=
        SettlementWorld.transition hw hcommit (OnCommit.commit hw hok hcommit)
      exact .inr ⟨t.request, committed, row, hlog, hcom, hset, htrans⟩
  · intro w hw
    have hbalance := SettlementWorld.decisions hw
    omega

end Runs

/-! ## 8. A cancellation that is overtaken -/

namespace Sample

/-- The sample proposal, approved. -/
def approvedPlan : List Request := plan ++ submit staff secretary 1 :: approveAll 1

def cancelRequest : DecisionRequest := .cancelAnyEvent env secretary (uid 10) "late".toList

def completeRequest : DecisionRequest :=
  .completeAndSubmitReport env secretary (uid 70)
    { actualAttendance := 1
      summary := []
      objectivesAchieved := []
      outcomes := none
      challenges := none }

end Sample

/-- The event is cancelled from SCHEDULED. -/
theorem locked_decisions_sample :
    ∃ w a w', DecisionWorld (Sample.config .sqlite) CheckedDecisions w ∧
      eventStatus w.db = some .scheduled ∧ eventStatus w'.db = some .cancelled ∧
      World.Step DecisionRequest.script w a w' ∧ LegalChange w.db w'.db := by
  have hrun : Runs.Ends (Sample.after Sample.approvedPlan) (fun d0 =>
      Runs.Ends (Runs.run (Runs.only CheckedDecisions .idle (World.next DecisionRequest.script))
        (.start 1 Sample.cancelRequest :: List.replicate 4 (.run 1)) (World.idle d0)) (fun w =>
        eventStatus w.db = some .scheduled ∧
        Runs.Ends (World.next DecisionRequest.script (.run 1) w) (fun w' =>
          eventStatus w'.db = some .cancelled ∧ CheckedDecisions w (.run 1)))) := by
    decide
  obtain ⟨d0, hd0, w, hw, hsched, w', hstep, hcan, hok⟩ := hrun
  obtain ⟨d, hdraft, hpath⟩ := Sample.path_of_after hd0
  have hreach : DecisionWorld (Sample.config .sqlite) CheckedDecisions w :=
    Runs.Reach.path (.start ⟨d0, Runs.Reach.path (.start hdraft) hpath, rfl⟩)
      (Runs.path_of_run_only hw)
  exact ⟨w, .run 1, w', hreach, hsched, hcan, hstep,
    ((locked_decisions (Sample.config .sqlite)).1 w (.run 1) w' hreach hstep hok).1⟩

/-- A cancellation that has loaded the SCHEDULED event locks it after its completion: the COMPLETED
    event becomes CANCELLED. -/
theorem completed_then_cancelled :
    ¬ ∀ (cfg : Config) (w w' : World Failure Dossier DossierKey DecisionRequest)
      (a : Action DecisionRequest), DecisionWorld cfg (fun _ _ => True) w →
      World.Step DecisionRequest.script w a w' → LegalChange w.db w'.db := by
  intro hall
  have hrun : Runs.Ends (Sample.after Sample.approvedPlan) (fun d0 =>
      Runs.Ends (Runs.run (World.next DecisionRequest.script)
        (.start 1 Sample.cancelRequest :: .run 1 :: .start 2 Sample.completeRequest ::
          List.replicate 3 (.run 2) ++ List.replicate 3 (.run 1)) (World.idle d0)) (fun w =>
        eventStatus w.db = some .completed ∧
        Runs.Ends (World.next DecisionRequest.script (.run 1) w) (fun w' =>
          eventStatus w'.db = some .cancelled))) := by
    decide
  obtain ⟨d0, hd0, w, hw, hcomp, w', hstep, hcan⟩ := hrun
  obtain ⟨d, hdraft, hpath⟩ := Sample.path_of_after hd0
  have hreach : DecisionWorld (Sample.config .sqlite) (fun _ _ => True) w :=
    Runs.Reach.path (.start ⟨d0, Runs.Reach.path (.start hdraft) hpath, rfl⟩)
      ((Runs.path_of_run hw).under fun _ _ => trivial)
  exact (hall _ w w' (.run 1) hreach hstep).completed hcomp hcan

end CampusConnect
