/-
  File:      CampusConnect/Review.lean
  Subject:   The system of one proposal, from its draft to the end of its event: every operation of
             the drafting, venue, budget, submission and workflow services, and every call on the
             event it becomes, one after the other by anybody.

  * `ReviewOp`, `ReviewOp.flush`: the operations on the proposal;
  * `Dossier`, `Request`, `Dossier.exec`: the proposal alone, and with its event after the approval;
  * `Drafted`, `Dossier.Step`, `Dossier.Reachable`: the drafts, the accepted requests and the states
    they reach;
  * `ReviewStep`, `ReviewOp.step`: what an accepted operation does, one rule each;
  * `Traced`, `Dossier.Step.traced`: what an accepted request does to the dossier, so that an
    invariant is proved over five kinds of steps.
-/
import CampusConnect.Services.Budget
import CampusConnect.Services.Submission
import CampusConnect.Services.Venue
import CampusConnect.System

namespace CampusConnect

open Guarded Rows EventService VenueService BudgetService WorkflowService

/-! ## 1. Operations -/

/-- The operations on a proposal, with their arguments. A `newId` is the key a new row gets. -/
inductive ReviewOp where
  | updateDraft (eventIn : EventRequestUpdate)
  | submitProposal (changeSummary idempotencyKey : Option Text) (keys : SubmissionKeys)
  | approveStep (stepId : Uuid) (comments : Option Text) (newBookingId newEventId : Uuid)
  | rejectStep (stepId : Uuid) (comments : Text)
  | requestRevision (stepId : Uuid) (comments : Text)
  | createVenueRequest (newId : Uuid) (venueIn : VenueRequestCreate)
  | updateVenueRequest (venueIn : VenueRequestUpdate)
  | deleteVenueRequest
  | createBudgetProposal (newId : Uuid) (newItemId : Nat → Uuid) (budgetIn : BudgetProposalCreate)
  | updateBudgetProposal (budgetIn : BudgetProposalUpdate)
  | deleteBudgetProposal
  | addLineItem (newId : Uuid) (itemIn : BudgetLineItemCreate)
  | updateLineItem (itemId : Uuid) (itemIn : BudgetLineItemUpdate)
  | deleteLineItem (itemId : Uuid)
  | verifyBudget (verificationIn : FinanceVerificationRequest)

/-- What the operation flushes, for the rows `seen` it has read and the rows `later` its second
    select finds. -/
def ReviewOp.flush (env : ReviewEnv) (actor : User) (existing : Option Event) (op : ReviewOp)
    (seen later : Proposal) : Result Flush :=
  match op with
  | .updateDraft eventIn => EventService.updateDraft env.toEnv actor eventIn seen
  | .submitProposal summary key keys =>
      EventService.submitProposal env actor summary key keys seen
  | .approveStep stepId comments newBookingId newEventId =>
      WorkflowService.approveStep env actor stepId comments newBookingId newEventId existing seen
  | .rejectStep stepId comments => WorkflowService.rejectStep env actor stepId comments seen
  | .requestRevision stepId comments =>
      WorkflowService.requestRevision env actor stepId comments seen
  | .createVenueRequest newId venueIn =>
      VenueService.createVenueRequest env actor newId venueIn seen
  | .updateVenueRequest venueIn => VenueService.updateVenueRequest env actor venueIn seen
  | .deleteVenueRequest => VenueService.deleteVenueRequest env actor seen
  | .createBudgetProposal newId newItemId budgetIn =>
      BudgetService.createBudgetProposal env actor newId newItemId budgetIn seen
  | .updateBudgetProposal budgetIn => BudgetService.updateBudgetProposal env actor budgetIn seen
  | .deleteBudgetProposal => BudgetService.deleteBudgetProposal env actor seen
  | .addLineItem newId itemIn => BudgetService.addLineItem env actor newId itemIn seen later
  | .updateLineItem itemId itemIn =>
      BudgetService.updateLineItem env actor itemId itemIn seen later
  | .deleteLineItem itemId => BudgetService.deleteLineItem env actor itemId seen later
  | .verifyBudget verificationIn => BudgetService.verifyBudget env actor verificationIn seen

/-- The step a decision is about. -/
def ReviewOp.decides : ReviewOp → Option Uuid
  | .approveStep stepId _ _ _ => some stepId
  | .rejectStep stepId _ => some stepId
  | .requestRevision stepId _ => some stepId
  | _ => none

/-! ## 2. The dossier -/

/-- The rows of a proposal: alone until its approval, then with those of its event. -/
inductive Dossier where
  | proposed (p : Proposal) (auditLogs : List AuditLog)
  | confirmed (s : State)
  deriving DecidableEq

namespace Dossier

def proposal : Dossier → Proposal
  | .proposed p _ => p
  | .confirmed s => s.proposal

def event : Dossier → Option Event
  | .proposed _ _ => none
  | .confirmed s => some s.event

def auditLogs : Dossier → List AuditLog
  | .proposed _ logs => logs
  | .confirmed s => s.auditLogs

/-- The rows of the event, when there is one. -/
def state : Dossier → Option State
  | .proposed _ _ => none
  | .confirmed s => some s

/-- What the last call has left on the settlement object of its session. -/
def attached (d : Dossier) : Option Text := d.state.bind State.attached

@[simp] theorem proposal_proposed (p : Proposal) (l : List AuditLog) :
    (proposed p l).proposal = p := rfl
@[simp] theorem proposal_confirmed (s : State) : (confirmed s).proposal = s.proposal := rfl
@[simp] theorem event_proposed (p : Proposal) (l : List AuditLog) :
    (proposed p l).event = none := rfl
@[simp] theorem event_confirmed (s : State) : (confirmed s).event = some s.event := rfl

/-- The rows of an event just created: nothing but the proposal and the audit log. -/
def opened (p : Proposal) (event : Event) (logs : List AuditLog) : State where
  proposal := p
  event := event
  report := none
  advance := none
  incomes := Table.empty
  expenses := Table.empty
  settlement := none
  payments := []
  settlementRevisions := []
  closure := none
  closureRevisions := []
  auditLogs := logs
  attached := none

/-- The dossier after a flush that left the proposal `q`. -/
def flushed (d : Dossier) (q : Proposal) (event : Option Event) (entries : List AuditEntry) :
    Dossier :=
  match d with
  | .proposed _ logs =>
      match event with
      | none => .proposed q (logs ++ entries.map AuditEntry.row)
      | some e => .confirmed (opened q e (logs ++ entries.map AuditEntry.row))
  | .confirmed s => .confirmed ({ s with proposal := q }.log entries)

section Flushed

variable (d : Dossier) (q : Proposal) (event : Option Event) (entries : List AuditEntry)

@[simp] theorem proposal_flushed : (d.flushed q event entries).proposal = q := by
  cases d with
  | proposed p logs => cases event <;> rfl
  | confirmed s => rfl

@[simp] theorem event_flushed : (d.flushed q event entries).event = d.event.or event := by
  cases d with
  | proposed p logs => cases event <;> rfl
  | confirmed s => rfl

end Flushed

end Dossier

/-- One request, on the proposal or on its event. -/
inductive Request where
  | review (env : ReviewEnv) (actor : User) (op : ReviewOp)
  | event (c : Call)

/-- The template a submission meets. -/
def Request.template : Request → Option (List WorkflowTemplateStep)
  | .review env _ (.submitProposal _ _ _) => some (ensureDefaultTemplate env)
  | _ => none

/-- A call on an event that does not exist. Each service has a text of its own with the key. -/
def noEvent : Failure := ⟨.notFound, "Event not found.", []⟩

/-- A call on the event while there is none: the cancellations reach the proposal. -/
def Call.onProposal (c : Call) (p : Proposal) : Result (Proposal × List AuditEntry) :=
  match c.op with
  | .cancelProposal reason => EventService.cancelProposal c.env c.actor reason p
  | .cancelAnyEvent identifier reason =>
      if p.request.id = identifier then EventService.cancelProposal c.env c.actor reason p
      else .error ⟨.notFound, "Event proposal or confirmed event with ID '%s' was not found.",
        [.uuid identifier]⟩
  | _ => .error noEvent

/-- One request. A refused one is rolled back. -/
def Dossier.exec (cfg : Config) (r : Request) (d : Dossier) : Result Dossier :=
  match r, d with
  | .review env actor op, d => do
      let f ← op.flush env actor d.event d.proposal d.proposal
      let q ← f.write d.proposal
      return d.flushed q f.event f.entries
  | .event c, .proposed p logs => do
      let (q, entries) ← c.onProposal p
      return .proposed q (logs ++ entries.map AuditEntry.row)
  | .event c, .confirmed s => do
      let s' ← c.exec cfg s
      return .confirmed s'

/-- A new draft. -/
def Dossier.create (env : Env) (actor : User) (newId : Uuid) (eventIn : EventRequestCreate) :
    Result Dossier := do
  let (p, entries) ← EventService.createDraft env actor newId eventIn
  return .proposed p (entries.map AuditEntry.row)

/-- **The states a run starts from**: the rows `create_draft` leaves. -/
def Drafted (d : Dossier) : Prop :=
  ∃ env actor newId eventIn, Dossier.create env actor newId eventIn = .ok d

namespace Dossier

/-- An accepted request. -/
def Step (cfg : Config) (d : Dossier) (r : Request) (d' : Dossier) : Prop := exec cfg r d = .ok d'

/-- The states of all runs. -/
def Reachable (cfg : Config) : Dossier → Prop := Runs.Reach Drafted (Step cfg)

end Dossier

/-! ## 3. What an accepted operation does -/

/-- **One operation on the proposal.** -/
inductive ReviewStep (env : ReviewEnv) (actor : User) (p : Proposal) : ReviewOp → Proposal → Prop where
  | drafted (eventIn : EventRequestUpdate) (hed : p.request.Editable) :
      ReviewStep env actor p (.updateDraft eventIn)
        (p.updateRequest (editRequest eventIn p.request))
  | repeated (summary key : Option Text) (keys : SubmissionKeys)
      (h : AlreadySubmitted key p.request) :
      ReviewStep env actor p (.submitProposal summary key keys) p
  | submitted (summary key : Option Text) (keys : SubmissionKeys) (q : Proposal)
      (h : Submitted env actor summary key keys p q) :
      ReviewStep env actor p (.submitProposal summary key keys) q
  | approved (stepId : Uuid) (comments : Option Text) (newBookingId newEventId : Uuid)
      (step : WorkflowInstanceStep) (inst : WorkflowInstance) (q : Proposal)
      (hd : StepDecision actor stepId p step inst)
      (h : Approved env actor comments newBookingId p step inst q) :
      ReviewStep env actor p (.approveStep stepId comments newBookingId newEventId) q
  | rejected (stepId : Uuid) (comments : Text) (step : WorkflowInstanceStep)
      (inst : WorkflowInstance) (q : Proposal) (hd : StepDecision actor stepId p step inst)
      (h : Rejected env comments p step inst q) :
      ReviewStep env actor p (.rejectStep stepId comments) q
  | revised (stepId : Uuid) (comments : Text) (step : WorkflowInstanceStep)
      (inst : WorkflowInstance) (t : Table WorkflowInstanceStep)
      (hd : StepDecision actor stepId p step inst)
      (ht : p.steps.replace (decideStep env .revisionRequested (some comments) step inst step) =
        some t) :
      ReviewStep env actor p (.requestRevision stepId comments)
        { p with steps := t, request := { p.request with status := .revisionRequired } }
  | venueCreated (newId : Uuid) (venueIn : VenueRequestCreate) (hall : Hall)
      (hed : p.request.Editable) (hnone : p.venueRequest = none)
      (hc : (requestedVenue newId venueIn hall).Check) :
      ReviewStep env actor p (.createVenueRequest newId venueIn)
        { p with venueRequest := some (requestedVenue newId venueIn hall) }
  | venueUpdated (venueIn : VenueRequestUpdate) (vr : VenueRequest) (hall : Hall)
      (hed : p.request.Editable) (hvr : p.venueRequest = some vr)
      (hc : (editVenue venueIn hall vr vr).Check) :
      ReviewStep env actor p (.updateVenueRequest venueIn)
        { p with venueRequest := some (editVenue venueIn hall vr vr) }
  | venueDeleted (hed : p.request.Editable) :
      ReviewStep env actor p .deleteVenueRequest { p with venueRequest := none }
  | budgetCreated (newId : Uuid) (newItemId : Nat → Uuid) (budgetIn : BudgetProposalCreate)
      (items : List BudgetLineItem) (hed : p.request.Editable) (hnone : p.budgetProposal = none)
      (hc : (newBudget newId budgetIn items).Check)
      (hids : (items.map BudgetLineItem.id).Nodup) :
      ReviewStep env actor p (.createBudgetProposal newId newItemId budgetIn)
        { p with budgetProposal := some (newBudget newId budgetIn items) }
  | budgetUpdated (budgetIn : BudgetProposalUpdate) (bp : BudgetProposal)
      (hed : p.request.Editable) (hbp : p.budgetProposal = some bp)
      (hc : (editBudget budgetIn bp bp).Check) :
      ReviewStep env actor p (.updateBudgetProposal budgetIn)
        { p with budgetProposal := some (editBudget budgetIn bp bp) }
  | budgetDeleted (hed : p.request.Editable) :
      ReviewStep env actor p .deleteBudgetProposal { p with budgetProposal := none }
  | itemAdded (newId : Uuid) (itemIn : BudgetLineItemCreate) (bp : BudgetProposal) (total : Int)
      (hed : p.request.Editable) (hbp : p.budgetProposal = some bp)
      (hnew : ∀ i ∈ bp.lineItems, i.id ≠ newId)
      (htotal : total = recount (bp.lineItems ++ [newItem newId itemIn])
        (bp.lineItems ++ [newItem newId itemIn])) :
      ReviewStep env actor p (.addLineItem newId itemIn)
        { p with
          budgetProposal :=
            some (changeItems bp total (fun items => items ++ [newItem newId itemIn]) bp) }
  | itemUpdated (itemId : Uuid) (itemIn : BudgetLineItemUpdate) (bp : BudgetProposal)
      (item : BudgetLineItem) (total : Int) (hed : p.request.Editable)
      (hbp : p.budgetProposal = some bp)
      (hitem : bp.lineItems.find? (fun i => i.id = itemId) = some item)
      (htotal : total = recount (updateItem itemIn item bp.lineItems)
        (updateItem itemIn item bp.lineItems)) :
      ReviewStep env actor p (.updateLineItem itemId itemIn)
        { p with budgetProposal := some (changeItems bp total (updateItem itemIn item) bp) }
  | itemDeleted (itemId : Uuid) (bp : BudgetProposal) (item : BudgetLineItem) (total : Int)
      (hed : p.request.Editable) (hbp : p.budgetProposal = some bp)
      (hitem : bp.lineItems.find? (fun i => i.id = itemId) = some item)
      (htotal : total = recount bp.lineItems
        (bp.lineItems.filter (fun i => i.id ≠ item.id))) :
      ReviewStep env actor p (.deleteLineItem itemId)
        { p with
          budgetProposal := some
            (changeItems bp total (fun items => items.filter (fun i => i.id ≠ item.id)) bp) }
  | verified (verificationIn : FinanceVerificationRequest) (bp : BudgetProposal)
      (hbp : p.budgetProposal = some bp) :
      ReviewStep env actor p (.verifyBudget verificationIn)
        { p with
          budgetProposal := some
            { bp with
              financeStatus := verificationIn.status
              financeVerifiedBy := some actor.id
              financeVerifiedAt := some env.now
              financeNotes := verificationIn.notes } }

section Steps

variable {cfg : Config} {env : ReviewEnv} {actor : User} {p q : Proposal} {d d' : Dossier}

/-- The event an accepted operation creates, if any: the last approval creates one. -/
def ReviewOp.creates (env : ReviewEnv) (actor : User) (existing : Option Event) (p : Proposal) :
    ReviewOp → Option Event
  | .approveStep stepId _ _ newEventId =>
      (p.steps.find stepId).bind fun step =>
        (approvedEvent env actor newEventId existing p step).1
  | _ => none

/-- The event of an accepted operation is made from the rows of the proposal. -/
theorem ReviewOp.creates_some {existing : Option Event} {op : ReviewOp} {e : Event}
    (h : op.creates env actor existing p = some e) :
    ∃ newId, e = (createConfirmedEvent env.toEnv actor newId none p).1 := by
  cases op with
  | approveStep stepId comments newBookingId newEventId =>
      obtain ⟨step, _, he⟩ := Option.bind_eq_some_iff.mp h
      unfold approvedEvent at he
      split at he
      · cases he
      · cases he
      · cases he
        exact ⟨newEventId, rfl⟩
  | _ => cases h

/-- **Every accepted operation is one of these steps.** -/
theorem ReviewOp.step {existing : Option Event} {op : ReviewOp} {f : Flush}
    (h : op.flush env actor existing p p = .ok f) (hw : f.write p = .ok q) :
    ReviewStep env actor p op q ∧ f.event = op.creates env actor existing p := by
  cases op with
  | updateDraft eventIn =>
      obtain ⟨hed, hev, rfl⟩ := updateDraft_writes h hw
      exact ⟨.drafted eventIn hed, hev⟩
  | submitProposal summary key keys =>
      obtain ⟨hev, ⟨ha, rfl⟩ | hs⟩ := submitProposal_writes h hw
      · exact ⟨.repeated summary key keys ha, hev⟩
      · exact ⟨.submitted summary key keys q hs, hev⟩
  | approveStep stepId comments newBookingId newEventId =>
      obtain ⟨step, inst, hd, _, happ, hev⟩ := approveStep_writes h hw
      refine ⟨.approved stepId comments newBookingId newEventId step inst q hd happ, ?_⟩
      rw [hev]
      simp only [ReviewOp.creates, hd.stepFound, Option.bind_some]
  | rejectStep stepId comments =>
      obtain ⟨hev, step, inst, hd, hrej⟩ := rejectStep_writes h hw
      exact ⟨.rejected stepId comments step inst q hd hrej, hev⟩
  | requestRevision stepId comments =>
      obtain ⟨hev, step, inst, t, hd, ht, rfl⟩ := requestRevision_writes h hw
      exact ⟨.revised stepId comments step inst t hd ht, hev⟩
  | createVenueRequest newId venueIn =>
      obtain ⟨hed, hev, hnone, hall, hc, rfl⟩ := createVenueRequest_writes h hw
      exact ⟨.venueCreated newId venueIn hall hed hnone hc, hev⟩
  | updateVenueRequest venueIn =>
      obtain ⟨hed, hev, vr, hall, hvr, hc, rfl⟩ := updateVenueRequest_writes h hw
      exact ⟨.venueUpdated venueIn vr hall hed hvr hc, hev⟩
  | deleteVenueRequest =>
      obtain ⟨hed, hev, rfl⟩ := deleteVenueRequest_writes h hw
      exact ⟨.venueDeleted hed, hev⟩
  | createBudgetProposal newId newItemId budgetIn =>
      obtain ⟨hed, hev, hnone, items, hc, hids, rfl⟩ := createBudgetProposal_writes h hw
      exact ⟨.budgetCreated newId newItemId budgetIn items hed hnone hc hids, hev⟩
  | updateBudgetProposal budgetIn =>
      obtain ⟨hed, hev, bp, hbp, hc, rfl⟩ := updateBudgetProposal_writes h hw
      exact ⟨.budgetUpdated budgetIn bp hed hbp hc, hev⟩
  | deleteBudgetProposal =>
      obtain ⟨hed, hev, rfl⟩ := deleteBudgetProposal_writes h hw
      exact ⟨.budgetDeleted hed, hev⟩
  | addLineItem newId itemIn =>
      obtain ⟨hed, hev, bp, total, hbp, hnew, htotal, rfl⟩ := addLineItem_writes h hw
      exact ⟨.itemAdded newId itemIn bp total hed hbp hnew htotal, hev⟩
  | updateLineItem itemId itemIn =>
      obtain ⟨hed, hev, bp, item, total, hbp, hitem, htotal, rfl⟩ := updateLineItem_writes h hw
      exact ⟨.itemUpdated itemId itemIn bp item total hed hbp hitem htotal, hev⟩
  | deleteLineItem itemId =>
      obtain ⟨hed, hev, bp, item, total, hbp, hitem, htotal, rfl⟩ := deleteLineItem_writes h hw
      exact ⟨.itemDeleted itemId bp item total hed hbp hitem htotal, hev⟩
  | verifyBudget verificationIn =>
      obtain ⟨hev, bp, hbp, rfl⟩ := verifyBudget_writes h hw
      exact ⟨.verified verificationIn bp hbp, hev⟩

/-- **A new draft is one row.** -/
theorem Drafted.row (h : Drafted d) : ∃ request logs, d = .proposed { request := request } logs ∧
    request.status = .draft ∧ request.currentVersion = 0 ∧ request.workflowInstanceId = none ∧
      request.deletedAt = none := by
  obtain ⟨env, actor, newId, eventIn, hcreate⟩ := h
  simp only [Dossier.create, createDraft, bind_accepts, pure_accepts] at hcreate
  obtain ⟨_, ⟨_, _, rfl⟩, rfl⟩ := hcreate
  exact ⟨_, _, rfl, rfl, rfl, rfl, rfl⟩

/-- **What an accepted request does to the dossier.** -/
inductive Traced (cfg : Config) : Dossier → Request → Dossier → Prop where
  | review (env : ReviewEnv) (actor : User) (op : ReviewOp) (d : Dossier) (q : Proposal)
      (entries : List AuditEntry) (h : ReviewStep env actor d.proposal op q) :
      Traced cfg d (.review env actor op)
        (d.flushed q (op.creates env actor d.event d.proposal) entries)
  | withdrawn (c : Call) (p : Proposal) (logs : List AuditLog) (entries : List AuditEntry)
      (hst : p.request.status ≠ .cancelled ∧ p.request.status ≠ .rejected ∧
        p.request.status ≠ .approved) :
      Traced cfg (.proposed p logs) (.event c)
        (.proposed (EventService.withdrawn p) (logs ++ entries.map AuditEntry.row))
  | event (c : Call) (s s' : State) (h : CampusConnect.Step cfg s c s') :
      Traced cfg (.confirmed s) (.event c) (.confirmed s')

theorem cancelProposal_cancellable {env : Env} {reason : Text} {entries : List AuditEntry}
    (h : EventService.cancelProposal env actor reason p = .ok (q, entries)) :
    p.request.status ≠ .cancelled ∧ p.request.status ≠ .rejected ∧ p.request.status ≠ .approved := by
  simp only [EventService.cancelProposal, verifyCancellable, bind_accepts, refuse_accepts,
    exists_unit] at h
  exact h.2.2.1

theorem Call.onProposal_withdraws {c : Call} {entries : List AuditEntry}
    (h : c.onProposal p = .ok (q, entries)) :
    (p.request.status ≠ .cancelled ∧ p.request.status ≠ .rejected ∧
      p.request.status ≠ .approved) ∧ q = EventService.withdrawn p := by
  have main : ∀ reason, EventService.cancelProposal c.env c.actor reason p = .ok (q, entries) →
      (p.request.status ≠ .cancelled ∧ p.request.status ≠ .rejected ∧
        p.request.status ≠ .approved) ∧ q = EventService.withdrawn p := fun reason hr =>
    ⟨cancelProposal_cancellable hr, (EventService.cancelProposal_accepts hr).2⟩
  unfold Call.onProposal at h
  cases hop : c.op <;> simp only [hop] at h
  case cancelProposal reason => exact main reason h
  case cancelAnyEvent identifier reason =>
    by_cases hid : p.request.id = identifier
    · rw [if_pos hid] at h
      exact main reason h
    · rw [if_neg hid] at h
      cases h
  all_goals cases h

/-- **Every accepted request is one of these.** -/
theorem Dossier.Step.traced {r : Request} (h : Dossier.Step cfg d r d') : Traced cfg d r d' := by
  unfold Dossier.Step Dossier.exec at h
  cases r with
  | review env actor op =>
      simp only [bind_accepts, pure_accepts] at h
      obtain ⟨f, hf, q, hq, rfl⟩ := h
      obtain ⟨hstep, hev⟩ := ReviewOp.step hf hq
      rw [hev]
      exact .review env actor op d q f.entries hstep
  | event c =>
      cases d with
      | proposed p logs =>
          simp only [bind_accepts, pure_accepts] at h
          obtain ⟨⟨q, entries⟩, hon, rfl⟩ := h
          obtain ⟨hst, rfl⟩ := Call.onProposal_withdraws hon
          exact .withdrawn c p logs entries hst
      | confirmed s =>
          simp only [bind_accepts, pure_accepts] at h
          obtain ⟨s', hs', rfl⟩ := h
          exact .event c s s' hs'

/-- An accepted request on the proposal, as the flush and the write it is. -/
theorem Dossier.Step.flush {op : ReviewOp} (h : Dossier.Step cfg d (.review env actor op) d') :
    ∃ f q, op.flush env actor d.event d.proposal d.proposal = .ok f ∧ f.write d.proposal = .ok q ∧
      d'.proposal = q := by
  unfold Dossier.Step Dossier.exec at h
  simp only [bind_accepts, pure_accepts] at h
  obtain ⟨f, hf, q, hq, rfl⟩ := h
  exact ⟨f, q, hf, hq, proposal_flushed d q f.event f.entries⟩

/-- An event keeps being one. -/
theorem Dossier.Step.confirmed {s : State} {r : Request} (h : Dossier.Step cfg (.confirmed s) r d) :
    ∃ s', d = .confirmed s' := by
  have htraced := h.traced
  cases htraced with
  | review env actor op _ q entries hstep => exact ⟨_, rfl⟩
  | event c _ s' hstep => exact ⟨s', rfl⟩

/-- A call on an event is the call. -/
theorem Dossier.Step.call {s s' : State} {c : Call}
    (h : Dossier.Step cfg (.confirmed s) (.event c) (.confirmed s')) :
    CampusConnect.Step cfg s c s' := by
  unfold Dossier.Step Dossier.exec at h
  simp only [bind_accepts, pure_accepts] at h
  obtain ⟨t, ht, he⟩ := h
  cases he
  exact ht

/-- A request on the proposal of an event writes no other row of the event. -/
theorem Dossier.Step.reviewed {s s' : State} {op : ReviewOp}
    (h : Dossier.Step cfg (.confirmed s) (.review env actor op) (.confirmed s')) :
    ∃ q entries, s' = { s with proposal := q }.log entries := by
  have htraced := h.traced
  generalize hd' : Dossier.confirmed s' = d' at htraced
  cases htraced with
  | review env actor op _ q entries hstep =>
      cases hd'
      exact ⟨q, entries, rfl⟩

/-- An event begins with nothing but its proposal. -/
theorem Dossier.Step.opened {s : State} {logs : List AuditLog} {r : Request}
    (h : Dossier.Step cfg (.proposed p logs) r (.confirmed s)) :
    ∃ q event logs', s = Dossier.opened q event logs' := by
  have htraced := h.traced
  generalize hd : Dossier.proposed p logs = d at htraced
  generalize hd' : Dossier.confirmed s = d' at htraced
  cases htraced with
  | review env actor op _ q entries hstep =>
      cases hd
      unfold Dossier.flushed at hd'
      simp only at hd'
      split at hd'
      · cases hd'
      · cases hd'
        exact ⟨q, _, _, rfl⟩
  | withdrawn c p logs entries hst => cases hd'
  | event c _ t hstep => cases hd

/-- **The invariant rule for the rows of an event**: what holds of an event just created, over a
    request on its proposal and over a call, holds of every reachable event. -/
theorem Dossier.Reachable.event_invariant {P : State → Prop}
    (hopen : ∀ q event logs, P (Dossier.opened q event logs))
    (hreview : ∀ s q entries, P s → P ({ s with proposal := q }.log entries))
    (hcall : ∀ s c s', P s → CampusConnect.Step cfg s c s' → P s') {s : State}
    (h : Dossier.Reachable cfg (.confirmed s)) : P s := by
  refine Runs.Reach.invariant (P := fun d => ∀ s, d = .confirmed s → P s) ?_ ?_ h s rfl
  · intro d0 h0 s hs
    obtain ⟨request, logs, rfl, _⟩ := h0.row
    cases hs
  · intro e r e' hold hstep s' hs'
    rw [hs'] at hstep
    cases e with
    | proposed p logs =>
        obtain ⟨q, event, logs', rfl⟩ := hstep.opened
        exact hopen q event logs'
    | confirmed s =>
        cases r with
        | review env actor op =>
            obtain ⟨q, entries, rfl⟩ := hstep.reviewed
            exact hreview s q entries (hold s rfl)
        | event c => exact hcall s c s' (hold s rfl) hstep.call

theorem proposal_effect {s s' : State} {m : Move} (heff : Effect cfg s m s')
    (happ : s.proposal.request.status = .approved) :
    s'.proposal = s.proposal ∨
      (s'.event.status = .cancelled ∧ s'.proposal = releaseHall s.proposal) := by
  cases heff with
  | read => exact .inl rfl
  | advance m row entries h => exact .inl rfl
  | income m t entries h => exact .inl rfl
  | expense m t entries h => exact .inl rfl
  | settlement m s' h => cases h <;> exact .inl rfl
  | execution status report entries h => exact .inl rfl
  | cancellation s' h =>
      cases h with
      | proposal entries hfrom => exact (hfrom happ).elim
      | event event advance entries hfrom hid hreq hver hst hpend hadv => exact .inr ⟨hst, rfl⟩
  | closeout m s' h => cases h <;> exact .inl rfl

/-- **What a call on the event does to an approved proposal**: nothing, or it releases the hall. -/
theorem Step.proposal {s s' : State} {c : Call} (h : CampusConnect.Step cfg s c s')
    (happ : s.proposal.request.status = .approved) :
    s'.proposal = s.proposal ∨
      (s'.event.status = .cancelled ∧ s'.proposal = releaseHall s.proposal) := by
  obtain ⟨a, _, heff⟩ := h.entered
  exact proposal_effect (s := { s with attached := a }) heff happ

end Steps

/-! ## 4. A proposal to run -/

namespace Sample

def admin : User := ⟨uid 4, "admin".toList, .systemAdmin⟩

def advisor : User := ⟨uid 5, "advisor".toList, .facultyAdvisor⟩

def warden : User := ⟨uid 6, "warden".toList, .hallIncharge⟩

def unionAdvisor : User := ⟨uid 7, "union".toList, .advisorStudentsUnion⟩

def principal : User := ⟨uid 8, "principal".toList, .principal⟩

/-- Every role of the standard template is held. -/
def staff : List User := [advisor, warden, officer, unionAdvisor, dean, principal, admin]

/-- Two halls, no other bookings, no template of its own. -/
def reviewEnv (users : List User) : ReviewEnv where
  toEnv := env
  backend := .sqlite
  users := users
  template := none
  halls := [⟨uid 60, "hall".toList, 100, true⟩, ⟨uid 61, "other".toList, 100, true⟩]
  otherBookings := []
  otherKeys := []
  budgetInstituteContributionCap := 10000000
  hallBookingMinAdvanceDays := 0

/-- The draft of the secretary, with the key 11. -/
def draft : Result Dossier :=
  Dossier.create env secretary (uid 11)
    { clubId := uid 13
      title := "event".toList
      eventType := .workshop
      academicYear := "2025".toList }

def review (actor : User) (op : ReviewOp) : Request := .review (reviewEnv staff) actor op

/-- The hall 60 from 1000 to 2000, and a budget of 200.00 with a contribution of 100.00. -/
def plan : List Request :=
  [review secretary (.createVenueRequest (uid 62)
      { hallId := uid 60
        requestedDate := 1000
        startTime := 1000
        endTime := 2000 }),
    review secretary (.createBudgetProposal (uid 63) (fun n => uid (64 + n))
      { instituteContribution := 10000
        lineItems := [{ description := "food".toList
                        category := .catering
                        estimatedAmount := 20000 }] })]

/-- Without a hall in-charge. -/
def understaffed : List User := [advisor, officer, unionAdvisor, dean, principal, admin]

/-- The `n`-th submission: version 100 + n, instance 200 + n, its steps from 300 + 10 n on. -/
def submit (users : List User) (actor : User) (n : Nat) : Request :=
  .review (reviewEnv users) actor (.submitProposal none none
    { version := uid (100 + n), inst := uid (200 + n), step := fun k => uid (300 + 10 * n + k) })

def approveBy (users : List User) (actor : User) (n k : Nat) : Request :=
  .review (reviewEnv users) actor (.approveStep (uid (300 + 10 * n + k)) none (uid 400) (uid 10))

def approve (actor : User) (n k : Nat) : Request := approveBy staff actor n k

def revise (actor : User) (n k : Nat) : Request :=
  review actor (.requestRevision (uid (300 + 10 * n + k)) "please revise".toList)

/-- The approvals of the `n`-th version by the six offices. -/
def approveAll (n : Nat) : List Request :=
  [approve advisor n 1, approve warden n 2, approve officer n 3, approve unionAdvisor n 4,
    approve dean n 5, approve principal n 6]

/-- The last state of a run from the draft. -/
def after (requests : List Request) : Result Dossier := do
  let d ← draft
  Runs.run (Dossier.exec (config .sqlite)) requests d

/-- The last state of a run from the draft all of whose steps meet a condition. -/
def afterOnly (ok : Dossier → Request → Prop) [∀ d r, Decidable (ok d r)]
    (requests : List Request) : Result Dossier := do
  let d ← draft
  Runs.run (Runs.only ok noEvent (Dossier.exec (config .sqlite))) requests d

/-- The runs from the draft that can be evaluated are runs. -/
theorem path_of_after {requests : List Request} {d : Dossier} (h : after requests = .ok d) :
    ∃ d0, Drafted d0 ∧ Runs.Path (Dossier.Step (config .sqlite)) d0 requests d := by
  simp only [after, bind_accepts] at h
  obtain ⟨d0, hd0, hrun⟩ := h
  exact ⟨d0, ⟨_, _, _, _, hd0⟩, Runs.path_of_run hrun⟩

theorem path_of_afterOnly {ok : Dossier → Request → Prop} [∀ d r, Decidable (ok d r)]
    {requests : List Request} {d : Dossier} (h : afterOnly ok requests = .ok d) :
    ∃ d0, Drafted d0 ∧
      Runs.Path (Runs.restrict (Dossier.Step (config .sqlite)) ok) d0 requests d := by
  simp only [afterOnly, bind_accepts] at h
  obtain ⟨d0, hd0, hrun⟩ := h
  exact ⟨d0, ⟨_, _, _, _, hd0⟩, Runs.path_of_run_only hrun⟩

/-- The same request on PostgreSQL. -/
def onPostgres : Request → Request
  | .review env actor op => .review { env with backend := .postgresql } actor op
  | .event c => .event c

/-- The last state of such a run on PostgreSQL. -/
def afterOnPostgres (ok : Dossier → Request → Prop) [∀ d r, Decidable (ok d r)]
    (requests : List Request) : Result Dossier := do
  let d ← draft
  Runs.run (Runs.only ok noEvent (Dossier.exec (config .postgresql))) (requests.map onPostgres) d

theorem path_of_afterOnPostgres {ok : Dossier → Request → Prop} [∀ d r, Decidable (ok d r)]
    {requests : List Request} {d : Dossier} (h : afterOnPostgres ok requests = .ok d) :
    ∃ d0, Drafted d0 ∧ Runs.Path (Runs.restrict (Dossier.Step (config .postgresql)) ok) d0
      (requests.map onPostgres) d := by
  simp only [afterOnPostgres, bind_accepts] at h
  obtain ⟨d0, hd0, hrun⟩ := h
  exact ⟨d0, ⟨_, _, _, _, hd0⟩, Runs.path_of_run_only hrun⟩

/-- The users by key. -/
def roleOf (id : Uuid) : UserRole :=
  (((secretary :: staff).find? (fun u => u.id = id)).map User.role).getD .clubSecretary

end Sample

end CampusConnect
