/-
  File:      CampusConnect/Concurrency/Dossiers.lean
  Subject:   Transactions on a proposal and its event: the rows they lock, and the withdrawal.

  * `DossierKey`, `writeFlush`, `writeEdit`: a session computes its flush on the rows it has loaded; the
    flush goes into the rows as committed, and an UPDATE waits for the holder of its row like a FOR
    UPDATE does;
  * `ContentEdit`: an edit of the venue or the budget leaves the proposal's own row;
  * `withdraw`, `cancelProposalFlush`: `cancel_proposal` as what it flushes;
  * `withdrawScript`, `WithdrawCommit`: its transaction from the lock of the proposal on, and what it
    has read when it commits.
-/
import CampusConnect.Concurrency.Sessions
import CampusConnect.Review

namespace CampusConnect

open Guarded Rows Transactions EventService VenueService BudgetService WorkflowService

/-! ## 1. Rows -/

/-- The rows of a dossier that are locked, by a select FOR UPDATE or by an UPDATE. -/
inductive DossierKey where
  | request
  | event
  | venue
  | budget
  | item (id : Uuid)
  | booking
  | advance
  | workflow (id : Uuid)
  | step (id : Uuid)
  deriving DecidableEq, Repr

/-- Programs on the rows of a dossier. -/
abbrev DossierProg := Prog Failure Dossier DossierKey

/-- The commit of a flush. An event is inserted once: its proposal key is unique. -/
def writeFlush (f : Flush) (db : Dossier) : Result Dossier := do
  refuse (f.event ≠ none ∧ db.event ≠ none) integrityError
  let q ← f.write db.proposal
  return db.flushed q f.event f.entries

theorem writeFlush_accepts {f : Flush} {db db' : Dossier} (h : writeFlush f db = .ok db') :
    f.write db.proposal = .ok db'.proposal ∧ db'.event = db.event.or f.event ∧
      (f.event ≠ none → db.event = none) := by
  simp only [writeFlush, bind_accepts, refuse_accepts, exists_unit, pure_accepts, not_and,
    not_not] at h
  obtain ⟨hfresh, q, hq, rfl⟩ := h
  refine ⟨?_, Dossier.event_flushed .., hfresh⟩
  rw [Dossier.proposal_flushed]
  exact hq

/-- No column of the loaded rows changes. -/
def Flush.Unchanged (f : Flush) (seen : Proposal) : Prop := (f.write seen).toOption = some seen

instance (f : Flush) (seen : Proposal) : Decidable (f.Unchanged seen) :=
  inferInstanceAs (Decidable (_ = _))

/-- The commit of an edit of the rows `seen`: where nothing changes, only the audit entries are
    written. -/
def writeEdit (seen : Proposal) (f : Flush) (db : Dossier) : Result Dossier :=
  if f.Unchanged seen then .ok (db.flushed db.proposal none f.entries) else writeFlush f db

theorem writeEdit_accepts {seen : Proposal} {f : Flush} {db db' : Dossier}
    (h : writeEdit seen f db = .ok db') :
    db'.proposal = db.proposal ∨ f.write db.proposal = .ok db'.proposal := by
  unfold writeEdit at h
  by_cases hsame : f.Unchanged seen
  · rw [if_pos hsame] at h
    cases h
    exact .inl (Dossier.proposal_flushed ..)
  · rw [if_neg hsame] at h
    exact .inr (writeFlush_accepts h).1

/-- On the rows it has read, the commit is the flush. -/
theorem writeEdit_self {d : Dossier} {f : Flush} {q : Proposal} (hevent : f.event = none)
    (hq : f.write d.proposal = .ok q) :
    writeEdit d.proposal f d = .ok (d.flushed q f.event f.entries) := by
  unfold writeEdit
  by_cases hsame : f.Unchanged d.proposal
  · rw [if_pos hsame]
    unfold Flush.Unchanged at hsame
    rw [hq] at hsame
    rw [hevent, Option.some.inj hsame]
  · rw [if_neg hsame]
    simp only [writeFlush, bind_accepts, refuse_accepts, exists_unit, pure_accepts]
    exact ⟨fun hno => hno.1 hevent, q, hq, rfl⟩

/-- The operations on the venue request and on the budget, the verification apart. -/
def ReviewOp.EditsContent : ReviewOp → Prop
  | .createVenueRequest _ _ | .updateVenueRequest _ | .deleteVenueRequest => True
  | .createBudgetProposal _ _ _ | .updateBudgetProposal _ | .deleteBudgetProposal => True
  | .addLineItem _ _ | .updateLineItem _ _ | .deleteLineItem _ => True
  | _ => False

/-- **What they flush**: nothing of the proposal's own row, which was editable when it was loaded. -/
structure ContentEdit (seen : Proposal) (f : Flush) : Prop where
  editable : seen.request.Editable
  event : f.event = none
  kept : ∀ p q, f.write p = .ok q → q.request = p.request ∧ q.versions = p.versions

theorem updateVenue_kept {p q : Proposal} {id : Uuid} {change : VenueRequest → VenueRequest}
    (h : p.updateVenue id change = .ok q) : q.request = p.request ∧ q.versions = p.versions := by
  obtain ⟨v, _, _, _, rfl⟩ := Proposal.updateVenue_accepts.mp h
  exact ⟨rfl, rfl⟩

theorem updateBudget_kept {p q : Proposal} {id : Uuid} {change : BudgetProposal → BudgetProposal}
    (h : p.updateBudget id change = .ok q) : q.request = p.request ∧ q.versions = p.versions := by
  obtain ⟨b, _, _, _, rfl⟩ := Proposal.updateBudget_accepts.mp h
  exact ⟨rfl, rfl⟩

theorem ReviewOp.contentEdit {env : ReviewEnv} {actor : User} {existing : Option Event}
    {op : ReviewOp} {seen later : Proposal} {f : Flush} (hop : op.EditsContent)
    (h : op.flush env actor existing seen later = .ok f) : ContentEdit seen f := by
  cases op with
  | createVenueRequest newId venueIn =>
      simp only [ReviewOp.flush, VenueService.createVenueRequest, bind_accepts, refuse_accepts,
        exists_unit, pure_accepts] at h
      obtain ⟨hopen, _, _, _, _, _, _, _, rfl⟩ := h
      refine ⟨openForEditing_editable hopen, rfl, fun p q hw => ?_⟩
      simp only [asConflict_accepts, bind_accepts, refuse_accepts, exists_unit, pure_accepts] at hw
      obtain ⟨_, rfl⟩ := hw
      exact ⟨rfl, rfl⟩
  | updateVenueRequest venueIn =>
      simp only [ReviewOp.flush, VenueService.updateVenueRequest, bind_accepts, refuse_accepts,
        exists_unit, pure_accepts] at h
      obtain ⟨hopen, _, _, _, _, _, _, _, _, rfl⟩ := h
      exact ⟨openForEditing_editable hopen, rfl, fun p q hw =>
        updateVenue_kept (asConflict_accepts.mp hw)⟩
  | deleteVenueRequest =>
      simp only [ReviewOp.flush, VenueService.deleteVenueRequest, bind_accepts, pure_accepts] at h
      obtain ⟨_, hopen, _, _, rfl⟩ := h
      refine ⟨openForEditing_editable hopen, rfl, fun p q hw => ?_⟩
      simp only [bind_accepts, refuse_accepts, exists_unit, pure_accepts] at hw
      obtain ⟨_, rfl⟩ := hw
      exact ⟨rfl, rfl⟩
  | createBudgetProposal newId newItemId budgetIn =>
      simp only [ReviewOp.flush, BudgetService.createBudgetProposal, bind_accepts, refuse_accepts,
        exists_unit, pure_accepts] at h
      obtain ⟨hopen, _, _, _, _, rfl⟩ := h
      refine ⟨openForEditing_editable hopen, rfl, fun p q hw => ?_⟩
      simp only [asConflict_accepts, bind_accepts, refuse_accepts, exists_unit, pure_accepts] at hw
      obtain ⟨_, rfl⟩ := hw
      exact ⟨rfl, rfl⟩
  | updateBudgetProposal budgetIn =>
      simp only [ReviewOp.flush, BudgetService.updateBudgetProposal, bind_accepts, exists_unit,
        pure_accepts] at h
      obtain ⟨hopen, _, _, _, _, rfl⟩ := h
      exact ⟨openForEditing_editable hopen, rfl, fun p q hw =>
        updateBudget_kept (asConflict_accepts.mp hw)⟩
  | deleteBudgetProposal =>
      simp only [ReviewOp.flush, BudgetService.deleteBudgetProposal, bind_accepts, pure_accepts] at h
      obtain ⟨_, hopen, _, _, rfl⟩ := h
      refine ⟨openForEditing_editable hopen, rfl, fun p q hw => ?_⟩
      cases hw
      exact ⟨rfl, rfl⟩
  | addLineItem newId itemIn =>
      simp only [ReviewOp.flush, BudgetService.addLineItem, bind_accepts, pure_accepts] at h
      obtain ⟨_, hopen, _, _, rfl⟩ := h
      refine ⟨openForEditing_editable hopen, rfl, fun p q hw => ?_⟩
      simp only [bind_accepts, refuse_accepts, exists_unit] at hw
      exact updateBudget_kept hw.2
  | updateLineItem itemId itemIn =>
      simp only [ReviewOp.flush, BudgetService.updateLineItem, bind_accepts, pure_accepts] at h
      obtain ⟨_, hopen, _, _, _, _, rfl⟩ := h
      refine ⟨openForEditing_editable hopen, rfl, fun p q hw => ?_⟩
      simp only [bind_accepts, refuse_accepts, exists_unit] at hw
      exact updateBudget_kept hw.2
  | deleteLineItem itemId =>
      simp only [ReviewOp.flush, BudgetService.deleteLineItem, bind_accepts, pure_accepts] at h
      obtain ⟨_, hopen, _, _, _, _, rfl⟩ := h
      exact ⟨openForEditing_editable hopen, rfl, fun p q hw => updateBudget_kept hw⟩
  | _ => exact hop.elim

/-- The booking row, as `… WHERE is_active … FOR UPDATE` finds it. -/
def bookingRows (d : Dossier) : List DossierKey :=
  if activeBooking d.proposal = none then [] else [.booking]

/-- The instance row of a key. -/
def workflowRows (id : Option Uuid) (d : Dossier) : List DossierKey :=
  match id.bind d.proposal.instances.find with
  | none => []
  | some i => [.workflow i.id]

/-! ## 2. The flush of a withdrawal -/

/-- The pending steps of an instance. -/
def pendingSteps (p : Proposal) (i : WorkflowInstance) : List Uuid :=
  (p.steps.rows.filter fun s => s.instanceId = i.id ∧ s.status = .pending).map
    WorkflowInstanceStep.id

/-- The steps a withdrawal has loaded as pending. -/
def stepsToSkip (seen : Proposal) : List Uuid :=
  match activeInstance seen with
  | none => []
  | some i => pendingSteps seen i

/-- `UPDATE workflow_instance_steps SET status = 'SKIPPED' WHERE id = …`, for each of the keys. -/
def skipLoaded (ids : List Uuid) (step : WorkflowInstanceStep) : WorkflowInstanceStep :=
  if step.id ∈ ids then { step with status := .skipped } else step

theorem skipLoaded_key (ids : List Uuid) (step : WorkflowInstanceStep) :
    Row.key (skipLoaded ids step) = Row.key step := by
  unfold skipLoaded
  by_cases h : step.id ∈ ids
  · rw [if_pos h]
    rfl
  · rw [if_neg h]

def stopWorkflow (seen p : Proposal) : Result Proposal :=
  match activeInstance seen with
  | none => pure p
  | some i => do
      let p ← p.updateInstance i.id fun i => { i with status := .cancelled }
      return { p with
        steps := p.steps.modify (skipLoaded (pendingSteps seen i)) (skipLoaded_key _)
          (fun _ _ => trivial) }

/-- The booking loaded as active is released. -/
def vacateHall (seen p : Proposal) : Result Proposal :=
  match activeBooking seen with
  | none => pure p
  | some b => p.updateBooking b.id fun b => { b with isActive := false }

/-- The venue request loaded as APPROVED. -/
def approvedRequest (seen : Proposal) : Option VenueRequest :=
  seen.venueRequest.filter fun v => v.status = .approved

def dropVenue (seen p : Proposal) : Result Proposal :=
  match approvedRequest seen with
  | none => pure p
  | some v => p.updateVenue v.id fun v => { v with status := .rejected }

/-- What a withdrawal writes for the rows `seen`. -/
def withdraw (seen p : Proposal) : Result Proposal := do
  let p ← stopWorkflow seen p
  let p ← vacateHall seen p
  let p ← dropVenue seen p
  return p.updateRequest fun r =>
    { r with status := .cancelled, versionLock := seen.request.versionLock + 1 }

/-- `cancel_proposal`, as what it flushes. -/
def cancelProposalFlush (env : Env) (actor : User) (reason : Text) (seen : Proposal) :
    Result Flush := do
  let (_, entries) ← cancelProposal env actor reason seen
  return { write := withdraw seen, entries := entries }

/-- **The workflow rows after a withdrawal.** -/
inductive WorkflowStopped (seen p q : Proposal) : Prop where
  | idle (h : activeInstance seen = none) (hi : q.instances = p.instances) (hs : q.steps = p.steps)
  | stopped (i : WorkflowInstance) (h : activeInstance seen = some i)
      (hi : p.instances.update i.id (fun i => { i with status := .cancelled }) = some q.instances)
      (hs : q.steps = p.steps.modify (skipLoaded (pendingSteps seen i)) (skipLoaded_key _)
        (fun _ _ => trivial))

section Withdrawals

variable {seen p q : Proposal}

theorem stopWorkflow_writes (h : stopWorkflow seen p = .ok q) :
    WorkflowStopped seen p q ∧ ∃ instances steps,
      q = { p with instances := instances, steps := steps } := by
  unfold stopWorkflow at h
  cases hact : activeInstance seen with
  | none =>
      simp only [hact, pure_accepts] at h
      cases h
      exact ⟨.idle hact rfl rfl, p.instances, p.steps, rfl⟩
  | some i =>
      simp only [hact, Proposal.updateInstance, bind_accepts, fetch_accepts, pure_accepts] at h
      obtain ⟨r, ⟨t, ht, rfl⟩, rfl⟩ := h
      exact ⟨.stopped i hact ht rfl, t, _, rfl⟩

theorem vacateHall_writes (h : vacateHall seen p = .ok q) :
    ∃ booking, q = { p with booking := booking } := by
  unfold vacateHall at h
  cases hact : activeBooking seen with
  | none =>
      simp only [hact, pure_accepts] at h
      exact ⟨p.booking, h.symm⟩
  | some b =>
      simp only [hact] at h
      obtain ⟨c, _, _, rfl⟩ := Proposal.updateBooking_accepts.mp h
      exact ⟨_, rfl⟩

theorem dropVenue_writes (h : dropVenue seen p = .ok q) :
    ∃ venueRequest, q = { p with venueRequest := venueRequest } := by
  unfold dropVenue at h
  cases hact : approvedRequest seen with
  | none =>
      simp only [hact, pure_accepts] at h
      exact ⟨p.venueRequest, h.symm⟩
  | some v =>
      simp only [hact] at h
      obtain ⟨c, _, _, _, rfl⟩ := Proposal.updateVenue_accepts.mp h
      exact ⟨_, rfl⟩

/-- **What a withdrawal does to the rows as committed.** -/
theorem withdraw_writes (h : withdraw seen p = .ok q) :
    q.request = { p.request with
        status := .cancelled
        versionLock := seen.request.versionLock + 1 } ∧
      WorkflowStopped seen p q ∧ q.versions = p.versions ∧ q.budgetProposal = p.budgetProposal := by
  simp only [withdraw, bind_accepts, pure_accepts] at h
  obtain ⟨p1, h1, p2, h2, p3, h3, rfl⟩ := h
  obtain ⟨hflow, instances, steps, rfl⟩ := stopWorkflow_writes h1
  obtain ⟨booking, rfl⟩ := vacateHall_writes h2
  obtain ⟨venueRequest, rfl⟩ := dropVenue_writes h3
  refine ⟨rfl, ?_, rfl, rfl⟩
  cases hflow with
  | idle hact hi hs => exact .idle hact hi hs
  | stopped i hact hi hs => exact .stopped i hact hi hs

theorem activeInstance_found {i : WorkflowInstance} (h : activeInstance seen = some i) :
    seen.instances.find i.id = some i ∧ seen.request.workflowInstanceId = some i.id ∧
      i.status = .inProgress := by
  obtain ⟨hbind, hst⟩ := Option.filter_eq_some_iff.mp h
  obtain ⟨id, hlink, hfind⟩ := Option.bind_eq_some_iff.mp hbind
  have hid : i.id = id := Table.key_of_find hfind
  rw [hid]
  exact ⟨hfind, hlink, of_decide_eq_true hst⟩

/-- The steps a withdrawal has read as pending are the pending ones, on the rows it has read. -/
theorem mem_pendingSteps_self {i : WorkflowInstance} {s : WorkflowInstanceStep} (hs : s ∈ p.steps) :
    s.id ∈ pendingSteps p i ↔ s.instanceId = i.id ∧ s.status = .pending := by
  unfold pendingSteps
  rw [List.mem_map]
  constructor
  · intro ⟨o, ho, hid⟩
    obtain ⟨hom, hopen⟩ := List.mem_filter.mp ho
    obtain rfl : o = s := Table.eq_of_key_eq (t := p.steps) hom hs hid
    exact of_decide_eq_true hopen
  · intro hopen
    exact ⟨s, List.mem_filter.mpr ⟨hs, decide_eq_true hopen⟩, rfl⟩

theorem stopWorkflow_self : stopWorkflow p p = .ok (cancelWorkflow p) := by
  unfold stopWorkflow cancelWorkflow
  cases hact : activeInstance p with
  | none => rfl
  | some i =>
      obtain ⟨hfind, _, _⟩ := activeInstance_found hact
      obtain ⟨t, ht⟩ := p.instances.replace_of_check (a := { i with status := .cancelled }) trivial
      have hupd : p.instances.update i.id (fun i => { i with status := .cancelled }) = some t :=
        Table.update_eq_some.mpr ⟨i, hfind, ht⟩
      simp only [Proposal.updateInstance, bind_accepts, fetch_accepts, pure_accepts]
      refine ⟨{ p with instances := t }, ⟨t, hupd, rfl⟩, ?_⟩
      rw [ht]
      have hskip : p.steps.modify (skipLoaded (pendingSteps p i)) (skipLoaded_key _)
          (fun _ _ => trivial) = p.steps.modify (skipPending i.id) (skipPending_key _)
          (fun _ _ => trivial) := by
        unfold Table.modify
        congr 1
        refine List.map_congr_left fun s hs => ?_
        unfold skipLoaded skipPending
        by_cases hopen : s.instanceId = i.id ∧ s.status = .pending
        · rw [if_pos ((mem_pendingSteps_self hs).mpr hopen), if_pos hopen]
        · rw [if_neg fun hid => hopen ((mem_pendingSteps_self hs).mp hid), if_neg hopen]
      show ({ p with instances := t, steps := _ } : Proposal) = _
      rw [hskip]
      rfl

/-- The hall of the booking that was read is released, whatever else has been written. -/
theorem vacateHall_self (hbooking : q.booking = p.booking) :
    vacateHall p q = .ok (releaseHall q) := by
  unfold vacateHall releaseHall
  have hact : activeBooking q = activeBooking p := by
    unfold activeBooking
    rw [hbooking]
  rw [hact]
  cases hb : activeBooking p with
  | none => rfl
  | some b =>
      obtain ⟨hfound, _⟩ := Option.filter_eq_some_iff.mp hb
      exact Proposal.updateBooking_accepts.mpr ⟨b, hbooking.trans hfound, rfl, rfl⟩

theorem dropVenue_self (hvenue : q.venueRequest = p.venueRequest)
    (hcheck : ∀ v ∈ p.venueRequest, v.Check) :
    dropVenue p q = .ok { q with venueRequest := p.venueRequest.map withdrawVenue } := by
  unfold dropVenue approvedRequest
  cases hv : p.venueRequest with
  | none =>
      rw [hv] at hvenue
      show Except.ok q = _
      rw [Option.map_none, ← hvenue]
  | some v =>
      rw [hv] at hvenue
      by_cases happ : v.status = .approved
      · rw [Option.filter_some, if_pos (decide_eq_true happ)]
        refine Proposal.updateVenue_accepts.mpr ⟨v, hvenue, rfl, hcheck v hv, ?_⟩
        unfold withdrawVenue
        rw [Option.map_some, if_pos happ]
      · rw [Option.filter_some, if_neg (by rw [decide_eq_true_eq]; exact happ)]
        show Except.ok q = _
        unfold withdrawVenue
        rw [Option.map_some, if_neg happ, ← hvenue]

/-- On the rows it has read, the flush is the withdrawal. -/
theorem withdraw_self (hcheck : ∀ v ∈ p.venueRequest, v.Check) :
    withdraw p p = .ok (withdrawn p) := by
  have hflow : (cancelWorkflow p).booking = p.booking ∧
      (cancelWorkflow p).venueRequest = p.venueRequest ∧ (cancelWorkflow p).request = p.request := by
    unfold cancelWorkflow
    cases activeInstance p <;> exact ⟨rfl, rfl, rfl⟩
  obtain ⟨hbooking, hvenue, hrequest⟩ := hflow
  have hrel := releaseHall_eq (cancelWorkflow p)
  have hven : (releaseHall (cancelWorkflow p)).venueRequest = p.venueRequest := by
    rw [hrel]
    exact hvenue
  have hreq : (releaseHall (cancelWorkflow p)).request = p.request := by
    rw [hrel]
    exact hrequest
  simp only [withdraw, bind_accepts, pure_accepts]
  refine ⟨_, stopWorkflow_self, _, vacateHall_self hbooking, _, dropVenue_self hven hcheck, ?_⟩
  unfold withdrawn Proposal.updateRequest
  simp only [hreq, hven]

end Withdrawals

/-! ## 3. The transaction of a withdrawal -/

/-- The rows the flush of a withdrawal updates beside those it has locked. -/
def withdrawnRows (seen : Proposal) : List DossierKey :=
  (stepsToSkip seen).map .step ++ (if approvedRequest seen = none then [] else [.venue])

/-- `cancel_proposal` from its FOR UPDATE select on. `request` are the attributes of the proposal row
    it goes on with: those of the select, or those an earlier select of the session has loaded. -/
def withdrawScript (env : Env) (actor : User) (reason : Text) (request : EventRequest) :
    DossierProg (Dossier → Result Dossier) := do
  let flow ← Prog.hold (workflowRows request.workflowInstanceId)
  let steps ← Prog.view
  let booking ← Prog.hold bookingRows
  let venue ← Prog.view
  let seen : Proposal := { venue.proposal with
    request := request
    instances := flow.proposal.instances
    steps := steps.proposal.steps
    booking := booking.proposal.booking }
  let f ← Prog.lift (cancelProposalFlush env actor reason seen)
  let _ ← Prog.hold fun _ => withdrawnRows seen
  return writeFlush f

/-- **What a withdrawal has read when it commits**, and what it has locked. -/
structure WithdrawCommit (request : EventRequest) (script : DossierProg (Dossier → Result Dossier))
    (vs : List Dossier) (db db' : Dossier) : Prop where
  cancellable : request.status ≠ .cancelled ∧ request.status ≠ .rejected ∧ request.status ≠ .approved
  rows : ∃ flow steps seen, flow ∈ vs ∧ steps ∈ vs ∧ seen.request = request ∧
    seen.instances = flow.proposal.instances ∧ seen.steps = steps.proposal.steps ∧
    withdraw seen db.proposal = .ok db'.proposal ∧
    (∀ i, activeInstance seen = some i → script.since (.workflow i.id) vs ≠ []) ∧
    ∀ id ∈ stepsToSkip seen, script.since (.step id) vs ≠ []
  event : db'.event = db.event

theorem withdraw_commit {env : Env} {actor : User} {reason : Text} {request : EventRequest}
    {vs : List Dossier} {write : Dossier → Result Dossier}
    (h : (withdrawScript env actor reason request).after vs = .done write) {db db' : Dossier}
    (hw : write db = .ok db') :
    WithdrawCommit request (withdrawScript env actor reason request) vs db db' := by
  unfold withdrawScript at h
  obtain ⟨flow, vs1, rfl, h1⟩ := Prog.after_hold.mp h
  obtain ⟨steps, vs2, rfl, h2⟩ := Prog.after_view.mp h1
  obtain ⟨booking, vs3, rfl, h3⟩ := Prog.after_hold.mp h2
  obtain ⟨venue, vs4, rfl, h4⟩ := Prog.after_view.mp h3
  obtain ⟨f, hf, h5⟩ := Prog.after_decision.mp h4
  obtain ⟨last, vs5, rfl, h6⟩ := Prog.after_hold.mp h5
  obtain rfl : writeFlush f = write := Prog.after_done.mp h6
  obtain ⟨hq, hevent, _⟩ := writeFlush_accepts hw
  simp only [cancelProposalFlush, bind_accepts, pure_accepts] at hf
  obtain ⟨⟨left, entries⟩, hcan, rfl⟩ := hf
  have hst := cancelProposal_cancellable hcan
  refine ⟨hst, ⟨flow, steps, _, by simp, by simp, ?_, ?_, ?_, hq, ?_, ?_⟩, ?_⟩
  · rfl
  · rfl
  · rfl
  · intro i hact
    obtain ⟨hfind, hlink, _⟩ := activeInstance_found hact
    have hrow : DossierKey.workflow i.id ∈ workflowRows request.workflowInstanceId flow := by
      unfold workflowRows
      have hbind : request.workflowInstanceId.bind flow.proposal.instances.find = some i := by
        rw [show request.workflowInstanceId = some i.id from hlink]
        exact hfind
      rw [hbind]
      exact List.mem_singleton.mpr rfl
    unfold withdrawScript
    rw [Prog.since_hold_mem hrow]
    exact List.cons_ne_nil _ _
  · intro id hid
    unfold withdrawScript
    refine Prog.since_hold_ne ?_
    rw [Prog.since_view]
    refine Prog.since_hold_ne ?_
    rw [Prog.since_view, Prog.since_decision (b := _) (by
      simp only [cancelProposalFlush, bind_accepts, pure_accepts]
      exact ⟨(left, entries), hcan, rfl⟩)]
    rw [Prog.since_hold_mem]
    · exact List.cons_ne_nil _ _
    · exact List.mem_append_left _ (List.mem_map_of_mem hid)
  · rw [hevent, Option.or_none]

/-- Alone, the transaction is the withdrawal. -/
theorem withdraw_serial {env : Env} {actor : User} {reason : Text} {d : Dossier} {q : Proposal}
    {entries : List AuditEntry} (hcheck : ∀ v ∈ d.proposal.venueRequest, v.Check)
    (h : cancelProposal env actor reason d.proposal = .ok (q, entries)) :
    (withdrawScript env actor reason d.proposal.request).serial d =
      .ok (d.flushed q none entries) := by
  obtain ⟨_, rfl⟩ := cancelProposal_accepts h
  have hf : cancelProposalFlush env actor reason d.proposal =
      .ok { write := withdraw d.proposal, entries := entries } := by
    simp only [cancelProposalFlush, bind_accepts, pure_accepts]
    exact ⟨_, h, rfl⟩
  unfold withdrawScript
  rw [Prog.serial_hold, Prog.serial_view, Prog.serial_hold, Prog.serial_view,
    Prog.serial_decision (b := { write := withdraw d.proposal, entries := entries }) hf,
    Prog.serial_hold, Prog.serial_done]
  simp only [writeFlush, bind_accepts, refuse_accepts, exists_unit, pure_accepts]
  refine ⟨fun hno => hno.1 rfl, _, withdraw_self hcheck, rfl⟩

end CampusConnect
