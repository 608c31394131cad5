/-
  File:      CampusConnect/Services/Workflow.lean
  Subject:   The approval workflow of a proposal (`workflow_service.py`).

  * `ensureDefaultTemplate`, `resolveAssignee`, `instantiateWorkflow`: the instance a submission
    starts, with one step for each step of the template;
  * `verifyDecision`: the five guards of a decision on a step, each decision with its own texts;
  * `approveStep`, `rejectStep`, `requestRevision`: the decisions, with what the second and the third
    step do to the venue and the budget, and the last one to the proposal.
-/
import CampusConnect.Services.Drafting
import Mathlib.Data.List.Sort

namespace CampusConnect

open Guarded Rows

namespace WorkflowService

/-! ## 1. Instantiation -/

/-- `standard_steps`. -/
def standardSteps : List WorkflowTemplateStep :=
  [{ stepOrder := 1, stepName := "Faculty Advisor Review".toList, requiredRole := .facultyAdvisor },
    { stepOrder := 2, stepName := "Hall In-Charge Review".toList, requiredRole := .hallIncharge },
    { stepOrder := 3, stepName := "Finance Officer Pre-Audit".toList
      requiredRole := .financeOfficer },
    { stepOrder := 4, stepName := "Advisor Students Union Review".toList
      requiredRole := .advisorStudentsUnion },
    { stepOrder := 5, stepName := "Dean of Student Affairs Review".toList
      requiredRole := .deanStudentAffairs },
    { stepOrder := 6, stepName := "Principal Executive Sanction".toList
      requiredRole := .principal }]

/-- `ensure_default_template`, as the steps of the template it returns. -/
def ensureDefaultTemplate (env : ReviewEnv) : List WorkflowTemplateStep :=
  env.template.getD standardSteps

/-- The first active user of a role. -/
def roleUser (env : ReviewEnv) (role : UserRole) : Option Uuid :=
  (env.users.find? (fun u => u.role = role)).map User.id

/-- Who a step is assigned to: the template's user, else for the faculty advisor the club's advisor,
    else a user of the role, an administrator, the submitter. -/
def resolveAssignee (env : ReviewEnv) (clubId : Uuid) (actor : User) (t : WorkflowTemplateStep) :
    Uuid :=
  let fallback := ((roleUser env t.requiredRole).or (roleUser env .systemAdmin)).getD actor.id
  match t.assignedUserId with
  | some u => u
  | none =>
      if t.requiredRole = .facultyAdvisor then
        ((env.clubs.find? (fun c => c.id = clubId)).bind Club.facultyAdvisorId).getD fallback
      else fallback

/-- The step rows of a new instance, in the order of the template. -/
def instanceSteps (env : ReviewEnv) (clubId : Uuid) (actor : User) (instanceId : Uuid)
    (newStepId : Nat → Uuid) (version : Nat) : List WorkflowInstanceStep :=
  ((ensureDefaultTemplate env).insertionSort (fun a b => a.stepOrder ≤ b.stepOrder)).map fun t =>
    { id := newStepId t.stepOrder
      instanceId := instanceId
      requiredRole := t.requiredRole
      stepOrder := t.stepOrder
      stepName := t.stepName
      assignedTo := resolveAssignee env clubId actor t
      status := .pending
      versionReviewed := some version
      stepVersionLock := 0 }

/-- The instance the proposal points to, when it is still under way. -/
def priorInstance (p : Proposal) : Option WorkflowInstance :=
  (p.request.workflowInstanceId.bind p.instances.find).filter (fun i => i.status = .inProgress)

/-- The prior instance is superseded. -/
def supersedePrior (seen p : Proposal) : Result Proposal :=
  match priorInstance seen with
  | none => pure p
  | some i => p.updateInstance i.id fun i => { i with status := .superseded }

/-- The instance a submission starts. -/
def newInstance (newId : Uuid) (version : Nat) : WorkflowInstance where
  id := newId
  currentStepOrder := 1
  status := .inProgress
  versionNumber := version

/-- What `instantiate_workflow` writes for the proposal `seen` with its new version number: the
    prior instance superseded, the new one and its steps, and the link to it. The database refuses
    two steps of one order. -/
def instantiateWorkflow (env : ReviewEnv) (actor : User) (newId : Uuid) (newStepId : Nat → Uuid)
    (version : Nat) (seen p : Proposal) : Result Proposal := do
  let p ← supersedePrior seen p
  let instances ← fetch (p.instances.insert (newInstance newId version)) integrityError
  let steps := instanceSteps env seen.request.clubId actor newId newStepId version
  refuse (¬ (steps.map WorkflowInstanceStep.stepOrder).Nodup) integrityError
  let steps ← fetch (p.steps.insertAll steps) integrityError
  return { p with
    instances := instances
    steps := steps
    request := { p.request with workflowInstanceId := some newId } }

/-! ## 2. The guards of a decision -/

/-- The texts in which the three decisions differ. -/
structure DecisionWords where
  outOfOrder : String
  ownProposal : String
  deriving DecidableEq, Repr

/-- `can_act`: the assignee, and at the first step an administrator, at the others a holder of the
    required role. -/
def CanAct (actor : User) (step : WorkflowInstanceStep) : Prop :=
  if step.stepOrder = 1 then step.assignedTo = actor.id ∨ actor.role = .systemAdmin
  else step.assignedTo = actor.id ∨ step.requiredRole = actor.role

instance (actor : User) (step : WorkflowInstanceStep) : Decidable (CanAct actor step) :=
  inferInstanceAs (Decidable (if step.stepOrder = 1 then _ ∨ _ else _ ∨ _))

/-- The guards: the step's state, the instance's, the order, the conflict of interest and the
    authority. -/
def verifyDecision (words : DecisionWords) (actor : User) (step : WorkflowInstanceStep)
    (inst : WorkflowInstance) (request : EventRequest) : Result Unit := do
  refuse (step.status ≠ .pending)
    ⟨.workflowState, "Step '%s' is already in '%s' status.",
      [.text step.stepName, .name step.status.value]⟩
  refuse (inst.status ≠ .inProgress)
    ⟨.workflowState, "Workflow instance is '%s', not IN_PROGRESS.", [.name inst.status.value]⟩
  refuse (step.stepOrder ≠ inst.currentStepOrder)
    ⟨.workflowState, words.outOfOrder,
      [.text step.stepName, .number step.stepOrder, .number inst.currentStepOrder]⟩
  refuse (request.submittedBy = actor.id) ⟨.forbidden, words.ownProposal, []⟩
  refuse (¬ CanAct actor step)
    ⟨.forbidden, "Unauthorized: Step requires '%s' or designated assignment.",
      [.name step.requiredRole.value]⟩

/-- The row of a step, with its instance. -/
def loadStep (stepId : Uuid) (p : Proposal) : Result (WorkflowInstanceStep × WorkflowInstance) := do
  let step ← fetch (p.steps.find stepId)
    ⟨.notFound, "Workflow step with ID '%s' was not found.", [.uuid stepId]⟩
  let inst ← fetch (p.instances.find step.instanceId) integrityError
  return (step, inst)

/-- The columns a decision assigns to its step. -/
def decideStep (env : ReviewEnv) (status : WorkflowStepStatus) (comments : Option Text)
    (seen : WorkflowInstanceStep) (inst : WorkflowInstance) (step : WorkflowInstanceStep) :
    WorkflowInstanceStep :=
  { step with
    status := status
    actionTakenAt := some env.now
    comments := comments
    versionReviewed := some inst.versionNumber
    stepVersionLock := seen.stepVersionLock + 1 }

/-- `str(event.status)` after an assignment in the same session. -/
def assignedStatus (status : EventRequestStatus) : String := "EventRequestStatus." ++ status.value

/-! ## 3. Approval -/

def approveWords : DecisionWords where
  outOfOrder := "Step '%s' (Order %s) cannot be approved out-of-order. Currently awaiting Step %s."
  ownProposal := "Conflict of interest: You cannot approve your own submitted proposal."

/-- The conflict query of the second step: another proposal's booking of the hall and day. -/
def VenueConflict (env : ReviewEnv) (vr : VenueRequest) : Prop :=
  ∃ b ∈ env.otherBookings, b.hallId = vr.hallId ∧ b.bookingDate = vr.requestedDate ∧
    b.isActive = true ∧ b.startTime < vr.endTime ∧ b.endTime > vr.startTime

instance (env : ReviewEnv) (vr : VenueRequest) : Decidable (VenueConflict env vr) :=
  inferInstanceAs (Decidable (∃ b ∈ env.otherBookings, _))

/-- `excl_hall_bookings_no_overlap`: PostgreSQL refuses an active booking that overlaps another
    one's half-open slot in the same hall. -/
def Excluded (env : ReviewEnv) (b : HallBookingConfirmed) : Prop :=
  env.backend = .postgresql ∧ ∃ o ∈ env.otherBookings, o.isActive = true ∧ o.hallId = b.hallId ∧
    o.startTime < b.endTime ∧ b.startTime < o.endTime

instance (env : ReviewEnv) (b : HallBookingConfirmed) : Decidable (Excluded env b) :=
  inferInstanceAs (Decidable (_ ∧ ∃ o ∈ env.otherBookings, _))

/-- The booking of a venue request. -/
def bookingOf (newId : Uuid) (vr : VenueRequest) : HallBookingConfirmed where
  id := newId
  hallId := vr.hallId
  venueRequestId := vr.id
  bookingDate := vr.requestedDate
  startTime := vr.startTime
  endTime := vr.endTime
  isActive := true

/-- The booking the second step leaves: a new one, or the row already there made active again. -/
def confirmBooking (env : ReviewEnv) (newId : Uuid) (vr : VenueRequest) (seen p : Proposal) :
    Result Proposal :=
  match seen.booking with
  | none => do
      let b := bookingOf newId vr
      refuse (p.booking ≠ none ∨ ¬ b.startTime < b.endTime ∨ Excluded env b) integrityError
      return { p with booking := some b }
  | some b =>
      if b.isActive = true then pure p
      else do
        refuse (Excluded env b) integrityError
        p.updateBooking b.id fun b => { b with isActive := true }

def approvedVenue (env : ReviewEnv) (actor : User) (v : VenueRequest) : VenueRequest :=
  { v with status := .approved, reviewedBy := some actor.id, reviewedAt := some env.now }

/-- The interlock of the second step. -/
def approveVenue (env : ReviewEnv) (actor : User) (newBookingId : Uuid) (seen p : Proposal) :
    Result Proposal :=
  match seen.venueRequest with
  | none => pure p
  | some vr => do
      let p ← p.updateVenue vr.id (approvedVenue env actor)
      confirmBooking env newBookingId vr seen p

def verifiedBudget (env : ReviewEnv) (actor : User) (comments : Option Text) (b : BudgetProposal) :
    BudgetProposal :=
  { b with
    financeStatus := .verified
    financeVerifiedBy := some actor.id
    financeVerifiedAt := some env.now
    financeNotes := comments }

/-- The interlock of the third step. -/
def approveBudget (env : ReviewEnv) (actor : User) (comments : Option Text) (seen p : Proposal) :
    Result Proposal :=
  match seen.budgetProposal with
  | none => pure p
  | some bp => p.updateBudget bp.id (verifiedBudget env actor comments)

/-- What the second and the third step do beside their decision. -/
def interlock (env : ReviewEnv) (actor : User) (comments : Option Text) (newBookingId : Uuid)
    (step : WorkflowInstanceStep) (seen p : Proposal) : Result Proposal :=
  if step.stepOrder = 2 then approveVenue env actor newBookingId seen p
  else if step.stepOrder = 3 then approveBudget env actor comments seen p
  else pure p

/-- The step after a step of the same instance. -/
def nextStep (p : Proposal) (step : WorkflowInstanceStep) : Option WorkflowInstanceStep :=
  p.steps.rows.find? (fun s => s.instanceId = step.instanceId ∧ s.stepOrder = step.stepOrder + 1)

/-- The proposal moves on to the next step, or is approved after the last one. -/
def advance (seen : Proposal) (step : WorkflowInstanceStep) (inst : WorkflowInstance)
    (p : Proposal) : Result Proposal :=
  match nextStep seen step with
  | some next => do
      let p ← p.updateInstance inst.id fun i => { i with currentStepOrder := next.stepOrder }
      return p.updateRequest fun r =>
        if seen.request.status = .submitted then { r with status := .inReview } else r
  | none => do
      let p ← p.updateInstance inst.id fun i => { i with status := .completed }
      return p.updateRequest fun r => { r with status := .approved }

/-- The event the last approval creates, unless there is one, and its audit entries. -/
def approvedEvent (env : ReviewEnv) (actor : User) (newId : Uuid) (existing : Option Event)
    (seen : Proposal) (step : WorkflowInstanceStep) : Option Event × List AuditEntry :=
  match nextStep seen step, existing with
  | some _, _ => (none, [])
  | none, some _ => (none, [])
  | none, none =>
      let (event, entries) := EventService.createConfirmedEvent env.toEnv actor newId none seen
      (some event, entries)

/-- `new_state` of an approval. -/
def approvalState (seen : Proposal) (step : WorkflowInstanceStep) (inst : WorkflowInstance) :
    StateDict :=
  let (order, status) := match nextStep seen step with
    | some next => (next.stepOrder,
        if seen.request.status = .submitted then assignedStatus .inReview
        else seen.request.status.value)
    | none => (inst.currentStepOrder, assignedStatus .approved)
  [("step_order", .number step.stepOrder), ("status", .name "APPROVED"),
    ("next_step_order", .number order), ("event_status", .name status)]

/-- `approve_step`. -/
def approveStep (env : ReviewEnv) (actor : User) (stepId : Uuid) (comments : Option Text)
    (newBookingId newEventId : Uuid) (existing : Option Event) (seen : Proposal) :
    Result Flush := do
  let (step, inst) ← loadStep stepId seen
  verifyDecision approveWords actor step inst seen.request
  refuse (step.stepOrder = 2 ∧ ∃ vr ∈ seen.venueRequest, VenueConflict env vr)
    ⟨.conflict, "Venue conflict: Hall is already confirmed for another booking during this time " ++
      "slot.", []⟩
  let (event, entries) := approvedEvent env actor newEventId existing seen step
  return {
    write := fun p => do
      let p ← p.updateStep step.id (decideStep env .approved comments step inst)
      let p ← interlock env actor comments newBookingId step seen p
      advance seen step inst p
    event := event
    entries := entries ++
      [createAuditEntry env.toEnv actor .proposalApproved "workflow_step" step.id
        (some [("step_order", .number step.stepOrder), ("status", .name "PENDING")])
        (some (approvalState seen step inst))] }

/-! ## 4. Rejection and revision -/

/-- `not comments or len(comments.strip()) < 5`. -/
def TooShort (comments : Text) : Prop := (strip comments).length < 5

instance (comments : Text) : Decidable (TooShort comments) := inferInstanceAs (Decidable (_ < _))

def rejectWords : DecisionWords where
  outOfOrder := "Step '%s' (Order %s) cannot be rejected out-of-order. Currently awaiting Step %s."
  ownProposal := "Conflict of interest: You cannot reject your own submitted proposal."

def rejectedVenue (comments : Text) (v : VenueRequest) : VenueRequest :=
  { v with status := .rejected, rejectionReason := some comments }

/-- The venue request of a rejected proposal. -/
def rejectVenue (comments : Text) (seen p : Proposal) : Result Proposal :=
  match seen.venueRequest with
  | none => pure p
  | some vr => p.updateVenue vr.id (rejectedVenue comments)

def releasedBooking (b : HallBookingConfirmed) : HallBookingConfirmed := { b with isActive := false }

/-- The booking of a rejected proposal. -/
def releaseBooking (seen p : Proposal) : Result Proposal :=
  match seen.booking with
  | none => pure p
  | some b => p.updateBooking b.id releasedBooking

/-- `reject_step`. -/
def rejectStep (env : ReviewEnv) (actor : User) (stepId : Uuid) (comments : Text)
    (seen : Proposal) : Result Flush := do
  refuse (TooShort comments)
    ⟨.badRequest, "Mandatory detailed rejection reason must be provided (minimum 5 characters).",
      []⟩
  let (step, inst) ← loadStep stepId seen
  verifyDecision rejectWords actor step inst seen.request
  return {
    write := fun p => do
      let p ← p.updateStep step.id (decideStep env .rejected (some comments) step inst)
      let p ← p.updateInstance inst.id fun i => { i with status := .rejected }
      let p ← rejectVenue comments seen (p.updateRequest fun r => { r with status := .rejected })
      releaseBooking seen p
    entries :=
      [createAuditEntry env.toEnv actor .proposalRejected "workflow_step" step.id
        (some [("step_order", .number step.stepOrder), ("status", .name "PENDING")])
        (some [("step_order", .number step.stepOrder), ("status", .name "REJECTED"),
          ("comments", .text comments), ("event_status", .name "REJECTED")])] }

def revisionWords : DecisionWords where
  outOfOrder := "Step '%s' (Order %s) cannot request revision out-of-order. Currently awaiting " ++
    "Step %s."
  ownProposal := "Conflict of interest: You cannot request revision on your own submitted proposal."

/-- `request_revision`; the instance stays IN_PROGRESS. -/
def requestRevision (env : ReviewEnv) (actor : User) (stepId : Uuid) (comments : Text)
    (seen : Proposal) : Result Flush := do
  refuse (TooShort comments)
    ⟨.badRequest, "Mandatory detailed revision instructions must be provided (minimum 5 " ++
      "characters).", []⟩
  let (step, inst) ← loadStep stepId seen
  verifyDecision revisionWords actor step inst seen.request
  return {
    write := fun p => do
      let p ← p.updateStep step.id (decideStep env .revisionRequested (some comments) step inst)
      return p.updateRequest fun r => { r with status := .revisionRequired }
    entries :=
      [createAuditEntry env.toEnv actor .revisionRequested "workflow_step" step.id
        (some [("step_order", .number step.stepOrder), ("status", .name "PENDING")])
        (some [("step_order", .number step.stepOrder), ("status", .name "REVISION_REQUESTED"),
          ("comments", .text comments), ("event_status", .name "REVISION_REQUIRED")])] }

/-! ## 5. What the decisions write -/

/-- The instances after the prior one is superseded. -/
def superseded (p : Proposal) : Option (Table WorkflowInstance) :=
  match priorInstance p with
  | none => some p.instances
  | some i => p.instances.replace { i with status := .superseded }

/-- **The guards of an accepted decision.** -/
structure StepDecision (actor : User) (stepId : Uuid) (p : Proposal) (step : WorkflowInstanceStep)
    (inst : WorkflowInstance) : Prop where
  stepFound : p.steps.find stepId = some step
  instFound : p.instances.find step.instanceId = some inst
  pending : step.status = .pending
  inProgress : inst.status = .inProgress
  current : step.stepOrder = inst.currentStepOrder
  other : p.request.submittedBy ≠ actor.id
  canAct : CanAct actor step

/-- What the second step leaves of the venue request and the booking. -/
inductive VenueApproved (env : ReviewEnv) (actor : User) (newId : Uuid) (p : Proposal) :
    Option VenueRequest → Option HallBookingConfirmed → Prop where
  | absent (h : p.venueRequest = none) : VenueApproved env actor newId p none p.booking
  | booked (vr : VenueRequest) (h : p.venueRequest = some vr) (hb : p.booking = none)
      (hfree : ¬ Excluded env (bookingOf newId vr)) :
      VenueApproved env actor newId p (some (approvedVenue env actor vr)) (some (bookingOf newId vr))
  | kept (vr : VenueRequest) (b : HallBookingConfirmed) (h : p.venueRequest = some vr)
      (hb : p.booking = some b) (hfree : b.isActive = true ∨ ¬ Excluded env b) :
      VenueApproved env actor newId p (some (approvedVenue env actor vr))
        (some { b with isActive := true })

/-- Where an approval takes the instance and the proposal. -/
inductive MovedOn (p : Proposal) (step : WorkflowInstanceStep) (inst : WorkflowInstance) :
    Table WorkflowInstance → EventRequestStatus → Prop where
  | next (next : WorkflowInstanceStep) (t : Table WorkflowInstance)
      (h : nextStep p step = some next)
      (ht : p.instances.replace { inst with currentStepOrder := next.stepOrder } = some t) :
      MovedOn p step inst t
        (if p.request.status = .submitted then .inReview else p.request.status)
  | last (t : Table WorkflowInstance) (h : nextStep p step = none)
      (ht : p.instances.replace { inst with status := .completed } = some t) :
      MovedOn p step inst t .approved

theorem MovedOn.cases {p : Proposal} {step : WorkflowInstanceStep} {inst : WorkflowInstance}
    {t : Table WorkflowInstance} {st : EventRequestStatus} (h : MovedOn p step inst t st) :
    (∃ next, nextStep p step = some next ∧
      p.instances.replace { inst with currentStepOrder := next.stepOrder } = some t ∧
      st = if p.request.status = .submitted then .inReview else p.request.status) ∨
    (nextStep p step = none ∧
      p.instances.replace { inst with status := .completed } = some t ∧ st = .approved) := by
  cases h with
  | next next t h ht => exact .inl ⟨next, h, ht, rfl⟩
  | last t h ht => exact .inr ⟨h, ht, rfl⟩

theorem nextStep_eq_some {p : Proposal} {step next : WorkflowInstanceStep}
    (h : nextStep p step = some next) :
    next ∈ p.steps ∧ next.instanceId = step.instanceId ∧
      next.stepOrder = step.stepOrder + 1 := by
  have hm := List.mem_of_find?_eq_some h
  have hp := List.find?_some h
  rw [decide_eq_true_eq] at hp
  exact ⟨hm, hp.1, hp.2⟩

theorem nextStep_eq_none {p : Proposal} {step other : WorkflowInstanceStep}
    (h : nextStep p step = none) (hm : other ∈ p.steps)
    (hown : other.instanceId = step.instanceId) : other.stepOrder ≠ step.stepOrder + 1 := by
  intro hord
  have hn := List.find?_eq_none.mp h other hm
  rw [decide_eq_true_eq] at hn
  exact hn ⟨hown, hord⟩

/-- **The rows after an approval.** -/
structure Approved (env : ReviewEnv) (actor : User) (comments : Option Text) (newBookingId : Uuid)
    (p : Proposal) (step : WorkflowInstanceStep) (inst : WorkflowInstance) (q : Proposal) :
    Prop where
  request : q.request = { p.request with status := q.request.status }
  versions : q.versions = p.versions
  steps : p.steps.replace (decideStep env .approved comments step inst step) = some q.steps
  moved : MovedOn p step inst q.instances q.request.status
  venue : step.stepOrder = 2 → VenueApproved env actor newBookingId p q.venueRequest q.booking
  venueKept : step.stepOrder ≠ 2 → q.venueRequest = p.venueRequest ∧ q.booking = p.booking
  budget : q.budgetProposal = if step.stepOrder = 3 then
    p.budgetProposal.map (verifiedBudget env actor comments) else p.budgetProposal

/-- **The rows after a rejection.** -/
structure Rejected (env : ReviewEnv) (comments : Text) (p : Proposal) (step : WorkflowInstanceStep)
    (inst : WorkflowInstance) (q : Proposal) : Prop where
  request : q.request = { p.request with status := .rejected }
  versions : q.versions = p.versions
  steps : p.steps.replace (decideStep env .rejected (some comments) step inst step) = some q.steps
  instances : p.instances.replace { inst with status := .rejected } = some q.instances
  venue : q.venueRequest = p.venueRequest.map (rejectedVenue comments)
  booking : q.booking = p.booking.map releasedBooking
  budget : q.budgetProposal = p.budgetProposal

theorem priorInstance_found {p : Proposal} {i : WorkflowInstance} (h : priorInstance p = some i) :
    p.instances.find i.id = some i := by
  obtain ⟨hbind, _⟩ := Option.filter_eq_some_iff.mp h
  obtain ⟨id, _, hfind⟩ := Option.bind_eq_some_iff.mp hbind
  have hid : i.id = id := Table.key_of_find hfind
  rw [hid]
  exact hfind

section Writes

variable {env : ReviewEnv} {actor : User} {stepId : Uuid} {p q : Proposal} {f : Flush}

theorem decision_accepts {words : DecisionWords} {step : WorkflowInstanceStep}
    {inst : WorkflowInstance} {u : Unit} (hload : loadStep stepId p = .ok (step, inst))
    (h : verifyDecision words actor step inst p.request = .ok u) :
    StepDecision actor stepId p step inst := by
  simp only [loadStep, bind_accepts, fetch_accepts, pure_accepts, Prod.mk.injEq] at hload
  obtain ⟨s, hs, i, hi, rfl, rfl⟩ := hload
  simp only [verifyDecision, bind_accepts, refuse_accepts, exists_unit, not_not] at h
  obtain ⟨hpend, hprog, hcur, hother, hact⟩ := h
  exact ⟨hs, hi, hpend, hprog, hcur, hother, hact⟩

/-- The keys of the rows a decision found. -/
theorem StepDecision.step_id {step : WorkflowInstanceStep} {inst : WorkflowInstance}
    (h : StepDecision actor stepId p step inst) : step.id = stepId := Table.key_of_find h.stepFound

theorem StepDecision.inst_id {step : WorkflowInstanceStep} {inst : WorkflowInstance}
    (h : StepDecision actor stepId p step inst) : inst.id = step.instanceId :=
    Table.key_of_find h.instFound

theorem updateStep_writes {step : WorkflowInstanceStep}
    {g : WorkflowInstanceStep → WorkflowInstanceStep}
    (hs : p.steps.find step.id = some step) (h : p.updateStep step.id g = .ok q) :
    ∃ t, p.steps.replace (g step) = some t ∧ q = { p with steps := t } := by
  obtain ⟨s, t, hs', ht, rfl⟩ := Proposal.updateStep_accepts.mp h
  obtain rfl : step = s := Option.some.inj (hs.symm.trans hs')
  exact ⟨t, ht, rfl⟩

theorem updateInstance_writes {inst : WorkflowInstance} {g : WorkflowInstance → WorkflowInstance}
    (hi : p.instances.find inst.id = some inst) (h : p.updateInstance inst.id g = .ok q) :
    ∃ t, p.instances.replace (g inst) = some t ∧ q = { p with instances := t } := by
  obtain ⟨i, t, hi', ht, rfl⟩ := Proposal.updateInstance_accepts.mp h
  obtain rfl : inst = i := Option.some.inj (hi.symm.trans hi')
  exact ⟨t, ht, rfl⟩

/-- The interlock of the second step, over rows that agree with those read on the venue and the
    booking. -/
theorem approveVenue_writes {newId : Uuid} {r : Proposal}
    (h : approveVenue env actor newId p r = .ok q) (hv : r.venueRequest = p.venueRequest)
    (hb : r.booking = p.booking) :
    ∃ v b, VenueApproved env actor newId p v b ∧ q = { r with venueRequest := v, booking := b } := by
  unfold approveVenue at h
  cases hp : p.venueRequest with
  | none =>
      rw [hp] at h hv
      cases h
      refine ⟨none, p.booking, .absent hp, ?_⟩
      rw [← hv, ← hb]
  | some vr =>
      rw [hp] at h hv
      simp only [bind_accepts, Proposal.updateVenue_accepts] at h
      obtain ⟨_, ⟨v, hv', _, _, rfl⟩, h⟩ := h
      obtain rfl : vr = v := Option.some.inj (hv.symm.trans hv')
      unfold confirmBooking at h
      cases hpb : p.booking with
      | none =>
          simp only [hpb, bind_accepts, refuse_accepts, exists_unit, pure_accepts, not_or] at h
          obtain ⟨⟨_, _, hfree⟩, rfl⟩ := h
          exact ⟨_, _, .booked vr hp hpb hfree, rfl⟩
      | some b =>
          simp only [hpb] at h
          by_cases hact : b.isActive = true
          · rw [if_pos hact] at h
            cases h
            refine ⟨_, _, .kept vr b hp hpb (.inl hact), ?_⟩
            rw [← hact]
            show _ = { r with venueRequest := some (approvedVenue env actor vr), booking := some b }
            rw [← hpb, ← hb]
          · rw [if_neg hact] at h
            simp only [bind_accepts, refuse_accepts, exists_unit, Proposal.updateBooking_accepts] at h
            obtain ⟨hfree, b', hb', _, rfl⟩ := h
            obtain rfl : b = b' := Option.some.inj ((hpb.symm.trans hb.symm).trans hb')
            exact ⟨_, _, .kept vr b hp hpb (.inr hfree), rfl⟩

theorem approveBudget_writes {comments : Option Text} {r : Proposal}
    (h : approveBudget env actor comments p r = .ok q)
    (hbud : r.budgetProposal = p.budgetProposal) :
    q = { r with budgetProposal := p.budgetProposal.map (verifiedBudget env actor comments) } := by
  unfold approveBudget at h
  cases hp : p.budgetProposal with
  | none =>
      rw [hp] at h hbud
      cases h
      rw [Option.map_none, ← hbud]
  | some bp =>
      rw [hp] at h hbud
      obtain ⟨b, hb, _, _, rfl⟩ := Proposal.updateBudget_accepts.mp h
      obtain rfl : bp = b := Option.some.inj (hbud.symm.trans hb)
      rfl

theorem interlock_writes {comments : Option Text} {newId : Uuid} {step : WorkflowInstanceStep}
    {r : Proposal} (h : interlock env actor comments newId step p r = .ok q)
    (hv : r.venueRequest = p.venueRequest) (hb : r.booking = p.booking)
    (hbud : r.budgetProposal = p.budgetProposal) :
    ∃ v b, (step.stepOrder = 2 → VenueApproved env actor newId p v b) ∧
      (step.stepOrder ≠ 2 → v = p.venueRequest ∧ b = p.booking) ∧
      q = { r with
        venueRequest := v
        booking := b
        budgetProposal := if step.stepOrder = 3 then
          p.budgetProposal.map (verifiedBudget env actor comments) else p.budgetProposal } := by
  unfold interlock at h
  by_cases h2 : step.stepOrder = 2
  · have h3 : step.stepOrder ≠ 3 := by omega
    rw [if_pos h2] at h
    obtain ⟨v, b, happ, rfl⟩ := approveVenue_writes h hv hb
    refine ⟨v, b, fun _ => happ, fun hne => (hne h2).elim, ?_⟩
    rw [if_neg h3, ← hbud]
  · rw [if_neg h2] at h
    refine ⟨p.venueRequest, p.booking, fun he => (h2 he).elim, fun _ => ⟨rfl, rfl⟩, ?_⟩
    rw [← hv, ← hb]
    by_cases h3 : step.stepOrder = 3
    · rw [if_pos h3] at h ⊢
      exact approveBudget_writes h hbud
    · rw [if_neg h3] at h ⊢
      cases h
      rw [← hbud]

theorem advance_writes {step : WorkflowInstanceStep} {inst : WorkflowInstance} {r : Proposal}
    (h : advance p step inst r = .ok q) (hi : p.instances.find inst.id = some inst)
    (hr : r.instances = p.instances) (hreq : r.request = p.request) :
    ∃ t st, MovedOn p step inst t st ∧
      q = { r with instances := t, request := { p.request with status := st } } := by
  unfold advance at h
  cases hn : nextStep p step with
  | none =>
      simp only [hn, bind_accepts, pure_accepts] at h
      obtain ⟨r', hr', rfl⟩ := h
      rw [← hr] at hi
      obtain ⟨t, ht, rfl⟩ := updateInstance_writes hi hr'
      rw [hr] at ht
      refine ⟨t, .approved, .last t hn ht, ?_⟩
      rw [← hreq]
      rfl
  | some next =>
      simp only [hn, bind_accepts, pure_accepts] at h
      obtain ⟨r', hr', rfl⟩ := h
      rw [← hr] at hi
      obtain ⟨t, ht, rfl⟩ := updateInstance_writes hi hr'
      rw [hr] at ht
      refine ⟨t, _, .next next t hn ht, ?_⟩
      unfold Proposal.updateRequest
      rw [hreq]
      by_cases hst : p.request.status = .submitted
      · simp only [if_pos hst]
      · simp only [if_neg hst]

theorem approveStep_writes {comments : Option Text} {newBookingId newEventId : Uuid}
    {existing : Option Event}
    (h : approveStep env actor stepId comments newBookingId newEventId existing p = .ok f)
    (hw : f.write p = .ok q) :
    ∃ step inst, StepDecision actor stepId p step inst ∧
      ¬ (step.stepOrder = 2 ∧ ∃ vr ∈ p.venueRequest, VenueConflict env vr) ∧
      Approved env actor comments newBookingId p step inst q ∧
      f.event = (approvedEvent env actor newEventId existing p step).1 := by
  simp only [approveStep, bind_accepts, refuse_accepts, exists_unit, pure_accepts] at h
  obtain ⟨⟨step, inst⟩, hload, hver, hfree, rfl⟩ := h
  have hd := decision_accepts hload hver
  have hs : p.steps.find step.id = some step := hd.step_id ▸ hd.stepFound
  have hi : p.instances.find inst.id = some inst := hd.inst_id ▸ hd.instFound
  refine ⟨step, inst, hd, hfree, ?_, rfl⟩
  simp only [bind_accepts] at hw
  obtain ⟨p1, h1, p2, h2, h3⟩ := hw
  obtain ⟨t, ht, rfl⟩ := updateStep_writes hs h1
  obtain ⟨v, b, hv, hkept, rfl⟩ := interlock_writes h2 rfl rfl rfl
  obtain ⟨u, st, hmoved, rfl⟩ := advance_writes h3 hi rfl rfl
  exact ⟨rfl, rfl, ht, hmoved, hv, hkept, rfl⟩

theorem rejectVenue_writes {comments : Text} {r : Proposal}
    (h : rejectVenue comments p r = .ok q) (hv : r.venueRequest = p.venueRequest) :
    q = { r with venueRequest := p.venueRequest.map (rejectedVenue comments) } := by
  unfold rejectVenue at h
  cases hp : p.venueRequest with
  | none =>
      rw [hp] at h hv
      cases h
      rw [Option.map_none, ← hv]
  | some vr =>
      rw [hp] at h hv
      obtain ⟨v, hv', _, _, rfl⟩ := Proposal.updateVenue_accepts.mp h
      obtain rfl : vr = v := Option.some.inj (hv.symm.trans hv')
      rfl

theorem releaseBooking_writes {r : Proposal} (h : releaseBooking p r = .ok q)
    (hb : r.booking = p.booking) : q = { r with booking := p.booking.map releasedBooking } := by
  unfold releaseBooking at h
  cases hp : p.booking with
  | none =>
      rw [hp] at h hb
      cases h
      rw [Option.map_none, ← hb]
  | some b =>
      rw [hp] at h hb
      obtain ⟨b', hb', _, rfl⟩ := Proposal.updateBooking_accepts.mp h
      obtain rfl : b = b' := Option.some.inj (hb.symm.trans hb')
      rfl

theorem rejectStep_writes {comments : Text} (h : rejectStep env actor stepId comments p = .ok f)
    (hw : f.write p = .ok q) :
    f.event = none ∧ ∃ step inst, StepDecision actor stepId p step inst ∧
      Rejected env comments p step inst q := by
  simp only [rejectStep, bind_accepts, refuse_accepts, exists_unit, pure_accepts] at h
  obtain ⟨_, ⟨step, inst⟩, hload, hver, rfl⟩ := h
  have hd := decision_accepts hload hver
  have hs : p.steps.find step.id = some step := hd.step_id ▸ hd.stepFound
  have hi : p.instances.find inst.id = some inst := hd.inst_id ▸ hd.instFound
  refine ⟨rfl, step, inst, hd, ?_⟩
  simp only [bind_accepts] at hw
  obtain ⟨p1, h1, p2, h2, p3, h3, h4⟩ := hw
  obtain ⟨t, ht, rfl⟩ := updateStep_writes hs h1
  obtain ⟨u, hu, rfl⟩ := updateInstance_writes (p := { p with steps := t }) hi h2
  obtain rfl := rejectVenue_writes h3 rfl
  obtain rfl := releaseBooking_writes h4 rfl
  exact ⟨rfl, rfl, ht, hu, rfl, rfl, rfl⟩

theorem supersedePrior_writes {r : Proposal} (h : supersedePrior p r = .ok q)
    (hr : r.instances = p.instances) : ∃ t, superseded p = some t ∧ q = { r with instances := t } := by
  unfold supersedePrior at h
  unfold superseded
  cases hp : priorInstance p with
  | none =>
      rw [hp] at h
      cases h
      refine ⟨p.instances, rfl, ?_⟩
      rw [← hr]
  | some i =>
      rw [hp] at h
      obtain ⟨t, ht, rfl⟩ := updateInstance_writes (hr ▸ priorInstance_found hp) h
      exact ⟨t, hr ▸ ht, rfl⟩

/-- An instance started by a submission, with its steps. -/
theorem instantiateWorkflow_writes {newId : Uuid} {newStepId : Nat → Uuid} {version : Nat}
    {r : Proposal} (h : instantiateWorkflow env actor newId newStepId version p r = .ok q)
    (hr : r.instances = p.instances) :
    ∃ t u v, superseded p = some t ∧ t.insert (newInstance newId version) = some u ∧
      ((instanceSteps env p.request.clubId actor newId newStepId version).map
        WorkflowInstanceStep.stepOrder).Nodup ∧
      r.steps.insertAll (instanceSteps env p.request.clubId actor newId newStepId version) = some v ∧
      q = { r with
        instances := u
        steps := v
        request := { r.request with workflowInstanceId := some newId } } := by
  simp only [instantiateWorkflow, bind_accepts, fetch_accepts, refuse_accepts, exists_unit,
    pure_accepts, not_not] at h
  obtain ⟨r', hsup, u, hu, hnodup, v, hv, rfl⟩ := h
  obtain ⟨t, ht, rfl⟩ := supersedePrior_writes hsup hr
  exact ⟨t, u, v, ht, hu, hnodup, hv, rfl⟩

theorem requestRevision_writes {comments : Text}
    (h : requestRevision env actor stepId comments p = .ok f) (hw : f.write p = .ok q) :
    f.event = none ∧ ∃ step inst t, StepDecision actor stepId p step inst ∧
      p.steps.replace (decideStep env .revisionRequested (some comments) step inst step) = some t ∧
      q = { p with steps := t, request := { p.request with status := .revisionRequired } } := by
  simp only [requestRevision, bind_accepts, refuse_accepts, exists_unit, pure_accepts] at h
  obtain ⟨_, ⟨step, inst⟩, hload, hver, rfl⟩ := h
  have hd := decision_accepts hload hver
  have hs : p.steps.find step.id = some step := hd.step_id ▸ hd.stepFound
  simp only [bind_accepts, pure_accepts] at hw
  obtain ⟨p1, h1, rfl⟩ := hw
  obtain ⟨t, ht, rfl⟩ := updateStep_writes hs h1
  exact ⟨rfl, step, inst, t, hd, ht, rfl⟩

end Writes

end WorkflowService

end CampusConnect
