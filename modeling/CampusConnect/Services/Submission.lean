/-
  File:      CampusConnect/Services/Submission.lean
  Subject:   `submit_proposal`: the version a submission freezes and the workflow it starts.

  * `AlreadySubmitted`: the idempotent return of a repeated submission;
  * `proposalSnapshot`: the JSON object written for a version, from the rows the session loaded;
  * `submitProposal`: the submission. The proposal is loaded without a lock.
-/
import CampusConnect.Services.Workflow

namespace CampusConnect

open Guarded Rows

namespace EventService

/-! ## 1. The snapshot -/

def lineItemContent (i : BudgetLineItem) : LineItemContent where
  description := i.description
  category := i.category
  estimatedAmount := .text i.estimatedAmount
  notes := i.notes

def venueContent (vr : VenueRequest) : VenueContent where
  hallId := vr.hallId
  hallName := vr.hallName
  requestedDate := vr.requestedDate
  startTime := vr.startTime
  endTime := vr.endTime
  expectedAudience := vr.expectedAudience

def budgetSnapshot (bp : BudgetProposal) : BudgetSnapshot where
  expectedIncome := some (.text bp.expectedIncome)
  instituteContribution := some (.text bp.instituteContribution)
  totalExpectedExpenditure := some (.text bp.totalExpectedExpenditure)
  lineItems := bp.lineItems.map lineItemContent

/-- The keys that repeat the proposal's columns. -/
def proposalContent (clubName : Option Text) (actor : User) (version : Nat) (r : EventRequest) :
    ProposalContent where
  id := r.id
  clubId := r.clubId
  clubName := clubName
  title := r.title
  description := r.description
  eventType := r.eventType
  expectedAttendees := r.expectedAttendees
  eventDate := r.eventDate
  chiefGuestName := r.chiefGuestName
  chiefGuestDesignation := r.chiefGuestDesignation
  chiefGuestInstitution := r.chiefGuestInstitution
  academicYear := r.academicYear
  versionNumber := version
  submittedBy := actor.id
  submittedByEmail := actor.email

/-- `snapshot`. -/
def proposalSnapshot (env : Env) (actor : User) (version : Nat) (p : Proposal) :
    VersionSnapshot where
  content := some (proposalContent
    ((env.clubs.find? (fun c => c.id = p.request.clubId)).map Club.name) actor version p.request)
  venue := p.venueRequest.map venueContent
  budget := p.budgetProposal.map budgetSnapshot

/-! ## 2. The submission -/

/-- `if idempotency_key:`. -/
def givenKey (key : Option Text) : Option Text := key.filter (fun k => k ≠ [])

/-- The proposal is already SUBMITTED under the same key. -/
def AlreadySubmitted (key : Option Text) (r : EventRequest) : Prop :=
  givenKey key ≠ none ∧ r.idempotencyKey = givenKey key ∧ r.status = .submitted

instance (key : Option Text) (r : EventRequest) : Decidable (AlreadySubmitted key r) :=
  inferInstanceAs (Decidable (_ ∧ _ ∧ _))

/-- The columns a submission assigns. -/
def submitRequest (key : Option Text) (seen r : EventRequest) : EventRequest :=
  { r with
    status := .submitted
    currentVersion := seen.currentVersion + 1
    versionLock := seen.versionLock + 1
    idempotencyKey := patched seen.idempotencyKey ((givenKey key).map some) r.idempotencyKey }

/-- The keys of the rows a submission inserts. -/
structure SubmissionKeys where
  version : Uuid
  inst : Uuid
  step : Nat → Uuid

/-- The version row of a submission. -/
def submittedVersion (env : Env) (actor : User) (changeSummary : Option Text) (newId : Uuid)
    (p : Proposal) : EventRequestVersion where
  id := newId
  versionNumber := p.request.currentVersion + 1
  snapshot := some (proposalSnapshot env actor (p.request.currentVersion + 1) p)
  submittedBy := actor.id
  changeSummary := changeSummary

/-- `submit_proposal`; a repeated call under the same key changes nothing. -/
def submitProposal (env : ReviewEnv) (actor : User) (changeSummary idempotencyKey : Option Text)
    (keys : SubmissionKeys) (seen : Proposal) : Result Flush := do
  let r := seen.request
  requireProposal r
  if AlreadySubmitted idempotencyKey r then return Flush.nothing
  else do
    requireEditable r ("Cannot submit proposal in '%s' status. Only DRAFT or REVISION_REQUIRED " ++
      "proposals can be submitted.")
    let _ ← verifyActiveClub env.toEnv r.clubId actor "submit this event proposal"
      "Club '%s' is currently inactive and cannot submit event proposals."
    refuse (∃ k ∈ givenKey idempotencyKey, k ∈ env.otherKeys)
      ⟨.conflict, "An event proposal with this idempotency key already exists.", []⟩
    let row := submittedVersion env.toEnv actor changeSummary keys.version seen
    return {
      write := fun p => do
        -- the version's primary key and `uq_event_request_versions_request_version`
        refuse (∃ v ∈ p.versions, v.id = row.id ∨ v.versionNumber = row.versionNumber)
          integrityError
        WorkflowService.instantiateWorkflow env actor keys.inst keys.step row.versionNumber seen
          { p with
            request := submitRequest idempotencyKey r p.request
            versions := p.versions ++ [row] }
      entries :=
        [createAuditEntry env.toEnv actor .proposalSubmitted "event_request" r.id
          (some [("status", .name r.status.value), ("version", .number r.currentVersion)])
          (some [("status", .name EventRequestStatus.submitted.value),
            ("version", .number row.versionNumber), ("version_id", .uuid row.id)])] }

/-! ## 3. What a submission writes -/

/-- **The rows after a submission.** -/
structure Submitted (env : ReviewEnv) (actor : User) (changeSummary idempotencyKey : Option Text)
    (keys : SubmissionKeys) (p q : Proposal) : Prop where
  editable : p.request.Editable
  request : q.request =
    { submitRequest idempotencyKey p.request p.request with workflowInstanceId := some keys.inst }
  versions : q.versions =
    p.versions ++ [submittedVersion env.toEnv actor changeSummary keys.version p]
  freshVersion : ∀ v ∈ p.versions, v.id ≠ keys.version
  instances : ∃ t, WorkflowService.superseded p = some t ∧
    t.insert (WorkflowService.newInstance keys.inst (p.request.currentVersion + 1)) =
      some q.instances
  orders : ((WorkflowService.instanceSteps env p.request.clubId actor keys.inst keys.step
    (p.request.currentVersion + 1)).map WorkflowInstanceStep.stepOrder).Nodup
  steps : p.steps.insertAll (WorkflowService.instanceSteps env p.request.clubId actor keys.inst
    keys.step (p.request.currentVersion + 1)) = some q.steps
  venue : q.venueRequest = p.venueRequest
  budget : q.budgetProposal = p.budgetProposal
  booking : q.booking = p.booking

theorem submitProposal_writes {env : ReviewEnv} {actor : User}
    {changeSummary idempotencyKey : Option Text} {keys : SubmissionKeys} {p q : Proposal}
    {f : Flush} (h : submitProposal env actor changeSummary idempotencyKey keys p = .ok f)
    (hw : f.write p = .ok q) :
    f.event = none ∧
      ((AlreadySubmitted idempotencyKey p.request ∧ q = p) ∨
        Submitted env actor changeSummary idempotencyKey keys p q) := by
  simp only [submitProposal, bind_accepts, requireProposal_accepts, exists_unit] at h
  obtain ⟨_, h⟩ := h
  by_cases ha : AlreadySubmitted idempotencyKey p.request
  · rw [if_pos ha, pure_accepts] at h
    rw [← h] at hw ⊢
    exact ⟨rfl, .inl ⟨ha, (Except.ok.inj hw).symm⟩⟩
  · rw [if_neg ha] at h
    simp only [bind_accepts, requireEditable_accepts, refuse_accepts, exists_unit,
      pure_accepts] at h
    obtain ⟨hed, _, _, _, rfl⟩ := h
    simp only [bind_accepts, refuse_accepts, exists_unit] at hw
    obtain ⟨hfresh, hw⟩ := hw
    obtain ⟨t, u, v, ht, hu, hnodup, hv, rfl⟩ :=
      WorkflowService.instantiateWorkflow_writes hw rfl
    refine ⟨rfl, .inr ?_⟩
    exact
      { editable := hed
        request := rfl
        versions := rfl
        freshVersion := fun v hv he => hfresh ⟨v, hv, .inl he⟩
        instances := ⟨t, ht, hu⟩
        orders := hnodup
        steps := hv
        venue := rfl
        budget := rfl
        booking := rfl }

end EventService

end CampusConnect
