/-
  File:      CampusConnect/Services/Execution.lean
  Subject:   The event execution service: starting an event, completing it with a post-event
             report, and the report's revision and certification.

  * `startEvent` .. `requestRevision`: the operations of `event_execution_service.py`;
  * `ExecutionStep`: what an accepted execution operation does to the event's status and its report;
  * `startEvent_step` .. `requestRevision_step`: every accepted call is one of these steps and
    touches nothing but the status, the report and the audit log.
-/
import CampusConnect.Services.Common

namespace CampusConnect

open Guarded Rows

/-- `PostEventReportCreate`. -/
structure PostEventReportCreate where
  actualAttendance : Int
  summary : Text
  objectivesAchieved : Text
  outcomes : Option Text
  challenges : Option Text
  deriving DecidableEq, Repr

/-- `PostEventReportUpdate`: a field not sent is `none`. -/
structure PostEventReportUpdate where
  actualAttendance : Option Int := none
  summary : Option Text := none
  objectivesAchieved : Option Text := none
  outcomes : Option Text := none
  challenges : Option Text := none
  deriving DecidableEq, Repr

namespace EventExecutionService

/-! ## 1. Authority -/

/-- `_verify_secretary_ownership`; SYSTEM_ADMIN needs a membership row like anybody else. -/
def verifySecretaryOwnership (env : Env) (clubId : Uuid) (actor : User)
    (actionDescription : String) : Result Unit :=
  refuse (¬ env.IsSecretary clubId actor.id)
    ⟨.forbidden, "Access denied: You must be an active Club Secretary to %s.",
      [.name actionDescription]⟩

/-- `_verify_advisor_eligibility`. -/
def verifyAdvisorEligibility (env : Env) (clubId : Uuid) (actor : User)
    (actionDescription : String) : Result Unit := do
  refuse (actor.role = .systemAdmin)
    ⟨.forbidden, "Access denied: SYSTEM_ADMIN cannot substitute for Faculty Advisor " ++
      "certification.", []⟩
  let club ← fetch (env.clubs.find? (fun c => c.id = clubId))
    ⟨.notFound, "Club '%s' not found.", [.uuid clubId]⟩
  refuse (club.facultyAdvisorId ≠ some actor.id)
    ⟨.forbidden, "Access denied: Only designated Faculty Advisor can %s.",
      [.name actionDescription]⟩

/-! ## 2. Starting and completing -/

/-- `timedelta(hours=2)`. -/
def startWindow : Int := 2 * 60 * 60

/-- The refusal of a start from any status but SCHEDULED. -/
def requireScheduled (event : Event) : Result Unit :=
  refuse (event.status ≠ .scheduled)
    ⟨.workflowState, "Cannot start event in '%s' status. Only SCHEDULED events can be started.",
      [.name event.status.value]⟩

/-- `start_event`. -/
def startEvent (env : Env) (actor : User) (s : State) : Result State := do
  ensureEventMutable s.event
  verifySecretaryOwnership env s.event.clubId actor "start this event"
  requireScheduled s.event
  refuse (env.now < s.event.startTime - startWindow)
    ⟨.badRequest, "Event cannot start before scheduled window (%s).", [.time s.event.startTime]⟩
  return { s with event := { s.event with status := .inProgress } }.log
    [createAuditEntry env actor .eventStarted "event" s.event.id
      (some [("status", .name EventStatus.scheduled.value)])
      (some [("status", .name EventStatus.inProgress.value)])]

/-- `admin_start_event`; it does not look at the clock. -/
def adminStartEvent (env : Env) (actor : User) (reason : Text) (s : State) : Result State := do
  refuse (actor.role ≠ .systemAdmin)
    ⟨.forbidden, "Access denied: Administrative override requires SYSTEM_ADMIN role.", []⟩
  ensureEventMutable s.event
  requireScheduled s.event
  return { s with event := { s.event with status := .inProgress } }.log
    [createAuditEntry env actor .adminEventStarted "event" s.event.id
      (some [("status", .name EventStatus.scheduled.value)])
      (some [("status", .name EventStatus.inProgress.value), ("admin_reason", .text reason)])]

/-- What stands in the way of a new report: another one, and in which status. -/
def verifyNoReport (report : Option (Stored PostEventReport)) : Result Unit := do
  refuse (∃ r ∈ report, r.1.status = .submitted ∨ r.1.status = .certified)
    ⟨.conflict, "A post-event report has already been submitted for this event.", []⟩
  refuse (∃ r ∈ report, r.1.status = .revisionRequired)
    ⟨.workflowState, "A report already exists and requires revision. Use the resubmit endpoint.",
      []⟩
  -- a report still in DRAFT passes both tests and meets the unique event key at the flush
  refuse (report ≠ none) integrityError

/-- `complete_and_submit_report`. The entry's previous status is read after the assignment. -/
def completeAndSubmitReport (env : Env) (actor : User) (newId : Uuid)
    (reportIn : PostEventReportCreate) (s : State) : Result State := do
  ensureEventMutable s.event
  verifySecretaryOwnership env s.event.clubId actor "complete event and submit report"
  refuse (s.event.status = .completed)
    ⟨.conflict, "Event is already marked COMPLETED.", []⟩
  refuse (¬ (s.event.status = .inProgress ∨ s.event.status = .scheduled))
    ⟨.workflowState, "Cannot complete event in '%s' status.", [.name s.event.status.value]⟩
  verifyNoReport s.report
  let report ← fetch (store (α := PostEventReport)
    { id := newId
      revisionNumber := 1
      actualAttendance := reportIn.actualAttendance
      summary := reportIn.summary
      objectivesAchieved := reportIn.objectivesAchieved
      outcomes := reportIn.outcomes
      challenges := reportIn.challenges
      status := .submitted
      submittedBy := actor.id
      submittedAt := env.now }) integrityError
  return { s with
    event := { s.event with status := .completed }
    report := some report }.log
    [createAuditEntry env actor .eventCompleted "event" s.event.id
      (some [("status", .name EventStatus.completed.value)])
      (some [("status", .name EventStatus.completed.value)]),
    createAuditEntry env actor .postEventReportSubmitted "post_event_report" newId none
      (some [("event_id", .uuid s.event.id), ("revision_number", .number 1),
        ("actual_attendance", .number report.1.actualAttendance.toNat),
        ("status", .name PostEventReportStatus.submitted.value)])]

/-! ## 3. Revision and certification -/

/-- `SELECT … FROM post_event_reports WHERE event_id = … FOR UPDATE`. -/
def loadReport (s : State) : Result (Stored PostEventReport) :=
  fetch s.report ⟨.notFound, "Post-event report not found.", []⟩

/-- The refusal of an edit of a report that was not returned. -/
def requireReturned (verb : String) (report : PostEventReport) : Result Unit :=
  refuse (report.status ≠ .revisionRequired)
    ⟨.workflowState, "Cannot %s report in '%s' status. Must be in REVISION_REQUIRED status.",
      [.name verb, .name report.status.value]⟩

/-- `update_report`; it writes no audit entry. -/
def updateReport (env : Env) (actor : User) (updateIn : PostEventReportUpdate) (s : State) :
    Result State := do
  ensureEventMutable s.event
  verifySecretaryOwnership env s.event.clubId actor "edit this report"
  let report ← loadReport s
  requireReturned "edit" report.1
  let row ← fetch (store
    { report.1 with
      actualAttendance := updateIn.actualAttendance.getD report.1.actualAttendance
      summary := updateIn.summary.getD report.1.summary
      objectivesAchieved := updateIn.objectivesAchieved.getD report.1.objectivesAchieved
      outcomes := updateIn.outcomes.or report.1.outcomes
      challenges := updateIn.challenges.or report.1.challenges }) integrityError
  return { s with report := some row }.log []

/-- `resubmit_report`; the submitter recorded on the report stays. -/
def resubmitReport (env : Env) (actor : User) (s : State) : Result State := do
  ensureEventMutable s.event
  verifySecretaryOwnership env s.event.clubId actor "resubmit report"
  let report ← loadReport s
  requireReturned "resubmit" report.1
  let row ← fetch (store
    { report.1 with
      revisionNumber := report.1.revisionNumber + 1
      status := .submitted
      submittedAt := env.now }) integrityError
  return { s with report := some row }.log
    [createAuditEntry env actor .postEventReportSubmitted "post_event_report" report.1.id
      (some [("revision_number", .number report.1.revisionNumber),
        ("status", .name PostEventReportStatus.revisionRequired.value)])
      (some [("revision_number", .number (report.1.revisionNumber + 1)),
        ("status", .name PostEventReportStatus.submitted.value)])]

/-- `certify_report`. -/
def certifyReport (env : Env) (actor : User) (remarks : Option Text) (s : State) :
    Result State := do
  ensureEventMutable s.event
  let report ← loadReport s
  refuse (report.1.submittedBy = actor.id)
    ⟨.forbidden, "Access denied: Submitter cannot certify own report (Conflict of Interest).", []⟩
  verifyAdvisorEligibility env s.event.clubId actor "certify event delivery"
  refuse (report.1.status = .certified)
    ⟨.conflict, "Report has already been certified.", []⟩
  refuse (report.1.status ≠ .submitted)
    ⟨.workflowState, "Cannot certify report in '%s' status. Must be SUBMITTED.",
      [.name report.1.status.value]⟩
  let row ← fetch (store
    { report.1 with
      status := .certified
      certifiedBy := some actor.id
      certifiedAt := some env.now
      certificationRemarks := remarks }) integrityError
  return { s with report := some row }.log
    [createAuditEntry env actor .postEventReportCertified "post_event_report" report.1.id
      (some [("status", .name PostEventReportStatus.submitted.value)])
      (some [("status", .name PostEventReportStatus.certified.value),
        ("certified_by", .uuid actor.id)])]

/-- `request_revision`. -/
def requestRevision (env : Env) (actor : User) (remarks : Text) (s : State) : Result State := do
  ensureEventMutable s.event
  let report ← loadReport s
  refuse (report.1.submittedBy = actor.id)
    ⟨.forbidden, "Access denied: Submitter cannot act on their own report.", []⟩
  verifyAdvisorEligibility env s.event.clubId actor "request report revision"
  refuse (report.1.status ≠ .submitted)
    ⟨.workflowState, "Cannot request revision on report in '%s' status. Must be SUBMITTED.",
      [.name report.1.status.value]⟩
  let row ← fetch (store
    { report.1 with
      status := .revisionRequired
      certificationRemarks := some remarks }) integrityError
  return { s with report := some row }.log
    [createAuditEntry env actor .postEventReportRevisionRequested "post_event_report" report.1.id
      (some [("status", .name PostEventReportStatus.submitted.value)])
      (some [("status", .name PostEventReportStatus.revisionRequired.value),
        ("remarks", .text remarks)])]

end EventExecutionService

/-! ## 4. What an execution operation does -/

/-- **One step of the event's execution**: the status and the report it leaves. -/
inductive ExecutionStep (s : State) : EventStatus → Option (Stored PostEventReport) → Prop where
  | started (hfrom : s.event.status = .scheduled) : ExecutionStep s .inProgress s.report
  | completed (row : Stored PostEventReport)
      (hfrom : s.event.status = .inProgress ∨ s.event.status = .scheduled)
      (hnone : s.report = none) (hst : row.1.status = .submitted) :
      ExecutionStep s .completed (some row)
  | revised (report row : Stored PostEventReport) (hmut : ¬ s.event.Sealed)
      (hrep : s.report = some report) (hfrom : report.1.status ≠ .certified)
      (hid : row.1.id = report.1.id) : ExecutionStep s s.event.status (some row)

namespace EventExecutionService

variable {env : Env} {actor : User} {s s' : State}

/-- The state an execution step leaves. -/
abbrev Executed (s s' : State) : Prop :=
  ∃ status report entries, ExecutionStep s status report ∧
    s' = { s with event := { s.event with status := status }, report := report }.log entries

theorem requireScheduled_accepts {event : Event} {u : Unit} :
    requireScheduled event = .ok u ↔ event.status = .scheduled := by
  unfold requireScheduled
  rw [refuse_accepts, not_not]

theorem verifyNoReport_accepts {report : Option (Stored PostEventReport)} {u : Unit} :
    verifyNoReport report = .ok u ↔ report = none := by
  simp only [verifyNoReport, bind_accepts, refuse_accepts, exists_unit, not_not, ne_eq]
  constructor
  · exact fun h => h.2.2
  · rintro rfl
    refine ⟨?_, ?_, rfl⟩
    · intro hex
      obtain ⟨_, hr, _⟩ := hex
      cases hr
    · intro hex
      obtain ⟨_, hr, _⟩ := hex
      cases hr

theorem startEvent_step (h : startEvent env actor s = .ok s') : Executed s s' := by
  simp only [startEvent, bind_accepts, exists_unit, pure_accepts, refuse_accepts,
    requireScheduled_accepts] at h
  obtain ⟨_, _, hst, _, rfl⟩ := h
  exact ⟨.inProgress, s.report, _, .started hst, rfl⟩

theorem adminStartEvent_step {reason : Text} (h : adminStartEvent env actor reason s = .ok s') :
    Executed s s' := by
  simp only [adminStartEvent, bind_accepts, exists_unit, pure_accepts, refuse_accepts,
    requireScheduled_accepts] at h
  obtain ⟨_, _, hst, rfl⟩ := h
  exact ⟨.inProgress, s.report, _, .started hst, rfl⟩

theorem completeAndSubmitReport_step {newId : Uuid} {reportIn : PostEventReportCreate}
    (h : completeAndSubmitReport env actor newId reportIn s = .ok s') : Executed s s' := by
  simp only [completeAndSubmitReport, bind_accepts, fetch_accepts, exists_unit, pure_accepts,
    refuse_accepts, verifyNoReport_accepts, store_eq_some, not_not] at h
  obtain ⟨_, _, _, hfrom, hnone, row, hrow, rfl⟩ := h
  refine ⟨.completed, some row, _, .completed row hfrom hnone ?_, rfl⟩
  rw [← hrow]

theorem updateReport_step {updateIn : PostEventReportUpdate}
    (h : updateReport env actor updateIn s = .ok s') : Executed s s' := by
  simp only [updateReport, loadReport, requireReturned, bind_accepts, fetch_accepts, exists_unit,
    pure_accepts, refuse_accepts, ensureEventMutable_accepts, store_eq_some, not_not, ne_eq] at h
  obtain ⟨hmut, _, report, hrep, hst, row, hrow, rfl⟩ := h
  refine ⟨s.event.status, some row, _, .revised report row hmut hrep ?_ ?_, rfl⟩
  · rw [hst]
    decide
  · rw [← hrow]

theorem resubmitReport_step (h : resubmitReport env actor s = .ok s') : Executed s s' := by
  simp only [resubmitReport, loadReport, requireReturned, bind_accepts, fetch_accepts, exists_unit,
    pure_accepts, refuse_accepts, ensureEventMutable_accepts, store_eq_some, not_not, ne_eq] at h
  obtain ⟨hmut, _, report, hrep, hst, row, hrow, rfl⟩ := h
  refine ⟨s.event.status, some row, _, .revised report row hmut hrep ?_ ?_, rfl⟩
  · rw [hst]
    decide
  · rw [← hrow]

theorem certifyReport_step {remarks : Option Text}
    (h : certifyReport env actor remarks s = .ok s') : Executed s s' := by
  simp only [certifyReport, loadReport, bind_accepts, fetch_accepts, exists_unit, pure_accepts,
    refuse_accepts, ensureEventMutable_accepts, store_eq_some, not_not, ne_eq] at h
  obtain ⟨hmut, report, hrep, _, _, hcert, _, row, hrow, rfl⟩ := h
  refine ⟨s.event.status, some row, _, .revised report row hmut hrep hcert ?_, rfl⟩
  rw [← hrow]

theorem requestRevision_step {remarks : Text}
    (h : requestRevision env actor remarks s = .ok s') : Executed s s' := by
  simp only [requestRevision, loadReport, bind_accepts, fetch_accepts, exists_unit, pure_accepts,
    refuse_accepts, ensureEventMutable_accepts, store_eq_some, not_not, ne_eq] at h
  obtain ⟨hmut, report, hrep, _, _, hst, row, hrow, rfl⟩ := h
  refine ⟨s.event.status, some row, _, .revised report row hmut hrep ?_ ?_, rfl⟩
  · rw [hst]
    decide
  · rw [← hrow]

end EventExecutionService

end CampusConnect
