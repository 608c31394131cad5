/-
  File:      CampusConnect/Services/Closeout.lean
  Subject:   The closeout service: request, certification, rejection, reopening and archival.

  * `closeoutBlockers`, `getClosureEligibility`: what stands between an event and its closure;
  * `requestCloseout` .. `archiveEvent`: the operations of `closeout_service.py`;
  * `ClosureReady`: what an empty list of blockers says about the books;
  * `CloseoutStep`, `requestCloseout_step`, ..: what an accepted closeout operation does;
  * `approveReopen_of`: the reopening that IS accepted.
-/
import CampusConnect.Services.SettlementSteps

namespace CampusConnect

open Guarded Rows

namespace CloseoutService

/-! ## 1. Authority -/

/-- `_verify_secretary_ownership`. -/
def verifySecretaryOwnership (env : Env) (event : Event) (actor : User) : Result Unit := do
  refuse (actor.role = .systemAdmin)
    ⟨.forbidden, "System administrators are strictly barred from acting as club secretaries.", []⟩
  refuse (¬ env.IsSecretary event.clubId actor.id)
    ⟨.resourceOwnership, "Only the active Club Secretary of the owning club can perform this " ++
      "action for this event.", []⟩

/-- `_verify_certifier_authority`. -/
def verifyCertifierAuthority (cfg : Config) (env : Env) (event : Event) (actor : User) :
    Result Unit := do
  refuse (actor.role = .systemAdmin)
    ⟨.forbidden, "System administrators are strictly barred from certifying event closeout.", []⟩
  if actor.role = .facultyAdvisor then do
    refuse (cfg.allowAdvisorEventCloseout = false)
      ⟨.forbidden, "Faculty Advisors are not permitted to certify event closure under current " ++
        "institutional policy.", []⟩
    refuse (¬ env.IsAdvisor event.clubId actor.id)
      ⟨.forbidden, "Only the designated Faculty Advisor for the owning club can certify " ++
        "closeout.", []⟩
  else
    refuse (¬ (actor.role = .deanStudentAffairs ∨ actor.role = .principal))
      ⟨.forbidden, "User role '%s' is not authorized to certify event closeout.",
        [.name actor.role.value]⟩

/-- `_verify_reopen_petition_authority`. -/
def verifyReopenPetitionAuthority (env : Env) (event : Event) (actor : User) : Result Unit := do
  refuse (actor.role = .systemAdmin)
    ⟨.forbidden, "System administrators cannot petition for event reopening.", []⟩
  if actor.role = .financeOfficer then return ()
  else if actor.role = .facultyAdvisor then
    refuse (¬ env.IsAdvisor event.clubId actor.id)
      ⟨.forbidden, "Only the designated Faculty Advisor for this club can petition for " ++
        "reopening.", []⟩
  else
    refuse (¬ env.IsSecretary event.clubId actor.id)
      ⟨.forbidden, "Only the active Club Secretary, Faculty Advisor of the owning club, or a " ++
        "Finance Officer may petition to reopen a closed event.", []⟩

/-! ## 2. Eligibility -/

/-- The statuses in which an event has passed its completion. -/
def PastCompletion (event : Event) : Prop :=
  event.status = .closureRequested ∨ event.status = .closed ∨ event.status = .archived

instance (event : Event) : Decidable (PastCompletion event) :=
  inferInstanceAs (Decidable (_ ∨ _ ∨ _))

/-- The blockers `get_closure_eligibility` of the closeout service collects: its own, and the
    settlement service's, of which it waives the completion past COMPLETED. -/
def closeoutBlockers (now : Instant) (s : State) : List SettlementService.Blocker :=
  (if s.event.deletedAt ≠ none then [.eventDeleted] else []) ++
  (if s.event.cancelledAt ≠ none ∨ s.event.status = .cancelled then [.eventCancelled] else []) ++
  (SettlementService.closureBlockers s).filter (fun b =>
    ¬ (b = .eventNotCompleted ∧ PastCompletion s.event)) ++
  (if ∃ b ∈ s.proposal.booking, b.isActive = true ∧ ¬ b.endTime ≤ now then
    [.venueBookingNotEnded] else [])

/-- `CloseoutService.get_closure_eligibility`. -/
def getClosureEligibility (env : Env) (actor : User) (s : State) :
    Result (List SettlementService.Blocker) := do
  SettlementService.verifyEventViewer env s.event actor
  return closeoutBlockers env.now s

/-- The names of the blockers. -/
def blockerNames (blockers : List SettlementService.Blocker) : List Value :=
  [.names (blockers.map SettlementService.Blocker.value)]

/-! ## 3. Request, certification, rejection -/

/-- `request_closeout`; a second request changes nothing. -/
def requestCloseout (env : Env) (actor : User) (remarks : Option Text) (s : State) :
    Result State := do
  verifySecretaryOwnership env s.event actor
  if s.event.status = .closureRequested then return s
  else do
    refuse (s.event.status ≠ .completed)
      ⟨.invalidWorkflowTransition, "Cannot request closeout for event in '%s' status. Event " ++
        "must be in 'COMPLETED' status.", [.name s.event.status.value]⟩
    let blockers ← getClosureEligibility env actor s
    refuse (blockers ≠ [])
      ⟨.businessRule, "Event is not eligible for closeout: %s", blockerNames blockers⟩
    return { s with event := { s.event with status := .closureRequested } }.log
      [createAuditEntry env actor .closureRequested "event" s.event.id
        (some [("status", .name s.event.status.value)])
        (some [("status", .name EventStatus.closureRequested.value),
          ("remarks", Value.ofText (stripped remarks))])]

/-- The JSON object whose digest certifies a closure. -/
def manifestPayload (event : Event) (actor : User) (r : FinancialSettlement) (reportId : Uuid) :
    CanonicalJson.Json :=
  SettlementService.jsonObject
    [("certified_by", .str actor.id.str), ("club_id", .str event.clubId.str),
      ("event_id", .str event.id.str), ("event_request_id", .str event.eventRequestId.str),
      ("institutional_payout", .str (SettlementService.fixed2 r.institutionalPayout)),
      ("post_event_report_id", .str reportId.str),
      ("sanctioned_grant", .str (SettlementService.fixed2 r.sanctionedGrant)),
      ("settlement_balance", .str (SettlementService.fixed2 r.settlementBalance)),
      ("settlement_id", .str r.id.str),
      ("total_verified_expenditure",
        .str (SettlementService.fixed2 r.totalVerifiedExpenditure)),
      ("total_verified_income", .str (SettlementService.fixed2 r.totalVerifiedIncome)),
      ("venue_cleared", .bool true)]

/-- The latest entry of a closure request. -/
def latestRequest (s : State) : Option AuditLog :=
  SettlementService.latestEntry (s.auditLogs.filter fun l =>
    l.entityId = s.event.id.str ∧ l.action = .closureRequested)

/-- The closure row a certification leaves: the key of one already there stays. -/
def closureRow (cfg : Config) (env : Env) (actor : User) (newId : Uuid)
    (closureNotes : Option Text) (s : State) (r : FinancialSettlement) (reportId : Uuid) :
    EventClosure where
  id := (s.closure.map EventClosure.id).getD newId
  settlementId := r.id
  postEventReportId := reportId
  requestedBy := (latestRequest s).map AuditLog.actorId
  requestedAt := (latestRequest s).map AuditLog.createdAt
  certifiedBy := actor.id
  certifiedAt := env.now
  closureNotes := stripped closureNotes
  venueCleared := true
  certificateManifestHash := cfg.sha256 (manifestPayload s.event actor r reportId).render

/-- `certify_closeout`. -/
def certifyCloseout (cfg : Config) (env : Env) (actor : User) (newId : Uuid)
    (closureNotes : Option Text) (venueCleared : Bool) (s : State) : Result State := do
  verifyCertifierAuthority cfg env s.event actor
  refuse (venueCleared = false)
    ⟨.businessRule, "Explicit venue clearance attestation (venue_cleared=True) is mandatory to " ++
      "certify event closeout.", []⟩
  refuse (s.event.status ≠ .closureRequested)
    ⟨.invalidWorkflowTransition, "Cannot certify event in '%s' status. Event must be in " ++
      "'CLOSURE_REQUESTED' status.", [.name s.event.status.value]⟩
  let blockers ← getClosureEligibility env actor s
  refuse (blockers ≠ [])
    ⟨.businessRule, "Event closeout eligibility check failed: %s", blockerNames blockers⟩
  let settlement ← fetch (s.settlement.filter (fun r => r.1.status = .settled))
    ⟨.businessRule, "Financial settlement is not in SETTLED status.", []⟩
  let report ← fetch (s.report.filter (fun r => r.1.status = .certified))
    ⟨.businessRule, "Post-event report is not in CERTIFIED status.", []⟩
  let closure := closureRow cfg env actor newId closureNotes s settlement.1 report.1.id
  return { s with
    event := { s.event with status := .closed }
    closure := some closure }.log
    [createAuditEntry env actor .eventClosed "event" s.event.id
      (some [("status", .name s.event.status.value)])
      (some [("status", .name EventStatus.closed.value), ("closure_id", .uuid closure.id),
        ("certificate_manifest_hash", .text closure.certificateManifestHash),
        ("venue_cleared", .flag true)])]

/-- `reject_closeout`. -/
def rejectCloseout (cfg : Config) (env : Env) (actor : User) (reason : Text) (s : State) :
    Result State := do
  refuse (isBlank reason) ⟨.badRequest, "Rejection reason is mandatory.", []⟩
  verifyCertifierAuthority cfg env s.event actor
  refuse (s.event.status ≠ .closureRequested)
    ⟨.invalidWorkflowTransition, "Cannot reject closeout for event in '%s' status. Event must " ++
      "be in 'CLOSURE_REQUESTED' status.", [.name s.event.status.value]⟩
  return { s with event := { s.event with status := .completed } }.log
    [createAuditEntry env actor .closureRejected "event" s.event.id
      (some [("status", .name s.event.status.value)])
      (some [("status", .name EventStatus.completed.value),
        ("rejection_reason", .text (strip reason))])]

/-! ## 4. Reopening and archival -/

/-- `request_reopen`: a petition; the event stays CLOSED. -/
def requestReopen (env : Env) (actor : User) (reason : Text) (s : State) : Result State := do
  refuse (isBlank reason) ⟨.badRequest, "Reopening petition reason is mandatory.", []⟩
  verifyReopenPetitionAuthority env s.event actor
  refuse (s.event.status ≠ .closed)
    ⟨.invalidWorkflowTransition, "Cannot petition to reopen event in '%s' status. Only 'CLOSED' " ++
      "events can be petitioned for reopening.", [.name s.event.status.value]⟩
  return s.log
    [createAuditEntry env actor .eventReopenRequested "event" s.event.id
      (some [("status", .name EventStatus.closed.value)])
      (some [("status", .name EventStatus.closed.value),
        ("petition_reason", .text (strip reason))])]

/-- The closure revision a reopening adds, numbered by the count of those there. -/
def closureRevision (env : Env) (actor : User) (newId : Uuid) (reason : Text) (s : State)
    (closure : EventClosure) (r : FinancialSettlement) : EventClosureRevision where
  id := newId
  closureId := closure.id
  revisionNumber := s.closureRevisions.length + 1
  reopenedBy := actor.id
  reopenedAt := env.now
  reopeningReason := strip reason
  snapshotData :=
    { closure := closure
      settlementStatus := r.status
      sanctionedGrant := r.sanctionedGrant
      totalVerifiedExpenditure := r.totalVerifiedExpenditure
      totalVerifiedIncome := r.totalVerifiedIncome
      institutionalPayout := r.institutionalPayout
      settlementBalance := r.settlementBalance
      reopenedBy := actor.id
      reopenedAt := env.now
      reopeningReason := strip reason }
  createdAt := env.now

/-- The state `approve_reopen` hands to `reopen_settlement`: the event is COMPLETED again in the
    session before the settlement is looked at. -/
def unsealed (s : State) (revision : EventClosureRevision) : State :=
  { s with
    event := { s.event with status := .completed }
    closureRevisions := s.closureRevisions ++ [revision] }

/-- `approve_reopen`. -/
def approveReopen (env : Env) (actor : User) (newId settlementRevisionId : Uuid) (reason : Text)
    (s : State) : Result State := do
  refuse (isBlank reason) ⟨.badRequest, "Reopen approval reason is mandatory.", []⟩
  refuse (actor.role = .systemAdmin)
    ⟨.forbidden, "System administrators are strictly barred from approving event reopening.", []⟩
  refuse (¬ (actor.role = .deanStudentAffairs ∨ actor.role = .principal))
    ⟨.forbidden, "Only the Dean of Student Affairs or the Principal can approve event " ++
      "reopening.", []⟩
  refuse (s.event.status ≠ .closed)
    ⟨.invalidWorkflowTransition, "Cannot approve reopen for event in '%s' status. Event must be " ++
      "in 'CLOSED' status.", [.name s.event.status.value]⟩
  let closure ← fetch s.closure
    ⟨.businessRule, "Cannot reopen event: institutional closeout record missing.", []⟩
  let settlement ← fetch (SettlementService.settlementById s closure.settlementId)
    ⟨.businessRule, "Cannot reopen event: financial settlement record missing.", []⟩
  let revision := closureRevision env actor newId reason s closure settlement.1
  refuse (∃ v ∈ s.closureRevisions, v.revisionNumber = revision.revisionNumber) integrityError
  let reopened ← SettlementService.reopenSettlement env actor settlement.1.id settlementRevisionId
    (strip reason) (unsealed s revision)
  return reopened.log
    [createAuditEntry env actor .eventReopened "event" s.event.id
      (some [("status", .name s.event.status.value)])
      (some [("status", .name EventStatus.completed.value),
        ("revision_number", .number revision.revisionNumber), ("reopened_by", .uuid actor.id),
        ("reopening_reason", .text (strip reason))])]

/-- `archive_event`; an event already ARCHIVED stays as it is. -/
def archiveEvent (env : Env) (actor : User) (s : State) : Result State := do
  refuse (actor.role ≠ .systemAdmin)
    ⟨.forbidden, "Only System Administrators are authorized to archive closed events.", []⟩
  if s.event.status = .archived then return s
  else do
    refuse (s.event.status ≠ .closed)
      ⟨.invalidWorkflowTransition, "Cannot archive event in '%s' status. Only 'CLOSED' events " ++
        "can be archived.", [.name s.event.status.value]⟩
    refuse (s.closure = none)
      ⟨.businessRule, "Cannot archive event: institutional closeout record missing.", []⟩
    return { s with event := { s.event with status := .archived } }.log
      [createAuditEntry env actor .eventArchived "event" s.event.id
        (some [("status", .name s.event.status.value)])
        (some [("status", .name EventStatus.archived.value)])]

end CloseoutService

/-! ## 5. What eligibility says -/

/-- **The books are ready to be closed.** -/
structure ClosureReady (s : State) : Prop where
  certified : SettlementService.ReportCertified s
  resolved : SettlementService.LedgerResolved s
  settled : ∃ r, s.settlement = some r ∧ r.1.status = .settled ∧
    netCash s.payments r.1 = r.1.institutionalPayout

namespace CloseoutService

open SettlementService (Blocker closureBlockers settlementBlockers LedgerResolved ReportCertified)

/-- A conditional blocker is absent when its condition fails. -/
theorem unblocked {c : Prop} [Decidable c] {b : Blocker} :
    (if c then [b] else []) = [] ↔ ¬ c := by
  by_cases h : c
  · simp [h]
  · simp [h]

theorem settled_of_unblocked {s : State} (h : settlementBlockers s = []) :
    ∃ r, s.settlement = some r ∧ r.1.status = .settled ∧
      netCash s.payments r.1 = r.1.institutionalPayout := by
  unfold settlementBlockers at h
  cases hr : s.settlement with
  | none =>
      rw [hr] at h
      cases h
  | some r =>
      rw [hr] at h
      simp only at h
      by_cases hst : r.1.status = .settled
      · rw [if_neg (not_not.mpr hst), unblocked, not_not] at h
        exact ⟨r, rfl, hst, h⟩
      · rw [if_pos hst] at h
        cases h

/-- The waived blocker is not one of those that follow it. -/
theorem ready_of_unblocked {now : Instant} {s : State} (h : closeoutBlockers now s = []) :
    ClosureReady s := by
  simp only [closeoutBlockers, List.append_eq_nil_iff, List.filter_eq_nil_iff,
    decide_eq_true_iff, not_not] at h
  obtain ⟨⟨_, hall⟩, _⟩ := h
  have absent : ∀ b : Blocker, b ≠ .eventNotCompleted → b ∉ closureBlockers s := by
    intro b hb hmem
    exact hb (hall b hmem).1
  have hcert : ReportCertified s := by
    by_contra hn
    exact absent .postEventReportNotCertified (by decide) (by simp [closureBlockers, hn])
  have hexp : ∀ e ∈ s.expenses, ¬ e.Unresolved := by
    intro e he hu
    exact absent .unresolvedExpenses (by decide) (by
      have : ∃ e ∈ s.expenses.rows, e.Unresolved := ⟨e, he, hu⟩
      simp [closureBlockers, this])
  have hinc : ∀ i ∈ s.incomes, i.status ≠ .recorded := by
    intro i hi hr
    exact absent .unverifiedIncome (by decide) (by
      have : ∃ i ∈ s.incomes.rows, i.status = .recorded := ⟨i, hi, hr⟩
      simp [closureBlockers, this])
  have hadv : ∀ a ∈ s.advance, ¬ a.1.Pending := by
    intro a ha hp
    exact absent .advanceUnresolved (by decide) (by
      have : ∃ a ∈ s.advance, a.1.Pending := ⟨a, ha, hp⟩
      simp only [closureBlockers, if_pos this]
      simp)
  refine ⟨hcert, ⟨hexp, hinc, hadv⟩, settled_of_unblocked ?_⟩
  rw [List.eq_nil_iff_forall_not_mem]
  intro b hb
  refine absent b ?_ (by simp [closureBlockers, hb])
  rintro rfl
  unfold settlementBlockers at hb
  cases hr : s.settlement with
  | none => simp [hr] at hb
  | some r =>
      rw [hr] at hb
      simp only at hb
      split at hb
      · simp at hb
      · split at hb <;> simp at hb

end CloseoutService

/-! ## 6. What a closeout operation does -/

/-- What an operation does to the closeout. -/
inductive CloseoutMove where
  | requested
  | certified
  | rejected
  | petitioned
  | reopened
  | archived
  deriving DecidableEq, Repr

/-- **One step of the closeout.** -/
inductive CloseoutStep (s : State) : CloseoutMove → State → Prop where
  | requestedAgain (hfrom : s.event.status = .closureRequested) : CloseoutStep s .requested s
  | archivedAgain (hfrom : s.event.status = .archived) : CloseoutStep s .archived s
  | requested (entries : List AuditEntry) (hfrom : s.event.status = .completed)
      (hready : ClosureReady s) :
      CloseoutStep s .requested ({ s with event := { s.event with status := .closureRequested } }.log entries)
  | certified (r : Stored FinancialSettlement) (report : Stored PostEventReport)
      (closure : EventClosure) (entries : List AuditEntry)
      (hfrom : s.event.status = .closureRequested) (hready : ClosureReady s)
      (hr : s.settlement = some r) (hrep : s.report = some report)
      (hset : closure.settlementId = r.1.id) (hrid : closure.postEventReportId = report.1.id) :
      CloseoutStep s .certified
        ({ s with
          event := { s.event with status := .closed }
          closure := some closure }.log entries)
  | rejected (entries : List AuditEntry) (hfrom : s.event.status = .closureRequested) :
      CloseoutStep s .rejected ({ s with event := { s.event with status := .completed } }.log entries)
  | petitioned (entries : List AuditEntry) (hfrom : s.event.status = .closed) :
      CloseoutStep s .petitioned (s.log entries)
  | reopened (r row : Stored FinancialSettlement) (revision : EventClosureRevision)
      (newId : Uuid) (reason : Text) (actor : User) (entries : List AuditEntry)
      (hfrom : s.event.status = .closed)
      (hnum : revision.revisionNumber = s.closureRevisions.length + 1)
      (hr : s.settlement = some r) (hset : r.1.status = .settled)
      (hfig : row.1.SameFigures r.1) (hst : row.1.status = .reopened) :
      CloseoutStep s .reopened
        ({ CloseoutService.unsealed s revision with
          settlement := some row
          settlementRevisions := s.settlementRevisions ++
            [SettlementService.settlementRevision (CloseoutService.unsealed s revision) newId r.1
              reason actor] }.log entries)
  | archived (entries : List AuditEntry) (hfrom : s.event.status = .closed) :
      CloseoutStep s .archived ({ s with event := { s.event with status := .archived } }.log entries)

namespace CloseoutService

variable {cfg : Config} {env : Env} {actor : User} {s s' : State}

/-- Two batches of entries are one. -/
theorem log_log (s : State) (a b : List AuditEntry) : (s.log a).log b = s.log (a ++ b) := by
  unfold State.log
  simp only [List.map_append, List.append_assoc]

theorem requestCloseout_step {remarks : Option Text}
    (h : requestCloseout env actor remarks s = .ok s') : CloseoutStep s .requested s' := by
  simp only [requestCloseout, bind_accepts, exists_unit] at h
  obtain ⟨_, h⟩ := h
  by_cases hst : s.event.status = .closureRequested
  · rw [if_pos hst, pure_accepts] at h
    rw [← h]
    exact .requestedAgain hst
  · rw [if_neg hst] at h
    simp only [bind_accepts, exists_unit, refuse_accepts, getClosureEligibility, pure_accepts,
      not_not, ne_eq] at h
    obtain ⟨hcomp, _, ⟨_, rfl⟩, hel, rfl⟩ := h
    exact .requested _ hcomp (ready_of_unblocked hel)

theorem certifyCloseout_step {newId : Uuid} {notes : Option Text} {cleared : Bool}
    (h : certifyCloseout cfg env actor newId notes cleared s = .ok s') :
    CloseoutStep s .certified s' := by
  simp only [certifyCloseout, bind_accepts, exists_unit, refuse_accepts, fetch_accepts,
    getClosureEligibility, pure_accepts, not_not, ne_eq, Option.filter_eq_some_iff] at h
  obtain ⟨_, _, hfrom, _, ⟨_, rfl⟩, hel, r, ⟨hr, _⟩, report, ⟨hrep, _⟩, rfl⟩ := h
  exact .certified r report _ _ hfrom (ready_of_unblocked hel) hr hrep rfl rfl

theorem rejectCloseout_step {reason : Text}
    (h : rejectCloseout cfg env actor reason s = .ok s') : CloseoutStep s .rejected s' := by
  simp only [rejectCloseout, bind_accepts, exists_unit, refuse_accepts, pure_accepts, not_not,
    ne_eq] at h
  obtain ⟨_, _, hfrom, rfl⟩ := h
  exact .rejected _ hfrom

theorem requestReopen_step {reason : Text}
    (h : requestReopen env actor reason s = .ok s') : CloseoutStep s .petitioned s' := by
  simp only [requestReopen, bind_accepts, exists_unit, refuse_accepts, pure_accepts, not_not,
    ne_eq] at h
  obtain ⟨_, _, hfrom, rfl⟩ := h
  exact .petitioned _ hfrom

theorem approveReopen_step {newId revId : Uuid} {reason : Text}
    (h : approveReopen env actor newId revId reason s = .ok s') : CloseoutStep s .reopened s' := by
  simp only [approveReopen, bind_accepts, exists_unit, refuse_accepts, fetch_accepts,
    pure_accepts, not_not, ne_eq] at h
  obtain ⟨_, _, _, hfrom, closure, _, r0, _, _, t, hre, rfl⟩ := h
  obtain ⟨_, _, r, ⟨hr, _⟩, hset, _, _, row, hrow, rfl⟩ :=
    SettlementService.reopenSettlement_accepts.mp hre
  rw [log_log]
  refine .reopened r row _ revId (strip reason) actor _ hfrom rfl hr hset ?_ ?_
  · rw [← hrow]
    constructor <;> rfl
  · rw [← hrow]

theorem archiveEvent_step (h : archiveEvent env actor s = .ok s') : CloseoutStep s .archived s' := by
  simp only [archiveEvent, bind_accepts, exists_unit, refuse_accepts] at h
  obtain ⟨_, h⟩ := h
  by_cases hst : s.event.status = .archived
  · rw [if_pos hst, pure_accepts] at h
    rw [← h]
    exact .archivedAgain hst
  · rw [if_neg hst] at h
    simp only [bind_accepts, exists_unit, refuse_accepts, pure_accepts, not_not, ne_eq] at h
    obtain ⟨hfrom, _, rfl⟩ := h
    exact .archived _ hfrom

/-! ## 7. The reopening that is accepted -/

/-- **A Dean or Principal reopens a closed event** whose settlement is SETTLED and whose revision
    numbers are free; event and settlement move together. -/
theorem approveReopen_of {newId revId : Uuid} {reason : Text} {closure : EventClosure}
    {r : Stored FinancialSettlement} (hreason : ¬ isBlank reason)
    (hrole : actor.role = .deanStudentAffairs ∨ actor.role = .principal)
    (hclosed : s.event.status = .closed) (hclosure : s.closure = some closure)
    (hr : s.settlement = some r) (hid : closure.settlementId = r.1.id)
    (hset : r.1.status = .settled)
    (hfree : ∀ v ∈ s.closureRevisions, v.revisionNumber ≠ s.closureRevisions.length + 1)
    (hfreeS : ¬ SettlementService.RevisionTaken s
      (SettlementService.settlementRevision s revId r.1 (strip reason) actor)) :
    ∃ s', approveReopen env actor newId revId reason s = .ok s' ∧
      s'.event.status = .completed ∧ ∃ row, s'.settlement = some row ∧ row.1.status = .reopened := by
  have hadmin : actor.role ≠ .systemAdmin := by
    rcases hrole with h | h <;> rw [h] <;> decide
  have hroles : actor.role = .financeOfficer ∨ actor.role = .principal ∨
      actor.role = .deanStudentAffairs := by
    rcases hrole with h | h
    · exact .inr (.inr h)
    · exact .inr (.inl h)
  have hblank : ¬ isBlank (strip reason) := not_isBlank_strip hreason
  have hbyId : SettlementService.settlementById s closure.settlementId = some r :=
    SettlementService.settlementById_eq_some.mpr ⟨hr, hid.symm⟩
  let revision := closureRevision env actor newId reason s closure r.1
  have hmut : ¬ (unsealed s revision).event.Sealed := by
    intro hor
    rcases hor with h | h <;> cases h
  have hreopen : ∃ row entries, SettlementService.reopenSettlement env actor r.1.id revId
      (strip reason) (unsealed s revision) = .ok ({ unsealed s revision with
        settlement := some row
        settlementRevisions := (unsealed s revision).settlementRevisions ++
          [SettlementService.settlementRevision (unsealed s revision) revId r.1 (strip reason)
            actor] }.log entries) ∧ row.1 = { r.1 with status := .reopened } :=
    SettlementService.reopenSettlement_of hr hmut hroles hblank hset hfreeS
  obtain ⟨row, entries, hre, hrow⟩ := hreopen
  have haccepted : ∃ more, approveReopen env actor newId revId reason s =
      .ok (({ unsealed s revision with
        settlement := some row
        settlementRevisions := (unsealed s revision).settlementRevisions ++
          [SettlementService.settlementRevision (unsealed s revision) revId r.1 (strip reason)
            actor] }.log entries).log more) := by
    simp only [approveReopen, bind_accepts, exists_unit, refuse_accepts, fetch_accepts,
      pure_accepts, not_not, ne_eq]
    refine ⟨_, hreason, hadmin, hrole, hclosed, closure, hclosure, r, hbyId, ?_, _, hre, rfl⟩
    intro hex
    obtain ⟨v, hv, hnum⟩ := hex
    exact hfree v hv hnum
  obtain ⟨more, hok⟩ := haccepted
  refine ⟨_, hok, rfl, row, rfl, ?_⟩
  rw [hrow]

end CloseoutService

end CampusConnect
