/-
  File:      CampusConnect/Guarantees/Trail.lean
  Subject:   The audit trail of an event: what its entries record of the status, and what they miss.

  * `AuditLog.record`, `State.trail`: the statuses the entries of one event record, in their order;
  * `Faithful`: a call records the status before it and the status after it, or leaves both alone;
  * `Silent`, `Op.faithful`: twenty-five operations record nothing of the event, and every other
    one but the completion is faithful;
  * `trail_replays`: the trail replays the event exactly when no call of its life completed it, because
    the completion reads the previous status after it has assigned the new one.
-/
import CampusConnect.Guarantees.Stages

namespace CampusConnect

open Guarded Rows

/-! ## 1. What an entry records -/

/-- The statuses in `previous_state` and `new_state`. -/
structure StatusRecord where
  previous : Option Value
  new : Option Value
  deriving DecidableEq, Repr

/-- The status in a `previous_state` or `new_state` object. -/
def statusOf (d : Option StateDict) : Option Value := d.bind fun fields => fields.lookup "status"

/-- What an audit row records of the event with the key: its statuses, when there are any. -/
def AuditLog.record (id : Uuid) (l : AuditLog) : Option StatusRecord :=
  if l.entityType = "event" ∧ l.entityId = id.str ∧
      (statusOf l.previousState ≠ none ∨ statusOf l.newState ≠ none) then
    some ⟨statusOf l.previousState, statusOf l.newState⟩
  else none

/-- **The trail of the event**: the statuses its audit rows record, in the order of the rows. -/
def State.trail (s : State) : List StatusRecord := s.auditLogs.filterMap (AuditLog.record s.event.id)

/-- The value an audit entry records for a status. -/
def EventStatus.recorded (status : EventStatus) : Value := .name status.value

theorem EventStatus.recorded_injective {a b : EventStatus} (h : a.recorded = b.recorded) : a = b := by
  revert h
  cases a <;> cases b <;> decide

section Records

variable {env : Env} {actor : User} {action : AuditAction} {id : Uuid} {reason : Option Text}

/-- An entry of the event with a status on both sides. -/
theorem record_event {x y : Value} {before after : StateDict} :
    AuditLog.record id (createAuditEntry env actor action "event" id
      (some (("status", x) :: before)) (some (("status", y) :: after)) reason).row =
      some ⟨some x, some y⟩ := by
  simp [AuditLog.record, AuditEntry.row, createAuditEntry, statusOf]

theorem record_other {e : AuditEntry} (h : e.entityType ≠ "event") :
    AuditLog.record id e.row = none :=
  if_neg fun hl => h hl.1

/-- A row that carries another key. -/
theorem record_foreign {l : AuditLog} (h : l.entityId ≠ id.str) : AuditLog.record id l = none :=
  if_neg fun hl => h hl.2.1

theorem records_other {entries : List AuditEntry} (h : ∀ e ∈ entries, e.entityType ≠ "event") :
    (entries.map AuditEntry.row).filterMap (AuditLog.record id) = [] := by
  rw [List.filterMap_eq_nil_iff]
  intro l hl
  obtain ⟨e, he, rfl⟩ := List.mem_map.mp hl
  exact record_other (h e he)

end Records

/-! ## 2. Faithful calls -/

/-- **The trail follows the status**: both stay, or one record says from where to where it went. -/
def Faithful (s s' : State) : Prop :=
  s'.trail = s.trail ∧ s'.event.status = s.event.status ∨
    s'.trail = s.trail ++ [⟨some s.event.status.recorded, some s'.event.status.recorded⟩]

/-- The event row stays, and nothing is logged about it. -/
def Silent (s s' : State) : Prop :=
  s'.event = s.event ∧ ∃ entries : List AuditEntry,
    s'.auditLogs = s.auditLogs ++ entries.map AuditEntry.row ∧ ∀ e ∈ entries, e.entityType ≠ "event"

section Faithfully

variable {s s' : State}

theorem Silent.refl (s : State) : Silent s s := by
  refine ⟨rfl, [], ?_, fun e he => ?_⟩
  · exact (List.append_nil _).symm
  · cases he

/-- One entry about another entity. -/
theorem Silent.entry {env : Env} {actor : User} {action : AuditAction} {entityType : String}
    {id : Uuid} {before after : Option StateDict} {reason : Option Text} {t : State}
    (hevent : t.event = s.event) (hlogs : t.auditLogs = s.auditLogs) (h : entityType ≠ "event") :
    Silent s (t.log [createAuditEntry env actor action entityType id before after reason]) := by
  refine ⟨hevent, [_], congrArg (· ++ _) hlogs, fun e he => ?_⟩
  rw [List.mem_singleton.mp he]
  exact h

/-- An entry about another entity, and a second one in some cases. -/
theorem foreign_cons {env : Env} {actor : User} {a b : AuditAction} {entityType other : String}
    {id key : Uuid} {before after previous next : Option StateDict} {c : Prop} [Decidable c]
    (h : entityType ≠ "event") (h' : other ≠ "event") :
    ∀ e ∈ createAuditEntry env actor a entityType id before after ::
      (if c then [createAuditEntry env actor b other key previous next] else []),
      e.entityType ≠ "event" := by
  intro e he
  rcases List.mem_cons.mp he with rfl | htail
  · exact h
  · by_cases hc : c
    · rw [if_pos hc, List.mem_singleton] at htail
      rw [htail]
      exact h'
    · rw [if_neg hc] at htail
      cases htail

/-- The trail grows by what the new entries record. -/
theorem State.trail_append {entries : List AuditEntry} {records : List StatusRecord}
    (hid : s'.event.id = s.event.id)
    (hlogs : s'.auditLogs = s.auditLogs ++ entries.map AuditEntry.row)
    (hrec : (entries.map AuditEntry.row).filterMap (AuditLog.record s.event.id) = records) :
    s'.trail = s.trail ++ records := by
  unfold State.trail
  rw [hlogs, hid, List.filterMap_append, hrec]

theorem Silent.faithful (h : Silent s s') : Faithful s s' := by
  obtain ⟨hevent, entries, hlogs, hother⟩ := h
  have htrail := State.trail_append (congrArg Event.id hevent) hlogs (records_other hother)
  rw [List.append_nil] at htrail
  exact .inl ⟨htrail, congrArg Event.status hevent⟩

/-- The entries of a call hold one record, of the status before and the status after. -/
theorem Faithful.of_record {entries : List AuditEntry} (hid : s'.event.id = s.event.id)
    (hlogs : s'.auditLogs = s.auditLogs ++ entries.map AuditEntry.row)
    (hrec : (entries.map AuditEntry.row).filterMap (AuditLog.record s.event.id) =
      [⟨some s.event.status.recorded, some s'.event.status.recorded⟩]) : Faithful s s' :=
  .inr (State.trail_append hid hlogs hrec)

theorem Faithful.of_entry {e : AuditEntry} (hid : s'.event.id = s.event.id)
    (hlogs : s'.auditLogs = s.auditLogs ++ [e].map AuditEntry.row)
    (hrec : AuditLog.record s.event.id e.row =
      some ⟨some s.event.status.recorded, some s'.event.status.recorded⟩) : Faithful s s' := by
  refine .of_record hid hlogs ?_
  rw [List.map_singleton, List.filterMap_cons_some hrec, List.filterMap_nil]

end Faithfully

/-! ## 3. The operations that record nothing of the event -/

section Silent

variable {cfg : Config} {env : Env} {actor : User} {s : State}

namespace SettlementService

theorem requestAdvance_silent {newId : Uuid} {amount : Int} {reason : Text} :
    Ensures (Silent s) (requestAdvance env actor newId amount reason s) := by
  unfold requestAdvance
  repeat refine Ensures.bind fun _ => ?_
  exact .pure (.entry rfl rfl (by decide))

theorem approveAdvance_silent {id : Uuid} {amount : Int} {remarks : Option Text} :
    Ensures (Silent s) (approveAdvance env actor id amount remarks s) := by
  unfold approveAdvance
  repeat refine Ensures.bind fun _ => ?_
  exact .pure (.entry rfl rfl (by decide))

theorem rejectAdvance_silent {id : Uuid} {reason : Text} :
    Ensures (Silent s) (rejectAdvance env actor id reason s) := by
  unfold rejectAdvance
  repeat refine Ensures.bind fun _ => ?_
  exact .pure (.entry rfl rfl (by decide))

theorem disburseAdvance_silent {id : Uuid} {amount : Int} {reference : Text}
    {date : Option Instant} {notes : Option Text} :
    Ensures (Silent s) (disburseAdvance env actor id amount reference date notes s) := by
  unfold disburseAdvance
  repeat refine Ensures.bind fun _ => ?_
  exact .pure (.entry rfl rfl (by decide))

theorem recordIncome_silent {newId : Uuid} {src : IncomeSourceType} {amount : Int}
    {description payer : Text} {date : Date} {doc : Uuid} {reference : Option Text} :
    Ensures (Silent s)
      (recordIncome env actor newId src amount description payer date doc reference s) := by
  unfold recordIncome
  repeat refine Ensures.bind fun _ => ?_
  exact .pure (.entry rfl rfl (by decide))

theorem verifyIncome_silent {id : Uuid} {remarks : Option Text} :
    Ensures (Silent s) (verifyIncome env actor id remarks s) := by
  unfold verifyIncome
  repeat refine Ensures.bind fun _ => ?_
  exact .pure (.entry rfl rfl (by decide))

theorem rejectIncome_silent {id : Uuid} {reason : Text} {remarks : Option Text} :
    Ensures (Silent s) (rejectIncome env actor id reason remarks s) := by
  unfold rejectIncome
  repeat refine Ensures.bind fun _ => ?_
  exact .pure (.entry rfl rfl (by decide))

theorem prepareSettlement_silent {newId : Uuid} :
    Ensures (Silent s) (prepareSettlement cfg env actor newId s) := by
  unfold prepareSettlement
  repeat refine Ensures.bind fun _ => ?_
  exact .pure (.entry rfl rfl (by decide))

theorem submitSettlement_silent {id : Uuid} :
    Ensures (Silent s) (submitSettlement cfg env actor id s) := by
  unfold submitSettlement
  repeat refine Ensures.bind fun _ => ?_
  exact .pure (.entry rfl rfl (by decide))

theorem auditSettlement_silent {id : Uuid} {action : Text} {remarks reason : Option Text} :
    Ensures (Silent s) (auditSettlement cfg env actor id action remarks reason s) := by
  unfold auditSettlement
  refine Ensures.bind fun _ => Ensures.bind fun decision => ?_
  repeat refine Ensures.bind fun _ => ?_
  cases decision with
  | query =>
      repeat refine Ensures.bind fun _ => ?_
      exact .pure (.entry rfl rfl (by decide))
  | approve =>
      refine Ensures.bind fun row => .pure ⟨rfl, _, rfl, ?_⟩
      intro e he
      unfold approvalEntries at he
      exact foreign_cons (by decide) (by decide) e he

theorem recordPayment_silent {id newId : Uuid} {args : PaymentArgs} :
    Ensures (Silent s) (recordPayment env actor id newId args s) := by
  unfold recordPayment
  repeat refine Ensures.bind fun _ => ?_
  refine .pure ⟨rfl, _, rfl, ?_⟩
  intro e he
  exact foreign_cons (by decide) (by decide) e he

theorem reopenSettlement_silent {id newId : Uuid} {reason : Text} :
    Ensures (Silent s) (reopenSettlement env actor id newId reason s) := by
  unfold reopenSettlement
  repeat refine Ensures.bind fun _ => ?_
  exact .pure (.entry rfl rfl (by decide))

end SettlementService

namespace ExpenseService

theorem createDraftExpense_silent {newId : Uuid} {payload : ActualExpenseCreate} :
    Ensures (Silent s) (createDraftExpense cfg env actor newId payload s) := by
  unfold createDraftExpense
  repeat refine Ensures.bind fun _ => ?_
  exact .pure (.entry rfl rfl (by decide))

theorem updateExpense_silent {id : Uuid} {payload : ActualExpenseUpdate} :
    Ensures (Silent s) (updateExpense cfg env actor id payload s) := by
  unfold updateExpense
  repeat refine Ensures.bind fun _ => ?_
  exact .pure (.entry rfl rfl (by decide))

theorem deleteDraftExpense_silent {id : Uuid} :
    Ensures (Silent s) (deleteDraftExpense env actor id s) := by
  unfold deleteDraftExpense
  repeat refine Ensures.bind fun _ => ?_
  exact .pure (.entry rfl rfl (by decide))

theorem submitExpenses_silent {ids : Option (List Uuid)} :
    Ensures (Silent s) (submitExpenses env actor ids s) := by
  unfold submitExpenses
  repeat refine Ensures.bind fun _ => ?_
  refine .pure ⟨rfl, _, rfl, ?_⟩
  intro e he
  obtain ⟨x, _, rfl⟩ := List.mem_map.mp he
  exact (show "actual_expense" ≠ "event" by decide)

/-- The three decisions and the query write one entry of the expense. -/
theorem writeDecision_silent {action : AuditAction} {row : ActualExpense}
    {before after : StateDict} {reason : Text} :
    Ensures (Silent s) (writeDecision env actor action row before after reason s) := by
  unfold writeDecision
  repeat refine Ensures.bind fun _ => ?_
  exact .pure (.entry rfl rfl (by decide))

theorem partialVerifyExpense_silent {id : Uuid} {amount : Int} {remarks : Text} :
    Ensures (Silent s) (partialVerifyExpense env actor id amount remarks s) := by
  unfold partialVerifyExpense
  refine Ensures.bind fun _ => Ensures.bind fun _ => Ensures.bind fun _ => ?_
  exact writeDecision_silent

end ExpenseService

namespace EventExecutionService

theorem updateReport_silent {updateIn : PostEventReportUpdate} :
    Ensures (Silent s) (updateReport env actor updateIn s) := by
  unfold updateReport
  repeat refine Ensures.bind fun _ => ?_
  refine .pure ⟨rfl, [], rfl, fun e he => ?_⟩
  cases he

theorem resubmitReport_silent : Ensures (Silent s) (resubmitReport env actor s) := by
  unfold resubmitReport
  repeat refine Ensures.bind fun _ => ?_
  exact .pure (.entry rfl rfl (by decide))

theorem certifyReport_silent {remarks : Option Text} :
    Ensures (Silent s) (certifyReport env actor remarks s) := by
  unfold certifyReport
  repeat refine Ensures.bind fun _ => ?_
  exact .pure (.entry rfl rfl (by decide))

theorem requestRevision_silent {remarks : Text} :
    Ensures (Silent s) (requestRevision env actor remarks s) := by
  unfold requestRevision
  repeat refine Ensures.bind fun _ => ?_
  exact .pure (.entry rfl rfl (by decide))

end EventExecutionService

namespace EventService

theorem releaseEntries_foreign {p : Proposal} {owner : String × Value} {why : String}
    {reason : Text} : ∀ e ∈ releaseEntries env actor p owner why reason, e.entityType ≠ "event" := by
  intro e he
  unfold releaseEntries at he
  cases hb : activeBooking p with
  | none =>
      rw [hb] at he
      cases he
  | some b =>
      rw [hb, List.mem_singleton] at he
      rw [he]
      exact (show "hall_booking_confirmed" ≠ "event" by decide)

/-- A proposal's cancellation writes about the proposal and its hall booking. -/
theorem cancelProposal_silent {reason : Text} {q : Proposal} {entries : List AuditEntry}
    (h : cancelProposal env actor reason s.proposal = .ok (q, entries)) :
    Silent s ({ s with proposal := q }.log entries) := by
  refine ⟨rfl, entries, rfl, ?_⟩
  simp only [cancelProposal, bind_accepts, exists_unit, pure_accepts, Prod.mk.injEq] at h
  obtain ⟨_, _, _, _, rfl⟩ := h
  intro e he
  rcases List.mem_append.mp he with hrelease | hlast
  · exact releaseEntries_foreign e hrelease
  · rw [List.mem_singleton.mp hlast]
    exact (show "event_request" ≠ "event" by decide)

end EventService

end Silent

/-! ## 4. The operations that move the event -/

section Faithful

variable {cfg : Config} {env : Env} {actor : User} {s s' : State}

namespace EventExecutionService

theorem startEvent_faithful (h : startEvent env actor s = .ok s') : Faithful s s' := by
  simp only [startEvent, bind_accepts, exists_unit, pure_accepts, requireScheduled_accepts] at h
  obtain ⟨_, _, hfrom, _, rfl⟩ := h
  refine .of_entry rfl rfl ?_
  rw [hfrom]
  exact record_event

theorem adminStartEvent_faithful {reason : Text}
    (h : adminStartEvent env actor reason s = .ok s') : Faithful s s' := by
  simp only [adminStartEvent, bind_accepts, exists_unit, pure_accepts, requireScheduled_accepts] at h
  obtain ⟨_, _, hfrom, rfl⟩ := h
  refine .of_entry rfl rfl ?_
  rw [hfrom]
  exact record_event

/-- **A completion records COMPLETED on both sides**, whatever the status before it was. -/
theorem completeAndSubmitReport_records {newId : Uuid} {reportIn : PostEventReportCreate}
    (h : completeAndSubmitReport env actor newId reportIn s = .ok s') :
    s.event.status ≠ .completed ∧ s'.trail = s.trail ++
      [⟨some EventStatus.completed.recorded, some EventStatus.completed.recorded⟩] := by
  simp only [completeAndSubmitReport, bind_accepts, exists_unit, refuse_accepts, fetch_accepts,
    pure_accepts] at h
  obtain ⟨_, _, hnot, _, _, report, _, rfl⟩ := h
  refine ⟨hnot, State.trail_append rfl (State.log_auditLogs _ _) ?_⟩
  rw [List.map_cons, List.filterMap_cons_some record_event, List.map_singleton,
    List.filterMap_cons_none (record_other (show "post_event_report" ≠ "event" by decide)),
    List.filterMap_nil]
  rfl

end EventExecutionService

namespace EventService

theorem advanceEntries_foreign {reason : Text} {advance : Option (Stored CashAdvance)} :
    ∀ e ∈ advanceEntries env actor reason advance, e.entityType ≠ "event" := by
  intro e he
  unfold advanceEntries at he
  cases advance with
  | none => cases he
  | some a =>
      simp only at he
      by_cases hp : a.1.Pending
      · rw [if_pos hp, List.mem_singleton] at he
        rw [he]
        exact (show "cash_advance" ≠ "event" by decide)
      · rw [if_neg hp] at he
        cases he

theorem cancelConfirmedEvent_faithful {reason : Text}
    (h : cancelConfirmedEvent env actor reason s = .ok s') : Faithful s s' := by
  simp only [cancelConfirmedEvent, bind_accepts, exists_unit, pure_accepts] at h
  obtain ⟨_, _, rfl⟩ := h
  refine .of_record rfl rfl ?_
  rw [List.map_append, List.filterMap_append, List.map_append, List.filterMap_append,
    records_other releaseEntries_foreign, records_other advanceEntries_foreign, List.nil_append,
    List.nil_append, List.map_singleton, List.filterMap_cons_some record_event, List.filterMap_nil]
  rfl

theorem cancelAnyEvent_faithful {id : Uuid} {reason : Text}
    (h : cancelAnyEvent env actor id reason s = .ok s') : Faithful s s' := by
  unfold cancelAnyEvent at h
  by_cases hid : s.event.id = id ∨ s.event.eventRequestId = id
  · rw [if_pos hid] at h
    exact cancelConfirmedEvent_faithful h
  · rw [if_neg hid] at h
    by_cases hreq : s.proposal.request.id = id
    · rw [if_pos hreq, bind_accepts] at h
      obtain ⟨⟨q, entries⟩, hcancel, hend⟩ := h
      cases hend
      exact (cancelProposal_silent hcancel).faithful
    · rw [if_neg hreq] at h
      cases h

end EventService

namespace CloseoutService

theorem requestCloseout_faithful {remarks : Option Text}
    (h : requestCloseout env actor remarks s = .ok s') : Faithful s s' := by
  simp only [requestCloseout, bind_accepts, exists_unit] at h
  obtain ⟨_, h⟩ := h
  by_cases hst : s.event.status = .closureRequested
  · rw [if_pos hst, pure_accepts] at h
    rw [← h]
    exact (Silent.refl s).faithful
  · rw [if_neg hst] at h
    simp only [bind_accepts, exists_unit, pure_accepts] at h
    obtain ⟨_, _, _, _, rfl⟩ := h
    exact .of_entry rfl rfl record_event

theorem certifyCloseout_faithful {newId : Uuid} {notes : Option Text} {cleared : Bool}
    (h : certifyCloseout cfg env actor newId notes cleared s = .ok s') : Faithful s s' := by
  simp only [certifyCloseout, bind_accepts, exists_unit, pure_accepts] at h
  obtain ⟨_, _, _, _, _, _, r, _, report, _, rfl⟩ := h
  exact .of_entry rfl rfl record_event

theorem rejectCloseout_faithful {reason : Text}
    (h : rejectCloseout cfg env actor reason s = .ok s') : Faithful s s' := by
  simp only [rejectCloseout, bind_accepts, exists_unit, pure_accepts] at h
  obtain ⟨_, _, _, rfl⟩ := h
  exact .of_entry rfl rfl record_event

theorem requestReopen_faithful {reason : Text}
    (h : requestReopen env actor reason s = .ok s') : Faithful s s' := by
  simp only [requestReopen, bind_accepts, exists_unit, refuse_accepts, pure_accepts, not_not,
    ne_eq] at h
  obtain ⟨_, _, hfrom, rfl⟩ := h
  refine .of_entry rfl rfl ?_
  rw [State.log_event, hfrom]
  exact record_event

/-- The settlement's own reopening writes about the settlement only. -/
theorem approveReopen_faithful {newId revId : Uuid} {reason : Text}
    (h : approveReopen env actor newId revId reason s = .ok s') : Faithful s s' := by
  simp only [approveReopen, bind_accepts, exists_unit, pure_accepts] at h
  obtain ⟨_, _, _, _, closure, _, r, _, _, t, hre, rfl⟩ := h
  obtain ⟨hevent, entries, hlogs, hother⟩ := SettlementService.reopenSettlement_silent t hre
  have hid : t.event.id = s.event.id := by
    rw [hevent]
    rfl
  have hstatus : t.event.status = .completed := by
    rw [hevent]
    rfl
  have htrail : t.trail = s.trail := by
    rw [← List.append_nil s.trail]
    exact State.trail_append hid hlogs (records_other hother)
  refine .inr ?_
  rw [← htrail, State.log_event, hstatus]
  refine State.trail_append rfl (State.log_auditLogs _ _) ?_
  rw [hid, List.map_singleton, List.filterMap_cons_some record_event, List.filterMap_nil]
  rfl

theorem archiveEvent_faithful (h : archiveEvent env actor s = .ok s') : Faithful s s' := by
  simp only [archiveEvent, bind_accepts, exists_unit] at h
  obtain ⟨_, h⟩ := h
  by_cases hst : s.event.status = .archived
  · rw [if_pos hst, pure_accepts] at h
    rw [← h]
    exact (Silent.refl s).faithful
  · rw [if_neg hst] at h
    simp only [bind_accepts, exists_unit, pure_accepts] at h
    obtain ⟨_, _, rfl⟩ := h
    exact .of_entry rfl rfl record_event

end CloseoutService

end Faithful

/-! ## 5. Every operation -/

/-- The call completes the event. -/
def Op.Completes (op : Op) : Prop := ∃ newId reportIn, op = .completeAndSubmitReport newId reportIn

section Steps

variable {cfg : Config} {s s' : State}

/-- **Every operation but the completion is faithful.** -/
theorem Op.faithful {env : Env} {actor : User} {op : Op} (h : op.exec cfg env actor s = .ok s')
    (hop : ¬ op.Completes) : Faithful s s' := by
  cases op with
  | requestAdvance _ _ _ => exact (SettlementService.requestAdvance_silent s' h).faithful
  | approveAdvance _ _ _ => exact (SettlementService.approveAdvance_silent s' h).faithful
  | rejectAdvance _ _ => exact (SettlementService.rejectAdvance_silent s' h).faithful
  | disburseAdvance _ _ _ _ _ => exact (SettlementService.disburseAdvance_silent s' h).faithful
  | recordIncome _ _ _ _ _ _ _ _ => exact (SettlementService.recordIncome_silent s' h).faithful
  | verifyIncome _ _ => exact (SettlementService.verifyIncome_silent s' h).faithful
  | rejectIncome _ _ _ => exact (SettlementService.rejectIncome_silent s' h).faithful
  | createDraftExpense _ _ => exact (ExpenseService.createDraftExpense_silent s' h).faithful
  | updateExpense _ _ => exact (ExpenseService.updateExpense_silent s' h).faithful
  | deleteDraftExpense _ => exact (ExpenseService.deleteDraftExpense_silent s' h).faithful
  | submitExpenses _ => exact (ExpenseService.submitExpenses_silent s' h).faithful
  | verifyExpense _ _ =>
      exact (Ensures.bind (fun _ => ExpenseService.writeDecision_silent) s' h).faithful
  | partialVerifyExpense _ _ _ =>
      exact (ExpenseService.partialVerifyExpense_silent s' h).faithful
  | queryExpense _ _ =>
      exact (Ensures.bind (fun _ => ExpenseService.writeDecision_silent) s' h).faithful
  | disallowExpense _ _ =>
      exact (Ensures.bind (fun _ => ExpenseService.writeDecision_silent) s' h).faithful
  | prepareSettlement _ => exact (SettlementService.prepareSettlement_silent s' h).faithful
  | submitSettlement _ => exact (SettlementService.submitSettlement_silent s' h).faithful
  | auditSettlement _ _ _ _ => exact (SettlementService.auditSettlement_silent s' h).faithful
  | recordPayment _ _ _ => exact (SettlementService.recordPayment_silent s' h).faithful
  | reopenSettlement _ _ _ => exact (SettlementService.reopenSettlement_silent s' h).faithful
  | settlementEligibility =>
      have hread : Effect cfg s .read s' := Effect.of_read h
      cases hread
      exact (Silent.refl s).faithful
  | startEvent => exact EventExecutionService.startEvent_faithful h
  | adminStartEvent _ => exact EventExecutionService.adminStartEvent_faithful h
  | completeAndSubmitReport newId reportIn => exact absurd ⟨newId, reportIn, rfl⟩ hop
  | updateReport _ => exact (EventExecutionService.updateReport_silent s' h).faithful
  | resubmitReport => exact (EventExecutionService.resubmitReport_silent s' h).faithful
  | certifyReport _ => exact (EventExecutionService.certifyReport_silent s' h).faithful
  | requestRevision _ => exact (EventExecutionService.requestRevision_silent s' h).faithful
  | cancelProposal reason =>
      cases hr : EventService.cancelProposal env actor reason s.proposal with
      | error e =>
          simp only [Op.exec, hr] at h
          cases h
      | ok r =>
          simp only [Op.exec, hr] at h
          cases h
          exact (EventService.cancelProposal_silent hr).faithful
  | cancelConfirmedEvent _ => exact EventService.cancelConfirmedEvent_faithful h
  | cancelAnyEvent _ _ => exact EventService.cancelAnyEvent_faithful h
  | closeoutEligibility =>
      have hread : Effect cfg s .read s' := Effect.of_read h
      cases hread
      exact (Silent.refl s).faithful
  | requestCloseout _ => exact CloseoutService.requestCloseout_faithful h
  | certifyCloseout _ _ _ => exact CloseoutService.certifyCloseout_faithful h
  | rejectCloseout _ => exact CloseoutService.rejectCloseout_faithful h
  | requestReopen _ => exact CloseoutService.requestReopen_faithful h
  | approveReopen _ _ _ => exact CloseoutService.approveReopen_faithful h
  | archiveEvent => exact CloseoutService.archiveEvent_faithful h

/-- Entering a session changes no row of the event or of the log. -/
theorem Faithful.of_enter {c : Call} (h : Faithful (c.enter s) s') : Faithful s s' := h

theorem Step.faithful {c : Call} (h : CampusConnect.Step cfg s c s') (hc : ¬ c.op.Completes) :
    Faithful s s' :=
  (Op.faithful h hc).of_enter

/-- **A completion is never faithful**: it records COMPLETED where the event was not. -/
theorem Step.not_faithful {c : Call} (h : CampusConnect.Step cfg s c s') (hc : c.op.Completes) :
    ¬ Faithful s s' := by
  obtain ⟨newId, reportIn, hop⟩ := hc
  obtain ⟨a, hexec, _⟩ := h.entered
  rw [hop] at hexec
  obtain ⟨hnot, hrec⟩ := EventExecutionService.completeAndSubmitReport_records hexec
  have htrail : s'.trail = s.trail ++
      [⟨some EventStatus.completed.recorded, some EventStatus.completed.recorded⟩] := hrec
  intro hor
  rcases hor with ⟨hsame, _⟩ | hone
  · rw [htrail] at hsame
    have hlen := congrArg List.length hsame
    rw [List.length_append, List.length_singleton] at hlen
    omega
  · rw [htrail] at hone
    have hprev := (StatusRecord.mk.inj (List.singleton_inj.mp (List.append_cancel_left hone))).1
    exact hnot (EventStatus.recorded_injective (Option.some.inj hprev)).symm

end Steps

/-! ## 6. The trail replays the event -/

/-- The trail of a new event says that it was created SCHEDULED. -/
theorem Created.trail {cfg : Config} {s : State} (h : Created cfg s) :
    s.trail = [⟨none, some s.event.status.recorded⟩] := by
  obtain ⟨env, actor, newId, p, q, logs, entry, rfl, htype, hfresh⟩ := h.opened
  have hnone : logs.filterMap (AuditLog.record newId) = [] := by
    rw [List.filterMap_eq_nil_iff]
    intro l hl
    exact record_foreign (hfresh l hl)
  have hentry : AuditLog.record newId entry.row = none := by
    refine record_other ?_
    rw [htype]
    decide
  have hcreated :
      ((EventService.createConfirmedEvent env actor newId none p).2.map AuditEntry.row).filterMap
        (AuditLog.record newId) = [⟨none, some EventStatus.scheduled.recorded⟩] := by
    simp [EventService.createConfirmedEvent, AuditLog.record, AuditEntry.row, createAuditEntry, statusOf,
      EventStatus.recorded, List.lookup_cons]
  unfold State.trail
  change (logs ++ _).filterMap (AuditLog.record newId) = [⟨none, some EventStatus.scheduled.recorded⟩]
  rw [List.filterMap_append, hnone, List.map_append, List.filterMap_append, hcreated,
    List.map_singleton, List.filterMap_cons_none hentry]
  rfl

/-- **The trail replays the event**: every call of the run is faithful, and the records lead from
    before the creation to the current status, each beginning where the one before it ended. -/
structure Replayed (cfg : Config) (s0 : State) (calls : List Call) (s : State) : Prop where
  faithful : ∀ before c after t u, calls = before ++ c :: after →
    Runs.Path (CampusConnect.Step cfg) s0 before t → CampusConnect.Step cfg t c u → Faithful t u
  chained : Runs.Leads StatusRecord.previous StatusRecord.new none s.trail
    (some s.event.status.recorded)

theorem Faithful.leads {s s' : State} (h : Faithful s s') : ∃ records,
    s'.trail = s.trail ++ records ∧ Runs.Leads StatusRecord.previous StatusRecord.new
      (some s.event.status.recorded) records (some s'.event.status.recorded) := by
  rcases h with ⟨hsame, hstatus⟩ | hone
  · refine ⟨[], ?_, ?_⟩
    · rw [hsame, List.append_nil]
    · rw [hstatus]
      rfl
  · exact ⟨_, hone, rfl, rfl⟩

/-- **Exactly the lives without a completion are replayed.** -/
theorem trail_replays {cfg : Config} {s0 s : State} {calls : List Call} (h0 : Created cfg s0)
    (hp : Runs.Path (CampusConnect.Step cfg) s0 calls s) :
    Replayed cfg s0 calls s ↔ ∀ c ∈ calls, ¬ c.op.Completes := by
  constructor
  · intro h c hc hdone
    obtain ⟨before, after, rfl⟩ := List.append_of_mem hc
    obtain ⟨t, ht, htail⟩ := hp.split
    cases htail with
    | cons hs _ => exact hs.not_faithful hdone (h.faithful before c after t _ rfl ht hs)
  · intro hnone
    constructor
    · intro before c after t u hcalls _ hs
      refine hs.faithful (hnone c ?_)
      rw [hcalls]
      exact List.mem_append_right before (List.mem_cons_self ..)
    · refine (hp.under hnone).leads State.trail (fun t => some t.event.status.recorded) ?_ ?_
      · intro t c u hs
        exact (hs.1.faithful hs.2).leads
      · rw [h0.trail]
        exact ⟨rfl, rfl⟩

/-- The sample event is started by the administrator and then cancelled: three records. -/
theorem trail_replays_cancelled :
    ∃ s0 s, s.trail.length = 3 ∧ Replayed (Sample.config .sqlite) s0
      [Sample.byAdmin (.adminStartEvent []), Sample.byAdmin (.cancelConfirmedEvent [])] s := by
  have hrun : Sample.Lives [Sample.byAdmin (.adminStartEvent []),
      Sample.byAdmin (.cancelConfirmedEvent [])] fun _ s => s.trail.length = 3 := by
    decide
  obtain ⟨s0, s, h0, hpath, hlen⟩ := Sample.lifetime_of_lives hrun
  refine ⟨s0, s, hlen, (trail_replays h0 hpath).mpr fun c hc => ?_⟩
  simp only [List.mem_cons, List.not_mem_nil, or_false] at hc
  rcases hc with rfl | rfl
  · exact fun ⟨_, _, hop⟩ => nomatch hop
  · exact fun ⟨_, _, hop⟩ => nomatch hop

/-- The sample event is started and completed, and its trail goes from COMPLETED to COMPLETED. -/
theorem completion_breaks_trail :
    ∃ s0 s, Created (Sample.config .sqlite) s0 ∧ Runs.Path (CampusConnect.Step (Sample.config .sqlite))
        s0 [Sample.byAdmin (.adminStartEvent []), Sample.complete] s ∧
      s.trail = [⟨none, some EventStatus.scheduled.recorded⟩,
        ⟨some EventStatus.scheduled.recorded, some EventStatus.inProgress.recorded⟩,
        ⟨some EventStatus.completed.recorded, some EventStatus.completed.recorded⟩] ∧
      ¬ Runs.Leads StatusRecord.previous StatusRecord.new none s.trail
        (some s.event.status.recorded) := by
  have hrun : Sample.Lives [Sample.byAdmin (.adminStartEvent []), Sample.complete] fun _ s =>
      s.trail = [⟨none, some EventStatus.scheduled.recorded⟩,
        ⟨some EventStatus.scheduled.recorded, some EventStatus.inProgress.recorded⟩,
        ⟨some EventStatus.completed.recorded, some EventStatus.completed.recorded⟩] ∧
      ¬ Runs.Leads StatusRecord.previous StatusRecord.new none s.trail
        (some s.event.status.recorded) := by
    decide
  obtain ⟨s0, s, h0, hpath, htrail, hbroken⟩ := Sample.lifetime_of_lives hrun
  exact ⟨s0, s, h0, hpath, htrail, hbroken⟩

end CampusConnect
