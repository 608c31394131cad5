/-
  File:      CampusConnect/Concurrency/Closing.lean
  Subject:   Closing an event while its settlement is reopened and expenses are drafted and submitted.

  * `ClosureRequest.script`: the five transactions. The closeout locks the event, a reopening the
    settlement, a submission the event and its expenses, a new draft nothing;
  * `ClosureRequest.serial`: alone, each is the call of its service;
  * `ClosedSettled`: what CLOSED promises;
  * `closed_settled`: it holds as long as no draft or reopening commits on a CLOSED event and each
    certification commits on the expenses and the settlement it has selected.
-/
import CampusConnect.Concurrency.Settlements

namespace CampusConnect

open Guarded Rows Transactions SettlementService

/-! ## 1. The transactions -/

inductive ClosureRequest where
  | requestCloseout (env : Env) (actor : User) (remarks : Option Text)
  | certifyCloseout (env : Env) (actor : User) (newId : Uuid) (closureNotes : Option Text)
      (venueCleared : Bool)
  | reopenSettlement (env : Env) (actor : User) (settlementId newId : Uuid) (reason : Text)
      (preloaded : Bool)
  | createDraftExpense (env : Env) (actor : User) (newId : Uuid) (payload : ActualExpenseCreate)
  | submitExpenses (env : Env) (actor : User) (expenseIds : Option (List Uuid))

/-- The columns a second certification assigns. -/
def EventClosure.flush (loaded row c : EventClosure) : EventClosure :=
  { c with
    settlementId := assigned loaded.settlementId row.settlementId c.settlementId
    postEventReportId := assigned loaded.postEventReportId row.postEventReportId c.postEventReportId
    requestedBy := assigned loaded.requestedBy row.requestedBy c.requestedBy
    requestedAt := assigned loaded.requestedAt row.requestedAt c.requestedAt
    certifiedBy := assigned loaded.certifiedBy row.certifiedBy c.certifiedBy
    certifiedAt := assigned loaded.certifiedAt row.certifiedAt c.certifiedAt
    closureNotes := assigned loaded.closureNotes row.closureNotes c.closureNotes
    venueCleared := assigned loaded.venueCleared row.venueCleared c.venueCleared
    certificateManifestHash := assigned loaded.certificateManifestHash row.certificateManifestHash
      c.certificateManifestHash }

namespace ClosureRequest

/-- `UPDATE events …`, and the audit entries. -/
def writeEvent (seen s' db : State) : State :=
  { db with
    event := Event.flush seen.event s'.event db.event
    auditLogs := db.auditLogs ++ s'.entriesSince seen }

/-- The selects of `get_closure_eligibility`, of the event already loaded. -/
def loadBooks (event : State) : EventProg State := do
  let report ← Prog.view
  let expenses ← Prog.view
  let incomes ← Prog.view
  let advance ← Prog.view
  let settlement ← Prog.view
  let payments ← Prog.view
  let booking ← Prog.view
  return { booking with
    event := event.event
    report := report.report
    expenses := expenses.expenses
    incomes := incomes.incomes
    advance := advance.advance
    settlement := settlement.settlement
    payments := payments.payments }

/-- `request_closeout`. A call that is refused earlier, or finds the request made, selects less. -/
def requestScript (env : Env) (actor : User) (remarks : Option Text) :
    EventProg (State → Result State) := do
  let event ← Prog.hold fun _ => [.event]
  let books ← loadBooks event
  Prog.lift do
    let s' ← CloseoutService.requestCloseout env actor remarks books
    return fun db => .ok (writeEvent books s' db)

/-- The closure row: an INSERT, or an UPDATE of the one loaded. -/
def writeClosure (loaded : Option EventClosure) (row : EventClosure) (db : State) : Result State :=
  match loaded with
  | none => do
      refuse (db.closure ≠ none) integrityError
      return { db with closure := some row }
  | some old => do
      let c ← fetch (db.closure.filter fun c => c.id = old.id) staleDataError
      return { db with closure := some (EventClosure.flush old row c) }

/-- The end of `certify_closeout`, after the eligibility check on the books: the settlement and the
    report are selected once more, and the closure is of these. -/
def certify (cfg : Config) (env : Env) (actor : User) (newId : Uuid) (closureNotes : Option Text)
    (late : State) : Result (State → Result State) := do
  let settlement ← fetch (late.settlement.filter (fun r => r.1.status = .settled))
    ⟨.businessRule, "Financial settlement is not in SETTLED status.", []⟩
  let report ← fetch (late.report.filter (fun r => r.1.status = .certified))
    ⟨.businessRule, "Post-event report is not in CERTIFIED status.", []⟩
  let closure := CloseoutService.closureRow cfg env actor newId closureNotes late settlement.1
    report.1.id
  let s' := { late with event := { late.event with status := .closed } }.log
    [createAuditEntry env actor .eventClosed "event" late.event.id
      (some [("status", .name late.event.status.value)])
      (some [("status", .name EventStatus.closed.value), ("closure_id", .uuid closure.id),
        ("certificate_manifest_hash", .text closure.certificateManifestHash),
        ("venue_cleared", .flag true)])]
  return fun db => do
    let db ← writeClosure late.closure closure db
    return writeEvent late s' db

def certifyScript (cfg : Config) (env : Env) (actor : User) (newId : Uuid)
    (closureNotes : Option Text) (venueCleared : Bool) : EventProg (State → Result State) := do
  let event ← Prog.hold fun _ => [.event]
  let books ← loadBooks event
  let settlement ← Prog.view
  let report ← Prog.view
  let request ← Prog.view
  let closure ← Prog.view
  Prog.lift do
    let _ ← CloseoutService.certifyCloseout cfg env actor newId closureNotes venueCleared books
    certify cfg env actor newId closureNotes { books with
      settlement := settlement.settlement
      report := report.report
      auditLogs := request.auditLogs
      closure := closure.closure }

/-- `create_draft_expense`: no lock. -/
def draftScript (cfg : Config) (env : Env) (actor : User) (newId : Uuid)
    (payload : ActualExpenseCreate) : EventProg (State → Result State) := do
  let event ← Prog.view
  let expenses ← Prog.view
  Prog.lift do
    let seen : State := { expenses with event := event.event }
    let s' ← ExpenseService.createDraftExpense cfg env actor newId payload seen
    return fun db => do
      let rows ← fetch (db.expenses.insertAll (s'.expenses.rows.drop seen.expenses.rows.length))
        integrityError
      return { db with
        expenses := rows
        auditLogs := db.auditLogs ++ s'.entriesSince seen }

/-- The rows of the keys, submitted. -/
def submitLoaded (env : Env) (actor : User) (ids : List Uuid) (e : ActualExpense) : ActualExpense :=
  if e.id ∈ ids then
    { e with status := .submitted, submittedAt := some env.now, submittedBy := actor.id }
  else e

theorem submitLoaded_key (env : Env) (actor : User) (ids : List Uuid) (e : ActualExpense) :
    Row.key (submitLoaded env actor ids e) = Row.key e := by
  unfold submitLoaded
  by_cases h : e.id ∈ ids
  · rw [if_pos h]
    rfl
  · rw [if_neg h]

theorem submitLoaded_check (env : Env) (actor : User) (ids : List Uuid) (e : ActualExpense)
    (h : Row.Check e) : Row.Check (submitLoaded env actor ids e) := by
  unfold submitLoaded
  by_cases hid : e.id ∈ ids
  · rw [if_pos hid]
    exact h
  · rw [if_neg hid]
    exact h

/-- The rows `submit_expenses` selects. -/
def selectedIds (expenseIds : Option (List Uuid)) (s : State) : List Uuid :=
  (s.expenses.rows.filter fun e => ExpenseService.Selected expenseIds e).map ActualExpense.id

/-- `submit_expenses`: the event and the selected rows are locked. -/
def submitScript (env : Env) (actor : User) (expenseIds : Option (List Uuid)) :
    EventProg (State → Result State) := do
  let event ← Prog.hold fun _ => [.event]
  let expenses ← Prog.hold fun s => (selectedIds expenseIds s).map RowKey.expense
  Prog.lift do
    let seen : State := { expenses with event := event.event }
    let s' ← ExpenseService.submitExpenses env actor expenseIds seen
    return fun db => .ok { db with
      expenses := db.expenses.modify (submitLoaded env actor (selectedIds expenseIds seen))
        (submitLoaded_key _ _ _) (submitLoaded_check _ _ _)
      auditLogs := db.auditLogs ++ s'.entriesSince seen }

/-- The transaction of a request. -/
def script (cfg : Config) : ClosureRequest → EventProg (State → Result State)
  | .requestCloseout env actor remarks => requestScript env actor remarks
  | .certifyCloseout env actor newId closureNotes venueCleared =>
      certifyScript cfg env actor newId closureNotes venueCleared
  | .reopenSettlement env actor settlementId newId reason preloaded =>
      SettlementRequest.script cfg ⟨env, actor, settlementId, .reopen newId reason, preloaded⟩
  | .createDraftExpense env actor newId payload => draftScript cfg env actor newId payload
  | .submitExpenses env actor expenseIds => submitScript env actor expenseIds

/-! ## 2. What a commit was decided on -/

section Decided

variable {cfg : Config} {env : Env} {actor : User} {vs : List State} {write : State → Result State}

/-- The books are assembled from seven views in order. -/
theorem after_loadBooks {α : Type} {event : State} {f : State → EventProg α} {a : α}
    (h : (loadBooks event >>= f).after vs = .done a) :
    ∃ report expenses incomes advance settlement payments booking rest,
      vs = report :: expenses :: incomes :: advance :: settlement :: payments :: booking :: rest ∧
      (f { booking with
        event := event.event
        report := report.report
        expenses := expenses.expenses
        incomes := incomes.incomes
        advance := advance.advance
        settlement := settlement.settlement
        payments := payments.payments }).after rest = .done a := by
  have hviews : loadBooks event >>= f = (do
      let report ← Prog.view
      let expenses ← Prog.view
      let incomes ← Prog.view
      let advance ← Prog.view
      let settlement ← Prog.view
      let payments ← Prog.view
      let booking ← Prog.view
      f { booking with
        event := event.event
        report := report.report
        expenses := expenses.expenses
        incomes := incomes.incomes
        advance := advance.advance
        settlement := settlement.settlement
        payments := payments.payments }) := rfl
  rw [hviews] at h
  simp only [Prog.after_view] at h
  obtain ⟨report, _, rfl, expenses, _, rfl, incomes, _, rfl, advance, _, rfl, settlement, _, rfl,
    payments, _, rfl, booking, rest, rfl, h⟩ := h
  exact ⟨report, expenses, incomes, advance, settlement, payments, booking, rest, rfl, h⟩

theorem request_decided {remarks : Option Text}
    (h : (requestScript env actor remarks).after vs = .done write) :
    ∃ event rest books s', vs = event :: rest ∧ books.event = event.event ∧
      CloseoutService.requestCloseout env actor remarks books = .ok s' ∧
      write = fun db => .ok (writeEvent books s' db) := by
  unfold requestScript at h
  obtain ⟨event, rest, rfl, hbooks⟩ := Prog.after_hold.mp h
  obtain ⟨report, expenses, incomes, advance, settlement, payments, booking, _, rfl, hlift⟩ :=
    after_loadBooks hbooks
  have hd := Prog.after_lift.mp hlift
  simp only [bind_accepts, pure_accepts] at hd
  obtain ⟨s', hs', rfl⟩ := hd
  refine ⟨event, _, _, s', rfl, ?_, hs', rfl⟩
  rfl

theorem certify_decided {newId : Uuid} {closureNotes : Option Text} {venueCleared : Bool}
    (h : (certifyScript cfg env actor newId closureNotes venueCleared).after vs = .done write) :
    ∃ event rest books late expenses settlement, vs = event :: rest ∧ books.event = event.event ∧
      vs[2]? = some expenses ∧ books.expenses = expenses.expenses ∧
      vs[8]? = some settlement ∧ late.settlement = settlement.settlement ∧
      late.event = event.event ∧
      (∃ s', CloseoutService.certifyCloseout cfg env actor newId closureNotes venueCleared books =
        .ok s') ∧
      certify cfg env actor newId closureNotes late = .ok write := by
  unfold certifyScript at h
  obtain ⟨event, rest, rfl, hbooks⟩ := Prog.after_hold.mp h
  obtain ⟨report, expenses, incomes, advance, settlement, payments, booking, _, rfl, hlate⟩ :=
    after_loadBooks hbooks
  simp only [Prog.after_view, Prog.after_lift] at hlate
  obtain ⟨settlement', _, rfl, report', _, rfl, request, _, rfl, closure, _, rfl, hlift⟩ := hlate
  simp only [bind_accepts] at hlift
  obtain ⟨s', hs', hd⟩ := hlift
  refine ⟨event, _, _, _, expenses, settlement', rfl, ?_, rfl, ?_, rfl, ?_, ?_, ⟨s', hs'⟩, hd⟩
  · rfl
  · rfl
  · rfl
  · rfl

theorem draft_decided {newId : Uuid} {payload : ActualExpenseCreate}
    (h : (draftScript cfg env actor newId payload).after vs = .done write) {db db' : State}
    (hw : write db = .ok db') : db'.event = db.event := by
  unfold draftScript at h
  simp only [Prog.after_view, Prog.after_lift, bind_accepts, pure_accepts] at h
  obtain ⟨event, _, rfl, expenses, _, rfl, s', _, rfl⟩ := h
  simp only [bind_accepts, fetch_accepts, pure_accepts] at hw
  obtain ⟨rows, _, rfl⟩ := hw
  rfl

theorem submit_decided {expenseIds : Option (List Uuid)}
    (h : (submitScript env actor expenseIds).after vs = .done write) {db db' : State}
    (hw : write db = .ok db') :
    ∃ event rest, vs = event :: rest ∧ event.event.status = .completed ∧ db'.event = db.event := by
  unfold submitScript at h
  simp only [Prog.after_hold, Prog.after_lift, bind_accepts, pure_accepts] at h
  obtain ⟨event, _, rfl, expenses, rest, rfl, s', hs', rfl⟩ := h
  obtain ⟨t, entries, hstep, _⟩ := ExpenseService.submitExpenses_step hs'
  cases hw
  cases hstep with
  | submitted now u ids hcomp => exact ⟨event, _, rfl, hcomp, rfl⟩
  | decided m old row t _ _ _ _ _ hdec => cases hdec

/-- What a certification writes: a CLOSED event; the settlement it has selected last was SETTLED. -/
theorem certify_accepts {newId : Uuid} {closureNotes : Option Text} {late : State}
    (h : certify cfg env actor newId closureNotes late = .ok write) {db db' : State}
    (hw : write db = .ok db') :
    (∃ r, late.settlement = some r ∧ r.1.status = .settled) ∧ db'.settlement = db.settlement ∧
      db'.expenses = db.expenses := by
  simp only [certify, bind_accepts, fetch_accepts, Option.filter_eq_some_iff, decide_eq_true_eq,
    pure_accepts] at h
  obtain ⟨settlement, ⟨hr, hst⟩, report, _, rfl⟩ := h
  simp only [bind_accepts, pure_accepts] at hw
  obtain ⟨db1, hclosure, rfl⟩ := hw
  refine ⟨⟨settlement, hr, hst⟩, ?_⟩
  unfold writeClosure at hclosure
  cases hold : late.closure with
  | none =>
      simp only [hold, bind_accepts, refuse_accepts, exists_unit, pure_accepts] at hclosure
      obtain ⟨_, rfl⟩ := hclosure
      exact ⟨rfl, rfl⟩
  | some old =>
      simp only [hold, bind_accepts, fetch_accepts, pure_accepts] at hclosure
      obtain ⟨c, _, rfl⟩ := hclosure
      exact ⟨rfl, rfl⟩

end Decided

/-! ## 3. Alone -/

/-- The call of the service that a request makes. -/
def apply (cfg : Config) : ClosureRequest → State → Result State
  | .requestCloseout env actor remarks => CloseoutService.requestCloseout env actor remarks
  | .certifyCloseout env actor newId closureNotes venueCleared =>
      CloseoutService.certifyCloseout cfg env actor newId closureNotes venueCleared
  | .reopenSettlement env actor settlementId newId reason _ =>
      SettlementService.reopenSettlement env actor settlementId newId reason
  | .createDraftExpense env actor newId payload =>
      ExpenseService.createDraftExpense cfg env actor newId payload
  | .submitExpenses env actor expenseIds => ExpenseService.submitExpenses env actor expenseIds

section Alone

variable {cfg : Config} {env : Env} {actor : User} {s s' : State}

/-- A closeout writes the status of the event. -/
theorem writeEvent_status (s : State) (status : EventStatus) (entries : List AuditEntry) :
    writeEvent s ({ s with event := { s.event with status := status } }.log entries) s =
      { s with event := { s.event with status := status } }.log entries := by
  simp only [writeEvent, Event.flush, assigned_self, State.log, State.entriesSince, List.drop_left]

theorem requestCloseout_serial {remarks : Option Text}
    (h : CloseoutService.requestCloseout env actor remarks s = .ok s') :
    (requestScript env actor remarks).serial s = .ok s' := by
  have hwrite : writeEvent s s' s = s' := by
    cases CloseoutService.requestCloseout_step h with
    | requestedAgain hfrom =>
        simp only [writeEvent, Event.flush, assigned_self, State.entriesSince, List.drop_length,
          List.append_nil]
    | requested entries hfrom hready => exact writeEvent_status s _ entries
  show (Prog.lift (do
    let s' ← CloseoutService.requestCloseout env actor remarks s
    return fun db => .ok (writeEvent s s' db)) : EventProg (State → Result State)).serial s = .ok s'
  rw [h]
  exact congrArg Except.ok hwrite

/-- The closure row over the one that is there. -/
theorem writeClosure_self {row : EventClosure} (hid : ∀ old ∈ s.closure, row.id = old.id) :
    writeClosure s.closure row s = .ok { s with closure := some row } := by
  unfold writeClosure
  cases hold : s.closure with
  | none =>
      simp only [bind_accepts, refuse_accepts, exists_unit, pure_accepts, ne_eq, not_true_eq_false,
        not_false_eq_true, true_and]
  | some old =>
      simp only [bind_accepts, fetch_accepts, pure_accepts, Option.filter_eq_some_iff,
        decide_eq_true_eq]
      refine ⟨old, ⟨rfl, rfl⟩, ?_⟩
      have hflush : EventClosure.flush old row old = row := by
        unfold EventClosure.flush
        simp only [assigned_self]
        rw [← hid old hold]
      rw [hflush]

theorem certifyCloseout_serial {newId : Uuid} {closureNotes : Option Text} {venueCleared : Bool}
    (h : CloseoutService.certifyCloseout cfg env actor newId closureNotes venueCleared s = .ok s') :
    (certifyScript cfg env actor newId closureNotes venueCleared).serial s = .ok s' := by
  show (Prog.lift (do
    let _ ← CloseoutService.certifyCloseout cfg env actor newId closureNotes venueCleared s
    certify cfg env actor newId closureNotes s) : EventProg (State → Result State)).serial s = .ok s'
  have hcertify : ∃ write, certify cfg env actor newId closureNotes s = .ok write ∧
      write s = .ok s' := by
    simp only [CloseoutService.certifyCloseout, bind_accepts, exists_unit, refuse_accepts,
      fetch_accepts, CloseoutService.getClosureEligibility, pure_accepts] at h
    obtain ⟨_, _, _, _, _, _, settlement, hr, report, hrep, rfl⟩ := h
    simp only [certify, bind_accepts, fetch_accepts, pure_accepts]
    refine ⟨_, ⟨settlement, hr, report, hrep, rfl⟩, ?_⟩
    have hid : ∀ old ∈ s.closure, (CloseoutService.closureRow cfg env actor newId closureNotes s
        settlement.1 report.1.id).id = old.id := by
      intro old hold
      unfold CloseoutService.closureRow
      rw [hold]
      rfl
    simp only [bind_accepts, pure_accepts]
    refine ⟨_, writeClosure_self hid, ?_⟩
    simp only [writeEvent, Event.flush, assigned_self, State.log, State.entriesSince, List.drop_left]
  obtain ⟨write, hd, hw⟩ := hcertify
  rw [h]
  show (Prog.lift (certify cfg env actor newId closureNotes s)).serial s = .ok s'
  rw [hd]
  exact hw

theorem createDraftExpense_serial {newId : Uuid} {payload : ActualExpenseCreate}
    (h : ExpenseService.createDraftExpense cfg env actor newId payload s = .ok s') :
    (draftScript cfg env actor newId payload).serial s = .ok s' := by
  obtain ⟨t, entries, hstep, rfl⟩ := ExpenseService.createDraftExpense_step h
  show (Prog.lift (do
    let s' ← ExpenseService.createDraftExpense cfg env actor newId payload s
    return fun db => do
      let rows ← fetch (db.expenses.insertAll (s'.expenses.rows.drop s.expenses.rows.length))
        integrityError
      return { db with
        expenses := rows
        auditLogs := db.auditLogs ++ s'.entriesSince s }) :
      EventProg (State → Result State)).serial s = _
  rw [h]
  cases hstep with
  | created row t hcomp hst hins =>
      have hdrop : t.rows.drop s.expenses.rows.length = [row] := by
        rw [(Table.insert_eq_some.mp hins).2, List.drop_left]
      show (do
        let rows ← fetch (s.expenses.insertAll (t.rows.drop s.expenses.rows.length)) integrityError
        return { s with
          expenses := rows
          auditLogs := s.auditLogs ++ State.entriesSince _ s } : Result State) = _
      rw [hdrop]
      simp only [Table.insertAll, hins, Option.bind_some, bind_accepts, fetch_accepts, pure_accepts,
        State.log, State.entriesSince, List.drop_left]
      exact ⟨t, rfl, rfl⟩
  | decided m old row t _ _ _ _ _ hdec => cases hdec

/-- The keys of the selected rows select the same rows. -/
theorem submitLoaded_eq {expenseIds : Option (List Uuid)} {e : ActualExpense}
    (he : e ∈ s.expenses.rows) :
    submitLoaded env actor (selectedIds expenseIds s) e =
      ExpenseService.submitRow env.now actor.id expenseIds e := by
  have hmem : e.id ∈ selectedIds expenseIds s ↔ ExpenseService.Selected expenseIds e := by
    unfold selectedIds
    rw [List.mem_map]
    constructor
    · intro h
      obtain ⟨d, hd, hid⟩ := h
      obtain ⟨hdmem, hsel⟩ := List.mem_filter.mp hd
      cases Table.eq_of_key_eq (t := s.expenses) hdmem he hid
      exact of_decide_eq_true hsel
    · intro hsel
      exact ⟨e, List.mem_filter.mpr ⟨he, decide_eq_true hsel⟩, rfl⟩
  unfold submitLoaded ExpenseService.submitRow
  by_cases hsel : ExpenseService.Selected expenseIds e
  · rw [if_pos (hmem.mpr hsel), if_pos hsel]
  · rw [if_neg fun hid => hsel (hmem.mp hid), if_neg hsel]

theorem submitExpenses_serial {expenseIds : Option (List Uuid)}
    (h : ExpenseService.submitExpenses env actor expenseIds s = .ok s') :
    (submitScript env actor expenseIds).serial s = .ok s' := by
  show (Prog.lift (do
    let s' ← ExpenseService.submitExpenses env actor expenseIds s
    return fun db => .ok { db with
      expenses := db.expenses.modify (submitLoaded env actor (selectedIds expenseIds s))
        (submitLoaded_key _ _ _) (submitLoaded_check _ _ _)
      auditLogs := db.auditLogs ++ s'.entriesSince s }) :
      EventProg (State → Result State)).serial s = _
  rw [h]
  have htable : s.expenses.modify (submitLoaded env actor (selectedIds expenseIds s))
      (submitLoaded_key _ _ _) (submitLoaded_check _ _ _) =
      s.expenses.modify (ExpenseService.submitRow env.now actor.id expenseIds)
        (ExpenseService.submitRow_key _ _ _) (ExpenseService.submitRow_check _ _ _) := by
    unfold Table.modify
    congr 1
    exact List.map_congr_left fun e he => submitLoaded_eq he
  simp only [ExpenseService.submitExpenses, bind_accepts, exists_unit, pure_accepts] at h
  obtain ⟨_, _, _, _, rfl⟩ := h
  show Except.ok { s with
    expenses := s.expenses.modify (submitLoaded env actor (selectedIds expenseIds s))
      (submitLoaded_key _ _ _) (submitLoaded_check _ _ _)
    auditLogs := s.auditLogs ++ State.entriesSince _ s } = _
  rw [htable]
  simp only [State.log, State.entriesSince, List.drop_left]

theorem reopenSettlement_serial {settlementId newId : Uuid} {reason : Text} {preloaded : Bool}
    (h : SettlementService.reopenSettlement env actor settlementId newId reason s = .ok s') :
    (SettlementRequest.script cfg
      ⟨env, actor, settlementId, .reopen newId reason, preloaded⟩).serial s = .ok s' := by
  obtain ⟨hauth, hreason, loaded, hr, hst, hmut, hfree, row, hrow, rfl⟩ :=
    reopenSettlement_accepts.mp h
  have hfresh : SettlementService.reopenSettlement env actor settlementId newId reason
      { s with attached := none } = .ok _ :=
    reopenSettlement_accepts.mpr ⟨hauth, hreason, loaded, hr, hst, hmut, hfree, row, hrow, rfl⟩
  exact SettlementRequest.serial (r := ⟨env, actor, settlementId, .reopen newId reason, preloaded⟩)
    hfresh

/-- **Alone, each transaction is the call of its service.** -/
theorem serial {r : ClosureRequest} (h : r.apply cfg s = .ok s') :
    (script cfg r).serial s = .ok s' := by
  cases r with
  | requestCloseout env actor remarks => exact requestCloseout_serial h
  | certifyCloseout env actor newId closureNotes venueCleared => exact certifyCloseout_serial h
  | reopenSettlement env actor settlementId newId reason preloaded => exact reopenSettlement_serial h
  | createDraftExpense env actor newId payload => exact createDraftExpense_serial h
  | submitExpenses env actor expenseIds => exact submitExpenses_serial h

end Alone

end ClosureRequest

/-! ## 4. The law -/

/-- **What CLOSED promises.** -/
def ClosedSettled (s : State) : Prop :=
  s.event.status = .closed → (∃ r, s.settlement = some r ∧ r.1.status = .settled) ∧
    ∀ e ∈ s.expenses, ¬ e.Unresolved

/-- What a certification has selected, the expenses and, last, the settlement, is committed still. -/
def ClosureRequest.Current (views : List State) (db : State) : Prop :=
  ∀ expenses ∈ views[2]?, ∀ settlement ∈ views[8]?,
    expenses.expenses = db.expenses ∧ settlement.settlement = db.settlement

instance (views : List State) (db : State) : Decidable (ClosureRequest.Current views db) :=
  inferInstanceAs (Decidable (∀ expenses ∈ views[2]?, ∀ settlement ∈ views[8]?, _ ∧ _))

/-- The condition on a commit: a draft or a reopening finds the event open, a certification what it
    has selected. -/
def ClosureRequest.Timely (views : List State) (db : State) : ClosureRequest → Prop
  | .createDraftExpense .. | .reopenSettlement .. => db.event.status ≠ .closed
  | .certifyCloseout .. => ClosureRequest.Current views db
  | .requestCloseout .. | .submitExpenses .. => True

instance (views : List State) (db : State) : (r : ClosureRequest) → Decidable (r.Timely views db)
  | .createDraftExpense .. | .reopenSettlement .. => inferInstanceAs (Decidable (_ ≠ _))
  | .certifyCloseout .. => inferInstanceAs (Decidable (ClosureRequest.Current views db))
  | .requestCloseout .. | .submitExpenses .. => .isTrue trivial

section Runs

variable {cfg : Config} {init : State → Prop} {ok : World Failure State RowKey ClosureRequest →
  Action ClosureRequest → Prop} {w : World Failure State RowKey ClosureRequest}

/-- The worlds of all interleavings of closure requests, under a condition on each step. -/
abbrev ClosureWorld (cfg : Config) (init : State → Prop)
    (ok : World Failure State RowKey ClosureRequest → Action ClosureRequest → Prop)
    (w : World Failure State RowKey ClosureRequest) : Prop :=
  Transactions.Reachable (ClosureRequest.script cfg) init ok w

/-- A script that begins with the lock of the event holds it with every view. -/
theorem since_holdEvent {α : Type} {f : State → EventProg α} {v : State} {vs : List State} :
    (Prog.hold (fun _ => [RowKey.event]) >>= f).since .event (v :: vs) = v :: vs := by
  show (if RowKey.event ∈ [RowKey.event] then v :: vs else _) = v :: vs
  rw [if_pos (List.mem_singleton.mpr rfl)]

/-- **The event is written under its lock.** -/
theorem ClosureWorld.pinned (h : ClosureWorld cfg init ok w) {i : Nat}
    {t : Txn Failure State RowKey ClosureRequest} (hi : w.running i = some t) :
    ∀ v ∈ (ClosureRequest.script cfg t.request).since .event t.views, v.event = w.db.event := by
  refine Transactions.Reachable.pinned (f := fun s : State => s.event) ?_ h i t hi
  intro w i t s _ _ hcommit
  obtain ⟨write, hdone, hw⟩ := hcommit.write
  cases hr : t.request with
  | requestCloseout env actor remarks =>
      rw [hr] at hdone
      obtain ⟨event, rest, _, _, hvs, _⟩ := ClosureRequest.request_decided hdone
      refine .inr ?_
      rw [hvs]
      unfold ClosureRequest.script ClosureRequest.requestScript
      simp only [since_holdEvent]
      exact List.cons_ne_nil _ _
  | certifyCloseout env actor newId closureNotes venueCleared =>
      rw [hr] at hdone
      obtain ⟨event, rest, _, _, _, _, hvs, _⟩ := ClosureRequest.certify_decided hdone
      refine .inr ?_
      rw [hvs]
      unfold ClosureRequest.script ClosureRequest.certifyScript
      simp only [since_holdEvent]
      exact List.cons_ne_nil _ _
  | reopenSettlement env actor settlementId newId reason preloaded =>
      rw [hr] at hdone
      obtain ⟨seen, _, _, _, hd, _⟩ := SettlementRequest.decided hdone
      obtain ⟨_, _, _, _, _, _, _, _, _, _, _, hevent, _⟩ := SettlementRequest.decide_accepts hd hw
      exact .inl hevent
  | createDraftExpense env actor newId payload =>
      rw [hr] at hdone
      exact .inl (ClosureRequest.draft_decided hdone hw)
  | submitExpenses env actor expenseIds =>
      rw [hr] at hdone
      obtain ⟨_, _, _, _, hevent⟩ := ClosureRequest.submit_decided hdone hw
      exact .inl hevent

/-- The first view of a request that has locked the event first. -/
theorem ClosureWorld.current (h : ClosureWorld cfg init ok w) {i : Nat}
    {t : Txn Failure State RowKey ClosureRequest} (hi : w.running i = some t) {event : State}
    {rest : List State} (hvs : t.views = event :: rest)
    {f : State → EventProg (State → Result State)}
    (hscript : ClosureRequest.script cfg t.request = Prog.hold (fun _ => [RowKey.event]) >>= f) :
    event.event = w.db.event := by
  refine ClosureWorld.pinned h hi event ?_
  rw [hvs, hscript, since_holdEvent]
  exact List.mem_cons_self ..

/-- Every commit is timely. -/
abbrev TimelyCommits : World Failure State RowKey ClosureRequest → Action ClosureRequest → Prop :=
  OnCommit fun r views db => r.Timely views db

/-- **The step lemma**: a timely commit keeps what CLOSED promises. -/
theorem ClosureWorld.commit (h : ClosureWorld cfg init ok w) {i : Nat}
    {t : Txn Failure State RowKey ClosureRequest} {s : State}
    (hcommit : Commit (ClosureRequest.script cfg) w i t s)
    (htimely : t.request.Timely t.views w.db) (hlaw : ClosedSettled w.db) : ClosedSettled s := by
  obtain ⟨write, hdone, hw⟩ := hcommit.write
  intro hclosed
  cases hr : t.request with
  | requestCloseout env actor remarks =>
      rw [hr] at hdone
      obtain ⟨event, rest, books, s', _, _, hs', rfl⟩ := ClosureRequest.request_decided hdone
      cases hw
      have hst : (Event.flush books.event s'.event w.db.event).status = .closed := hclosed
      cases CloseoutService.requestCloseout_step hs' with
      | requestedAgain hfrom =>
          -- nothing is written
          unfold Event.flush assigned at hst
          rw [if_pos rfl] at hst
          exact hlaw hst
      | requested entries hfrom hready =>
          unfold Event.flush assigned at hst
          rw [if_neg] at hst
          · cases hst
          · rw [hfrom]
            exact fun hs => nomatch hs
  | certifyCloseout env actor newId closureNotes venueCleared =>
      rw [hr] at hdone htimely
      obtain ⟨event, rest, books, late, expenses, settlement, _, _, hexp, hbooks, hset, hlate, _,
        ⟨s', hs'⟩, hcert⟩ := ClosureRequest.certify_decided hdone
      obtain ⟨⟨r, hlr, hst⟩, hsame, hsameExp⟩ := ClosureRequest.certify_accepts hcert hw
      obtain ⟨hexpNow, hsetNow⟩ := htimely expenses hexp settlement hset
      have hready : ClosureReady books := by
        cases CloseoutService.certifyCloseout_step hs' with
        | certified r report closure entries hfrom hready => exact hready
      refine ⟨⟨r, ?_, hst⟩, ?_⟩
      · rw [hsame, ← hsetNow, ← hlate]
        exact hlr
      · rw [hsameExp, ← hexpNow, ← hbooks]
        exact hready.resolved.1
  | reopenSettlement env actor settlementId newId reason preloaded =>
      rw [hr] at hdone htimely
      obtain ⟨seen, _, _, _, hd, _⟩ := SettlementRequest.decided hdone
      obtain ⟨_, _, _, _, _, _, _, _, _, _, _, hevent, _⟩ := SettlementRequest.decide_accepts hd hw
      rw [hevent] at hclosed
      exact (htimely hclosed).elim
  | createDraftExpense env actor newId payload =>
      rw [hr] at hdone htimely
      rw [ClosureRequest.draft_decided hdone hw] at hclosed
      exact (htimely hclosed).elim
  | submitExpenses env actor expenseIds =>
      rw [hr] at hdone
      obtain ⟨event, rest, hvs, hcomp, hevent⟩ := ClosureRequest.submit_decided hdone hw
      have hscript : ClosureRequest.script cfg t.request =
          ClosureRequest.submitScript env actor expenseIds := by
        rw [hr]
        rfl
      -- the submission has read the event under its lock
      have hnow := ClosureWorld.current h hcommit.running hvs hscript
      rw [hevent, ← hnow, hcomp] at hclosed
      cases hclosed

/-- **Closure under concurrency.** In every run of closeouts, certifications, reopenings, drafts and
    submissions all of whose commits are timely, a CLOSED event has its settlement SETTLED and no
    claim unresolved. -/
theorem closed_settled (hinit : ∀ s, init s → ClosedSettled s)
    (h : ClosureWorld cfg init TimelyCommits w) : ClosedSettled w.db := by
  refine Transactions.Reachable.invariant (P := fun _ s => ClosedSettled s) hinit ?_ h
  intro w i t s hw hok hcommit hlaw
  exact ClosureWorld.commit hw hcommit (OnCommit.commit hw hok hcommit) hlaw

end Runs

/-! ## 5. A closure that is overtaken -/

namespace Sample

def draftRequest : ClosureRequest := .createDraftExpense env secretary (uid 41)
  { category := .catering
    description := "food".toList
    vendorName := "vendor".toList
    vendorGstin := none
    invoiceNumber := some "second".toList
    invoiceDate := 0
    claimedAmount := 6000
    billDocumentId := uid 20
    budgetLineItemId := none }

/-- The request and the certification of the closeout, in the sessions 1 and 2. -/
def closing : List (Action ClosureRequest) :=
  .start 1 (.requestCloseout env secretary none) :: List.replicate 9 (.run 1) ++
    .start 2 (.certifyCloseout env dean (uid 50) none true) :: List.replicate 13 (.run 2)

/-- The sample settlement is paid. -/
def paid : List Call := settle ++ [byOfficer (payment 31 .reimbursementDisbursement 6000)]

end Sample

/-- The request and the certification, one after the other, are timely. -/
theorem closed_settled_sample :
    ∃ (init : State → Prop) (w : World Failure State RowKey ClosureRequest),
      ClosureWorld (Sample.config .postgresql) init TimelyCommits w ∧ w.db.event.status = .closed ∧
      ClosedSettled w.db := by
  have hrun : Runs.Ends (Runs.run (Call.exec (Sample.config .sqlite)) Sample.paid
      (Sample.opening none)) (fun s0 => s0.event.status = .completed ∧
      Runs.Ends (Runs.run (Runs.only TimelyCommits .idle
        (World.next (ClosureRequest.script (Sample.config .postgresql)))) Sample.closing
        (World.idle s0)) (fun w => w.db.event.status = .closed)) := by
    decide
  obtain ⟨s0, _, hcomp, w, hw, hclosed⟩ := hrun
  have hreach : ClosureWorld (Sample.config .postgresql) (fun s => s = s0) TimelyCommits w :=
    Runs.Reach.path (.start ⟨s0, rfl, rfl⟩) (Runs.path_of_run_only hw)
  have hinit : ∀ s, s = s0 → ClosedSettled s := by
    intro s hs hst
    rw [hs, hcomp] at hst
    cases hst
  exact ⟨fun s => s = s0, w, hreach, hclosed, closed_settled hinit hreach⟩

/-- A draft that has read the COMPLETED event commits after its certification: the CLOSED event has
    a claim in DRAFT. -/
theorem closed_with_draft :
    ¬ ∀ (cfg : Config) (init : State → Prop) (w : World Failure State RowKey ClosureRequest),
      (∀ s, init s → ClosedSettled s) → ClosureWorld cfg init (fun _ _ => True) w →
      ClosedSettled w.db := by
  intro hall
  have hrun : Runs.Ends (Runs.run (Call.exec (Sample.config .sqlite)) Sample.paid
      (Sample.opening none)) (fun s0 => s0.event.status = .completed ∧
      Runs.Ends (Runs.run (World.next (ClosureRequest.script (Sample.config .postgresql)))
        (.start 0 Sample.draftRequest :: .run 0 :: .run 0 :: Sample.closing ++ [.run 0])
        (World.idle s0)) (fun w => w.db.event.status = .closed ∧
          ∃ e ∈ w.db.expenses.rows, e.Unresolved)) := by
    decide
  obtain ⟨s0, _, hcomp, w, hw, hclosed, e, he, hopen⟩ := hrun
  have hreach : ClosureWorld (Sample.config .postgresql) (fun s => s = s0) (fun _ _ => True) w :=
    Runs.Reach.path (.start ⟨s0, rfl, rfl⟩) ((Runs.path_of_run hw).under fun _ _ => trivial)
  have hinit : ∀ s, s = s0 → ClosedSettled s := by
    intro s hs hst
    rw [hs, hcomp] at hst
    cases hst
  exact (hall _ _ w hinit hreach hclosed).2 e he hopen

end CampusConnect
