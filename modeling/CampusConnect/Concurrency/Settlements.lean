/-
  File:      CampusConnect/Concurrency/Settlements.lean
  Subject:   Submission, audit and reopening of one settlement by any number of sessions.

  * `SettlementRequest.script`: the transactions of the three services. Through an endpoint the
    settlement is loaded before it is locked, and keeps the attributes it was loaded with;
  * `SettlementRequest.decided`, `decide_accepts`: what a commit was decided on, and what it writes;
  * `SettlementRequest.serial`: alone, each is the call of its service;
  * `Transition`: the legal transitions of a settlement;
  * `SettlementWorld.transition`: a request whose own check passes on the row its lock returned takes a
    legal transition from the committed status.
-/
import CampusConnect.Concurrency.Sessions

namespace CampusConnect

open Guarded Rows Transactions SettlementService

/-! ## 1. The transactions -/

inductive SettlementOp where
  | submit
  | audit (action : Text) (remarks queryReason : Option Text)
  | reopen (newId : Uuid) (reason : Text)

namespace SettlementOp

def move : SettlementOp → SettlementMove
  | .submit => .submitted
  | .audit .. => .audited
  | .reopen .. => .reopened

/-- The operation on the rows a session has loaded. -/
def apply (cfg : Config) (env : Env) (actor : User) (settlementId : Uuid) :
    SettlementOp → State → Result State
  | .submit => submitSettlement cfg env actor settlementId
  | .audit action remarks queryReason =>
      auditSettlement cfg env actor settlementId action remarks queryReason
  | .reopen newId reason => reopenSettlement env actor settlementId newId reason

theorem apply_step {cfg : Config} {env : Env} {actor : User} {settlementId : Uuid} {op : SettlementOp}
    {s s' : State} (h : op.apply cfg env actor settlementId s = .ok s') :
    SettlementStep cfg s op.move s' := by
  cases op with
  | submit => exact submitSettlement_step h
  | audit action remarks queryReason => exact auditSettlement_step h
  | reopen newId reason => exact reopenSettlement_step h

end SettlementOp

/-- A call of one of the three. `preloaded` means through the endpoint. -/
structure SettlementRequest where
  env : Env
  actor : User
  settlementId : Uuid
  op : SettlementOp
  preloaded : Bool

/-- The columns the three assign, where they differ from the loaded ones. -/
def FinancialSettlement.flush (loaded row c : FinancialSettlement) : FinancialSettlement :=
  { c with
    status := assigned loaded.status row.status c.status
    submittedAt := assigned loaded.submittedAt row.submittedAt c.submittedAt
    auditedBy := assigned loaded.auditedBy row.auditedBy c.auditedBy
    auditedAt := assigned loaded.auditedAt row.auditedAt c.auditedAt
    financeRemarks := assigned loaded.financeRemarks row.financeRemarks c.financeRemarks
    queryReason := assigned loaded.queryReason row.queryReason c.queryReason }

instance (s : State) (v : SettlementRevision) : Decidable (RevisionTaken s v) :=
  inferInstanceAs (Decidable (∃ u ∈ s.settlementRevisions, _ ∧ _))

namespace SettlementRequest

variable (cfg : Config) (r : SettlementRequest)

/-- The settlement row, as `SELECT … FOR UPDATE` by its key finds it. -/
def lockedRows (s : State) : List RowKey :=
  if settlementById s r.settlementId = none then [] else [.settlement]

/-- The columns that changed, the new revision and the audit entries. -/
def write (seen s' db : State) : Result State := do
  let db ← match seen.settlement, s'.settlement with
    | some loaded, some row =>
        db.updateSettlement r.settlementId (FinancialSettlement.flush loaded.1 row.1)
    | _, _ => pure db
  let revisions := s'.settlementRevisions.drop seen.settlementRevisions.length
  refuse (∃ v ∈ revisions, RevisionTaken db v) integrityError
  return { db with
    settlementRevisions := db.settlementRevisions ++ revisions
    auditLogs := db.auditLogs ++ s'.entriesSince seen }

def decide (seen : State) : Result (State → Result State) := do
  let s' ← r.op.apply cfg r.env r.actor r.settlementId seen
  return r.write seen s'

/-- What the operation selects after the lock, and its decision. The session carries no fingerprint
    of its own. -/
def body (event settlement payments : State) : EventProg (State → Result State) :=
  match r.op with
  | .reopen _ _ => do
      let revisions ← Prog.view
      Prog.lift (decide cfg r { revisions with
        event := event.event
        settlement := settlement.settlement
        payments := payments.payments
        attached := none })
  | _ => do
      let versions ← Prog.view
      let budget ← Prog.view
      let expenses ← Prog.view
      let incomes ← Prog.view
      let advance ← Prog.view
      let logs ← Prog.view
      Prog.lift (decide cfg r { logs with
        event := event.event
        settlement := settlement.settlement
        payments := payments.payments
        proposal := { versions.proposal with budgetProposal := budget.proposal.budgetProposal }
        expenses := expenses.expenses
        incomes := incomes.incomes
        advance := advance.advance
        attached := none })

/-- The endpoint loads the event, and the settlement with its payments; the service locks the
    settlement, which stays as loaded. -/
def script : EventProg (State → Result State) :=
  if r.preloaded then do
    let event ← Prog.view
    let settlement ← Prog.view
    let payments ← Prog.view
    let _ ← Prog.hold r.lockedRows
    body cfg r event settlement payments
  else do
    let settlement ← Prog.hold r.lockedRows
    let payments ← Prog.view
    let event ← Prog.view
    body cfg r event settlement payments

/-- The view of the FOR UPDATE select, among the views of a session. -/
def held (views : List State) : Option State := if r.preloaded then views[3]? else views[0]?

variable {cfg r}

theorem body_decided {event settlement payments : State} {vs : List State}
    {write : State → Result State} (h : (body cfg r event settlement payments).after vs = .done write) :
    ∃ seen, decide cfg r seen = .ok write ∧ seen.event = event.event ∧
      seen.settlement = settlement.settlement := by
  unfold body at h
  cases hop : r.op with
  | reopen newId reason =>
      simp only [hop, Prog.after_view, Prog.after_lift] at h
      obtain ⟨revisions, _, _, hd⟩ := h
      exact ⟨_, hd, rfl, rfl⟩
  | submit =>
      simp only [hop, Prog.after_view, Prog.after_lift] at h
      obtain ⟨_, _, _, _, _, _, _, _, _, _, _, _, _, _, _, logs, _, _, hd⟩ := h
      exact ⟨_, hd, rfl, rfl⟩
  | audit action remarks queryReason =>
      simp only [hop, Prog.after_view, Prog.after_lift] at h
      obtain ⟨_, _, _, _, _, _, _, _, _, _, _, _, _, _, _, logs, _, _, hd⟩ := h
      exact ⟨_, hd, rfl, rfl⟩

/-- **What a commit was decided on**: an event and a settlement it has read, the settlement through an
    endpoint before the lock, otherwise with it. -/
theorem decided {vs : List State} {write : State → Result State}
    (h : (script cfg r).after vs = .done write) :
    ∃ seen event settlement held, decide cfg r seen = .ok write ∧ event ∈ vs ∧ settlement ∈ vs ∧
      seen.event = event.event ∧ seen.settlement = settlement.settlement ∧ r.held vs = some held ∧
      held ∈ vs ∧ (r.preloaded = false → settlement = held) ∧
      (RowKey.settlement ∈ r.lockedRows held → held ∈ (script cfg r).since .settlement vs) := by
  unfold script at h ⊢
  unfold SettlementRequest.held
  cases hp : r.preloaded with
  | true =>
      simp only [hp, if_true, Prog.after_view, Prog.after_hold] at h ⊢
      obtain ⟨event, _, rfl, settlement, _, rfl, payments, _, rfl, held, rest, rfl, h⟩ := h
      obtain ⟨seen, hd, hevent, hsettlement⟩ := body_decided h
      refine ⟨seen, event, settlement, held, hd, by simp, by simp, hevent, hsettlement, rfl, by simp,
        fun hf => (nomatch hf), fun hk => ?_⟩
      show held ∈ if RowKey.settlement ∈ r.lockedRows held then held :: rest else _
      rw [if_pos hk]
      simp
  | false =>
      simp only [hp, Bool.false_eq_true, if_false, Prog.after_view, Prog.after_hold] at h ⊢
      obtain ⟨held, _, rfl, payments, _, rfl, event, rest, rfl, h⟩ := h
      obtain ⟨seen, hd, hevent, hsettlement⟩ := body_decided h
      refine ⟨seen, event, held, held, hd, by simp, by simp, hevent, hsettlement, rfl, by simp,
        fun _ => rfl, fun hk => ?_⟩
      show held ∈ if RowKey.settlement ∈ r.lockedRows held then held :: payments :: event :: rest
        else _
      rw [if_pos hk]
      simp

/-! ## 2. Alone -/

/-- An operation changes the tracked columns of the row, and adds revisions of new numbers. -/
theorem apply_tracked {s s' : State} (h : r.op.apply cfg r.env r.actor r.settlementId s = .ok s') :
    ∃ (loaded row : Stored FinancialSettlement) (revisions all : List SettlementRevision)
      (entries : List AuditEntry) (attached : Option Text),
      s.settlement = some loaded ∧ loaded.1.id = r.settlementId ∧
      row.1 = { loaded.1 with
        status := row.1.status
        submittedAt := row.1.submittedAt
        auditedBy := row.1.auditedBy
        auditedAt := row.1.auditedAt
        financeRemarks := row.1.financeRemarks
        queryReason := row.1.queryReason } ∧
      (∀ v ∈ revisions, ¬ RevisionTaken s v) ∧ all = s.settlementRevisions ++ revisions ∧
      s' = { s with settlement := some row, settlementRevisions := all, attached := attached }.log
        entries := by
  cases hop : r.op with
  | submit =>
      rw [hop] at h
      obtain ⟨loaded, ⟨hr, hid⟩, _, _, _, prepared, _, row, hrow, rfl⟩ := submitSettlement_accepts.mp h
      refine ⟨loaded, row, [], _, _, prepared, hr, hid, ?_, ?_, (List.append_nil _).symm, rfl⟩
      · rw [← hrow]
      · intro v hv
        cases hv
  | audit action remarks queryReason =>
      rw [hop] at h
      simp only [SettlementOp.apply, auditSettlement, bind_accepts, fetch_accepts, exists_unit,
        settlementById_eq_some] at h
      obtain ⟨_, decision, _, loaded, ⟨hr, hid⟩, _, _, prepared, _, h⟩ := h
      cases decision with
      | query =>
          simp only [bind_accepts, fetch_accepts, pure_accepts, store_eq_some] at h
          obtain ⟨_, _, row, hrow, rfl⟩ := h
          refine ⟨loaded, row, [], _, _, prepared, hr, hid, ?_, ?_, (List.append_nil _).symm, rfl⟩
          · rw [← hrow]
          · intro v hv
            cases hv
      | approve =>
          simp only [bind_accepts, fetch_accepts, pure_accepts, store_eq_some] at h
          obtain ⟨row, hrow, rfl⟩ := h
          refine ⟨loaded, row, [], _, _, prepared, hr, hid, ?_, ?_, (List.append_nil _).symm, rfl⟩
          · rw [← hrow]
          · intro v hv
            cases hv
  | reopen newId reason =>
      rw [hop] at h
      obtain ⟨_, _, loaded, ⟨hr, hid⟩, _, _, hfree, row, hrow, rfl⟩ := reopenSettlement_accepts.mp h
      refine ⟨loaded, row, [settlementRevision s newId loaded.1 reason r.actor], _, _, s.attached, hr,
        hid, ?_, ?_, rfl, rfl⟩
      · rw [← hrow]
      · intro v hv
        rw [List.mem_singleton.mp hv]
        exact hfree

/-- **Alone, the transaction is the call of its service** in a session of its own. -/
theorem serial {s s' : State}
    (h : r.op.apply cfg r.env r.actor r.settlementId { s with attached := none } = .ok s') :
    (script cfg r).serial s = .ok { s' with attached := s.attached } := by
  have hdecide : ∃ write, decide cfg r { s with attached := none } = .ok write ∧
      write s = .ok { s' with attached := s.attached } := by
    simp only [decide, bind_accepts, pure_accepts]
    refine ⟨_, ⟨s', h, rfl⟩, ?_⟩
    obtain ⟨loaded, row, revisions, _, entries, attached, hr, hid, htracked, hfree, rfl, rfl⟩ :=
      apply_tracked h
    have hloaded : s.settlement = some loaded := hr
    have hflush : FinancialSettlement.flush loaded.1 row.1 loaded.1 = row.1 := by
      unfold FinancialSettlement.flush
      simp only [assigned_self]
      exact htracked.symm
    have htaken : ¬ ∃ v ∈ revisions, RevisionTaken s v := by
      intro hex
      obtain ⟨v, hv, ht⟩ := hex
      exact hfree v hv ht
    unfold write
    simp only [hloaded, State.log, bind_accepts, State.updateSettlement_accepts, refuse_accepts,
      exists_unit, pure_accepts, List.drop_left, State.entriesSince]
    refine ⟨_, ⟨loaded, row, rfl, hid, hflush.symm, rfl⟩, ?_, ?_⟩
    · exact htaken
    · rfl
  obtain ⟨write, hd, hw⟩ := hdecide
  have hbody : (body cfg r s s s).serial s = .ok { s' with attached := s.attached } := by
    unfold body
    cases r.op with
    | submit =>
        show (Prog.lift (decide cfg r { s with attached := none })).serial s = _
        rw [hd]
        exact hw
    | audit action remarks queryReason =>
        show (Prog.lift (decide cfg r { s with attached := none })).serial s = _
        rw [hd]
        exact hw
    | reopen newId reason =>
        show (Prog.lift (decide cfg r { s with attached := none })).serial s = _
        rw [hd]
        exact hw
  unfold script
  cases r.preloaded with
  | true => exact hbody
  | false => exact hbody

end SettlementRequest

/-! ## 3. Transitions -/

/-- The statuses an operation takes a settlement from: its status check. -/
def SettlementMove.From : SettlementMove → SettlementStatus → Prop
  | .prepared, st => st = .reopened
  | .submitted, st => st = .draft ∨ st = .queried ∨ st = .reopened
  | .audited, st => st = .underAudit
  | .paid, st => st = .pendingReimbursement ∨ st = .pendingRefund
  | .reopened, st => st = .settled

instance : (m : SettlementMove) → (st : SettlementStatus) → Decidable (m.From st)
  | .prepared, st => inferInstanceAs (Decidable (st = _))
  | .submitted, st => inferInstanceAs (Decidable (st = _ ∨ st = _ ∨ st = _))
  | .audited, st => inferInstanceAs (Decidable (st = _))
  | .paid, st => inferInstanceAs (Decidable (st = _ ∨ st = _))
  | .reopened, st => inferInstanceAs (Decidable (st = _))

/-- The statuses it takes a settlement to. -/
def SettlementMove.To : SettlementMove → SettlementStatus → Prop
  | .prepared, st => st = .draft
  | .submitted, st => st = .underAudit
  | .audited, st => st = .queried ∨ st = .settled ∨ st = .pendingReimbursement ∨ st = .pendingRefund
  | .paid, st => st = .pendingReimbursement ∨ st = .pendingRefund ∨ st = .settled
  | .reopened, st => st = .reopened

/-- **The legal transitions of a settlement.** -/
def SettlementMove.Transition (m : SettlementMove) (a b : SettlementStatus) : Prop := m.From a ∧ m.To b

theorem approved_to (type : SettlementType) : SettlementMove.audited.To (approvedStatus type) := by
  cases type with
  | balanced => exact .inr (.inl rfl)
  | reimbursementDue => exact .inr (.inr (.inl rfl))
  | refundDue => exact .inr (.inr (.inr rfl))

/-- One call after the other, every status change is legal. -/
theorem SettlementStep.transition {cfg : Config} {s s' : State} {m : SettlementMove}
    (h : SettlementStep cfg s m s') {r : Stored FinancialSettlement} (hr : s.settlement = some r) :
    ∃ row, s'.settlement = some row ∧ m.Transition r.1.status row.1.status := by
  cases h with
  | prepared preparedBy newId sanction row entries _ _ hprev _ _ hrow =>
      refine ⟨row, rfl, hprev r hr, ?_⟩
      rw [hrow, hr]
      rfl
  | submitted r' row prepared sanction entries hr' _ hfrom _ _ hst =>
      cases hr.symm.trans hr'
      exact ⟨row, rfl, hfrom, hst⟩
  | queried r' row prepared sanction entries hr' _ hfrom _ _ hst =>
      cases hr.symm.trans hr'
      exact ⟨row, rfl, hfrom, .inl hst⟩
  | approved r' row prepared sanction entries hr' _ hfrom _ _ hst =>
      cases hr.symm.trans hr'
      refine ⟨row, rfl, hfrom, ?_⟩
      rw [hst]
      exact approved_to _
  | paid r' row p entries hr' _ hfrom _ _ _ hrow =>
      cases hr.symm.trans hr'
      refine ⟨row, rfl, hfrom, ?_⟩
      rw [hrow]
      unfold clearedRow
      by_cases hrem : remainingDue r.1.settlementType r.1.institutionalPayout
          (netCash (s.payments ++ [p]) r.1) ≤ 0
      · rw [if_pos hrem]
        exact .inr (.inr rfl)
      · rw [if_neg hrem]
        rcases hfrom with he | he
        · exact .inl he
        · exact .inr (.inl he)
  | reopened r' row newId reason actor entries hr' _ hfrom _ hst =>
      cases hr.symm.trans hr'
      exact ⟨row, rfl, hfrom, hst⟩

/-- Of submission, audit and reopening none leaves a status that its check takes. -/
theorem SettlementOp.to_ne_from {op : SettlementOp} {a b : SettlementStatus} (ha : op.move.From a)
    (hb : op.move.To b) : b ≠ a := by
  rintro rfl
  cases op with
  | submit =>
      rcases ha with ha | ha | ha <;> rw [ha] at hb <;> cases hb
  | audit action remarks queryReason =>
      rcases hb with hb | hb | hb | hb <;> rw [hb] at ha <;> cases ha
  | reopen newId reason =>
      have hst : b = .settled := ha
      rw [hst] at hb
      cases hb

/-- **What an accepted decision writes**: the status, from the loaded one, whatever is committed. -/
theorem SettlementRequest.decide_accepts {cfg : Config} {r : SettlementRequest} {seen : State}
    {write : State → Result State} (h : decide cfg r seen = .ok write) {db db' : State}
    (hw : write db = .ok db') :
    ∃ (loaded committed row : Stored FinancialSettlement), seen.settlement = some loaded ∧
      ¬ seen.event.Sealed ∧ r.op.move.From loaded.1.status ∧ db.settlement = some committed ∧
      committed.1.id = r.settlementId ∧ db'.settlement = some row ∧ row.1.id = committed.1.id ∧
      r.op.move.To row.1.status ∧ db'.event = db.event ∧ db'.expenses = db.expenses := by
  simp only [decide, bind_accepts, pure_accepts] at h
  obtain ⟨s', hs', rfl⟩ := h
  have hstep := SettlementOp.apply_step hs'
  have hloaded : ∃ loaded, seen.settlement = some loaded ∧ ¬ seen.event.Sealed := by
    cases hop : r.op with
    | submit =>
        rw [hop] at hstep
        cases hstep with
        | submitted loaded row prepared sanction entries hr hmut => exact ⟨loaded, hr, hmut⟩
    | audit action remarks queryReason =>
        rw [hop] at hstep
        cases hstep with
        | queried loaded row prepared sanction entries hr hmut => exact ⟨loaded, hr, hmut⟩
        | approved loaded row prepared sanction entries hr hmut => exact ⟨loaded, hr, hmut⟩
    | reopen newId reason =>
        rw [hop] at hstep
        cases hstep with
        | reopened loaded row newId reason actor entries hr hmut => exact ⟨loaded, hr, hmut⟩
  obtain ⟨loaded, hr, hmut⟩ := hloaded
  obtain ⟨left, hleft, hfrom, hto⟩ := hstep.transition hr
  unfold write at hw
  simp only [hr, hleft, bind_accepts, State.updateSettlement_accepts, refuse_accepts, exists_unit,
    pure_accepts] at hw
  obtain ⟨db1, ⟨committed, row, hcom, hid, hrow, rfl⟩, _, rfl⟩ := hw
  refine ⟨loaded, committed, row, hr, hmut, hfrom, hcom, hid, rfl, ?_, ?_, rfl, rfl⟩
  · rw [hrow]
    rfl
  · rw [hrow]
    unfold FinancialSettlement.flush assigned
    rw [if_neg (SettlementOp.to_ne_from hfrom hto)]
    exact hto

/-! ## 4. Interleavings -/

section Runs

variable {cfg : Config} {s0 : State} {ok : World Failure State RowKey SettlementRequest →
  Action SettlementRequest → Prop} {w : World Failure State RowKey SettlementRequest}

/-- The worlds of all interleavings of these requests from a state, under a condition on each step. -/
abbrev SettlementWorld (cfg : Config) (s0 : State)
    (ok : World Failure State RowKey SettlementRequest → Action SettlementRequest → Prop)
    (w : World Failure State RowKey SettlementRequest) : Prop :=
  Transactions.Reachable (SettlementRequest.script cfg) (fun s => s = s0) ok w

/-- The key of the settlement row. -/
def settlementKey (s : State) : Option Uuid := s.settlement.map fun r => r.1.id

/-- No commit changes the key of the row. -/
theorem SettlementWorld.key (h : SettlementWorld cfg s0 ok w) :
    settlementKey w.db = settlementKey s0 := by
  refine Transactions.Reachable.invariant (P := fun _ s => settlementKey s = settlementKey s0) ?_ ?_ h
  · intro s hs
    rw [hs]
  · intro w i t s _ _ hcommit hkey
    obtain ⟨write, hdone, hw⟩ := hcommit.write
    obtain ⟨seen, _, _, _, hd, _⟩ := SettlementRequest.decided hdone
    obtain ⟨_, committed, row, _, _, _, hcom, _, hset, hid, _⟩ :=
      SettlementRequest.decide_accepts hd hw
    unfold settlementKey at hkey ⊢
    rw [hset, ← hkey, hcom]
    exact congrArg some hid

/-- **A commit holds the lock of the settlement**, and its FOR UPDATE select returned the row. -/
theorem SettlementWorld.held (h : SettlementWorld cfg s0 ok w) {i : Nat}
    {t : Txn Failure State RowKey SettlementRequest} {s : State}
    (hcommit : Commit (SettlementRequest.script cfg) w i t s) :
    ∃ held, t.request.held t.views = some held ∧
      held ∈ (SettlementRequest.script cfg t.request).since .settlement t.views := by
  obtain ⟨write, hdone, hw⟩ := hcommit.write
  obtain ⟨seen, _, _, held, hd, _, _, _, _, hheld, hmem, _, hsince⟩ := SettlementRequest.decided hdone
  obtain ⟨_, committed, _, _, _, _, hcom, hid, _⟩ := SettlementRequest.decide_accepts hd hw
  refine ⟨held, hheld, hsince ?_⟩
  have hkey := Transactions.Reachable.views (P := fun s => settlementKey s = settlementKey s0)
    (fun _ hw' => SettlementWorld.key hw') h i t hcommit.running held hmem
  rw [← SettlementWorld.key h] at hkey
  unfold settlementKey at hkey
  rw [hcom] at hkey
  obtain ⟨row, hrow, hrowid⟩ := Option.map_eq_some_iff.mp hkey
  have hby : settlementById held t.request.settlementId = some row :=
    settlementById_eq_some.mpr ⟨hrow, hrowid.trans hid⟩
  unfold SettlementRequest.lockedRows
  rw [hby]
  simp

/-- **The row under the lock is the committed one.** -/
theorem SettlementWorld.pinned (h : SettlementWorld cfg s0 ok w) {i : Nat}
    {t : Txn Failure State RowKey SettlementRequest} (hi : w.running i = some t) :
    ∀ v ∈ (SettlementRequest.script cfg t.request).since .settlement t.views,
      v.settlement = w.db.settlement := by
  refine Transactions.Reachable.pinned (f := fun s : State => s.settlement) ?_ h i t hi
  intro w i t s hw _ hcommit
  obtain ⟨held, _, hsince⟩ := SettlementWorld.held hw hcommit
  exact .inr (List.ne_nil_of_mem hsince)

/-- The request's own status check passes on the row its lock returned. -/
def SettlementRequest.Checked (r : SettlementRequest) (views : List State) : Prop :=
  ∀ held ∈ r.held views, ∀ row ∈ held.settlement, r.op.move.From row.1.status

instance (r : SettlementRequest) (views : List State) : Decidable (r.Checked views) :=
  inferInstanceAs (Decidable (∀ held ∈ r.held views, ∀ row ∈ held.settlement, _))

/-- Every commit is of a checked request. -/
abbrev CheckedCommits :
    World Failure State RowKey SettlementRequest → Action SettlementRequest → Prop :=
  OnCommit fun r views _ => r.Checked views

/-- **The step lemma**: a checked request takes a legal transition from the committed status. -/
theorem SettlementWorld.transition (h : SettlementWorld cfg s0 ok w) {i : Nat}
    {t : Txn Failure State RowKey SettlementRequest} {s : State}
    (hcommit : Commit (SettlementRequest.script cfg) w i t s)
    (hchecked : t.request.Checked t.views) :
    ∃ committed row, w.db.settlement = some committed ∧ s.settlement = some row ∧
      t.request.op.move.Transition committed.1.status row.1.status := by
  obtain ⟨write, hdone, hw⟩ := hcommit.write
  obtain ⟨seen, _, _, _, hd, _⟩ := SettlementRequest.decided hdone
  obtain ⟨_, committed, row, _, _, _, hcom, _, hset, _, hto, _⟩ :=
    SettlementRequest.decide_accepts hd hw
  obtain ⟨held, hheld, hsince⟩ := SettlementWorld.held h hcommit
  have hsame := SettlementWorld.pinned h hcommit.running held hsince
  exact ⟨committed, row, hcom, hset, hchecked held hheld committed (hsame.trans hcom), hto⟩

/-! ## 5. One decision for each submission -/

/-- How often a kind of operation has committed. -/
def committedMoves (m : SettlementMove) (log : List SettlementRequest) : Nat :=
  log.countP fun q => q.op.move = m

theorem committedMoves_append (m : SettlementMove) (log : List SettlementRequest)
    (q : SettlementRequest) :
    committedMoves m (log ++ [q]) = committedMoves m log + if q.op.move = m then 1 else 0 := by
  unfold committedMoves
  rw [List.countP_append, List.countP_singleton]
  by_cases hm : q.op.move = m
  · rw [if_pos hm, decide_eq_true hm, if_pos rfl]
  · rw [if_neg hm, decide_eq_false hm]
    rfl

/-- One for a settlement that awaits a decision. -/
def awaitingDecision (s : State) : Nat :=
  if ∃ r ∈ s.settlement, r.1.status = .underAudit then 1 else 0

theorem awaitingDecision_some {s : State} {r : Stored FinancialSettlement}
    (hr : s.settlement = some r) :
    awaitingDecision s = if r.1.status = .underAudit then 1 else 0 := by
  unfold awaitingDecision
  rw [hr]
  by_cases hst : r.1.status = .underAudit
  · rw [if_pos hst, if_pos ⟨r, rfl, hst⟩]
  · rw [if_neg hst, if_neg]
    intro h
    obtain ⟨r', hr', hst'⟩ := h
    cases hr'
    exact hst hst'

/-- **Decisions and submissions balance**: every decision consumes a submission. -/
theorem SettlementWorld.decisions (h : SettlementWorld cfg s0 CheckedCommits w) :
    committedMoves .audited w.log + awaitingDecision w.db =
      committedMoves .submitted w.log + awaitingDecision s0 := by
  refine Transactions.Reachable.invariant (P := fun log s => committedMoves .audited log +
    awaitingDecision s = committedMoves .submitted log + awaitingDecision s0) ?_ ?_ h
  · intro s hs
    rw [hs]
    rfl
  · intro w i t s hw hok hcommit hbalance
    obtain ⟨committed, row, hcom, hset, hfrom, hto⟩ :=
      SettlementWorld.transition hw hcommit (OnCommit.commit hw hok hcommit)
    rw [awaitingDecision_some hcom] at hbalance
    rw [awaitingDecision_some hset, committedMoves_append, committedMoves_append]
    cases hop : t.request.op with
    | submit =>
        rw [hop] at hfrom hto
        have hnot : committed.1.status ≠ .underAudit := by
          rcases hfrom with he | he | he <;> rw [he] <;> exact fun hs => nomatch hs
        have hrow : row.1.status = .underAudit := hto
        have haudit : SettlementOp.submit.move ≠ .audited := by decide
        have hsubmit : SettlementOp.submit.move = .submitted := rfl
        rw [if_neg hnot] at hbalance
        rw [if_pos hrow, if_neg haudit, if_pos hsubmit]
        omega
    | audit action remarks queryReason =>
        rw [hop] at hfrom hto
        have hcommitted : committed.1.status = .underAudit := hfrom
        have hnot : row.1.status ≠ .underAudit := by
          rcases hto with he | he | he | he <;> rw [he] <;> exact fun hs => nomatch hs
        have haudit : (SettlementOp.audit action remarks queryReason).move = .audited := rfl
        have hsubmit : (SettlementOp.audit action remarks queryReason).move ≠ .submitted :=
          fun hm => nomatch hm
        rw [if_pos hcommitted] at hbalance
        rw [if_neg hnot, if_pos haudit, if_neg hsubmit]
        omega
    | reopen newId reason =>
        rw [hop] at hfrom hto
        have hnot : committed.1.status ≠ .underAudit := by
          have hcommitted : committed.1.status = .settled := hfrom
          rw [hcommitted]
          exact fun hs => nomatch hs
        have hrow : row.1.status ≠ .underAudit := by
          have hreopened : row.1.status = .reopened := hto
          rw [hreopened]
          exact fun hs => nomatch hs
        have haudit : (SettlementOp.reopen newId reason).move ≠ .audited := fun hm => nomatch hm
        have hsubmit : (SettlementOp.reopen newId reason).move ≠ .submitted := fun hm => nomatch hm
        rw [if_neg hnot] at hbalance
        rw [if_neg hrow, if_neg haudit, if_neg hsubmit]
        omega

end Runs

end CampusConnect
