/-
  File:      CampusConnect/Guarantees/Resettlement.lean
  Subject:   SETTLING AGAIN: a round of reopening, preparation, submission and approval of a
             settlement whose sources have not changed since its preparation.

  * `Round`: the four calls, who makes them and what they read outside the event;
  * `Resettleable`: a settled row whose figures are those of the live ledger; the recomputation
    absorbs whatever was paid, so that its balance is zero (`Resettleable.balance`);
  * `Resettleable.round`: each call is accepted, and the round ends in such a row again;
  * `Stands`: the figures of a preparation stay until the next one, so that a settled row with the
    sources of its preparation is such a row (`resettleable_of_prepared`);
  * `resettlement_idempotent`: the first round, and any number of further ones.
-/
import CampusConnect.Guarantees.Duties
import CampusConnect.Guarantees.Exit
import CampusConnect.Guarantees.Revisions

namespace CampusConnect

open Guarded Rows SettlementService

/-! ## 1. The round -/

/-- One round: the arguments of its four calls, each with its actor and what it reads outside the
    event, and the session they share. -/
structure Round where
  session : Nat
  reopenEnv : Env
  reopener : User
  revisionId : Uuid
  reason : Text
  prepareEnv : Env
  preparer : User
  newId : Uuid
  submitEnv : Env
  submitter : User
  auditEnv : Env
  auditor : User
  action : Text
  remarks : Option Text
  queryReason : Option Text

section Calls

variable (q : Round) (id : Uuid)

def Round.reopen : Call :=
  { env := q.reopenEnv, actor := q.reopener, op := .reopenSettlement id q.revisionId q.reason }

def Round.prepare : Call :=
  { env := q.prepareEnv, actor := q.preparer, op := .prepareSettlement q.newId }

def Round.submit : Call :=
  { env := q.submitEnv, actor := q.submitter, op := .submitSettlement id }

def Round.audit : Call :=
  { env := q.auditEnv
    actor := q.auditor
    op := .auditSettlement id q.action q.remarks q.queryReason }

/-- The calls on the settlement `id`. -/
def Round.calls : List Call := [q.reopen id, q.prepare, q.submit id, q.audit id]

/-- **The round**: its calls in one session, which holds the settlement object throughout. -/
def Round.actions : List Loaded.Action := (q.calls id).map fun c => c.within q.session

end Calls

/-- **The actors are authorised**, the reason is one, and the audit approves. -/
structure Round.Admitted (q : Round) (event : Event) : Prop where
  reopener : q.reopener.role = .financeOfficer ∨ q.reopener.role = .principal ∨
    q.reopener.role = .deanStudentAffairs
  reason : ¬ isBlank q.reason
  preparer : IsEventSecretary q.prepareEnv event q.preparer
  submitter : IsEventSecretary q.submitEnv event q.submitter
  auditor : q.auditor.role = .financeOfficer
  approves : parseAuditAction q.action = some .approve

/-! ## 2. What is settled again -/

/-- The monetary columns of a settlement. -/
def FinancialSettlement.money (r : FinancialSettlement) : List Int :=
  [r.sanctionedGrant, r.sanctionedExpenditure, r.expectedIncome, r.totalClaimedExpenditure,
    r.totalVerifiedExpenditure, r.totalDisallowedExpenditure, r.totalVerifiedIncome, r.netDeficit,
    r.institutionalPayout, r.cashAdvanceDisbursed, r.settlementBalance, r.reimbursementDue,
    r.refundDue]

/-- **A settled row that still is what the live ledger gives**, and whose payout has been moved. -/
structure Resettleable (s : State) (r : Stored FinancialSettlement) (sanction : Sanction) :
    Prop where
  row : s.settlement = some r
  settled : r.1.status = .settled
  completed : s.event.status = .completed
  certified : ReportCertified s
  resolved : LedgerResolved s
  sanctioned : resolveSanctionedSnapshot s = .ok sanction
  grant : r.1.sanctionedGrant = sanction.grant
  expenditure : r.1.sanctionedExpenditure = sanction.expenditure
  payout : r.1.institutionalPayout = (liveTotals s sanction.grant).institutionalPayout
  current : r.1.figures = s.figures
  cleared : netCash s.payments r.1 = r.1.institutionalPayout
  numbered : Numbered s

section Round

variable {cfg : Config} {s : State} {r : Stored FinancialSettlement} {sanction : Sanction}

theorem Resettleable.unsealed (h : Resettleable s r sanction) : ¬ s.event.Sealed := by
  unfold Event.Sealed
  rw [h.completed]
  decide

/-- **The recomputation lands on zero**: every payment and the advance count as transferred. -/
theorem Resettleable.balance (h : Resettleable s r sanction) :
    (liveTotals s sanction.grant).settlementBalance = 0 := by
  have hadv : r.1.cashAdvanceDisbursed = disbursedPart s.advance :=
    congrArg Figures.disbursed h.current
  have hnet : (liveTotals s sanction.grant).netCashTransferred = netCash s.payments r.1 := by
    simp only [liveTotals, totalsOf, targetCleared, netCash, h.row, hadv]
  have hbal : (liveTotals s sanction.grant).settlementBalance =
      (liveTotals s sanction.grant).institutionalPayout -
        (liveTotals s sanction.grant).netCashTransferred := rfl
  rw [hbal, hnet, h.cleared, h.payout]
  omega

/-- The number of the next revision is free. -/
theorem Numbered.free {actor : User} (h : Numbered s) (newId : Uuid) (r : FinancialSettlement)
    (reason : Text) : ¬ RevisionTaken s (settlementRevision s newId r reason actor) := by
  intro hex
  obtain ⟨v, hv, hid, hnum⟩ := hex
  have hmem : v.revisionNumber ∈ (s.revisionsOf r.id).map SettlementRevision.revisionNumber :=
    List.mem_map_of_mem (List.mem_filter.mpr ⟨hv, decide_eq_true hid⟩)
  rw [h.revisions, hnum, List.mem_range'_1] at hmem
  have hnext : (settlementRevision s newId r reason actor).revisionNumber =
      (s.revisionsOf r.id).length + 1 := rfl
  rw [hnext] at hmem
  omega

/-- In the session of its preparation, a row with the live figures is consistent. -/
theorem consistent_attached {row : FinancialSettlement}
    (hsan : resolveSanctionedSnapshot s = .ok sanction) (hres : LedgerResolved s)
    (hne : liveFingerprint cfg s sanction ≠ [])
    (hatt : s.attached = some (liveFingerprint cfg s sanction))
    (hver : row.approvedVersionId = sanction.approvedVersionId)
    (hgrant : row.sanctionedGrant = sanction.grant) (hfig : row.figures = s.figures) :
    Consistent cfg s row (some (liveFingerprint cfg s sanction)) sanction := by
  unfold FinancialSettlement.figures State.figures at hfig
  rw [Figures.mk.injEq] at hfig
  obtain ⟨hv, hi, ha⟩ := hfig
  have hcompared : getPreparedSourceFingerprint cfg s row.id =
      .ok (some (liveFingerprint cfg s sanction)) := compared_of_attached hatt hne row.id
  have hfp : ∀ fp ∈ some (liveFingerprint cfg s sanction), liveFingerprint cfg s sanction = fp := by
    intro fp hfp
    exact Option.some.inj hfp
  exact ⟨hsan, hres, hcompared, hver, hgrant, hfp, hv, hi, ha⟩

/-! ## 3. The calls of a round -/

variable {q : Round}

/-- The totals of the live ledger, with another row under the same key. -/
theorem liveTotals_congr {t : State} {row : Stored FinancialSettlement} (hr : s.settlement = some r)
    (hrow : t.settlement = some row) (hid : row.1.id = r.1.id) (hexp : t.expenses = s.expenses)
    (hinc : t.incomes = s.incomes) (hadv : t.advance = s.advance) (hpay : t.payments = s.payments)
    (grant : Int) : liveTotals t grant = liveTotals s grant := by
  simp only [liveTotals, targetCleared, hr, hrow, hid, hexp, hinc, hadv, hpay]

/-- **Reopen**: a new revision, and the status of the row. -/
theorem Resettleable.reopened (cfg : Config) (h : Resettleable s r sanction)
    (hq : q.Admitted s.event) :
    ∃ (row : Stored FinancialSettlement) (revisions : List SettlementRevision)
      (logs : List AuditLog),
      Call.Proceeds cfg s (q.reopen r.1.id)
        { s with
          settlement := some row
          settlementRevisions := revisions
          auditLogs := logs } ∧
      row.1 = { r.1 with status := .reopened } := by
  have hfree : ¬ RevisionTaken s (settlementRevision s q.revisionId r.1 q.reason q.reopener) :=
    h.numbered.free q.revisionId r.1 q.reason
  obtain ⟨row, entries, hok, hrow⟩ :=
    reopenSettlement_of h.row h.unsealed hq.reopener hq.reason h.settled hfree
  exact ⟨row, _, _, hok, hrow⟩

/-- **Prepare**: the row is recompiled from the live ledger, and its fingerprint attached. -/
theorem prepare_reopened (cfg : Config) (q : Round) (hrow : s.settlement = some r)
    (hst : r.1.status = .reopened) (hcomp : s.event.status = .completed)
    (hcert : ReportCertified s) (hres : LedgerResolved s)
    (hsan : resolveSanctionedSnapshot s = .ok sanction)
    (hgrant : r.1.sanctionedGrant = sanction.grant)
    (hexp : r.1.sanctionedExpenditure = sanction.expenditure)
    (hsec : IsEventSecretary q.prepareEnv s.event q.preparer) :
    ∃ (row : Stored FinancialSettlement) (logs : List AuditLog),
      Call.Proceeds cfg s q.prepare
        { s with
          settlement := some row
          auditLogs := logs
          attached := some (liveFingerprint cfg s sanction) } ∧
      row.1 = preparedRow s.settlement q.newId sanction (liveTotals s sanction.grant)
        q.preparer.id := by
  have hprev : ∀ old ∈ s.settlement, old.1.status = .reopened := by
    intro old hold
    rw [hrow] at hold
    cases hold
    exact hst
  have hcheck := check_prepared hrow hgrant hexp q.newId q.preparer.id
  obtain ⟨row, entries, hok, hnew⟩ :=
    prepareSettlement_of hcomp hcert hsec hprev hsan hres hcheck
  exact ⟨row, _, hok, hnew⟩

/-- **Submit and approve** what has just been prepared, in its session: a balanced row is settled. -/
theorem settle_draft (hrow : s.settlement = some r) (hst : r.1.status = .draft)
    (htype : r.1.settlementType = .balanced) (hmut : ¬ s.event.Sealed) (hq : q.Admitted s.event)
    (hsan : resolveSanctionedSnapshot s = .ok sanction) (hres : LedgerResolved s)
    (hne : liveFingerprint cfg s sanction ≠ [])
    (hatt : s.attached = some (liveFingerprint cfg s sanction))
    (hver : r.1.approvedVersionId = sanction.approvedVersionId)
    (hgrant : r.1.sanctionedGrant = sanction.grant) (hfig : r.1.figures = s.figures) :
    ∃ (row : Stored FinancialSettlement) (logs : List AuditLog),
      Runs.Path (Call.Proceeds cfg) s [q.submit r.1.id, q.audit r.1.id]
        { s with
          settlement := some row
          auditLogs := logs
          attached := some (liveFingerprint cfg s sanction) } ∧
      row.1 = { r.1 with
        status := .settled
        submittedAt := some q.submitEnv.now
        auditedBy := some q.auditor.id
        auditedAt := some q.auditEnv.now
        financeRemarks := (stripped q.remarks).or r.1.financeRemarks
        queryReason := none } := by
  have hcons := consistent_attached hsan hres hne hatt hver hgrant hfig
  obtain ⟨mid, entries, hsubmit, hmid⟩ := submitSettlement_of hrow hmut hq.submitter (.inl hst) hcons
  let t : State := State.log { s with
    settlement := some mid
    attached := some (liveFingerprint cfg s sanction) } entries
  have hmidSt : mid.1.status = .underAudit := by rw [hmid]
  have hmidFig : mid.1.figures = s.figures := by
    rw [hmid]
    exact hfig
  have hcons' : Consistent cfg t mid.1 (some (liveFingerprint cfg s sanction)) sanction := by
    refine consistent_attached (s := t) hsan hres hne rfl ?_ ?_ hmidFig
    · rw [hmid]
      exact hver
    · rw [hmid]
      exact hgrant
  have happ : ∃ (row : Stored FinancialSettlement) (entries : List AuditEntry),
      auditSettlement cfg q.auditEnv q.auditor mid.1.id q.action q.remarks q.queryReason t =
        .ok (State.log { t with
          settlement := some row
          attached := some (liveFingerprint cfg s sanction) } entries) ∧
      row.1 = { mid.1 with
        auditedBy := some q.auditor.id
        auditedAt := some q.auditEnv.now
        financeRemarks := (stripped q.remarks).or mid.1.financeRemarks
        queryReason := none
        status := approvedStatus mid.1.settlementType } :=
    auditApprove_of hq.approves rfl hmut hq.auditor hmidSt hcons'
  obtain ⟨row, entries', haudit, hnew⟩ := happ
  have hmidId : mid.1.id = r.1.id := by rw [hmid]
  rw [hmidId] at haudit
  refine ⟨row, _, .cons (t := t) hsubmit (.single haudit), ?_⟩
  rw [hnew, hmid, htype]
  rfl

/-! ## 4. The round -/

/-- The row a round leaves: what the live ledger gives, balanced and settled. -/
structure Resettled (s : State) (sanction : Sanction) (r row : FinancialSettlement) : Prop where
  id : row.id = r.id
  money : row.money =
    (compiledRow r.id sanction (liveTotals s sanction.grant) row.preparedBy).money
  type : row.settlementType = .balanced
  settled : row.status = .settled

/-- The monetary columns one by one. -/
theorem Resettled.columns {row : FinancialSettlement} (h : Resettled s sanction r.1 row) :
    row.sanctionedGrant = sanction.grant ∧ row.sanctionedExpenditure = sanction.expenditure ∧
      row.institutionalPayout = (liveTotals s sanction.grant).institutionalPayout ∧
      row.settlementBalance = (liveTotals s sanction.grant).settlementBalance ∧
      row.reimbursementDue = (liveTotals s sanction.grant).reimbursementDue ∧
      row.refundDue = (liveTotals s sanction.grant).refundDue ∧ row.figures = s.figures := by
  have hmoney := h.money
  simp only [FinancialSettlement.money, compiledRow, List.cons.injEq, and_true] at hmoney
  obtain ⟨hgrant, hexp, _, _, hver, _, hinc, _, hpay, hadv, hbal, hreim, hrefund⟩ := hmoney
  refine ⟨hgrant, hexp, hpay, hbal, hreim, hrefund, ?_⟩
  unfold FinancialSettlement.figures
  rw [hver, hinc, hadv]
  rfl

theorem Numbered.path {s t : State} {calls : List Call} (h : Numbered s)
    (hpath : Runs.Path (Call.Proceeds cfg) s calls t) : Numbered t := by
  refine hpath.preserves ?_ h
  intro u c u' hu hcall
  have heff : Effect cfg u c.op.move u' := Op.exec_effect hcall
  exact heff.recorded.numbered hu

/-- Only the settlement row, its revisions, the log and what is attached may differ. -/
structure RoundFrame (s t : State) : Prop where
  proposal : t.proposal = s.proposal
  event : t.event = s.event
  report : t.report = s.report
  advance : t.advance = s.advance
  incomes : t.incomes = s.incomes
  expenses : t.expenses = s.expenses
  payments : t.payments = s.payments

/-- Nothing of it is read off the object a session holds. -/
theorem Resettleable.attached (h : Resettleable s r sanction) (a : Option Text) :
    Resettleable { s with attached := a } r sanction :=
  ⟨h.row, h.settled, h.completed, h.certified, h.resolved, h.sanctioned, h.grant, h.expenditure,
    h.payout, h.current, h.cleared,
    ⟨h.numbered.revisions, h.numbered.closureRevisions, h.numbered.payments, h.numbered.owned⟩⟩

/-- **The calls of a round are accepted** and end in a row that can be settled again. -/
theorem Resettleable.calls (hdigest : ∀ x, cfg.sha256 x ≠ []) (h : Resettleable s r sanction)
    (hq : q.Admitted s.event) :
    ∃ (row : Stored FinancialSettlement) (t : State), RoundFrame s t ∧
      Runs.Path (Call.Proceeds cfg) s (q.calls r.1.id) t ∧
      Resettled s sanction r.1 row.1 ∧ Resettleable t row sanction := by
  obtain ⟨old, revisions, logs, hreopen, hold⟩ := h.reopened cfg hq
  let s1 : State := { s with
    settlement := some old
    settlementRevisions := revisions
    auditLogs := logs }
  have hid : old.1.id = r.1.id := by rw [hold]
  have hgrant : old.1.sanctionedGrant = sanction.grant := by
    rw [hold]
    exact h.grant
  have hexp : old.1.sanctionedExpenditure = sanction.expenditure := by
    rw [hold]
    exact h.expenditure
  obtain ⟨draft, logs2, hprepare, hdraft⟩ := prepare_reopened (s := s1) (r := old) cfg q rfl
    (by rw [hold]) h.completed h.certified h.resolved h.sanctioned hgrant hexp hq.preparer
  have htotals : liveTotals s1 sanction.grant = liveTotals s sanction.grant :=
    liveTotals_congr (t := s1) h.row rfl hid rfl rfl rfl rfl sanction.grant
  rw [htotals] at hdraft
  have hfig : draft.1.figures = s.figures := by
    rw [hdraft]
    rfl
  have htype : draft.1.settlementType = .balanced := by
    rw [hdraft]
    show typeOfBalance (liveTotals s sanction.grant).settlementBalance = _
    rw [typeOfBalance_balanced, h.balance]
  let s2 : State := { s1 with
    settlement := some draft
    auditLogs := logs2
    attached := some (liveFingerprint cfg s sanction) }
  have hst : draft.1.status = .draft := by
    rw [hdraft, preparedRow_status]
  have hver : draft.1.approvedVersionId = sanction.approvedVersionId := by
    rw [hdraft]
    rfl
  have hgrant' : draft.1.sanctionedGrant = sanction.grant := by
    rw [hdraft]
    rfl
  have hne : liveFingerprint cfg s sanction ≠ [] := hdigest _
  obtain ⟨row, logs4, hlast, hrow⟩ := settle_draft (s := s2) rfl hst htype h.unsealed hq
    h.sanctioned h.resolved hne rfl hver hgrant' hfig
  have hdraftId : draft.1.id = r.1.id := by
    rw [hdraft]
    exact hid
  rw [hdraftId] at hlast
  have hpath : Runs.Path (Call.Proceeds cfg) s (q.calls r.1.id) _ :=
    .cons (t := s1) hreopen (.cons (t := s2) hprepare hlast)
  have hdone : Resettled s sanction r.1 row.1 := by
    constructor
    · rw [hrow]
      exact hdraftId
    · rw [hrow, hdraft]
      rfl
    · rw [hrow]
      exact htype
    · rw [hrow]
  obtain ⟨hg, he, hpay, _, _, _, hcurrent⟩ := hdone.columns
  have hadv : row.1.cashAdvanceDisbursed = r.1.cashAdvanceDisbursed :=
    congrArg Figures.disbursed (hcurrent.trans h.current.symm)
  have hcleared : netCash s.payments row.1 = row.1.institutionalPayout := by
    have hnet : netCash s.payments row.1 = netCash s.payments r.1 := by
      unfold netCash
      rw [hdone.id, hadv]
    rw [hnet, h.cleared, h.payout, hpay]
  have hframe : RoundFrame s { s2 with
      settlement := some row
      auditLogs := logs4
      attached := some (liveFingerprint cfg s sanction) } := by
    constructor <;> rfl
  exact ⟨row, _, hframe, hpath, hdone,
    ⟨rfl, hdone.settled, h.completed, h.certified, h.resolved, h.sanctioned, hg, he, hpay, hcurrent,
      hcleared, h.numbered.path hpath⟩⟩

/-- **A round is accepted**, whatever the sessions hold before it. -/
theorem Resettleable.round {w : Loaded} (hdigest : ∀ x, cfg.sha256 x ≠ [])
    (h : Resettleable w.state r sanction) (hq : q.Admitted w.state.event) :
    ∃ (row : Stored FinancialSettlement) (w' : Loaded), RoundFrame w.state w'.state ∧
      Runs.Path (Loaded.Step cfg) w (q.actions r.1.id) w' ∧
      Resettled w.state sanction r.1 row.1 ∧ Resettleable w'.state row sanction := by
  obtain ⟨row, t, hframe, hcalls, hdone, hnext⟩ := (h.attached (w.held q.session)).calls hdigest hq
  have hsession : ∃ w', Runs.Path (Loaded.Step cfg) w (q.actions r.1.id) w' ∧ w'.seen q.session = t :=
    Loaded.in_session hcalls
  obtain ⟨w', hpath, rfl⟩ := hsession
  exact ⟨row, w', ⟨hframe.proposal, hframe.event, hframe.report, hframe.advance, hframe.incomes,
    hframe.expenses, hframe.payments⟩, hpath, ⟨hdone.id, hdone.money, hdone.type, hdone.settled⟩,
    hnext.attached w'.state.attached⟩

/-- The next round starts from the same totals. -/
theorem Resettled.again {t : State} {row : Stored FinancialSettlement}
    (h : Resettled s sanction r.1 row.1) (hr : s.settlement = some r)
    (hrow : t.settlement = some row) (hframe : RoundFrame s t) :
    liveTotals t sanction.grant = liveTotals s sanction.grant ∧
      Resettled t sanction row.1 row.1 := by
  have htotals : liveTotals t sanction.grant = liveTotals s sanction.grant :=
    liveTotals_congr hr hrow h.id hframe.expenses hframe.incomes hframe.advance hframe.payments _
  refine ⟨htotals, rfl, ?_, h.type, h.settled⟩
  rw [htotals]
  exact h.money

/-- **Further rounds** leave what a round left. -/
theorem Resettleable.rounds {w : Loaded} (hdigest : ∀ x, cfg.sha256 x ≠ [])
    (h : Resettleable w.state r sanction) (hdone : Resettled w.state sanction r.1 r.1)
    {more : List Round} (hmore : ∀ q ∈ more, q.Admitted w.state.event) :
    ∃ (row : Stored FinancialSettlement) (w' : Loaded), RoundFrame w.state w'.state ∧
      Runs.Path (Loaded.Step cfg) w (more.flatMap fun q => q.actions r.1.id) w' ∧
      w'.state.settlement = some row ∧ Resettled w.state sanction r.1 row.1 := by
  induction more generalizing w r with
  | nil => exact ⟨r, w, by constructor <;> rfl, .nil w, h.row, hdone⟩
  | cons q more ih =>
      obtain ⟨row, t, hframe, hpath, hrow, hnext⟩ :=
        h.round hdigest (hmore q (List.mem_cons_self ..))
      obtain ⟨htotals, hagain⟩ := hrow.again h.row hnext.row hframe
      have hmore' : ∀ q ∈ more, q.Admitted t.state.event := by
        intro q' hq'
        rw [hframe.event]
        exact hmore q' (List.mem_cons_of_mem q hq')
      obtain ⟨last, u, hframe', hpath', hlast, hlastRow⟩ := ih hnext hagain hmore'
      rw [hrow.id] at hpath'
      refine ⟨last, u, ?_, hpath.append hpath', hlast, ?_⟩
      · exact ⟨hframe'.proposal.trans hframe.proposal, hframe'.event.trans hframe.event,
          hframe'.report.trans hframe.report, hframe'.advance.trans hframe.advance,
          hframe'.incomes.trans hframe.incomes, hframe'.expenses.trans hframe.expenses,
          hframe'.payments.trans hframe.payments⟩
      · refine ⟨hlastRow.id.trans hrow.id, ?_, hlastRow.type, hlastRow.settled⟩
        rw [hlastRow.money, htotals]
        rfl

end Round

/-! ## 5. Since the latest preparation -/

section Since

variable {cfg : Config} {s t : State}

/-- The request prepares the settlement. -/
def Request.Prepares : Request → Prop
  | .event c => c.op.move = .settlement .prepared
  | .review _ _ _ => False

/-- What a preparation leaves. -/
theorem prepared_row (heff : Effect cfg s (.settlement .prepared) t) :
    ReportCertified t ∧ LedgerResolved s ∧ ∃ row sanction newId preparedBy,
      t.settlement = some row ∧ resolveSanctionedSnapshot s = .ok sanction ∧
        row.1 = preparedRow s.settlement newId sanction (liveTotals s sanction.grant) preparedBy := by
  cases heff with
  | settlement m s' hstep =>
      cases hstep with
      | prepared preparedBy newId sanction row entries hcomp hcert hprev hsan hres hrow =>
          exact ⟨hcert, hres, row, sanction, newId, preparedBy, rfl, hsan, hrow⟩

/-- The row still has the figures `p`, and the report is certified. -/
structure Stands (p : FinancialSettlement) (s : State) : Prop where
  row : ∃ r, s.settlement = some r ∧ r.1.SameFigures p
  certified : ReportCertified s

theorem FinancialSettlement.SameFigures.trans {a b c : FinancialSettlement} (h : a.SameFigures b)
    (h' : b.SameFigures c) : a.SameFigures c where
  id := h.id.trans h'.id
  approvedVersionId := h.approvedVersionId.trans h'.approvedVersionId
  sanctionedGrant := h.sanctionedGrant.trans h'.sanctionedGrant
  sanctionedExpenditure := h.sanctionedExpenditure.trans h'.sanctionedExpenditure
  totalVerifiedExpenditure := h.totalVerifiedExpenditure.trans h'.totalVerifiedExpenditure
  totalVerifiedIncome := h.totalVerifiedIncome.trans h'.totalVerifiedIncome
  institutionalPayout := h.institutionalPayout.trans h'.institutionalPayout
  cashAdvanceDisbursed := h.cashAdvanceDisbursed.trans h'.cashAdvanceDisbursed
  settlementType := h.settlementType.trans h'.settlementType

/-- Only a preparation writes figures. -/
theorem Stands.effect {p : FinancialSettlement} {m : Move} (h : Stands p s) (heff : Effect cfg s m t)
    (hm : m ≠ .settlement .prepared) : Stands p t := by
  obtain ⟨⟨r, hr, hfig⟩, hcert⟩ := h
  obtain ⟨row, hrow, _⟩ := heff.recorded.settlement r hr
  have hkept : ∀ old, s.settlement = some old → row.1.SameFigures old.1 →
      row.1.SameFigures p := by
    intro old hold hsame
    rw [hr] at hold
    cases hold
    exact hsame.trans hfig
  refine ⟨⟨row, hrow, ?_⟩, heff.certified hcert⟩
  cases row_effect heff hrow with
  | prepared newId preparedBy sanction _ hprev hsan hres hpre => exact (hm rfl).elim
  | submitted old _ hold hsame hfrom hst hcons => exact hkept old hold hsame
  | queried old _ hold hsame hfrom hst hcons => exact hkept old hold hsame
  | approved old _ hold hsame hfrom hst hcons => exact hkept old hold hsame
  | paid old _ hold hsame hfrom hst => exact hkept old hold hsame
  | reopened _ old _ hm' hold hsame hfrom hst => exact hkept old hold hsame
  | kept _ old _ hm' hold hsame =>
      refine hkept old hold ?_
      rw [hsame]
      exact .refl _

theorem Stands.request {p : FinancialSettlement} {r : Request} (h : Stands p s)
    (hstep : Dossier.Step cfg (.confirmed s) r (.confirmed t)) (hr : ¬ r.Prepares) : Stands p t := by
  cases r with
  | review env actor op =>
      obtain ⟨q, entries, rfl⟩ := hstep.reviewed
      exact ⟨h.row, h.certified⟩
  | event c =>
      obtain ⟨a, _, heff⟩ := hstep.call.entered
      have hs : Stands p { s with attached := a } := ⟨h.row, h.certified⟩
      exact hs.effect heff hr

theorem Stands.path {p : FinancialSettlement} {requests : List Request} (h : Stands p s)
    (hpath : Runs.Path (Dossier.Step cfg) (.confirmed s) requests (.confirmed t))
    (hlast : ∀ r ∈ requests, ¬ r.Prepares) : Stands p t := by
  have hrun := (hpath.under hlast).preserves
    (P := fun d => ∃ s, d = Dossier.confirmed s ∧ Stands p s) ?_ ⟨s, rfl, h⟩
  · obtain ⟨u, hu, hstands⟩ := hrun
    cases hu
    exact hstands
  · rintro _ r d ⟨u, rfl, hu⟩ ⟨hstep, hr⟩
    obtain ⟨v, rfl⟩ := hstep.confirmed
    exact ⟨v, rfl, hu.request hstep hr⟩

/-- The same live ledger, in any order of its rows, under the same sanctioned snapshot. -/
structure SameSources (s t : State) : Prop where
  expenses : s.expenses.rows.Perm t.expenses.rows
  incomes : s.incomes.rows.Perm t.incomes.rows
  advance : t.advance = s.advance
  sanction : resolveSanctionedSnapshot t = resolveSanctionedSnapshot s

theorem Dossier.Reachable.clearing (h : Dossier.Reachable cfg (.confirmed s)) : Clearing s := by
  refine h.event_invariant (P := Clearing) ?_ ?_ ?_
  · intro q event logs
    exact ⟨fun r hr => (nomatch hr), fun _ => rfl⟩
  · intro s q entries hs
    exact hs.congr rfl rfl
  · intro s c s' hs hstep
    obtain ⟨a, _, heff⟩ := hstep.entered
    have hentered : Clearing { s with attached := a } := hs.congr rfl rfl
    exact clearing_effect hentered heff

theorem Dossier.Reachable.numbered (h : Dossier.Reachable cfg (.confirmed s)) : Numbered s := by
  refine h.event_invariant (P := Numbered) ?_ ?_ ?_
  · intro q event logs
    constructor
    · intro id
      rfl
    · rfl
    · intro p hp
      cases hp
    · intro v hv
      cases hv
  · intro s q entries hs
    exact ⟨hs.revisions, hs.closureRevisions, hs.payments, hs.owned⟩
  · intro s c s' hs hstep
    exact hstep.recorded.numbered hs

/-- **A settled row whose sources are those of its preparation can be settled again.** -/
theorem resettleable_of_prepared {p : FinancialSettlement} {r : Stored FinancialSettlement}
    {sanction : Sanction} {newId preparedBy : Uuid} (h : Dossier.Reachable cfg (.confirmed t))
    (hstands : Stands p t) (hr : t.settlement = some r) (hset : r.1.status = .settled)
    (hcomp : t.event.status = .completed) (hres : LedgerResolved s)
    (hsan : resolveSanctionedSnapshot s = .ok sanction)
    (hp : p = preparedRow s.settlement newId sanction (liveTotals s sanction.grant) preparedBy)
    (hsame : SameSources s t) : Resettleable t r sanction := by
  obtain ⟨⟨row, hrow, hfig⟩, hcert⟩ := hstands
  rw [hr] at hrow
  cases hrow
  have hcolumns : p.sanctionedGrant = sanction.grant ∧
      p.sanctionedExpenditure = sanction.expenditure ∧
      p.institutionalPayout = (liveTotals s sanction.grant).institutionalPayout := by
    rw [hp]
    unfold preparedRow
    cases s.settlement with
    | none => exact ⟨rfl, rfl, rfl⟩
    | some old => exact ⟨rfl, rfl, rfl⟩
  obtain ⟨hgrant, hexp, hpay⟩ := hcolumns
  have hver : s.expenses.sum verifiedPart = t.expenses.sum verifiedPart :=
    Table.sum_perm hsame.expenses verifiedPart
  have hinc : s.incomes.sum incomePart = t.incomes.sum incomePart :=
    Table.sum_perm hsame.incomes incomePart
  have hlive : (liveTotals s sanction.grant).institutionalPayout =
      (liveTotals t sanction.grant).institutionalPayout := by
    simp only [liveTotals, totalsOf, hver, hinc]
  have hfigures : p.figures = t.figures := by
    rw [hp, figures_prepared]
    unfold State.figures
    rw [hver, hinc, hsame.advance]
  have hcleared : netCash t.payments r.1 = r.1.institutionalPayout :=
    (h.clearing.tallied r hr).met (.inl hset)
  constructor
  · exact hr
  · exact hset
  · exact hcomp
  · exact hcert
  · exact hres.perm hsame.expenses hsame.incomes hsame.advance
  · exact hsame.sanction.trans hsan
  · exact hfig.sanctionedGrant.trans hgrant
  · exact hfig.sanctionedExpenditure.trans hexp
  · exact hfig.institutionalPayout.trans (hpay.trans hlive)
  · exact hfig.figures.trans hfigures
  · exact hcleared
  · exact h.numbered

/-- A call on an event is a request on its dossier. -/
theorem Dossier.step_of_call {c : Call} (h : CampusConnect.Step cfg s c t) :
    Dossier.Step cfg (.confirmed s) (.event c) (.confirmed t) := by
  unfold Dossier.Step Dossier.exec
  simp only [bind_accepts, pure_accepts]
  exact ⟨t, h, rfl⟩

end Since

/-! ## 6. Idempotence -/

/-- **What the first round leaves**, against the settled row before it: nothing is due, the verified
    totals and the payout are the same, and so are the payments. -/
structure Absorbed (s : State) (r : FinancialSettlement) (t : State) (row : FinancialSettlement) :
    Prop where
  status : row.status = .settled
  type : row.settlementType = .balanced
  balance : row.settlementBalance = 0
  reimbursement : row.reimbursementDue = 0
  refund : row.refundDue = 0
  expenditure : row.totalVerifiedExpenditure = r.totalVerifiedExpenditure
  income : row.totalVerifiedIncome = r.totalVerifiedIncome
  payout : row.institutionalPayout = r.institutionalPayout
  payments : t.payments = s.payments

/-- **Settling again is idempotent.** Take any run, the latest preparation in it, and a SETTLED state of
    the COMPLETED event with the sources of that preparation. A round is accepted and absorbs whatever
    was paid, whatever the sessions hold; any number of further rounds, in whatever sessions, is accepted
    too and changes no monetary column, neither the type nor the status, and no payment. -/
theorem resettlement_idempotent {cfg : Config} {d0 : Dossier} {t t' s : State}
    {before after : List Request} {p : Call} {r : Stored FinancialSettlement} {first : Round}
    {more : List Round} {held : Nat → Option Text} (hdigest : ∀ x, cfg.sha256 x ≠ []) (h0 : Drafted d0)
    (hbefore : Runs.Path (Dossier.Step cfg) d0 before (.confirmed t))
    (hp : p.op.move = .settlement .prepared)
    (hprepare : Dossier.Step cfg (.confirmed t) (.event p) (.confirmed t'))
    (hafter : Runs.Path (Dossier.Step cfg) (.confirmed t') after (.confirmed s))
    (hlast : ∀ i ∈ after, ¬ i.Prepares) (hr : s.settlement = some r)
    (hset : r.1.status = .settled) (hcomp : s.event.status = .completed) (hsame : SameSources t s)
    (hfirst : first.Admitted s.event) (hmore : ∀ q ∈ more, q.Admitted s.event) :
    ∃ u row, Runs.Path (Loaded.Step cfg) ⟨s, held⟩ (first.actions r.1.id) u ∧
      u.state.settlement = some row ∧ Absorbed s r.1 u.state row.1 ∧
      ∃ v last, Runs.Path (Loaded.Step cfg) u (more.flatMap fun q => q.actions r.1.id) v ∧
        v.state.settlement = some last ∧ last.1.money = row.1.money ∧
        last.1.settlementType = row.1.settlementType ∧ last.1.status = row.1.status ∧
        v.state.payments = u.state.payments := by
  have hreach : Dossier.Reachable cfg (.confirmed s) :=
    (((Runs.Reach.start h0).path hbefore).next hprepare).path hafter
  obtain ⟨a, _, heff⟩ := hprepare.call.entered
  rw [hp] at heff
  obtain ⟨hcert, hres, old, sanction, newId, preparedBy, hold, hsan, hrow⟩ := prepared_row heff
  have hstands : Stands old.1 s := Stands.path ⟨⟨old, hold, .refl _⟩, hcert⟩ hafter hlast
  have hsame' : SameSources { t with attached := a } s :=
    ⟨hsame.expenses, hsame.incomes, hsame.advance, hsame.sanction⟩
  have hready : Resettleable s r sanction :=
    resettleable_of_prepared hreach hstands hr hset hcomp hres hsan hrow hsame'
  obtain ⟨row, u, hframe, hround, hdone, hnext⟩ :=
    Resettleable.round (w := ⟨s, held⟩) hdigest hready hfirst
  obtain ⟨_, _, hpay, hbal, hreim, hrefund, hfig⟩ := hdone.columns
  have hzero := hready.balance
  have hfigures : row.1.figures = r.1.figures := hfig.trans hready.current.symm
  have habsorbed : Absorbed s r.1 u.state row.1 := by
    constructor
    · exact hdone.settled
    · exact hdone.type
    · rw [hbal, hzero]
    · rw [hreim]
      show (if (liveTotals s sanction.grant).settlementBalance > 0 then _ else _) = _
      rw [hzero]
      rfl
    · rw [hrefund]
      show (if (liveTotals s sanction.grant).settlementBalance < 0 then _ else _) = _
      rw [hzero]
      rfl
    · exact congrArg Figures.verified hfigures
    · exact congrArg Figures.income hfigures
    · rw [hpay, hready.payout]
    · exact hframe.payments
  obtain ⟨htotals, hagain⟩ := hdone.again hr hnext.row hframe
  have hmore' : ∀ q ∈ more, q.Admitted u.state.event := by
    rw [hframe.event]
    exact hmore
  obtain ⟨last, v, hframe', hrounds, hrowLast, hlastDone⟩ := hnext.rounds hdigest hagain hmore'
  rw [hdone.id] at hrounds
  refine ⟨u, row, hround, hnext.row, habsorbed, v, last, hrounds, hrowLast, ?_, ?_, ?_,
    hframe'.payments⟩
  · rw [hlastDone.money, hdone.money, htotals]
    rfl
  · rw [hlastDone.type, hdone.type]
  · rw [hlastDone.settled, hdone.settled]

namespace Sample

/-- SHA-256 at the canonical text of the sources below; other texts get other values, none empty. -/
def roundDigest (t : Text) : Text :=
  if t = (sourceJson (uid 101) 10000 [expense 41 .verified (some 6000)] [] none).render then
    "eede8da42a48f2519fe0c296e8d12754dcc751fe87a2705bd32b80954d6aae0a".toList
  else 'x' :: t

theorem roundDigest_ne_nil (t : Text) : roundDigest t ≠ [] := by
  unfold roundDigest
  split
  · exact List.cons_ne_nil _ _
  · exact List.cons_ne_nil _ _

def roundConfig : Config := { config .sqlite with sha256 := roundDigest }

/-- The event is delivered with a verified claim of 60.00. -/
def beforeSettlement : List Request :=
  plan ++ [submit staff secretary 1] ++ approveAll 1 ++
    (claimAndVerify bySecretary).map Request.event

/-- The settlement is submitted and approved, and paid in two instalments. -/
def payInTwo : List Request :=
  (settle.tail ++ [byOfficer (payment 31 .reimbursementDisbursement 2000),
    byOfficer (payment 32 .reimbursementDisbursement 4000)]).map Request.event

/-- The event is settled by reimbursement in two payments, with the sources it has at `t`. -/
def PaidSince (t s : State) : Prop :=
  ∃ r ∈ s.settlement, r.1.status = .settled ∧ r.1.settlementType = .reimbursementDue ∧
    s.event.status = .completed ∧ s.event.clubId = uid 13 ∧ s.payments.length = 2 ∧
    t.expenses = s.expenses ∧ t.incomes = s.incomes ∧ s.advance = t.advance ∧
    s.event = t.event ∧ s.proposal = t.proposal

instance (t s : State) : Decidable (PaidSince t s) :=
  inferInstanceAs (Decidable (∃ r ∈ s.settlement, _))

/-- The dean reopens, the secretary prepares and submits, the officer approves. -/
def round (n : Nat) : Round where
  session := n
  reopenEnv := env
  reopener := dean
  revisionId := uid n
  reason := "error".toList
  prepareEnv := env
  preparer := secretary
  newId := uid 33
  submitEnv := env
  submitter := secretary
  auditEnv := env
  auditor := officer
  action := "approve".toList
  remarks := none
  queryReason := none

theorem serves {event : Event} (h : event.clubId = uid 13) :
    IsEventSecretary env event secretary := by
  refine ⟨by decide, ?_⟩
  rw [h]
  decide

theorem round_admitted (n : Nat) {event : Event} (h : event.clubId = uid 13) :
    (round n).Admitted event where
  reopener := .inr (.inr rfl)
  reason := by
    show ¬ isBlank "error".toList
    decide
  preparer := serves h
  submitter := serves h
  auditor := rfl
  approves := by
    show parseAuditAction "approve".toList = _
    decide

end Sample

/-- A claim of 60.00, paid in two instalments, is settled again three times. -/
theorem resettlement_idempotent_instalments :
    ∃ s u row, ∃ r : Stored FinancialSettlement, r.1.settlementType = .reimbursementDue ∧
      Runs.Path (Loaded.Step Sample.roundConfig) (.start s) ((Sample.round 51).actions r.1.id) u ∧
      Absorbed s r.1 u.state row ∧ s.payments.length = 2 := by
  let p : Call := Sample.bySecretary (.prepareSettlement (Sample.uid 30))
  have hrun : Runs.Ends (Sample.draft >>= Runs.run (Dossier.exec Sample.roundConfig)
      Sample.beforeSettlement) (fun d => ∃ t ∈ d.state, Runs.Ends (p.exec Sample.roundConfig t)
        fun t' => Runs.Ends (Runs.run (Dossier.exec Sample.roundConfig) Sample.payInTwo
          (.confirmed t')) fun d' => ∃ s ∈ d'.state, Sample.PaidSince t s) := by
    decide +kernel
  obtain ⟨d, hd, t, ht, t', hprepare, d', hpay, s, hs, r, hr, hset, htype, hcomp, hclub, htwo, hexp,
    hinc, hadv, hev, hprop⟩ := hrun
  simp only [bind_accepts] at hd
  obtain ⟨d0, hd0, hbefore⟩ := hd
  cases d with
  | proposed p logs => cases ht
  | confirmed t =>
      cases ht
      cases d' with
      | proposed p logs => cases hs
      | confirmed s =>
          cases hs
          have h0 : Drafted d0 := ⟨_, _, _, _, hd0⟩
          have hstep : Dossier.Step Sample.roundConfig (.confirmed t) (.event p) (.confirmed t') :=
            Dossier.step_of_call hprepare
          have hsame : SameSources t s := by
            refine ⟨?_, ?_, hadv, ?_⟩
            · rw [hexp]
            · rw [hinc]
            · exact resolveSanctionedSnapshot_congr (by rw [hev]) (by rw [hev]) (by rw [hprop])
                (by rw [hprop])
          have hlast : ∀ i ∈ Sample.payInTwo, ¬ i.Prepares := by
            intro i hi
            simp only [Sample.payInTwo, Sample.settle, List.tail_cons, List.map_append,
              List.map_cons, List.map_nil, List.mem_append, List.mem_cons, List.not_mem_nil,
              or_false] at hi
            rcases hi with (rfl | rfl) | rfl | rfl <;>
              · intro h
                cases h
          have hmore : ∀ q ∈ [Sample.round 52, Sample.round 53], q.Admitted s.event := by
            intro q hq
            rcases List.mem_pair.mp hq with rfl | rfl
            · exact Sample.round_admitted 52 hclub
            · exact Sample.round_admitted 53 hclub
          obtain ⟨u, row, hround, _, habsorbed, _⟩ :=
            resettlement_idempotent Sample.roundDigest_ne_nil h0 (Runs.path_of_run hbefore) rfl hstep
              (Runs.path_of_run hpay) hlast hr hset hcomp hsame (Sample.round_admitted 51 hclub) hmore
          exact ⟨s, u, row.1, r, htype, hround, habsorbed, htwo⟩

end CampusConnect
