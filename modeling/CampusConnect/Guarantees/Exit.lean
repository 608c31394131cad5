/-
  File:      CampusConnect/Guarantees/Exit.lean
  Subject:   WAYS OUT of an unsettled settlement: which settlements of a delivered event its office
             can bring to SETTLED, and which stay where they are in every run.

  * `settle_pending` .. `settle_reopened`: the calls that settle, from each status;
  * `Stuck`: the four ways to be stranded; `stuck_step` shows that no call leaves them;
  * `settlement_exit_iff`: an unsettled settlement has a way out exactly when it is not stuck.
-/
import CampusConnect.Guarantees.Accounting
import CampusConnect.Guarantees.Resolution
import CampusConnect.Guarantees.Staleness

namespace CampusConnect

open Guarded Rows SettlementService Instalments

/-- The settlement is SETTLED. -/
def IsSettled (s : State) : Prop := ∃ r, s.settlement = some r ∧ r.1.status = .settled

/-- The office has calls that settle. -/
abbrev Settles (cfg : Config) (o : Office) (s : State) : Prop :=
  ∃ calls t, Runs.Path (o.Step cfg) s calls t ∧ IsSettled t

variable {cfg : Config} {o : Office} {s : State}

theorem Settles.after {t : State} {calls : List Call} (hpath : Runs.Path (o.Step cfg) s calls t)
    (h : Settles cfg o t) : Settles cfg o s := by
  obtain ⟨more, u, hmore, hu⟩ := h
  exact ⟨calls ++ more, u, hpath.append hmore, hu⟩

/-! ## 1. From a pending settlement -/

/-- **Pay what is due.** -/
theorem settle_pending (h : Reachable cfg s) (ho : o.Serves s) {r : Stored FinancialSettlement}
    (hr : s.settlement = some r)
    (hpend : r.1.status = .pendingReimbursement ∨ r.1.status = .pendingRefund)
    (hne : netCash s.payments r.1 ≠ r.1.institutionalPayout) : Settles cfg o s := by
  have hc : Clearing { s with attached := none } := h.clearing.congr rfl rfl
  have hco : Coherent { s with attached := none } :=
    ⟨fun hs => (h.coherent.ready hs).congr (by constructor <;> rfl), h.coherent.recorded⟩
  have hpay : ∃ type amount s', recordPayment o.env o.officer r.1.id ⟨0⟩
      ⟨type, amount, .cheque, remark, 0, o.proof, none⟩ { s with attached := none } = .ok s' ∧
        ∃ row, s'.settlement = some row ∧ row.1.status = .settled :=
    payable_of_outstanding hc hco hr hpend hne ho.officer not_isBlank_remark ho.evidence ⟨0⟩
      .cheque 0 none
  obtain ⟨type, amount, s', hok, row, hrow, hset⟩ := hpay
  let c : Call := o.asOfficer (.recordPayment r.1.id ⟨0⟩
    ⟨type, amount, .cheque, remark, 0, o.proof, none⟩)
  have hstep : Step cfg s c s' := hok
  exact ⟨[c], s', .single ⟨hstep, o.makes_asOfficer trivial⟩, row, hrow, hset⟩

/-! ## 2. From a consistent settlement -/

/-- **Ready for the audit**: the ledger is resolved, the stored figures are the live ones, and
    there is something to pay or nothing to ask for. -/
structure Auditable (cfg : Config) (s : State) (r : Stored FinancialSettlement) : Prop where
  reachable : Reachable cfg s
  backend : cfg.backend = .sqlite
  row : s.settlement = some r
  completed : s.event.status = .completed
  resolved : LedgerResolved s
  current : r.1.figures = s.figures
  due : r.1.settlementType = .balanced ∨ netCash s.payments r.1 ≠ r.1.institutionalPayout

theorem Auditable.unsealed {r : Stored FinancialSettlement} (h : Auditable cfg s r) :
    ¬ s.event.Sealed := by
  unfold Event.Sealed
  rw [h.completed]
  decide

/-- The consistency check of a new session passes, and compares no fingerprint. -/
theorem Auditable.consistent {r : Stored FinancialSettlement} (h : Auditable cfg s r) :
    ∃ sanction, Consistent cfg { s with attached := none } r.1 none sanction := by
  obtain ⟨sanction, hsan, hver, hgrant, _⟩ := (h.reachable.booked r h.row).sanctioned
  have hfig := h.current
  unfold FinancialSettlement.figures State.figures at hfig
  rw [Figures.mk.injEq] at hfig
  obtain ⟨hv, hi, ha⟩ := hfig
  refine ⟨sanction, hsan, h.resolved, ?_, hver, hgrant, fun fp hfp => (nomatch hfp), hv, hi, ha⟩
  exact unattached_sqlite (s := { s with attached := none }) h.backend h.reachable.keysAreText rfl _

/-- A row with another status, written in a new session, is as ready. -/
theorem Auditable.moved {r row : Stored FinancialSettlement} (h : Auditable cfg s r)
    {entries : List AuditEntry} (hfig : row.1.SameFigures r.1)
    (hreach : Reachable cfg ({ s with settlement := some row, attached := none }.log entries)) :
    Auditable cfg ({ s with settlement := some row, attached := none }.log entries) row where
  reachable := hreach
  backend := h.backend
  row := rfl
  completed := h.completed
  resolved := h.resolved
  current := hfig.figures.trans h.current
  due := by
    show _ ∨ netCash s.payments row.1 ≠ row.1.institutionalPayout
    rw [hfig.settlementType, hfig.institutionalPayout, netCash_congr hfig]
    exact h.due

/-- **Approve, and pay if anything is due.** -/
theorem settle_audited {r : Stored FinancialSettlement} (h : Auditable cfg s r) (ho : o.Serves s)
    (hst : r.1.status = .underAudit) : Settles cfg o s := by
  obtain ⟨sanction, hcons⟩ := h.consistent
  have happ : ∃ row entries, auditSettlement cfg o.env o.officer r.1.id "APPROVE".toList none none
      { s with attached := none } =
        .ok ({ s with settlement := some row, attached := none }.log entries) ∧
        row.1 = { r.1 with
          auditedBy := some o.officer.id
          auditedAt := some o.env.now
          financeRemarks := r.1.financeRemarks
          queryReason := none
          status := approvedStatus r.1.settlementType } :=
    auditApprove_of (by decide) h.row h.unsealed ho.officer hst hcons
  obtain ⟨row, entries, hok, hnew⟩ := happ
  have hfig : row.1.SameFigures r.1 := by
    rw [hnew]
    constructor <;> rfl
  have hrow : row.1.status = approvedStatus r.1.settlementType := by
    rw [hnew]
  let c : Call := o.asOfficer (.auditSettlement r.1.id "APPROVE".toList none none)
  have hstep : Step cfg s c _ := hok
  have hpath : Runs.Path (o.Step cfg) s [c] _ := .single ⟨hstep, o.makes_asOfficer trivial⟩
  have hnext := h.moved hfig (.next h.reachable hstep)
  have hserves : o.Serves ({ s with settlement := some row, attached := none }.log entries) :=
    ⟨ho.secretary, ho.officer, ho.apart, ho.evidence⟩
  cases htype : r.1.settlementType with
  | balanced =>
      rw [htype] at hrow
      exact ⟨[c], _, hpath, row, rfl, hrow⟩
  | reimbursementDue =>
      rw [htype] at hrow
      have hdue := hnext.due
      rw [hfig.settlementType, htype] at hdue
      rcases hdue with hbal | hne
      · cases hbal
      · exact .after hpath (settle_pending hnext.reachable hserves rfl (.inl hrow) hne)
  | refundDue =>
      rw [htype] at hrow
      have hdue := hnext.due
      rw [hfig.settlementType, htype] at hdue
      rcases hdue with hbal | hne
      · cases hbal
      · exact .after hpath (settle_pending hnext.reachable hserves rfl (.inr hrow) hne)

/-- **Submit first.** -/
theorem settle_submittable {r : Stored FinancialSettlement} (h : Auditable cfg s r)
    (ho : o.Serves s)
    (hst : r.1.status = .draft ∨ r.1.status = .queried ∨ r.1.status = .reopened) :
    Settles cfg o s := by
  obtain ⟨sanction, hcons⟩ := h.consistent
  have hsub : ∃ row entries, submitSettlement cfg o.env o.secretary r.1.id
      { s with attached := none } =
        .ok ({ s with settlement := some row, attached := none }.log entries) ∧
        row.1 = { r.1 with status := .underAudit, submittedAt := some o.env.now } :=
    submitSettlement_of h.row h.unsealed ho.secretary hst hcons
  obtain ⟨row, entries, hok, hrow⟩ := hsub
  let c : Call := o.asSecretary (.submitSettlement r.1.id)
  have hstep : Step cfg s c _ := hok
  have hpath : Runs.Path (o.Step cfg) s [c] _ := .single ⟨hstep, o.makes_asSecretary trivial⟩
  have hfig : row.1.SameFigures r.1 := by
    rw [hrow]
    constructor <;> rfl
  have hserves : o.Serves ({ s with settlement := some row, attached := none }.log entries) :=
    ⟨ho.secretary, ho.officer, ho.apart, ho.evidence⟩
  refine .after hpath (settle_audited (h.moved hfig (.next h.reachable hstep)) hserves ?_)
  rw [hrow]

/-! ## 3. From a reopened settlement -/

/-- What was stored under a sanction can be stored again under it, whatever the ledger holds. -/
theorem check_prepared {r : Stored FinancialSettlement} {sanction : Sanction}
    (hr : s.settlement = some r) (hgrant : r.1.sanctionedGrant = sanction.grant)
    (hexp : r.1.sanctionedExpenditure = sanction.expenditure) (newId preparedBy : Uuid) :
    Row.Check
      (preparedRow s.settlement newId sanction (liveTotals s sanction.grant) preparedBy) := by
  have hold : FinancialSettlement.Check r.1 := r.2
  obtain ⟨hg, he, _⟩ := hold
  rw [hgrant] at hg
  rw [hexp] at he
  have hclaim : 0 ≤ s.expenses.sum ActualExpense.claimedAmount :=
    Table.sum_nonneg fun e hmem => (s.expenses.checked e hmem).1.le
  have hver : 0 ≤ s.expenses.sum verifiedPart :=
    Table.sum_nonneg fun e hmem => verifiedPart_nonneg (s.expenses.checked e hmem)
  have hdis : 0 ≤ s.expenses.sum disallowedPart :=
    Table.sum_nonneg fun e hmem => disallowedPart_nonneg (s.expenses.checked e hmem)
  have hinc : 0 ≤ s.incomes.sum incomePart :=
    Table.sum_nonneg fun i hmem => incomePart_nonneg (s.incomes.checked i hmem)
  have hadv : 0 ≤ disbursedPart s.advance := disbursedPart_nonneg s.advance
  have hdef : 0 ≤ (liveTotals s sanction.grant).netDeficit := le_max_left _ _
  have hpay : 0 ≤ (liveTotals s sanction.grant).institutionalPayout := le_min hg hdef
  have hreim : 0 ≤ (liveTotals s sanction.grant).reimbursementDue := reimbursementDue_nonneg s _
  have hrefund : 0 ≤ (liveTotals s sanction.grant).refundDue := refundDue_nonneg s _
  rw [hr]
  exact ⟨hg, he, hclaim, hver, hdis, hinc, hdef, hpay, hadv, hreim, hrefund⟩

/-- **Prepare again first.** -/
theorem settle_reopened {r : Stored FinancialSettlement} (h : Reachable cfg s) (ho : o.Serves s)
    (hb : cfg.backend = .sqlite) (hr : s.settlement = some r) (hst : r.1.status = .reopened)
    (hcomp : s.event.status = .completed) (hcert : ReportCertified s) (hres : LedgerResolved s) :
    Settles cfg o s := by
  obtain ⟨sanction, hsan, _, hgrant, hexp⟩ := (h.booked r hr).sanctioned
  have hprev : ∀ r' ∈ s.settlement, r'.1.status = .reopened := by
    intro r' hr'
    rw [hr] at hr'
    cases hr'
    exact hst
  have hprep : ∃ row entries, prepareSettlement cfg o.env o.secretary ⟨0⟩
      { s with attached := none } =
        .ok ({ s with
          settlement := some row
          attached := some (liveFingerprint cfg s sanction) }.log entries) ∧
        row.1 = preparedRow s.settlement ⟨0⟩ sanction (liveTotals s sanction.grant)
          o.secretary.id :=
    prepareSettlement_of hcomp hcert ho.secretary hprev hsan hres
      (check_prepared hr hgrant hexp ⟨0⟩ o.secretary.id)
  obtain ⟨row, entries, hok, hrow⟩ := hprep
  let c : Call := o.asSecretary (.prepareSettlement ⟨0⟩)
  have hstep : Step cfg s c _ := hok
  have hpath : Runs.Path (o.Step cfg) s [c] _ := .single ⟨hstep, o.makes_asSecretary trivial⟩
  have hready : Auditable cfg ({ s with
      settlement := some row
      attached := some (liveFingerprint cfg s sanction) }.log entries) row := by
    refine ⟨.next h hstep, hb, rfl, hcomp, hres, ?_, ?_⟩
    · rw [hrow, figures_prepared]
      rfl
    · show row.1.settlementType = _ ∨ netCash s.payments row.1 ≠ row.1.institutionalPayout
      rw [hrow]
      exact balanced_or_ne h.clearing ⟨0⟩ sanction o.secretary.id
  refine .after hpath (settle_submittable hready
    ⟨ho.secretary, ho.officer, ho.apart, ho.evidence⟩ (.inl ?_))
  rw [hrow, preparedRow_status]

/-! ## 4. Being stranded -/

/-- DRAFT, UNDER_AUDIT or QUERIED. -/
def SettlementStatus.UnderReview (status : SettlementStatus) : Prop :=
  status = .draft ∨ status = .underAudit ∨ status = .queried

instance (status : SettlementStatus) : Decidable status.UnderReview :=
  inferInstanceAs (Decidable (_ ∨ _ ∨ _))

/-- **The ways to be stranded.** -/
inductive Stuck (cfg : Config) (s : State) (r : FinancialSettlement) : Prop where
  /-- Something is to be paid, and nothing is left to pay. -/
  | nothingDue
      (hst : r.status.UnderReview ∨ r.status = .pendingReimbursement ∨ r.status = .pendingRefund)
      (htype : r.settlementType ≠ .balanced) (hnet : netCash s.payments r = r.institutionalPayout)
  /-- The lookup of the prepared fingerprint fails. -/
  | lookup (hb : cfg.backend = .postgresql) (hst : r.status.UnderReview ∨ r.status = .reopened)
  /-- The ledger has grown past the stored figures, and only a REOPENED row is prepared again. -/
  | outdated (hst : r.status.UnderReview) (hfig : r.figures ≠ s.figures)
  /-- An approved advance can only be paid out, which makes the stored figures outdated. -/
  | advance (a : Stored CashAdvance) (hst : r.status.UnderReview) (ha : s.advance = some a)
      (happ : a.1.status = .approved)

/-- A completed event whose settlement is stuck. -/
structure Stranded (cfg : Config) (s : State) : Prop where
  completed : s.event.status = .completed
  stuck : ∃ r, s.settlement = some r ∧ Stuck cfg s r.1

theorem Stuck.not_settled {r : FinancialSettlement} (h : Stuck cfg s r) : r.status ≠ .settled := by
  intro hset
  cases h with
  | nothingDue hst htype hnet =>
      rw [hset] at hst
      exact absurd hst (by decide)
  | lookup hb hst =>
      rw [hset] at hst
      exact absurd hst (by decide)
  | outdated hst hfig =>
      rw [hset] at hst
      exact absurd hst (by decide)
  | advance a hst ha happ =>
      rw [hset] at hst
      exact absurd hst (by decide)

/-- The row as it was, while the ledger grows. -/
theorem Stuck.grown {t : State} {r : FinancialSettlement} (h : Stuck cfg s r)
    (hbehind : r.figures.Le s.figures) (hpay : t.payments = s.payments)
    (hle : s.figures.Le t.figures)
    (hadv : ∀ a, s.advance = some a → a.1.status = .approved →
      t.advance = some a ∨ s.figures.total < t.figures.total) : Stuck cfg t r := by
  have hlt_ne : r.figures.total < t.figures.total → r.figures ≠ t.figures := by
    intro hlt heq
    rw [heq] at hlt
    exact lt_irrefl _ hlt
  cases h with
  | nothingDue hst htype hnet =>
      refine .nothingDue hst htype ?_
      rw [hpay]
      exact hnet
  | lookup hb hst => exact .lookup hb hst
  | outdated hst hfig =>
      exact .outdated hst (hlt_ne (lt_of_lt_of_le (hbehind.total_lt hfig) hle.total_le))
  | advance a hst ha happ =>
      rcases hadv a ha happ with hsame | hlt
      · exact .advance a hst hsame happ
      · exact .outdated hst (hlt_ne (lt_of_le_of_lt hbehind.total_le hlt))

/-- A submission or audit in a new session is refused, unless nothing is due. -/
theorem Stuck.of_consistent {r : FinancialSettlement} {prepared : Option Text} {sanction : Sanction}
    (h : Stuck cfg s r) (hatt : s.attached = none) (hcons : Consistent cfg s r prepared sanction) :
    r.settlementType ≠ .balanced ∧ netCash s.payments r = r.institutionalPayout := by
  cases h with
  | nothingDue hst htype hnet => exact ⟨htype, hnet⟩
  | lookup hb hst => exact absurd hcons.compared (unattached_postgresql hb hatt)
  | outdated hst hfig =>
      refine absurd ?_ hfig
      unfold FinancialSettlement.figures State.figures
      rw [hcons.verified, hcons.income, hcons.advance]
  | advance a hst ha happ => exact absurd (.inr happ) (hcons.resolved.2.2 a ha)

/-- The stuck row moved on, with nothing due. -/
theorem Stuck.of_nothingDue {t : State} {r row : FinancialSettlement} (hfig : row.SameFigures r)
    (htype : r.settlementType ≠ .balanced) (hnet : netCash s.payments r = r.institutionalPayout)
    (hpay : t.payments = s.payments)
    (hst : row.status.UnderReview ∨ row.status = .pendingReimbursement ∨
      row.status = .pendingRefund) : Stuck cfg t row := by
  refine .nothingDue hst ?_ ?_
  · rw [hfig.settlementType]
    exact htype
  · rw [hpay, netCash_congr hfig, hfig.institutionalPayout]
    exact hnet

theorem stranded_settlement {m : SettlementMove} {s' : State} (h : Stranded cfg s)
    (hatt : s.attached = none) (hstep : SettlementStep cfg s m s') : Stranded cfg s' := by
  obtain ⟨hcomp, r0, hr0, hstuck⟩ := h
  have same : ∀ {r}, s.settlement = some r → r = r0 := by
    intro r hr
    exact Option.some.inj (hr.symm.trans hr0)
  cases hstep with
  | prepared preparedBy newId sanction row entries hdone hcert hprev hsan hres hrow =>
      have hre : r0.1.status = .reopened := hprev r0 hr0
      refine ⟨hcomp, row, rfl, ?_⟩
      cases hstuck with
      | lookup hb hst =>
          refine .lookup hb (.inl (.inl ?_))
          rw [hrow, preparedRow_status]
      | nothingDue hst htype hnet =>
          rw [hre] at hst
          exact absurd hst (by decide)
      | outdated hst hfig =>
          rw [hre] at hst
          exact absurd hst (by decide)
      | advance a hst ha happ =>
          rw [hre] at hst
          exact absurd hst (by decide)
  | submitted r row prepared sanction entries hr hmut hfrom hcons hfig hst =>
      cases same hr
      obtain ⟨htype, hnet⟩ := hstuck.of_consistent hatt hcons
      exact ⟨hcomp, row, rfl, .of_nothingDue hfig htype hnet rfl (.inl (.inr (.inl hst)))⟩
  | queried r row prepared sanction entries hr hmut hfrom hcons hfig hst =>
      cases same hr
      obtain ⟨htype, hnet⟩ := hstuck.of_consistent hatt hcons
      exact ⟨hcomp, row, rfl, .of_nothingDue hfig htype hnet rfl (.inl (.inr (.inr hst)))⟩
  | approved r row prepared sanction entries hr hmut hfrom hcons hfig hst =>
      cases same hr
      obtain ⟨htype, hnet⟩ := hstuck.of_consistent hatt hcons
      refine ⟨hcomp, row, rfl, .of_nothingDue hfig htype hnet rfl (.inr ?_)⟩
      rw [hst]
      cases hty : r0.1.settlementType with
      | balanced => exact absurd hty htype
      | reimbursementDue => exact .inl rfl
      | refundDue => exact .inr rfl
  | paid r row p entries hr hmut hfrom hid hdir hle hrow =>
      cases same hr
      -- a payment is positive, and nothing is left to pay
      have hnet : netCash s.payments r0.1 = r0.1.institutionalPayout := by
        cases hstuck with
        | nothingDue hst htype hnet => exact hnet
        | lookup hb hst =>
            rcases hfrom with hf | hf <;> rw [hf] at hst <;> exact absurd hst (by decide)
        | outdated hst hfig =>
            rcases hfrom with hf | hf <;> rw [hf] at hst <;> exact absurd hst (by decide)
        | advance a hst ha happ =>
            rcases hfrom with hf | hf <;> rw [hf] at hst <;> exact absurd hst (by decide)
      have hpos : 0 < p.1.amount := p.2
      rw [hnet, remainingDue_met] at hle
      omega
  | reopened r row newId reason actor entries hr hmut hfrom hfig hst =>
      cases same hr
      exact absurd hfrom hstuck.not_settled

/-- **No call of a new session frees a stranded settlement.** -/
theorem stranded_effect {m : Move} {s' : State} (hb : ∀ r ∈ s.settlement, Booked s r.1)
    (h : Stranded cfg s) (hatt : s.attached = none) (heff : Effect cfg s m s') :
    Stranded cfg s' := by
  obtain ⟨r, hr, hstuck⟩ := h.stuck
  obtain ⟨hle, _, hgrow⟩ := figures_effect heff
  have hbehind : r.1.figures.Le s.figures := (hb r hr).behind
  have not_in : ∀ status : EventStatus, status ≠ .completed → s.event.status ≠ status := by
    intro status hne
    rw [h.completed]
    exact hne.symm
  cases heff with
  | read => exact h
  | advance m row entries hstep =>
      refine ⟨h.completed, r, hr, hstuck.grown hbehind rfl hle ?_⟩
      intro a ha happ
      right
      have hdis : m = .disbursed := by
        cases hstep with
        | requested _ hmut hnone hset hst hamt =>
            rw [ha] at hnone
            cases hnone
        | approved advance _ hmut hadv hfrom hst hamt hgrant =>
            rw [ha] at hadv
            cases hadv
            rw [happ] at hfrom
            cases hfrom
        | rejected advance _ hadv hfrom hst hamt =>
            rw [ha] at hadv
            cases hadv
            rw [happ] at hfrom
            cases hfrom
        | disbursed advance _ hadv hfrom hst hpos hamt => rfl
      refine hgrow ?_
      rw [hdis]
      trivial
  | income m t entries hstep =>
      exact ⟨h.completed, r, hr, hstuck.grown hbehind rfl hle fun a ha _ => .inl ha⟩
  | expense m t entries hstep =>
      exact ⟨h.completed, r, hr, hstuck.grown hbehind rfl hle fun a ha _ => .inl ha⟩
  | settlement m s' hstep => exact stranded_settlement h hatt hstep
  | execution status report entries hstep =>
      cases hstep with
      | started hfrom => exact absurd hfrom (not_in _ (by decide))
      | completed row hfrom hnone hst =>
          rcases hfrom with hf | hf
          · exact absurd hf (not_in _ (by decide))
          · exact absurd hf (not_in _ (by decide))
      | revised report row hmut hrep hfrom hid =>
          exact ⟨h.completed, r, hr, hstuck.grown hbehind rfl hle fun a ha _ => .inl ha⟩
  | cancellation s' hstep =>
      cases hstep with
      | proposal entries hfrom =>
          exact ⟨h.completed, r, hr, hstuck.grown hbehind rfl hle fun a ha _ => .inl ha⟩
      | event event advance entries hfrom hid hreq hver hst hpend hadv =>
          rcases hfrom with hf | hf
          · exact absurd hf (not_in _ (by decide))
          · exact absurd hf (not_in _ (by decide))
  | closeout m s' hstep =>
      cases hstep with
      | requested entries hfrom hready =>
          -- nothing unsettled is closed
          obtain ⟨r', hr', hset, _⟩ := hready.settled
          cases Option.some.inj (hr.symm.trans hr')
          exact absurd hset hstuck.not_settled
      | requestedAgain hfrom => exact absurd hfrom (not_in _ (by decide))
      | archivedAgain hfrom => exact absurd hfrom (not_in _ (by decide))
      | certified r report closure entries hfrom hready hr hrep hset hrid =>
          exact absurd hfrom (not_in _ (by decide))
      | rejected entries hfrom => exact absurd hfrom (not_in _ (by decide))
      | petitioned entries hfrom => exact absurd hfrom (not_in _ (by decide))
      | reopened r row revision newId reason actor entries hfrom hnum hr hset hfig hst =>
          exact absurd hfrom (not_in _ (by decide))
      | archived entries hfrom => exact absurd hfrom (not_in _ (by decide))

/-- **Over any run of calls in sessions of their own**, by whomever. -/
theorem stranded_path {t : State} {calls : List Call} (h : Reachable cfg s) (hs : Stranded cfg s)
    (hpath : Runs.Path (Step cfg) s calls t) (hfresh : ∀ c ∈ calls, c.held = none) :
    Stranded cfg t := by
  induction hpath with
  | nil s => exact hs
  | @cons s u t c calls hstep _ ih =>
      have hc : c.enter s = { s with attached := none } := by
        unfold Call.enter
        rw [hfresh c (List.mem_cons.mpr (.inl rfl))]
      have heff : Effect cfg { s with attached := none } c.op.move u := hc ▸ hstep.effect
      have hsn : Stranded cfg { s with attached := none } := by
        obtain ⟨r, hr, hstuck⟩ := hs.stuck
        exact ⟨hs.completed, r, hr, hstuck.grown (h.booked r hr).behind rfl (.refl _)
          fun a ha _ => .inl ha⟩
      have hbn : ∀ r ∈ s.settlement, Booked { s with attached := none } r.1 :=
        fun r hr => (h.booked r hr).congr rfl rfl rfl
      exact ih (.next h hstep) (stranded_effect hbn hsn rfl heff)
        fun d hd => hfresh d (List.mem_cons.mpr (.inr hd))

/-! ## 5. The result -/

/-- The status APPROVED is there and nothing ever sets it. -/
theorem Reachable.never_approved (h : Reachable cfg s) :
    ∀ r ∈ s.settlement, r.1.status ≠ .approved := by
  refine h.invariant (P := fun s => ∀ r ∈ s.settlement, r.1.status ≠ .approved)
    (fun _ _ hs => hs) ?_ ?_
  · intro s ho r hr
    rw [ho.settlement] at hr
    cases hr
  · intro s m s' hs heff row hrow
    cases row_effect heff hrow with
    | prepared newId preparedBy sanction _ hprev hsan hres hpre =>
        rw [hpre, preparedRow_status]
        decide
    | submitted r _ hr hfig hfrom hst hcons =>
        rw [hst]
        decide
    | queried r _ hr hfig hfrom hst hcons =>
        rw [hst]
        decide
    | approved r _ hr hfig hfrom hst hcons =>
        rw [hst]
        cases r.1.settlementType <;> decide
    | paid r _ hr hfig hfrom hst =>
        rcases hst with hsame | hset
        · rw [hsame]
          exact hs r hr
        · rw [hset]
          decide
    | reopened _ r _ hm hr hfig hfrom hst =>
        rw [hst]
        decide
    | kept _ r _ hm hr hkept =>
        rw [hkept]
        exact hs r hr

/-- A settlement that can be looked up is on SQLite, where it is not stuck. -/
theorem sqlite_of_free {r : FinancialSettlement} (hfree : ¬ Stuck cfg s r)
    (hst : r.status.UnderReview ∨ r.status = .reopened) : cfg.backend = .sqlite := by
  cases hb : cfg.backend with
  | sqlite => rfl
  | postgresql => exact absurd (.lookup hb hst) hfree

/-- Of a settlement under review that is not stuck the figures are current, and none of its advance
    is to be paid: once its ledger is resolved, it can be audited. -/
theorem auditable_of_free {r : Stored FinancialSettlement} (h : Reachable cfg s)
    (hcomp : s.event.status = .completed) (hcert : ReportCertified s) (hr : s.settlement = some r)
    (ho : o.Serves s) (hfree : ¬ Stuck cfg s r.1) (hst : r.1.status.UnderReview) :
    ∃ calls t, Runs.Path (o.Step cfg) s calls t ∧ Auditable cfg t r ∧ o.Serves t := by
  have hfig : r.1.figures = s.figures := by
    by_contra hne
    exact hfree (.outdated hst hne)
  have hno : NoApproved s := fun a ha happ => hfree (.advance a hst ha happ)
  have hdue : r.1.settlementType = .balanced ∨
      netCash s.payments r.1 ≠ r.1.institutionalPayout := by
    by_cases hbal : r.1.settlementType = .balanced
    · exact .inl hbal
    · exact .inr fun hnet => hfree (.nothingDue (.inl hst) hbal hnet)
  obtain ⟨calls, t, hpath, hres, hled⟩ := ledger_resolves h ho hcomp hcert
  refine ⟨calls, t, hpath, ⟨hres.reachable, sqlite_of_free hfree (.inl hst), ?_, ?_, hled, ?_, ?_⟩,
    hres.serves⟩
  · rw [hres.file.settlement]
    exact hr
  · rw [hres.file.event]
    exact hcomp
  · rw [(hres.figures hno).1]
    exact hfig
  · rw [hres.file.payments]
    exact hdue

/-- **A way out.** An unsettled settlement of a completed event with a certified report can be
    brought to SETTLED by its office exactly when it is not stuck. -/
theorem settlement_exit_iff {r : Stored FinancialSettlement} (h : Reachable cfg s)
    (hcomp : s.event.status = .completed) (hcert : ReportCertified s) (hr : s.settlement = some r)
    (hopen : r.1.status ≠ .settled) (ho : o.Serves s) :
    Settles cfg o s ↔ ¬ Stuck cfg s r.1 := by
  constructor
  · rintro ⟨calls, t, hpath, r', hr', hset⟩ hstuck
    have hfresh : ∀ c ∈ calls, c.held = none := Runs.Path.labels hpath fun _ _ hok => hok.fresh
    have hstr : Stranded cfg t :=
      stranded_path h ⟨hcomp, r, hr, hstuck⟩ (Runs.Path.of_restrict hpath) hfresh
    obtain ⟨r'', hr'', hstuck'⟩ := hstr.stuck
    cases Option.some.inj (hr'.symm.trans hr'')
    exact hstuck'.not_settled hset
  · intro hfree
    have ht : Tallied r.1 (netCash s.payments r.1) := h.clearing.tallied r hr
    have hpendType : r.1.status = .pendingReimbursement ∨ r.1.status = .pendingRefund →
        r.1.settlementType ≠ .balanced := by
      intro hor
      rcases hor with hp | hp
      · rw [ht.reimbursement hp]
        decide
      · rw [ht.refund hp]
        decide
    have review := auditable_of_free h hcomp hcert hr ho hfree
    cases hst : r.1.status with
    | draft =>
        obtain ⟨calls, t, hpath, haud, hserves⟩ := review (.inl hst)
        exact .after hpath (settle_submittable haud hserves (.inl hst))
    | underAudit =>
        obtain ⟨calls, t, hpath, haud, hserves⟩ := review (.inr (.inl hst))
        exact .after hpath (settle_audited haud hserves hst)
    | queried =>
        obtain ⟨calls, t, hpath, haud, hserves⟩ := review (.inr (.inr hst))
        exact .after hpath (settle_submittable haud hserves (.inr (.inl hst)))
    | pendingReimbursement =>
        refine settle_pending h ho hr (.inl hst) fun hnet => ?_
        exact hfree (.nothingDue (.inr (.inl hst)) (hpendType (.inl hst)) hnet)
    | pendingRefund =>
        refine settle_pending h ho hr (.inr hst) fun hnet => ?_
        exact hfree (.nothingDue (.inr (.inr hst)) (hpendType (.inr hst)) hnet)
    | approved => exact absurd hst (h.never_approved r hr)
    | settled => exact absurd hst hopen
    | reopened =>
        have hsqlite := sqlite_of_free hfree (.inr hst)
        obtain ⟨calls, t, hpath, hres, hled⟩ := ledger_resolves h ho hcomp hcert
        refine .after hpath (settle_reopened hres.reachable hres.serves hsqlite ?_ hst ?_ ?_ hled)
        · rw [hres.file.settlement]
          exact hr
        · rw [hres.file.event]
          exact hcomp
        · unfold ReportCertified
          rw [hres.file.report]
          exact hcert

/-- The office of the sample event. -/
def Sample.office : Office := ⟨Sample.env, Sample.secretary, Sample.officer, Sample.uid 21⟩

/-- The settlement of the sample event, prepared and not touched since. -/
theorem settlement_exit_iff_prepared :
    ∃ s, Reachable (Sample.config .sqlite) s ∧ (∃ r, s.settlement = some r ∧ r.1.status = .draft) ∧
      Settles (Sample.config .sqlite) Sample.office s := by
  have hrun : Runs.Ends (Runs.run (Call.exec (Sample.config .sqlite))
      [Sample.bySecretary (.prepareSettlement (Sample.uid 30))] (Sample.opening none)) (fun s =>
        s.event.status = .completed ∧ ReportCertified s ∧
        (∃ r ∈ s.settlement, r.1.status = .draft ∧ r.1.settlementType = .reimbursementDue ∧
          r.1.figures = s.figures ∧ netCash s.payments r.1 ≠ r.1.institutionalPayout) ∧
        s.advance = none ∧ s.incomes.rows = [] ∧ s.event = Sample.event) := by
    decide
  obtain ⟨s, hok, hcomp, hcert, ⟨r, hr, hst, htype, hfig, hnet⟩, hadv, hinc, hev⟩ := hrun
  have hreach : Reachable (Sample.config .sqlite) s := reachable_of_run Sample.opening_opening hok
  have hserves : Sample.office.Serves s := by
    refine ⟨⟨by decide, ?_⟩, rfl, ?_, ?_⟩
    · rw [hev]
      decide
    · intro i hi
      rw [Table.mem_def, hinc] at hi
      cases hi
    · rw [hev]
      exact ⟨_, rfl, rfl, by decide⟩
  refine ⟨s, hreach, ⟨r, hr, hst⟩, ?_⟩
  refine (settlement_exit_iff hreach hcomp hcert hr (by rw [hst]; decide) hserves).mpr ?_
  intro hstuck
  cases hstuck with
  | nothingDue _ _ hmet => exact hnet hmet
  | lookup hb _ => cases hb
  | outdated _ hne => exact hne hfig
  | advance a _ ha _ =>
      rw [hadv] at ha
      cases ha

/-- A claim verified after the preparation strands the DRAFT settlement: whoever calls whatever
    afterwards, it is never SETTLED. -/
theorem settlement_can_be_stranded :
    ∃ s, Reachable (Sample.config .sqlite) s ∧ s.event.status = .completed ∧ ReportCertified s ∧
      (∃ r, s.settlement = some r ∧ r.1.status = .draft) ∧
      ∀ calls t, (∀ c ∈ calls, c.held = none) →
        Runs.Path (Step (Sample.config .sqlite)) s calls t → ¬ IsSettled t := by
  have hrun : Runs.Ends (Runs.run (Call.exec (Sample.config .sqlite))
      (Sample.bySecretary (.prepareSettlement (Sample.uid 30)) :: Sample.claim ++
        [Sample.byOfficer (.verifyExpense (Sample.uid 41) none)]) (Sample.opening none)) (fun s =>
        s.event.status = .completed ∧ ReportCertified s ∧
        ∃ r ∈ s.settlement, r.1.status = .draft ∧ r.1.figures ≠ s.figures) := by
    decide
  obtain ⟨s, hok, hcomp, hcert, r, hr, hst, hfig⟩ := hrun
  have hreach : Reachable (Sample.config .sqlite) s := reachable_of_run Sample.opening_opening hok
  refine ⟨s, hreach, hcomp, hcert, ⟨r, hr, hst⟩, ?_⟩
  intro calls t hfresh hpath h
  obtain ⟨r', hr', hset⟩ := h
  have hstr : Stranded (Sample.config .sqlite) t :=
    stranded_path hreach ⟨hcomp, r, hr, .outdated (.inl hst) hfig⟩ hpath hfresh
  obtain ⟨r'', hr'', hstuck⟩ := hstr.stuck
  cases Option.some.inj (hr'.symm.trans hr'')
  exact hstuck.not_settled hset

end CampusConnect
