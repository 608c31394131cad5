/-
  File:      CampusConnect/Guarantees/Pending.lean
  Subject:   PENDING SETTLEMENTS: when one can be cleared by a payment.

  * `Outstanding`: before it is reopened an unsettled settlement has something to move or nothing
    to ask for; from its reopening to the next preparation it has nothing to move;
  * `ReopenedSincePreparation`: whether a reopening is the later of the two;
  * `pending_clearable_iff`: exactly then a pending settlement cannot be cleared, which a REOPENED
    settlement submitted without a new preparation ends in.
-/
import CampusConnect.Guarantees.Ledger

namespace CampusConnect

open Rows SettlementService Instalments

/-! ## 1. What is left to move -/

/-- **The settlement was reopened and not prepared again** by these calls. -/
def ReopenedSincePreparation : List Call → Prop :=
  Runs.Since (fun c => c.op.move.Reopens) (fun c => c.op.move = .settlement .prepared)

instance (calls : List Call) : Decidable (ReopenedSincePreparation calls) :=
  inferInstanceAs (Decidable (Runs.Since _ _ calls))

/-- Whether money is left to move, by whether the settlement was reopened since its preparation. -/
structure Outstanding (s : State) (reopened : Prop) : Prop where
  fresh : ∀ r ∈ s.settlement, ¬ reopened → r.1.status ≠ .settled →
    r.1.settlementType = .balanced ∨ netCash s.payments r.1 ≠ r.1.institutionalPayout
  spent : ∀ r ∈ s.settlement, reopened → netCash s.payments r.1 = r.1.institutionalPayout

theorem Outstanding.congr {s t : State} {p q : Prop} (h : Outstanding s p) (hpq : q ↔ p)
    (hs : t.settlement = s.settlement) (hp : t.payments = s.payments) : Outstanding t q where
  fresh := by
    rw [hs, hp, hpq]
    exact h.fresh
  spent := by
    rw [hs, hp, hpq]
    exact h.spent

/-- A row with the figures of an unsettled one, and the payments as they were. -/
theorem Outstanding.of_row {s t : State} {p q : Prop} (h : Outstanding s p) (hpq : q ↔ p)
    {r row : Stored FinancialSettlement} (hr : s.settlement = some r) (hrow : t.settlement = some row)
    (hp : t.payments = s.payments) (hfig : row.1.SameFigures r.1) (hst : r.1.status ≠ .settled) :
    Outstanding t q where
  fresh := by
    rw [hrow, hp, hpq]
    rintro r' hr' hno _
    cases hr'
    rw [netCash_congr hfig, hfig.settlementType, hfig.institutionalPayout]
    exact h.fresh r hr hno hst
  spent := by
    rw [hrow, hp, hpq]
    rintro r' hr' hyes
    cases hr'
    rw [netCash_congr hfig, hfig.institutionalPayout]
    exact h.spent r hr hyes

/-- Reopened with nothing left to move. -/
theorem Outstanding.of_reopened {s t : State} {q : Prop} (h : Clearing s) (hq : q)
    {r row : Stored FinancialSettlement} (hr : s.settlement = some r) (hrow : t.settlement = some row)
    (hp : t.payments = s.payments) (hfig : row.1.SameFigures r.1) (hset : r.1.status = .settled) :
    Outstanding t q where
  fresh := fun _ _ hno => absurd hq hno
  spent := by
    rw [hrow, hp]
    rintro r' hr' _
    cases hr'
    rw [netCash_congr hfig, hfig.institutionalPayout]
    exact (h.tallied r hr).met (.inl hset)

/-- The type a preparation books is BALANCED only when the net cash is the payout. -/
theorem balanced_or_ne {s : State} (hc : Clearing s) (newId : Uuid) (sanction : Sanction)
    (preparedBy : Uuid) :
    (preparedRow s.settlement newId sanction (liveTotals s sanction.grant) preparedBy).settlementType
        = .balanced ∨
      netCash s.payments
          (preparedRow s.settlement newId sanction (liveTotals s sanction.grant) preparedBy) ≠
        (preparedRow s.settlement newId sanction (liveTotals s sanction.grant)
          preparedBy).institutionalPayout := by
  rw [netCash_prepared hc]
  have hfigs : (preparedRow s.settlement newId sanction (liveTotals s sanction.grant)
        preparedBy).settlementType =
          typeOfBalance ((liveTotals s sanction.grant).institutionalPayout -
            (liveTotals s sanction.grant).netCashTransferred) ∧
      (preparedRow s.settlement newId sanction (liveTotals s sanction.grant)
        preparedBy).institutionalPayout = (liveTotals s sanction.grant).institutionalPayout := by
    unfold preparedRow
    cases s.settlement with
    | none => exact ⟨rfl, rfl⟩
    | some r => exact ⟨rfl, rfl⟩
  rw [hfigs.1, hfigs.2]
  by_cases heq : (liveTotals s sanction.grant).netCashTransferred =
      (liveTotals s sanction.grant).institutionalPayout
  · refine .inl ?_
    rw [heq, sub_self]
    rfl
  · exact .inr heq

theorem outstanding_settlement {cfg : Config} {m : SettlementMove} {s s' : State} {reopened : Prop}
    (hc : Clearing s) (h : Outstanding s reopened) (hstep : SettlementStep cfg s m s') :
    Outstanding s' ((Move.settlement m).Reopens ∨
      (Move.settlement m ≠ .settlement .prepared ∧ reopened)) := by
  -- of the moves that neither prepare nor reopen the flag is the one before
  have hkeep : m ≠ .prepared → m ≠ .reopened →
      ((Move.settlement m).Reopens ∨ (Move.settlement m ≠ .settlement .prepared ∧ reopened) ↔
        reopened) := by
    intro hp hr
    constructor
    · intro hor
      rcases hor with (hm | hm) | ⟨_, hm⟩
      · exact absurd (Move.settlement.inj hm) hr
      · cases hm
      · exact hm
    · intro hm
      exact .inr ⟨fun he => hp (Move.settlement.inj he), hm⟩
  cases hstep with
  | prepared preparedBy newId sanction row entries hcomp hcert hprev hsan hres hrow =>
      refine ⟨?_, ?_⟩
      · intro r hr _ _
        cases hr
        rw [hrow]
        exact balanced_or_ne hc newId sanction preparedBy
      · intro r hr hor
        rcases hor with (hm | hm) | ⟨hm, _⟩
        · cases hm
        · cases hm
        · exact absurd rfl hm
  | submitted r row prepared sanction entries hr hmut hfrom hcons hfig hst =>
      refine h.of_row (hkeep (by decide) (by decide)) hr rfl rfl hfig ?_
      rcases hfrom with hf | hf | hf <;> rw [hf] <;> decide
  | queried r row prepared sanction entries hr hmut hfrom hcons hfig hst =>
      refine h.of_row (hkeep (by decide) (by decide)) hr rfl rfl hfig ?_
      rw [hfrom]
      decide
  | approved r row prepared sanction entries hr hmut hfrom hcons hfig hst =>
      refine h.of_row (hkeep (by decide) (by decide)) hr rfl rfl hfig ?_
      rw [hfrom]
      decide
  | paid r row p entries hr hmut hfrom hid hdir hle hrow =>
      have hfig : row.1.SameFigures r.1 := by
        rw [hrow]
        exact clearedRow_sameFigures r.1 _
      have hnet : netCash (s.payments ++ [p]) row.1 = netCash (s.payments ++ [p]) r.1 :=
        netCash_congr hfig _
      refine ⟨?_, ?_⟩
      · intro r' hr' _ hst
        cases hr'
        -- what stays pending has something left
        refine .inr ?_
        show netCash (s.payments ++ [p]) row.1 ≠ row.1.institutionalPayout
        rw [hnet, hfig.institutionalPayout]
        intro hmet
        apply hst
        rw [hrow]
        unfold clearedRow
        rw [if_pos]
        rw [hmet, remainingDue_met]
      · intro r' hr' hre
        have hspent := h.spent r hr ((hkeep (by decide) (by decide)).mp hre)
        have hpos : 0 < p.1.amount := p.2
        rw [hspent, remainingDue_met] at hle
        omega
  | reopened r row newId reason actor entries hr hmut hfrom hfig hst =>
      exact .of_reopened hc (.inl (.inl rfl)) hr rfl rfl hfig hfrom

theorem outstanding_effect {cfg : Config} {m : Move} {s s' : State} {reopened : Prop}
    (hc : Clearing s) (h : Outstanding s reopened) (heff : Effect cfg s m s') :
    Outstanding s' (m.Reopens ∨ (m ≠ .settlement .prepared ∧ reopened)) := by
  have kept : ∀ t : State, ¬ m.Reopens → m ≠ .settlement .prepared →
      t.settlement = s.settlement → t.payments = s.payments →
      Outstanding t (m.Reopens ∨ (m ≠ .settlement .prepared ∧ reopened)) := by
    intro t hr hp hs hpay
    refine h.congr ?_ hs hpay
    constructor
    · intro hor
      rcases hor with hm | ⟨_, hm⟩
      · exact absurd hm hr
      · exact hm
    · intro hm
      exact .inr ⟨hp, hm⟩
  have other : (∀ k, m ≠ .settlement k) → (∀ k, m ≠ .closeout k) →
      ¬ m.Reopens ∧ m ≠ .settlement .prepared := by
    intro hs hcl
    refine ⟨?_, hs _⟩
    intro hor
    rcases hor with hm | hm
    · exact hs _ hm
    · exact hcl _ hm
  cases heff with
  | read =>
      obtain ⟨hr, hp⟩ := other (fun _ he => nomatch he) (fun _ he => nomatch he)
      exact kept _ hr hp rfl rfl
  | advance m row entries hstep =>
      obtain ⟨hr, hp⟩ := other (fun _ he => nomatch he) (fun _ he => nomatch he)
      exact kept _ hr hp rfl rfl
  | income m t entries hstep =>
      obtain ⟨hr, hp⟩ := other (fun _ he => nomatch he) (fun _ he => nomatch he)
      exact kept _ hr hp rfl rfl
  | expense m t entries hstep =>
      obtain ⟨hr, hp⟩ := other (fun _ he => nomatch he) (fun _ he => nomatch he)
      exact kept _ hr hp rfl rfl
  | settlement m s' hstep => exact outstanding_settlement hc h hstep
  | execution status report entries hstep =>
      obtain ⟨hr, hp⟩ := other (fun _ he => nomatch he) (fun _ he => nomatch he)
      exact kept _ hr hp rfl rfl
  | cancellation s' hstep =>
      obtain ⟨hr, hp⟩ := other (fun _ he => nomatch he) (fun _ he => nomatch he)
      cases hstep <;> exact kept _ hr hp rfl rfl
  | closeout m s' hstep =>
      cases hstep with
      | reopened r row revision newId reason actor entries hfrom hnum hr hset hfig hst =>
          exact .of_reopened hc (.inl (.inr rfl)) hr rfl rfl hfig hset
      | requestedAgain hfrom => exact kept _ (by decide) (by decide) rfl rfl
      | archivedAgain hfrom => exact kept _ (by decide) (by decide) rfl rfl
      | requested entries hfrom hready => exact kept _ (by decide) (by decide) rfl rfl
      | certified r report closure entries hfrom hready hr hrep hset hrid =>
          exact kept _ (by decide) (by decide) rfl rfl
      | rejected entries hfrom => exact kept _ (by decide) (by decide) rfl rfl
      | petitioned entries hfrom => exact kept _ (by decide) (by decide) rfl rfl
      | archived entries hfrom => exact kept _ (by decide) (by decide) rfl rfl

/-- **Over a run.** -/
theorem outstanding_path {cfg : Config} {s0 s : State} {calls : List Call} (h0 : Opening s0)
    (hrun : Runs.Path (Step cfg) s0 calls s) : Outstanding s (ReopenedSincePreparation calls) := by
  have main : Reachable cfg s ∧ Outstanding s (ReopenedSincePreparation calls) := by
    refine hrun.history
      (P := fun s calls => Reachable cfg s ∧ Outstanding s (ReopenedSincePreparation calls)) ?_ ?_
    · rintro s calls c s' ⟨hreach, ho⟩ hstep
      have hc : Clearing (c.enter s) :=
        SessionFree.enter (fun _ _ hc => hc.congr rfl rfl) c hreach.clearing
      have hoe : Outstanding (c.enter s) (ReopenedSincePreparation calls) :=
        SessionFree.enter (P := fun s => Outstanding s (ReopenedSincePreparation calls))
          (fun _ _ ho => ho.congr Iff.rfl rfl rfl) c ho
      refine ⟨.next hreach hstep, ?_⟩
      unfold ReopenedSincePreparation
      rw [Runs.since_append]
      exact outstanding_effect hc hoe hstep.effect
    · refine ⟨.start h0, ?_, ?_⟩
      · intro r hr
        rw [h0.settlement] at hr
        cases hr
      · intro r hr
        rw [h0.settlement] at hr
        cases hr
  exact main.2

/-! ## 2. Clearing a pending settlement -/

/-- **A pending settlement can be cleared**: money is left to move on the side its status names,
    and any finance officer with a payment proof of the event and a reference can record the one
    payment that settles it. -/
structure Clearable (cfg : Config) (s : State) (r : FinancialSettlement) : Prop where
  reimbursement : r.status = .pendingReimbursement →
    0 < r.institutionalPayout - netCash s.payments r
  refund : r.status = .pendingRefund → 0 < netCash s.payments r - r.institutionalPayout
  payable : ∀ (env : Env) (actor : User) (held : Option Text) (newId doc : Uuid)
    (method : PaymentMethod) (reference : Text) (date : Instant) (notes : Option Text),
    actor.role = .financeOfficer → ¬ isBlank reference →
    HasEvidence env s.event doc .settlementPaymentProof →
    ∃ type amount s', Step cfg s ⟨env, actor, held, .recordPayment r.id newId
        ⟨type, amount, method, reference, date, doc, notes⟩⟩ s' ∧
      ∃ row, s'.settlement = some row ∧ row.1.status = .settled

/-- A payment of all that remains settles. -/
theorem payable_of_outstanding {s : State} {r : Stored FinancialSettlement} {env : Env}
    {actor : User} {reference : Text} {doc : Uuid} (hc : Clearing s) (hco : Coherent s)
    (hr : s.settlement = some r)
    (hpend : r.1.status = .pendingReimbursement ∨ r.1.status = .pendingRefund)
    (hne : netCash s.payments r.1 ≠ r.1.institutionalPayout)
    (hfo : actor.role = .financeOfficer) (href : ¬ isBlank reference)
    (hdoc : HasEvidence env s.event doc .settlementPaymentProof) (newId : Uuid)
    (method : PaymentMethod) (date : Instant) (notes : Option Text) :
    ∃ type amount s', recordPayment env actor r.1.id newId
        ⟨type, amount, method, reference, date, doc, notes⟩ s = .ok s' ∧
      ∃ row, s'.settlement = some row ∧ row.1.status = .settled := by
  -- nothing pending is sealed: the settlement of a sealed event is SETTLED
  have hmut : ¬ s.event.Sealed := by
    intro hs
    obtain ⟨r', hr', hset, _⟩ := (hco.ready hs).settled
    rw [hr] at hr'
    cases hr'
    rw [hset] at hpend
    rcases hpend with hp | hp <;> cases hp
  have hdir : ∃ dir, directionOf r.1.settlementType = some dir := by
    rcases hpend with hp | hp
    · rw [(hc.tallied r hr).reimbursement hp]
      exact ⟨_, rfl⟩
    · rw [(hc.tallied r hr).refund hp]
      exact ⟨_, rfl⟩
  obtain ⟨dir, hdir⟩ := hdir
  let amount := remainingDue r.1.settlementType r.1.institutionalPayout (netCash s.payments r.1)
  let args : PaymentArgs := ⟨dir, amount, method, reference, date, doc, notes⟩
  have hpos : 0 < args.amount := by
    show 0 < remainingDue _ _ _
    rw [remainingDue_eq hdir]
    exact remaining_pos (hc.tallied r hr).bounded hne
  have hpaid : ∃ row p entries, recordPayment env actor r.1.id newId args s =
      .ok ({ s with settlement := some row, payments := s.payments ++ [p] }.log entries) ∧
      p.1 = paymentRow newId r.1.id args actor.id ∧
      row.1 = clearedRow r.1 (remainingDue r.1.settlementType r.1.institutionalPayout
        (netCash (s.payments ++ [p]) r.1)) :=
    recordPayment_of hr hmut hfo hpend hdir hpos href hdoc (le_refl _)
  obtain ⟨row, p, entries, hok, hp, hrow⟩ := hpaid
  refine ⟨dir, amount, _, hok, row, rfl, ?_⟩
  have hid : p.1.settlementId = r.1.id := by
    rw [hp]
    rfl
  have hty : directionOf r.1.settlementType = some p.1.paymentType := by
    rw [hp]
    exact hdir
  have hamount : p.1.amount = remaining r.1.settlementType.side r.1.institutionalPayout
      (netCash s.payments r.1) := by
    rw [hp, ← remainingDue_eq hdir]
    rfl
  rw [hrow]
  unfold clearedRow
  rw [if_pos]
  rw [netCash_append hid hty, remainingDue_eq hdir, hamount, remaining_move_self]

/-- **Clearing a pending settlement.** In every run a pending settlement can be cleared by a payment
    exactly when it was not reopened since its latest preparation. -/
theorem pending_clearable_iff {cfg : Config} {s0 s : State} {calls : List Call}
    {r : Stored FinancialSettlement} (h0 : Opening s0) (hrun : Runs.Path (Step cfg) s0 calls s)
    (hr : s.settlement = some r)
    (hpend : r.1.status = .pendingReimbursement ∨ r.1.status = .pendingRefund) :
    Clearable cfg s r.1 ↔ ¬ ReopenedSincePreparation calls := by
  have hreach : Reachable cfg s := Runs.Reach.path (.start h0) hrun
  have hc : Clearing s := hreach.clearing
  have hout : Outstanding s (ReopenedSincePreparation calls) := outstanding_path h0 hrun
  have ht : Tallied r.1 (netCash s.payments r.1) := hc.tallied r hr
  constructor
  · intro hclear hre
    have hspent : netCash s.payments r.1 = r.1.institutionalPayout := hout.spent r hr hre
    rcases hpend with hp | hp
    · have hpos := hclear.reimbursement hp
      omega
    · have hpos := hclear.refund hp
      omega
  · intro hno
    have hset : r.1.status ≠ .settled := by
      rcases hpend with hp | hp <;> rw [hp] <;> decide
    have hne : netCash s.payments r.1 ≠ r.1.institutionalPayout := by
      rcases hout.fresh r hr hno hset with hbal | hne
      · rcases hpend with hp | hp
        · rw [ht.reimbursement hp] at hbal
          cases hbal
        · rw [ht.refund hp] at hbal
          cases hbal
      · exact hne
    have hpos : 0 < remaining r.1.settlementType.side r.1.institutionalPayout
        (netCash s.payments r.1) := remaining_pos ht.bounded hne
    refine ⟨?_, ?_, ?_⟩
    · intro hp
      rw [ht.reimbursement hp] at hpos
      exact hpos
    · intro hp
      rw [ht.refund hp] at hpos
      exact hpos
    · intro env actor held newId doc method reference date notes hfo href hdoc
      -- what the session has in memory does not matter to a payment
      let c : Call := ⟨env, actor, held, .settlementEligibility⟩
      have hbooks : SameBooks s (c.enter s) := sameBooks_enter c s
      have hce : Clearing (c.enter s) :=
        SessionFree.enter (fun _ _ hc => hc.congr rfl rfl) c hc
      have hcoe : Coherent (c.enter s) :=
        SessionFree.enter (fun _ _ hco =>
          ⟨fun hs => (hco.ready hs).congr (by constructor <;> rfl), hco.recorded⟩) c hreach.coherent
      have hev : (c.enter s).event = s.event := rfl
      have hnee : netCash (c.enter s).payments r.1 ≠ r.1.institutionalPayout := by
        rw [hbooks.payments]
        exact hne
      exact payable_of_outstanding hce hcoe (hbooks.settlement.trans hr) hpend hnee hfo href
        (hev ▸ hdoc) newId method date notes

/-- The settlement of the sample event, just approved. -/
theorem pending_clearable_iff_approved :
    ∃ s r, Reachable (Sample.config .sqlite) s ∧ s.settlement = some r ∧
      r.1.status = .pendingReimbursement ∧ Clearable (Sample.config .sqlite) s r.1 := by
  have hrun : Runs.Ends (Runs.run (Call.exec (Sample.config .sqlite)) Sample.settle
      (Sample.opening none)) (fun s => ∃ r ∈ s.settlement, r.1.status = .pendingReimbursement) := by
    decide
  obtain ⟨s, hok, r, hr, hpend⟩ := hrun
  refine ⟨s, r, reachable_of_run Sample.opening_opening hok, hr, hpend, ?_⟩
  exact (pending_clearable_iff Sample.opening_opening (Runs.path_of_run hok) hr
    (.inl hpend)).mpr (by decide)

/-- Paid, reopened, submitted as it is and approved: the settlement waits for a reimbursement of
    nothing. -/
theorem pending_can_be_stuck :
    ∃ s r, Reachable (Sample.config .sqlite) s ∧ s.settlement = some r ∧
      r.1.status = .pendingReimbursement ∧
      r.1.institutionalPayout - netCash s.payments r.1 = 0 := by
  have hrun : Runs.Ends (Runs.run (Call.exec (Sample.config .sqlite))
      (Sample.settle ++
        [Sample.byOfficer (Sample.payment 31 .reimbursementDisbursement 6000),
          Sample.byOfficer (.reopenSettlement (Sample.uid 30) (Sample.uid 61) "reason".toList),
          Sample.bySecretary (.submitSettlement (Sample.uid 30)),
          Sample.byOfficer (.auditSettlement (Sample.uid 30) "APPROVE".toList none none)])
      (Sample.opening none)) (fun s => ∃ r ∈ s.settlement, r.1.status = .pendingReimbursement ∧
        r.1.institutionalPayout - netCash s.payments r.1 = 0) := by
    decide
  obtain ⟨s, hok, r, hr, hpend, hnone⟩ := hrun
  exact ⟨s, r, reachable_of_run Sample.opening_opening hok, hr, hpend, hnone⟩

end CampusConnect
