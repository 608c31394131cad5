/-
  File:      CampusConnect/Guarantees/Clearing.lean
  Subject:   EXACT CLEARING: a SETTLED settlement has moved exactly its payout.

  The settlement's type fixes the side on which the balance is brought to the payout
  (`Base/Instalments.lean`). `Tallied` relates the stored figures to all payments ever recorded:
  the net cash has not passed the payout, and where the status says SETTLED or REOPENED it has met
  it. Every settlement step keeps it (`clearing_settlement`), whatever figures a new preparation
  brings, since the type is recomputed from the net cash of that moment.
-/
import CampusConnect.Base.Instalments
import CampusConnect.System
import Mathlib.Algebra.Order.Group.Int

namespace CampusConnect

open Rows SettlementService Instalments

/-! ## 1. The side of a settlement -/

/-- The side of a settlement type. -/
def SettlementType.side : SettlementType → Side
  | .reimbursementDue => .pay
  | .refundDue => .receive
  | .balanced => .even

theorem side_typeOfBalance (balance : Int) : (typeOfBalance balance).side = sideOf balance := by
  unfold typeOfBalance sideOf
  by_cases hpos : 0 < balance
  · rw [if_pos hpos, if_pos hpos]
    rfl
  · rw [if_neg hpos, if_neg hpos]
    by_cases hneg : balance < 0
    · rw [if_pos hneg, if_pos hneg]
      rfl
    · rw [if_neg hneg, if_neg hneg]
      rfl

/-- Where payments are asked for, what is due is what remains on the side of the type. -/
theorem remainingDue_eq {type : SettlementType} {dir : SettlementPaymentType}
    (h : directionOf type = some dir) (payout net : Int) :
    remainingDue type payout net = remaining type.side payout net := by
  cases type with
  | reimbursementDue => rfl
  | refundDue => rfl
  | balanced => cases h

/-- Nothing is due when the net cash is the payout. -/
theorem remainingDue_met (type : SettlementType) (payout : Int) :
    remainingDue type payout payout = 0 := by
  cases type <;> exact sub_self _

theorem cleared_append (type : SettlementPaymentType) (id : Uuid)
    (payments : List (Stored SettlementPayment)) (p : Stored SettlementPayment) :
    cleared type id (payments ++ [p]) = cleared type id payments + clearedPart type id p.1 := by
  unfold cleared
  rw [List.map_append, List.sum_append]
  simp

/-- **A payment in the asked direction moves the net cash on the side of the type.** -/
theorem netCash_append {r : FinancialSettlement} {p : Stored SettlementPayment}
    (hid : p.1.settlementId = r.id) (hdir : directionOf r.settlementType = some p.1.paymentType)
    (payments : List (Stored SettlementPayment)) :
    netCash (payments ++ [p]) r = move r.settlementType.side (netCash payments r) p.1.amount := by
  unfold netCash
  rw [cleared_append, cleared_append]
  cases htype : r.settlementType with
  | reimbursementDue =>
      rw [htype] at hdir
      have hty : p.1.paymentType = .reimbursementDisbursement := (Option.some.inj hdir).symm
      rw [show clearedPart .reimbursementDisbursement r.id p.1 = p.1.amount from
          if_pos ⟨hid, hty⟩,
        show clearedPart .advanceRefundReceipt r.id p.1 = 0 from
          if_neg (by rw [hty]; rintro ⟨_, h⟩; cases h)]
      show _ = _ + _
      omega
  | refundDue =>
      rw [htype] at hdir
      have hty : p.1.paymentType = .advanceRefundReceipt := (Option.some.inj hdir).symm
      rw [show clearedPart .advanceRefundReceipt r.id p.1 = p.1.amount from if_pos ⟨hid, hty⟩,
        show clearedPart .reimbursementDisbursement r.id p.1 = 0 from
          if_neg (by rw [hty]; rintro ⟨_, h⟩; cases h)]
      show _ = _ - _
      omega
  | balanced =>
      rw [htype] at hdir
      cases hdir

/-! ## 2. The invariant -/

/-- **The stored figures tally with the net cash.** -/
structure Tallied (r : FinancialSettlement) (net : Int) : Prop where
  bounded : Bounded r.settlementType.side r.institutionalPayout net
  met : r.status = .settled ∨ r.status = .reopened → net = r.institutionalPayout
  reimbursement : r.status = .pendingReimbursement → r.settlementType = .reimbursementDue
  refund : r.status = .pendingRefund → r.settlementType = .refundDue

/-- Figures and payments tally; before the first preparation there is no payment. -/
structure Clearing (s : State) : Prop where
  tallied : ∀ r ∈ s.settlement, Tallied r.1 (netCash s.payments r.1)
  unpaid : s.settlement = none → s.payments = []

theorem Clearing.congr {s t : State} (h : Clearing s) (hs : t.settlement = s.settlement)
    (hp : t.payments = s.payments) : Clearing t where
  tallied := by
    rw [hs, hp]
    exact h.tallied
  unpaid := by
    rw [hs, hp]
    exact h.unpaid

/-- A status in which nothing is claimed about the net cash. -/
theorem Tallied.of_quiet {row r : FinancialSettlement} {net : Int} (h : Tallied r net)
    (hfig : row.SameFigures r)
    (hst : row.status = .underAudit ∨ row.status = .queried) : Tallied row net where
  bounded := by
    rw [hfig.settlementType, hfig.institutionalPayout]
    exact h.bounded
  met := by
    intro hmet
    rcases hst with hq | hq <;> rw [hq] at hmet <;> rcases hmet with hm | hm <;> cases hm
  reimbursement := by
    intro hp
    rcases hst with hq | hq <;> rw [hq] at hp <;> cases hp
  refund := by
    intro hp
    rcases hst with hq | hq <;> rw [hq] at hp <;> cases hp

/-- An approval: a balanced settlement has met its payout already. -/
theorem Tallied.of_approved {row r : FinancialSettlement} {net : Int} (h : Tallied r net)
    (hfig : row.SameFigures r) (hst : row.status = approvedStatus r.settlementType) :
    Tallied row net := by
  have hb := h.bounded
  cases htype : r.settlementType with
  | balanced =>
      rw [htype] at hst hb
      refine ⟨?_, ?_, ?_, ?_⟩
      · rw [hfig.settlementType, htype, hfig.institutionalPayout]
        exact hb
      · intro _
        rw [hfig.institutionalPayout]
        exact hb
      · intro hp
        rw [hst] at hp
        cases hp
      · intro hp
        rw [hst] at hp
        cases hp
  | reimbursementDue =>
      rw [htype] at hst hb
      refine ⟨?_, ?_, ?_, ?_⟩
      · rw [hfig.settlementType, htype, hfig.institutionalPayout]
        exact hb
      · intro hm
        rw [hst] at hm
        rcases hm with hm | hm <;> cases hm
      · intro _
        rw [hfig.settlementType, htype]
      · intro hp
        rw [hst] at hp
        cases hp
  | refundDue =>
      rw [htype] at hst hb
      refine ⟨?_, ?_, ?_, ?_⟩
      · rw [hfig.settlementType, htype, hfig.institutionalPayout]
        exact hb
      · intro hm
        rw [hst] at hm
        rcases hm with hm | hm <;> cases hm
      · intro hp
        rw [hst] at hp
        cases hp
      · intro _
        rw [hfig.settlementType, htype]

/-- A reopening keeps figures and payments, and so the net cash at the payout. -/
theorem Tallied.of_reopened {row r : FinancialSettlement} {net : Int} (h : Tallied r net)
    (hfig : row.SameFigures r) (hfrom : r.status = .settled) (hst : row.status = .reopened) :
    Tallied row net where
  bounded := by
    rw [hfig.settlementType, hfig.institutionalPayout]
    exact h.bounded
  met := by
    intro _
    rw [hfig.institutionalPayout]
    exact h.met (.inl hfrom)
  reimbursement := by
    intro hp
    rw [hst] at hp
    cases hp
  refund := by
    intro hp
    rw [hst] at hp
    cases hp

/-- An admitted payment: SETTLED is reached only when nothing remains. -/
theorem Tallied.of_paid {r : FinancialSettlement} {net amount : Int} {dir : SettlementPaymentType}
    (h : Tallied r net) (hdir : directionOf r.settlementType = some dir)
    (hfrom : r.status = .pendingReimbursement ∨ r.status = .pendingRefund)
    (hle : amount ≤ remainingDue r.settlementType r.institutionalPayout net) :
    Tallied (clearedRow r (remainingDue r.settlementType r.institutionalPayout
        (move r.settlementType.side net amount)))
      (move r.settlementType.side net amount) := by
  rw [remainingDue_eq hdir] at hle
  have hb : Bounded r.settlementType.side r.institutionalPayout
      (move r.settlementType.side net amount) := bounded_move h.bounded hle
  rw [remainingDue_eq hdir]
  unfold clearedRow
  by_cases hrem : remaining r.settlementType.side r.institutionalPayout
      (move r.settlementType.side net amount) ≤ 0
  · rw [if_pos hrem]
    refine ⟨hb, fun _ => met_of_remaining hb hrem, ?_, ?_⟩
    · intro hp
      cases hp
    · intro hp
      cases hp
  · rw [if_neg hrem]
    refine ⟨hb, ?_, h.reimbursement, h.refund⟩
    intro hm
    rcases hfrom with hp | hp <;> rw [hp] at hm <;> rcases hm with hm | hm <;> cases hm

/-- The net cash of a freshly prepared row is the one its totals were computed from. -/
theorem netCash_prepared {s : State} (h : Clearing s) (newId : Uuid) (sanction : Sanction)
    (grant : Int) (preparedBy : Uuid) :
    netCash s.payments (preparedRow s.settlement newId sanction (liveTotals s grant) preparedBy) =
      (liveTotals s grant).netCashTransferred := by
  cases hs : s.settlement with
  | none =>
      rw [h.unpaid hs]
      simp [netCash, preparedRow, compiledRow, liveTotals, totalsOf, targetCleared, cleared, hs]
  | some r =>
      simp [netCash, preparedRow, compiledRow, liveTotals, totalsOf, targetCleared, hs]

/-- **A preparation tallies**, whatever was paid before it. -/
theorem Tallied.of_prepared (s : State) (newId : Uuid) (sanction : Sanction) (grant : Int)
    (preparedBy : Uuid) :
    Tallied (preparedRow s.settlement newId sanction (liveTotals s grant) preparedBy)
      (liveTotals s grant).netCashTransferred := by
  have hb : Bounded (typeOfBalance ((liveTotals s grant).institutionalPayout -
      (liveTotals s grant).netCashTransferred)).side (liveTotals s grant).institutionalPayout
      (liveTotals s grant).netCashTransferred := by
    rw [side_typeOfBalance]
    exact bounded_sideOf _ _
  cases hs : s.settlement with
  | none =>
      refine ⟨hb, ?_, ?_, ?_⟩
      · intro hor
        rcases hor with hm | hm <;> cases hm
      · intro hp
        cases hp
      · intro hp
        cases hp
  | some r =>
      refine ⟨hb, ?_, ?_, ?_⟩
      · intro hor
        rcases hor with hm | hm <;> cases hm
      · intro hp
        cases hp
      · intro hp
        cases hp

/-! ## 3. The steps -/

/-- The invariant of a state that has just written its settlement row. -/
theorem Clearing.of_row {s : State} {row : Stored FinancialSettlement}
    (hs : s.settlement = some row) (h : Tallied row.1 (netCash s.payments row.1)) : Clearing s where
  tallied := by
    intro r hr
    rw [hs] at hr
    cases hr
    exact h
  unpaid := by
    intro hn
    rw [hs] at hn
    cases hn

/-- A row that is rewritten under the same figures, with no payment beside it. -/
theorem Clearing.of_figures {s t : State} {r row : Stored FinancialSettlement}
    (hrow : t.settlement = some row) (hpay : t.payments = s.payments)
    (hfig : row.1.SameFigures r.1) (h : Tallied row.1 (netCash s.payments r.1)) : Clearing t := by
  refine Clearing.of_row hrow ?_
  rw [hpay, netCash_congr hfig]
  exact h

theorem clearing_settlement {cfg : Config} {m : SettlementMove} {s s' : State} (h : Clearing s)
    (hstep : SettlementStep cfg s m s') : Clearing s' := by
  cases hstep with
  | prepared preparedBy newId sanction row entries hcomp hcert hprev hsan hres hrow =>
      refine Clearing.of_row rfl ?_
      show Tallied row.1 (netCash s.payments row.1)
      rw [hrow, netCash_prepared h]
      exact Tallied.of_prepared s newId sanction sanction.grant preparedBy
  | submitted r row prepared sanction entries hr hmut hfrom hcons hfig hst =>
      have htally := (h.tallied r hr).of_quiet hfig (.inl hst)
      exact Clearing.of_figures rfl rfl hfig htally
  | queried r row prepared sanction entries hr hmut hfrom hcons hfig hst =>
      have htally := (h.tallied r hr).of_quiet hfig (.inr hst)
      exact Clearing.of_figures rfl rfl hfig htally
  | approved r row prepared sanction entries hr hmut hfrom hcons hfig hst =>
      have htally := (h.tallied r hr).of_approved hfig hst
      exact Clearing.of_figures rfl rfl hfig htally
  | paid r row p entries hr hmut hfrom hid hdir hle hrow =>
      refine Clearing.of_row rfl ?_
      show Tallied row.1 (netCash (s.payments ++ [p]) row.1)
      have hnet : netCash (s.payments ++ [p]) row.1 = netCash (s.payments ++ [p]) r.1 := by
        rw [hrow]
        exact netCash_congr (clearedRow_sameFigures r.1 _) _
      rw [hnet, hrow, netCash_append hid hdir]
      exact (h.tallied r hr).of_paid hdir hfrom hle
  | reopened r row newId reason actor entries hr hmut hfrom hfig hst =>
      have htally := (h.tallied r hr).of_reopened hfig hfrom hst
      exact Clearing.of_figures rfl rfl hfig htally

theorem clearing_closeout {m : CloseoutMove} {s s' : State} (h : Clearing s)
    (hstep : CloseoutStep s m s') : Clearing s' := by
  cases hstep with
  | requestedAgain hfrom => exact h
  | archivedAgain hfrom => exact h
  | requested entries hfrom hready => exact h.congr rfl rfl
  | certified r report closure entries hfrom hready hr hrep hset hrid => exact h.congr rfl rfl
  | rejected entries hfrom => exact h.congr rfl rfl
  | petitioned entries hfrom => exact h.congr rfl rfl
  | reopened r row revision newId reason actor entries hfrom hnum hr hset hfig hst =>
      have htally := (h.tallied r hr).of_reopened hfig hset hst
      exact Clearing.of_figures rfl rfl hfig htally
  | archived entries hfrom => exact h.congr rfl rfl

theorem clearing_effect {cfg : Config} {m : Move} {s s' : State} (h : Clearing s)
    (heff : Effect cfg s m s') : Clearing s' := by
  cases heff with
  | read => exact h
  | advance m row entries hstep => exact h.congr rfl rfl
  | income m t entries hstep => exact h.congr rfl rfl
  | expense m t entries hstep => exact h.congr rfl rfl
  | settlement m s' hstep => exact clearing_settlement h hstep
  | execution status report entries hstep => exact h.congr rfl rfl
  | cancellation s' hstep =>
      cases hstep with
      | proposal entries hfrom => exact h.congr rfl rfl
      | event event advance entries hfrom hid hreq hver hst hpend hadv => exact h.congr rfl rfl
  | closeout m s' hstep => exact clearing_closeout h hstep

theorem Opening.clearing {s : State} (h : Opening s) : Clearing s where
  tallied := by
    intro r hr
    rw [h.settlement] at hr
    cases hr
  unpaid := fun _ => h.payments

/-- **The invariant holds in every reachable state.** -/
theorem Reachable.clearing {cfg : Config} {s : State} (h : Reachable cfg s) : Clearing s :=
  h.invariant (fun _ _ hc => hc.congr rfl rfl) (fun _ ho => ho.clearing)
    (fun _ _ _ hc heff => clearing_effect hc heff)

/-! ## 4. Exact clearing -/

/-- Payments are only ever added. -/
theorem payments_effect {cfg : Config} {m : Move} {s s' : State} (heff : Effect cfg s m s') :
    ∃ more, s'.payments = s.payments ++ more := by
  by_cases hm : m = .settlement .paid
  · subst hm
    cases heff with
    | settlement m s' hstep =>
        cases hstep with
        | paid r row p entries hr hmut hfrom hid hdir hle hrow => exact ⟨[p], rfl⟩
  · refine ⟨[], ?_⟩
    rw [heff.payments_kept hm, List.append_nil]

/-- The net cash after an accepted payment, against the payout of the row it leaves. -/
theorem payment_bounded (cfg : Config) {env : Env} {actor : User} {s s' : State} {id newId : Uuid}
    {args : PaymentArgs} (hinv : Clearing s)
    (h : recordPayment env actor id newId args s = .ok s') :
    ∃ row, s'.settlement = some row ∧
      (args.paymentType = .reimbursementDisbursement →
        netCash s'.payments row.1 ≤ row.1.institutionalPayout) ∧
      (args.paymentType = .advanceRefundReceipt →
        row.1.institutionalPayout ≤ netCash s'.payments row.1) := by
  have hpaid : SettlementStep cfg s .paid s' := recordPayment_step h
  have hinv' : Clearing s' := clearing_settlement hinv hpaid
  obtain ⟨r, row, p, entries, hr, _, _, _, hdir, _, _, _, hrow, rfl⟩ := recordPayment_paid h
  have hfig : row.1.SameFigures r.1 := by
    rw [hrow]
    exact clearedRow_sameFigures r.1 _
  have hb := (hinv'.tallied row rfl).bounded
  refine ⟨row, rfl, ?_, ?_⟩
  · intro hty
    rw [hty] at hdir
    have htype : row.1.settlementType = .reimbursementDue := by
      rw [hfig.settlementType]
      cases ht : r.1.settlementType with
      | reimbursementDue => rfl
      | refundDue => rw [ht] at hdir; cases hdir
      | balanced => rw [ht] at hdir; cases hdir
    rw [htype] at hb
    exact hb
  · intro hty
    rw [hty] at hdir
    have htype : row.1.settlementType = .refundDue := by
      rw [hfig.settlementType]
      cases ht : r.1.settlementType with
      | reimbursementDue => rw [ht] at hdir; cases hdir
      | refundDue => rfl
      | balanced => rw [ht] at hdir; cases hdir
    rw [htype] at hb
    exact hb

/-- **Exact clearing.** In every reachable state a SETTLED settlement has moved exactly its payout,
    over all payments ever recorded on it (no call removes one), and no accepted payment moves the
    net cash past the payout. -/
theorem settled_clears_exactly {cfg : Config} {s : State} (h : Reachable cfg s) :
    (∀ r, s.settlement = some r → r.1.status = .settled →
      cashMoved s.payments r.1 = r.1.institutionalPayout) ∧
    (∀ c s', Step cfg s c s' → ∃ more, s'.payments = s.payments ++ more) ∧
    (∀ c s' id newId args, c.op = .recordPayment id newId args → Step cfg s c s' →
      ∃ row, s'.settlement = some row ∧
        (args.paymentType = .reimbursementDisbursement →
          cashMoved s'.payments row.1 ≤ row.1.institutionalPayout) ∧
        (args.paymentType = .advanceRefundReceipt →
          row.1.institutionalPayout ≤ cashMoved s'.payments row.1)) := by
  have hinv : Clearing s := h.clearing
  simp only [← netCash_eq_cashMoved]
  refine ⟨fun r hr hst => (hinv.tallied r hr).met (.inl hst), ?_, ?_⟩
  · intro c s' hstep
    obtain ⟨more, hmore⟩ := payments_effect hstep.effect
    exact ⟨more, hmore⟩
  · intro c s' id newId args hop hstep
    have henter : Clearing (c.enter s) :=
      SessionFree.enter (fun _ _ hc => hc.congr rfl rfl) c hinv
    unfold Step Call.exec at hstep
    rw [hop] at hstep
    exact payment_bounded cfg henter hstep

/-- A reimbursement of 60.00 paid in two instalments. -/
theorem settled_clears_exactly_instalments :
    ∃ s r, Reachable (Sample.config .sqlite) s ∧ s.settlement = some r ∧ r.1.status = .settled ∧
      cashMoved s.payments r.1 = r.1.institutionalPayout := by
  have hrun : Runs.Ends (Runs.run (Call.exec (Sample.config .sqlite))
      (Sample.settle ++
        [Sample.byOfficer (Sample.payment 31 .reimbursementDisbursement 2000),
          Sample.byOfficer (Sample.payment 32 .reimbursementDisbursement 4000)])
      (Sample.opening none)) (fun s => ∃ r ∈ s.settlement, r.1.status = .settled) := by
    decide
  obtain ⟨s, hok, r, hr, hst⟩ := hrun
  have hreach : Reachable (Sample.config .sqlite) s :=
    reachable_of_run Sample.opening_opening hok
  exact ⟨s, r, hreach, hr, hst, (settled_clears_exactly hreach).1 r hr hst⟩

end CampusConnect
