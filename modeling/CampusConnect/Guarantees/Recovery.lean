/-
  File:      CampusConnect/Guarantees/Recovery.lean
  Subject:   The money paid out to an event that is cancelled afterwards.

  * `Recovered`: the refund of the advance is receipted and the settlement is SETTLED;
  * `SettledLate`: only an event that was completed has a settlement, and only a settlement has
    payments;
  * `Dossier.Reachable.cancelled_unsettled`: a cancelled event has neither, and gets neither;
  * `disbursed_advance_lost`: its advance is not recovered by any run.
-/
import CampusConnect.Guarantees.Release

namespace CampusConnect

open Guarded Rows

/-! ## 1. The refund -/

/-- The receipts for money of the advance that came back. -/
def refundReceipts (s : State) : Int :=
  ((s.payments.filter fun p => p.1.paymentType = .advanceRefundReceipt).map fun p => p.1.amount).sum

/-- The amount is refunded, and the event is settled. -/
def Recovered (s : State) (amount : Int) : Prop :=
  refundReceipts s = amount ∧ ∃ r, s.settlement = some r ∧ r.1.status = .settled

/-! ## 2. Settlements come late -/

/-- The event took place: COMPLETED or a status after it. -/
def EventStatus.TookPlace (status : EventStatus) : Prop :=
  status = .completed ∨ status = .closureRequested ∨ status = .closed ∨ status = .archived

/-- **Settlements are for events that took place, payments for settlements.** -/
structure SettledLate (s : State) : Prop where
  status : s.settlement ≠ none → s.event.status.TookPlace
  payments : s.settlement = none → s.payments = []

section Effects

variable {cfg : Config} {s s' : State}

theorem SettledLate.congr (h : SettledLate s) (hset : s'.settlement = s.settlement)
    (hpay : s'.payments = s.payments)
    (hst : s.event.status.TookPlace → s'.event.status.TookPlace) : SettledLate s' := by
  refine ⟨fun hne => hst (h.status ?_), fun hnone => ?_⟩
  · rw [← hset]
    exact hne
  · rw [hpay]
    exact h.payments (hset.symm.trans hnone)

/-- A settlement written for an event that took place. -/
theorem SettledLate.written (hst : s'.event.status.TookPlace)
    {r : Stored FinancialSettlement} (hr : s'.settlement = some r) : SettledLate s' := by
  refine ⟨fun _ => hst, fun hnone => ?_⟩
  rw [hr] at hnone
  cases hnone

theorem settledLate_effect {m : Move} (h : SettledLate s) (heff : Effect cfg s m s') :
    SettledLate s' := by
  have hhas : ∀ r, s.settlement = some r → s.event.status.TookPlace := by
    intro r hr
    refine h.status fun hn => ?_
    rw [hn] at hr
    cases hr
  cases heff with
  | read => exact h
  | advance m row entries hstep => exact h.congr rfl rfl id
  | income m t entries hstep => exact h.congr rfl rfl id
  | expense m t entries hstep => exact h.congr rfl rfl id
  | settlement m s' hstep =>
      cases hstep with
      | prepared preparedBy newId sanction row entries hcomp hcert hprev hsan hres hrow =>
          exact .written (.inl hcomp) rfl
      | submitted r row prepared sanction entries hr hmut hfrom hcons hfig hst =>
          exact .written (hhas r hr) rfl
      | queried r row prepared sanction entries hr hmut hfrom hcons hfig hst =>
          exact .written (hhas r hr) rfl
      | approved r row prepared sanction entries hr hmut hfrom hcons hfig hst =>
          exact .written (hhas r hr) rfl
      | paid r row p entries hr hmut hfrom hid hdir hle hrow => exact .written (hhas r hr) rfl
      | reopened r row newId reason actor entries hr hmut hfrom hfig hst =>
          exact .written (hhas r hr) rfl
  | execution status report entries hstep =>
      cases hstep with
      | started hfrom =>
          refine h.congr rfl rfl fun hplace => ?_
          rw [hfrom] at hplace
          rcases hplace with he | he | he | he <;> cases he
      | completed row hfrom hnone hst => exact h.congr rfl rfl fun _ => .inl rfl
      | revised rep row hmut hrep hfrom hid => exact h.congr rfl rfl id
  | cancellation s' hstep =>
      cases hstep with
      | proposal entries hfrom => exact h.congr rfl rfl id
      | event event advance entries hfrom hid hreq hver hst hpend hadv =>
          refine h.congr rfl rfl fun hplace => ?_
          rcases hfrom with hfrom | hfrom <;> rw [hfrom] at hplace <;>
            rcases hplace with he | he | he | he <;> cases he
  | closeout m s' hstep =>
      cases hstep with
      | requestedAgain hfrom => exact h
      | archivedAgain hfrom => exact h
      | requested entries hfrom hready => exact h.congr rfl rfl fun _ => .inr (.inl rfl)
      | certified r report closure entries hfrom hready hr hrep hset hrid =>
          exact h.congr rfl rfl fun _ => .inr (.inr (.inl rfl))
      | rejected entries hfrom => exact h.congr rfl rfl fun _ => .inl rfl
      | petitioned entries hfrom => exact h.congr rfl rfl id
      | reopened r row revision newId reason actor entries hfrom hnum hr hset hfig hst =>
          exact .written (.inl rfl) rfl
      | archived entries hfrom => exact h.congr rfl rfl fun _ => .inr (.inr (.inr rfl))

end Effects

/-! ## 3. Runs -/

section Runs

variable {cfg : Config} {d d' : Dossier} {r : Request}

/-- The event of the dossier, if any, is settled late. -/
def LateOnly (d : Dossier) : Prop := ∀ s, d = .confirmed s → SettledLate s

theorem Traced.late (h : LateOnly d) (hs : Traced cfg d r d') : LateOnly d' := by
  cases hs with
  | review env actor op d q entries hstep =>
      intro s hs
      cases d with
      | proposed p logs =>
          unfold Dossier.flushed at hs
          cases hev : op.creates env actor (Dossier.proposed p logs).event
              (Dossier.proposed p logs).proposal with
          | none =>
              rw [hev] at hs
              cases hs
          | some e =>
              rw [hev] at hs
              cases hs
              exact ⟨fun hne => (hne rfl).elim, fun _ => rfl⟩
      | confirmed s0 =>
          cases hs
          exact (h s0 rfl).congr rfl rfl id
  | withdrawn c p logs entries hcan =>
      intro s hs
      cases hs
  | event c s s' hstep =>
      intro t ht
      cases ht
      have hsess : SettledLate (c.enter s) := (h s rfl).congr rfl rfl id
      exact settledLate_effect hsess hstep.effect

theorem Dossier.Reachable.late (h : Dossier.Reachable cfg d) : LateOnly d := by
  refine Runs.Reach.invariant (P := LateOnly) ?_ (fun _ _ _ hl hs => hs.traced.late hl) h
  intro e h0 s hs
  obtain ⟨request, logs, rfl, _⟩ := h0.row
  cases hs

/-- **A cancelled event is never settled**: in no state of a run from there on does it have a
    settlement or a payment. -/
theorem Dossier.Reachable.cancelled_unsettled {s s' : State} {requests : List Request}
    (h : Dossier.Reachable cfg (.confirmed s)) (hc : s.event.status = .cancelled)
    (hp : Runs.Path (Dossier.Step cfg) (.confirmed s) requests (.confirmed s')) :
    s'.settlement = none ∧ s'.payments = [] := by
  have hreach : Dossier.Reachable cfg (.confirmed s') := Runs.Reach.path h hp
  obtain ⟨⟨e, he, hst⟩, _⟩ := h.cancelled_path ⟨s.event, rfl, hc⟩ hp
  cases he
  have hlate := hreach.late s' rfl
  have hnone : s'.settlement = none := by
    by_contra hne
    rcases hlate.status hne with hs | hs | hs | hs <;> rw [hst] at hs <;> cases hs
  exact ⟨hnone, hlate.payments hnone⟩

/-- **What was paid out to a cancelled event is not recovered.** From no reachable state in which the
    event is CANCELLED does any run of operations, by anybody, receipt the refund of an amount and
    settle the event. -/
theorem disbursed_advance_lost (cfg : Config) {s : State}
    (h : Dossier.Reachable cfg (.confirmed s)) (hc : s.event.status = .cancelled) (amount : Int) :
    ¬ ∃ requests s', Runs.Path (Dossier.Step cfg) (.confirmed s) requests (.confirmed s') ∧
      Recovered s' amount := by
  intro hex
  obtain ⟨requests, s', hp, _, r, hr, _⟩ := hex
  rw [(h.cancelled_unsettled hc hp).1] at hr
  cases hr

/-- The sample event gets an advance of 50.00 and is cancelled. -/
theorem cancelled_with_advance :
    ∃ s a, Dossier.Reachable (Sample.config .sqlite) (.confirmed s) ∧
      s.event.status = .cancelled ∧ s.advance = some a ∧ a.1.status = .disbursed ∧
      a.1.amountDisbursed = 5000 := by
  have hrun : Runs.Ends (Sample.after (Sample.plan ++
      [Sample.submit Sample.staff Sample.secretary 1] ++ Sample.approveAll 1 ++
      [.event (Sample.bySecretary (.requestAdvance (Sample.uid 70) 5000 [])),
        .event (Sample.byOfficer (.approveAdvance (Sample.uid 70) 5000 none)),
        .event (Sample.byOfficer
          (.disburseAdvance (Sample.uid 70) 5000 "reference".toList none none)),
        .event (Sample.bySecretary (.cancelConfirmedEvent "rain".toList))]))
      fun d => (∃ e ∈ d.event, e.status = .cancelled) ∧
        ∃ a ∈ d.advance, a.1.status = .disbursed ∧ a.1.amountDisbursed = 5000 := by
    decide
  obtain ⟨d, hok, ⟨e, he, hc⟩, a, ha, hd, hamount⟩ := hrun
  obtain ⟨d0, h0, hpath⟩ := Sample.path_of_after hok
  cases d with
  | proposed p logs => cases he
  | confirmed s =>
      cases he
      exact ⟨s, a, Runs.Reach.path (.start h0) hpath, hc, ha, hd, hamount⟩

theorem disbursed_advance_lost_sample :
    ∃ s a, Dossier.Reachable (Sample.config .sqlite) (.confirmed s) ∧
      s.event.status = .cancelled ∧ s.advance = some a ∧ a.1.status = .disbursed ∧
      a.1.amountDisbursed = 5000 ∧
      ¬ ∃ requests s', Runs.Path (Dossier.Step (Sample.config .sqlite)) (.confirmed s) requests
        (.confirmed s') ∧ Recovered s' 5000 := by
  obtain ⟨s, a, h, hc, ha, hd, hamount⟩ := cancelled_with_advance
  exact ⟨s, a, h, hc, ha, hd, hamount, disbursed_advance_lost (Sample.config .sqlite) h hc 5000⟩

/-- Not every advance paid out to a cancelled event can be recovered. -/
theorem advance_not_recoverable :
    ¬ ∀ s, Dossier.Reachable (Sample.config .sqlite) (.confirmed s) →
      s.event.status = .cancelled → ∀ a, s.advance = some a → a.1.status = .disbursed →
        0 < a.1.amountDisbursed →
          ∃ requests s', Runs.Path (Dossier.Step (Sample.config .sqlite)) (.confirmed s) requests
            (.confirmed s') ∧ Recovered s' a.1.amountDisbursed := by
  intro hall
  obtain ⟨s, a, h, hc, ha, hd, hamount⟩ := cancelled_with_advance
  obtain ⟨requests, s', hp, _, r, hr, _⟩ := hall s h hc a ha hd (by omega)
  rw [(h.cancelled_unsettled hc hp).1] at hr
  cases hr

end Runs

end CampusConnect
