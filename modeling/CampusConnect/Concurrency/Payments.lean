/-
  File:      CampusConnect/Concurrency/Payments.lean
  Subject:   Payments recorded on one settlement by any number of sessions at once.

  * `PaymentRequest.script`: the transaction of `record_payment`, called through its endpoint, which has
    loaded the settlement before it is locked, or directly;
  * `PaymentRequest.decided`: a commit is decided on the payments read under the lock;
  * `Cleared`, `concurrent_payments`: nothing is overpaid, and the settlement is SETTLED exactly when
    nothing remains.
-/
import CampusConnect.Concurrency.Sessions

namespace CampusConnect

open Guarded Rows Transactions SettlementService

/-! ## 1. The transaction -/

/-- A call of `record_payment`. `preloaded` means through the endpoint. -/
structure PaymentRequest where
  env : Env
  actor : User
  settlementId : Uuid
  newId : Uuid
  args : PaymentArgs
  preloaded : Bool

namespace PaymentRequest

variable (r : PaymentRequest)

/-- The row an accepted request inserts. -/
def row : SettlementPayment := paymentRow r.newId r.settlementId r.args r.actor.id

/-- The settlement row, as `SELECT … FOR UPDATE` by its key finds it. -/
def lockedRows (s : State) : List RowKey :=
  if settlementById s r.settlementId = none then [] else [.settlement]

/-- The status where it changed, the new payment and the audit entries. -/
def write (seen s' db : State) : Result State := do
  let db ← match seen.settlement, s'.settlement with
    | some loaded, some row => db.updateSettlement r.settlementId fun c =>
        { c with status := assigned loaded.1.status row.1.status c.status }
    | _, _ => pure db
  return { db with
    payments := db.payments ++ s'.payments.drop seen.payments.length
    auditLogs := db.auditLogs ++ s'.entriesSince seen }

/-- `record_payment` on the event, the settlement and the payments the session has loaded. -/
def decide (event settlement payments : State) : Result (State → Result State) := do
  let seen : State := { payments with event := event.event, settlement := settlement.settlement }
  let s' ← recordPayment r.env r.actor r.settlementId r.newId r.args seen
  return r.write seen s'

/-- The endpoint loads the event and the settlement, `record_payment` locks the settlement, which
    stays as loaded, and then selects the payments. -/
def script : EventProg (State → Result State) :=
  if r.preloaded then do
    let event ← Prog.view
    let settlement ← Prog.view
    let _ ← Prog.hold r.lockedRows
    let payments ← Prog.view
    Prog.lift (r.decide event settlement payments)
  else do
    let settlement ← Prog.hold r.lockedRows
    let event ← Prog.view
    let payments ← Prog.view
    Prog.lift (r.decide event settlement payments)

variable {r}

/-- **What a commit was decided on**: an event and a settlement read before, and payments read under
    the lock. -/
theorem decided {vs : List State} {write : State → Result State}
    (h : (script r).after vs = .done write) :
    ∃ event ∈ vs, ∃ settlement ∈ vs, ∃ held ∈ vs, ∃ payments,
      r.decide event settlement payments = .ok write ∧
      (RowKey.settlement ∈ r.lockedRows held → payments ∈ (script r).since .settlement vs) := by
  unfold script at h ⊢
  cases hp : r.preloaded with
  | true =>
      simp only [hp, if_true] at h ⊢
      match vs, h with
      | event :: settlement :: held :: payments :: rest, h =>
          refine ⟨event, by simp, settlement, by simp, held, by simp, payments,
            Prog.after_lift.mp h, fun hk => ?_⟩
          show payments ∈ if RowKey.settlement ∈ r.lockedRows held then held :: payments :: rest
            else _
          rw [if_pos hk]
          simp
  | false =>
      simp only [hp, Bool.false_eq_true, if_false] at h ⊢
      match vs, h with
      | settlement :: event :: payments :: rest, h =>
          refine ⟨event, by simp, settlement, by simp, settlement, by simp, payments,
            Prog.after_lift.mp h, fun hk => ?_⟩
          show payments ∈ if RowKey.settlement ∈ r.lockedRows settlement then
            settlement :: event :: payments :: rest else _
          rw [if_pos hk]
          simp

/-- **What an accepted decision writes**: the payment, and SETTLED when nothing remains. -/
theorem decide_accepts {event settlement payments : State} {write : State → Result State}
    (h : r.decide event settlement payments = .ok write) {db db' : State} (hw : write db = .ok db') :
    ∃ (loaded committed row : Stored FinancialSettlement) (p : Stored SettlementPayment),
      settlement.settlement = some loaded ∧ loaded.1.id = r.settlementId ∧
        directionOf loaded.1.settlementType = some r.args.paymentType ∧ 0 < r.args.amount ∧
        r.args.amount ≤ remainingDue loaded.1.settlementType loaded.1.institutionalPayout
          (netCash payments.payments loaded.1) ∧
        p.1 = r.row ∧ db'.payments = db.payments ++ [p] ∧
        (loaded.1.status = .pendingReimbursement ∨ loaded.1.status = .pendingRefund) ∧
        db.settlement = some committed ∧ db'.settlement = some row ∧
        row.1 = { committed.1 with
          status := if remainingDue loaded.1.settlementType loaded.1.institutionalPayout
            (netCash (payments.payments ++ [p]) loaded.1) ≤ 0 then .settled
            else committed.1.status } := by
  simp only [decide, bind_accepts, pure_accepts] at h
  obtain ⟨s', hs', rfl⟩ := h
  obtain ⟨loaded, cleared, p, entries, hr, hid, _, hfrom, hdir, hpos, hle, hp, hrow, rfl⟩ :=
    recordPayment_paid hs'
  have hload : settlement.settlement = some loaded := hr
  unfold write at hw
  simp only [hload, State.log, bind_accepts, State.updateSettlement_accepts, pure_accepts] at hw
  obtain ⟨db1, ⟨committed, row, hcom, _, hset, rfl⟩, rfl⟩ := hw
  refine ⟨loaded, committed, row, p, hload, hid, hdir, hpos, hle, ?_, ?_, hfrom, hcom, rfl, ?_⟩
  · rw [hp, hid]
    rfl
  · show db.payments ++ (payments.payments ++ [p]).drop payments.payments.length = _
    rw [List.drop_left]
  · rw [hset, hrow]
    unfold clearedRow
    by_cases hrem : remainingDue loaded.1.settlementType loaded.1.institutionalPayout
        (netCash (payments.payments ++ [p]) loaded.1) ≤ 0
    · have hne : SettlementStatus.settled ≠ loaded.1.status := by
        rcases hfrom with he | he <;> rw [he] <;> decide
      simp only [if_pos hrem, assigned, if_neg hne]
    · simp only [if_neg hrem, assigned, if_true]

/-- **Alone, the transaction is `record_payment`.** -/
theorem serial {s s' : State}
    (h : recordPayment r.env r.actor r.settlementId r.newId r.args s = .ok s') :
    (script r).serial s = .ok s' := by
  have hdecide : ∃ write, r.decide s s s = .ok write ∧ write s = .ok s' := by
    simp only [decide, bind_accepts, pure_accepts]
    refine ⟨_, ⟨s', h, rfl⟩, ?_⟩
    obtain ⟨loaded, cleared, p, entries, hr, hid, _, hfrom, _, _, _, _, hrow, rfl⟩ :=
      recordPayment_paid h
    unfold write
    simp only [hr, State.log, bind_accepts, State.updateSettlement_accepts, pure_accepts]
    refine ⟨_, ⟨loaded, cleared, rfl, hid, ?_, rfl⟩, ?_⟩
    · rw [hrow]
      unfold clearedRow
      by_cases hrem : remainingDue loaded.1.settlementType loaded.1.institutionalPayout
          (netCash (s.payments ++ [p]) loaded.1) ≤ 0
      · have hne : SettlementStatus.settled ≠ loaded.1.status := by
          rcases hfrom with he | he <;> rw [he] <;> decide
        simp only [if_pos hrem, assigned, if_neg hne]
      · simp only [if_neg hrem, assigned, if_true]
    · rw [List.drop_left]
      unfold State.entriesSince
      rw [List.drop_left]
  obtain ⟨write, hd, hw⟩ := hdecide
  unfold script
  cases r.preloaded with
  | true =>
      show (Prog.lift (r.decide s s s)).serial s = .ok s'
      rw [hd]
      exact hw
  | false =>
      show (Prog.lift (r.decide s s s)).serial s = .ok s'
      rw [hd]
      exact hw

end PaymentRequest

/-! ## 2. The law -/

/-- What is due on a settlement, with the given payments. -/
def dueOn (r : FinancialSettlement) (payments : List (Stored SettlementPayment)) : Int :=
  remainingDue r.settlementType r.institutionalPayout (netCash payments r)

/-- A payment in the asked direction lowers what is due by its amount. -/
theorem dueOn_append {r : FinancialSettlement} {p : Stored SettlementPayment}
    (hid : p.1.settlementId = r.id) (hdir : directionOf r.settlementType = some p.1.paymentType)
    (payments : List (Stored SettlementPayment)) :
    dueOn r (payments ++ [p]) = dueOn r payments - p.1.amount := by
  unfold dueOn
  rw [netCash_append hid hdir, remainingDue_eq hdir, remainingDue_eq hdir]
  cases htype : r.settlementType with
  | reimbursementDue =>
      show r.institutionalPayout - (_ + _) = _ - _ - _
      omega
  | refundDue =>
      show _ - _ - r.institutionalPayout = _ - _ - _
      omega
  | balanced =>
      rw [htype] at hdir
      cases hdir

/-- What is due reads the figures only. -/
theorem dueOn_congr {a b : FinancialSettlement} (h : a.SameFigures b)
    (payments : List (Stored SettlementPayment)) : dueOn a payments = dueOn b payments := by
  unfold dueOn
  rw [netCash_congr h, h.settlementType, h.institutionalPayout]

/-- **The books while payments are recorded**, from a settlement row and its payments. -/
structure Cleared (r0 : FinancialSettlement) (old : List (Stored SettlementPayment))
    (accepted : List PaymentRequest) (s : State) : Prop where
  rows : s.payments.map (fun p => p.1) =
    old.map (fun p => p.1) ++ accepted.map PaymentRequest.row
  due : dueOn r0 s.payments = dueOn r0 old - (accepted.map fun q => q.args.amount).sum
  asked : ∀ q ∈ accepted, directionOf r0.settlementType = some q.args.paymentType
  bound : accepted ≠ [] → 0 ≤ dueOn r0 s.payments
  settlement : ∃ r, s.settlement = some r ∧ r.1.SameFigures r0 ∧
    (r.1.status = .settled ↔ accepted ≠ [] ∧ dueOn r0 s.payments = 0)

section Runs

variable {r0 : FinancialSettlement} {old : List (Stored SettlementPayment)}

/-- **The step lemma**: a payment decided on the committed payments. -/
theorem Cleared.paid {accepted : List PaymentRequest} {q : PaymentRequest} {db db' : State}
    {event settlement payments : State} {write : State → Result State}
    (h : Cleared r0 old accepted db)
    (hloaded : ∀ r, settlement.settlement = some r → r.1.SameFigures r0)
    (hfresh : payments.payments = db.payments)
    (hd : q.decide event settlement payments = .ok write) (hw : write db = .ok db') :
    Cleared r0 old (accepted ++ [q]) db' := by
  obtain ⟨loaded, committed, row, p, hload, hid, hdir, hpos, hle, hp, hpay, hfrom, hcom, hset, hrow⟩ :=
    PaymentRequest.decide_accepts hd hw
  have hfig := hloaded loaded hload
  have hamount : p.1.amount = q.args.amount := by
    rw [hp]
    rfl
  have hle' : q.args.amount ≤ dueOn r0 db.payments := by
    rw [← dueOn_congr hfig, ← hfresh]
    exact hle
  have hdue : dueOn r0 db'.payments = dueOn r0 db.payments - q.args.amount := by
    rw [hpay, dueOn_append, hamount]
    · rw [hp, ← hfig.id]
      exact hid.symm
    · rw [← hfig.settlementType, hdir, hp]
      rfl
  have hrem : remainingDue loaded.1.settlementType loaded.1.institutionalPayout
      (netCash (payments.payments ++ [p]) loaded.1) = dueOn r0 db'.payments := by
    rw [hfresh, ← hpay, ← dueOn_congr hfig]
    rfl
  rw [hrem] at hrow
  refine ⟨?_, ?_, ?_, fun _ => ?_, ?_⟩
  · rw [hpay, List.map_append, List.map_append, h.rows, List.append_assoc, List.map_singleton,
      List.map_singleton, hp]
  · rw [hdue, h.due, List.map_append, List.sum_append, List.map_singleton, List.sum_singleton]
    omega
  · intro x hx
    rcases List.mem_append.mp hx with hx | hx
    · exact h.asked x hx
    · rw [List.mem_singleton.mp hx, ← hfig.settlementType]
      exact hdir
  · rw [hdue]
    omega
  · obtain ⟨before, hbefore, hsame, hst⟩ := h.settlement
    rw [hcom] at hbefore
    cases hbefore
    refine ⟨row, hset, ?_, ?_⟩
    · rw [hrow]
      exact hsame.withStatus _
    · have hne : accepted ++ [q] ≠ [] := by simp
      by_cases hzero : dueOn r0 db'.payments ≤ 0
      · rw [hrow]
        simp only [if_pos hzero]
        exact ⟨fun _ => ⟨hne, by omega⟩, fun _ => trivial⟩
      · -- something remains: the status stays, and it was not SETTLED while more remained
        rw [hrow]
        simp only [if_neg hzero]
        rw [hst]
        exact ⟨fun ⟨_, hd0⟩ => by omega, fun ⟨_, hd0⟩ => by omega⟩

/-- The committed settlement row keeps its figures: a commit writes its status only. -/
def FiguresKept (r0 : FinancialSettlement) (s : State) : Prop :=
  ∃ r, s.settlement = some r ∧ r.1.SameFigures r0

/-- The worlds of all interleavings of payment requests from a state. -/
abbrev PaymentWorld (s0 : State) (w : World Failure State RowKey PaymentRequest) : Prop :=
  Transactions.Reachable PaymentRequest.script (fun s => s = s0) (fun _ _ => True) w

variable {s0 : State} {loaded : Stored FinancialSettlement}
  {w : World Failure State RowKey PaymentRequest}

theorem PaymentWorld.kept (hr : s0.settlement = some loaded) (h : PaymentWorld s0 w) :
    FiguresKept loaded.1 w.db := by
  refine Transactions.Reachable.invariant (P := fun _ s => FiguresKept loaded.1 s) ?_ ?_ h
  · intro s hs
    rw [hs]
    exact ⟨loaded, hr, .refl _⟩
  · intro w i t s _ _ hcommit hkept
    obtain ⟨write, hdone, hw⟩ := hcommit.write
    obtain ⟨event, _, settlement, _, held, _, payments, hd, _⟩ := PaymentRequest.decided hdone
    obtain ⟨_, committed, row, _, _, _, _, _, _, _, _, _, hcom, hset, hrow⟩ :=
      PaymentRequest.decide_accepts hd hw
    obtain ⟨r, hbefore, hsame⟩ := hkept
    rw [hcom] at hbefore
    cases hbefore
    refine ⟨row, hset, ?_⟩
    rw [hrow]
    exact hsame.withStatus _

/-- **What a committing session had loaded**: a settlement with the same figures, and its payments
    under the lock. -/
theorem PaymentWorld.commit (hr : s0.settlement = some loaded) (h : PaymentWorld s0 w) {i : Nat}
    {t : Txn Failure State RowKey PaymentRequest} {s : State}
    (hcommit : Commit PaymentRequest.script w i t s) :
    ∃ event settlement payments write,
      t.request.decide event settlement payments = .ok write ∧ write w.db = .ok s ∧
      (∀ r, settlement.settlement = some r → r.1.SameFigures loaded.1) ∧
      payments ∈ (t.request.script).since .settlement t.views := by
  have hviews := Transactions.Reachable.views (P := FiguresKept loaded.1)
    (fun _ hw => PaymentWorld.kept hr hw) h i t hcommit.running
  obtain ⟨write, hdone, hw⟩ := hcommit.write
  obtain ⟨event, _, settlement, hsettlement, held, hheld, payments, hd, hsince⟩ :=
    PaymentRequest.decided hdone
  obtain ⟨found, _, _, _, hload, hid, _⟩ := PaymentRequest.decide_accepts hd hw
  obtain ⟨r, hrow, hfig⟩ := hviews settlement hsettlement
  obtain ⟨row, hlocked, hfig'⟩ := hviews held hheld
  rw [hload] at hrow
  cases hrow
  have hmem : RowKey.settlement ∈ t.request.lockedRows held := by
    have hby : settlementById held t.request.settlementId = some row :=
      settlementById_eq_some.mpr ⟨hlocked, hfig'.id.trans (hfig.id.symm.trans hid)⟩
    unfold PaymentRequest.lockedRows
    rw [hby]
    simp
  refine ⟨event, settlement, payments, write, hd, hw, fun r hr' => ?_, hsince hmem⟩
  rw [hload] at hr'
  cases hr'
  exact hfig

/-- **The payments a session has read under the lock are the committed ones.** -/
theorem PaymentWorld.fresh (hr : s0.settlement = some loaded) (h : PaymentWorld s0 w) {i : Nat}
    {t : Txn Failure State RowKey PaymentRequest} (hi : w.running i = some t) :
    ∀ v ∈ (t.request.script).since .settlement t.views, v.payments = w.db.payments := by
  refine Transactions.Reachable.pinned (f := fun s : State => s.payments) ?_ h i t hi
  intro w i t s hw _ hcommit
  obtain ⟨_, _, payments, _, _, _, _, hsince⟩ := PaymentWorld.commit hr hw hcommit
  exact .inr (List.ne_nil_of_mem hsince)

/-- The books over every interleaving. -/
theorem PaymentWorld.cleared (hr : s0.settlement = some loaded)
    (hfrom : loaded.1.status = .pendingReimbursement ∨ loaded.1.status = .pendingRefund)
    (h : PaymentWorld s0 w) : Cleared loaded.1 s0.payments w.log w.db := by
  refine Transactions.Reachable.invariant (P := Cleared loaded.1 s0.payments) ?_ ?_ h
  · intro s hs
    rw [hs]
    refine ⟨by simp, by simp, by simp, by simp, loaded, hr, .refl _, ?_⟩
    rcases hfrom with he | he <;> simp [he]
  · intro w i t s hw _ hcommit hbooks
    obtain ⟨event, settlement, payments, write, hd, hwrite, hfig, hsince⟩ :=
      PaymentWorld.commit hr hw hcommit
    exact hbooks.paid hfig (PaymentWorld.fresh hr hw hcommit.running payments hsince) hd hwrite

end Runs

/-- **Payments under contention.** Over every interleaving of payment requests on a settlement that
    awaits payment, the payments are the old ones and one for each commit. What the commits have paid,
    all in the asked direction, is within what was due, and after each of them the settlement is
    SETTLED exactly when nothing remains. -/
theorem concurrent_payments {s0 : State} {loaded : Stored FinancialSettlement}
    (hr : s0.settlement = some loaded)
    (hfrom : loaded.1.status = .pendingReimbursement ∨ loaded.1.status = .pendingRefund)
    {w : World Failure State RowKey PaymentRequest} (h : PaymentWorld s0 w) :
    w.db.payments.map (fun p => p.1) =
        s0.payments.map (fun p => p.1) ++ w.log.map PaymentRequest.row ∧
      (∀ q ∈ w.log, directionOf loaded.1.settlementType = some q.args.paymentType) ∧
      (w.log ≠ [] → (w.log.map fun q => q.args.amount).sum ≤ dueOn loaded.1 s0.payments) ∧
      ∃ r, w.db.settlement = some r ∧ r.1.SameFigures loaded.1 ∧
        (w.log ≠ [] → (r.1.status = .settled ↔ dueOn r.1 w.db.payments = 0)) := by
  have hbooks := PaymentWorld.cleared hr hfrom h
  obtain ⟨r, hset, hfig, hst⟩ := hbooks.settlement
  refine ⟨hbooks.rows, hbooks.asked, fun hne => ?_, r, hset, hfig, fun hne => ?_⟩
  · have hbound := hbooks.bound hne
    have hdue := hbooks.due
    omega
  · rw [hst, dueOn_congr hfig]
    exact ⟨fun hd => hd.2, fun hd => ⟨hne, hd⟩⟩

/-- A payment on the sample settlement. -/
def Sample.paymentRequest (n : Nat) (amount : Int) (preloaded : Bool) : PaymentRequest where
  env := Sample.env
  actor := Sample.officer
  settlementId := Sample.uid 30
  newId := Sample.uid n
  args := {
    paymentType := .reimbursementDisbursement
    amount := amount
    paymentMethod := .cheque
    transactionReference := "reference".toList
    transactionDate := 0
    proofDocumentId := Sample.uid 21 }
  preloaded := preloaded

/-- Of 60.00 due, 20.00 and 40.00 are recorded by two sessions that have both loaded the settlement
    before. A third, of 50.00, comes too late. -/
theorem concurrent_payments_contended :
    ∃ (s0 : State) (loaded : Stored FinancialSettlement)
      (w : World Failure State RowKey PaymentRequest), s0.settlement = some loaded ∧
      PaymentWorld s0 w ∧ w.log.length = 2 ∧ dueOn loaded.1 s0.payments = 6000 ∧
      (w.log.map fun q => q.args.amount).sum ≤ dueOn loaded.1 s0.payments := by
  have hrun : Runs.Ends (Runs.run (Call.exec (Sample.config .sqlite)) Sample.settle
      (Sample.opening none)) (fun s0 => (∃ r ∈ s0.settlement,
        r.1.status = .pendingReimbursement ∧ dueOn r.1 s0.payments = 6000) ∧
      Runs.Ends (Runs.run (World.next PaymentRequest.script)
        [.start 0 (Sample.paymentRequest 31 2000 true), .start 1 (Sample.paymentRequest 32 4000 true),
          .start 2 (Sample.paymentRequest 33 5000 false), .run 0, .run 1, .run 0, .run 1, .run 0,
          .run 0, .run 0, .run 1, .run 1, .run 1, .run 2, .run 2, .run 2, .run 2]
        (World.idle s0)) (fun w => w.log.length = 2)) := by
    decide
  obtain ⟨s0, _, ⟨loaded, hr, hst, hdue⟩, w, hw, hlen⟩ := hrun
  have hreach : PaymentWorld s0 w :=
    Runs.Reach.path (.start ⟨s0, rfl, rfl⟩) ((Runs.path_of_run hw).under fun _ _ => trivial)
  have hne : w.log ≠ [] := by
    intro hnil
    rw [hnil] at hlen
    cases hlen
  exact ⟨s0, loaded, w, hr, hreach, hlen, hdue,
    (concurrent_payments hr (.inl hst) hreach).2.2.1 hne⟩

end CampusConnect
