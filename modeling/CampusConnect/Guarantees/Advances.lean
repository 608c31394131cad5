/-
  File:      CampusConnect/Guarantees/Advances.lean
  Subject:   The CASH ADVANCE of an event: one at most, within the sanctioned grant, final once it
             is rejected or paid out.

  * `AdvanceEffect`, `Step.advance_effect`: what an accepted call does to the advance row;
  * `Within`: an amount under the grant the settlement reads; no request moves that grant
    (`sanction_kept`), so that the ceiling of the approval still holds at the disbursement;
  * `AdvanceLaw`, `Funded`: what holds of the row, and that it holds in every reachable state;
  * `advance_requests`: the accepted requests of a run, counted;
  * `cash_advance_invariant`: the whole, over every run from a draft.
-/
import CampusConnect.Guarantees.Ledger
import CampusConnect.Guarantees.Sanction

namespace CampusConnect

open Guarded Rows EventService SettlementService WorkflowService

/-! ## 1. What a call does to the advance -/

/-- The operation that inserts an advance. -/
def Op.requestsAdvance : Op → Bool
  | .requestAdvance _ _ _ => true
  | _ => false

/-- **What an accepted call does to the advance row.** -/
inductive AdvanceEffect (s : State) (op : Op) : Option (Stored CashAdvance) → Prop where
  | kept (hop : op.requestsAdvance = false) : AdvanceEffect s op s.advance
  | requested (row : Stored CashAdvance) (hop : op.requestsAdvance = true)
      (hnone : s.advance = none) (hst : row.1.status = .requested)
      (hamt : row.1.amountDisbursed = 0) : AdvanceEffect s op (some row)
  | approved (a row : Stored CashAdvance) (amount : Int) (sanction : Sanction)
      (hop : op.requestsAdvance = false) (hadv : s.advance = some a)
      (hfrom : a.1.status = .requested) (hst : row.1.status = .approved)
      (hamt : row.1.amountDisbursed = a.1.amountDisbursed)
      (happ : row.1.amountApproved = some amount) (hpos : 0 < amount)
      (hsan : resolveSanctionedSnapshot s = .ok sanction) (hle : amount ≤ sanction.grant) :
      AdvanceEffect s op (some row)
  | rejected (a row : Stored CashAdvance) (hop : op.requestsAdvance = false)
      (hadv : s.advance = some a) (hfrom : a.1.status = .requested)
      (hst : row.1.status = .rejected) (hamt : row.1.amountDisbursed = a.1.amountDisbursed) :
      AdvanceEffect s op (some row)
  | disbursed (a row : Stored CashAdvance) (hop : op.requestsAdvance = false)
      (hadv : s.advance = some a) (hfrom : a.1.status = .approved)
      (hst : row.1.status = .disbursed) (hsame : row.1.amountApproved = a.1.amountApproved)
      (happ : a.1.amountApproved = some row.1.amountDisbursed) : AdvanceEffect s op (some row)
  | cancelled (reason : Text) (hop : op.requestsAdvance = false) :
      AdvanceEffect s op (s.advance.map (cancelStoredAdvance reason))

section Effects

variable {cfg : Config} {env : Env} {actor : User} {s s' : State} {op : Op}

/-- An accepted approval is within the grant. -/
theorem approveAdvance_effect {id : Uuid} {amount : Int} {remarks : Option Text}
    (hop : op.requestsAdvance = false)
    (h : approveAdvance env actor id amount remarks s = .ok s') :
    AdvanceEffect s op s'.advance := by
  simp only [approveAdvance, bind_accepts, refuse_accepts, fetch_accepts, exists_unit,
    pure_accepts, store_eq_some, advanceById_eq_some, not_not, not_lt, ne_eq] at h
  obtain ⟨_, a, ⟨hadv, _⟩, _, hst, hpos, sanction, hsan, hle, row, hrow, rfl⟩ := h
  refine .approved a row amount sanction hop hadv hst ?_ ?_ ?_ (not_le.mp hpos) hsan hle
  · rw [← hrow]
  · rw [← hrow]
  · rw [← hrow]

/-- An accepted disbursement pays the approved amount. -/
theorem disburseAdvance_effect {id : Uuid} {amount : Int} {reference : Text}
    {date : Option Instant} {notes : Option Text} (hop : op.requestsAdvance = false)
    (h : disburseAdvance env actor id amount reference date notes s = .ok s') :
    AdvanceEffect s op s'.advance := by
  simp only [disburseAdvance, bind_accepts, refuse_accepts, fetch_accepts, exists_unit,
    pure_accepts, store_eq_some, advanceById_eq_some, not_not, ne_eq] at h
  obtain ⟨_, a, ⟨hadv, _⟩, hst, _, _, happ, row, hrow, rfl⟩ := h
  refine .disbursed a row hop hadv hst ?_ ?_ ?_
  · rw [← hrow]
  · rw [← hrow]
  · rw [← hrow]
    exact happ

theorem cancelConfirmedEvent_effect {reason : Text} (hop : op.requestsAdvance = false)
    (h : cancelConfirmedEvent env actor reason s = .ok s') : AdvanceEffect s op s'.advance := by
  simp only [cancelConfirmedEvent, bind_accepts, exists_unit, pure_accepts] at h
  obtain ⟨_, _, rfl⟩ := h
  exact .cancelled reason hop

theorem cancelAnyEvent_effect {id : Uuid} {reason : Text} (hop : op.requestsAdvance = false)
    (h : cancelAnyEvent env actor id reason s = .ok s') : AdvanceEffect s op s'.advance := by
  unfold cancelAnyEvent at h
  by_cases hid : s.event.id = id ∨ s.event.eventRequestId = id
  · rw [if_pos hid] at h
    exact cancelConfirmedEvent_effect hop h
  · rw [if_neg hid] at h
    by_cases hreq : s.proposal.request.id = id
    · rw [if_pos hreq, bind_accepts] at h
      obtain ⟨⟨q, entries⟩, _, heq⟩ := h
      rw [pure_accepts] at heq
      rw [← heq]
      exact .kept hop
    · rw [if_neg hreq] at h
      cases h

/-- The moves of the other components leave the advance. -/
theorem Effect.advance_kept {m : Move} (h : Effect cfg s m s') (hadv : ∀ k, m ≠ .advance k)
    (hcan : m ≠ .cancellation) : s'.advance = s.advance := by
  cases h with
  | read => rfl
  | advance m row entries hstep => exact (hadv m rfl).elim
  | income m t entries hstep => rfl
  | expense m t entries hstep => rfl
  | settlement m s' hstep => cases hstep <;> rfl
  | execution status report entries hstep => rfl
  | cancellation s' hstep => exact (hcan rfl).elim
  | closeout m s' hstep => cases hstep <;> rfl

/-- **Every accepted operation** does one of these things to the advance. -/
theorem Op.advance_effect (h : op.exec cfg env actor s = .ok s') :
    AdvanceEffect s op s'.advance := by
  have heff : Effect cfg s op.move s' := Op.exec_effect h
  cases op with
  | requestAdvance newId amount reason =>
      obtain ⟨row, entries, hstep, rfl⟩ := requestAdvance_step h
      cases hstep with
      | requested row hmut hnone hset hst hamt => exact .requested row rfl hnone hst hamt
  | approveAdvance id amount remarks => exact approveAdvance_effect rfl h
  | rejectAdvance id reason =>
      obtain ⟨row, entries, hstep, rfl⟩ := rejectAdvance_step h
      cases hstep with
      | rejected a row hadv hfrom hst hamt => exact .rejected a row rfl hadv hfrom hst hamt
  | disburseAdvance id amount reference date notes => exact disburseAdvance_effect rfl h
  | cancelProposal reason =>
      have hkept : s'.advance = s.advance := by
        cases hr : EventService.cancelProposal env actor reason s.proposal with
        | error e => simp [Op.exec, hr, Except.map] at h
        | ok r =>
            simp only [Op.exec, hr, Except.map, Except.ok.injEq] at h
            rw [← h]
            rfl
      rw [hkept]
      exact .kept rfl
  | cancelConfirmedEvent reason => exact cancelConfirmedEvent_effect rfl h
  | cancelAnyEvent id reason => exact cancelAnyEvent_effect rfl h
  | _ =>
      rw [heff.advance_kept (fun k he => by cases he) (fun he => by cases he)]
      exact .kept rfl

/-- The advance is read and written whatever the session has attached. -/
theorem AdvanceEffect.detached {a : Option Text} {advance : Option (Stored CashAdvance)}
    (h : AdvanceEffect { s with attached := a } op advance) : AdvanceEffect s op advance := by
  have hsan : resolveSanctionedSnapshot { s with attached := a } = resolveSanctionedSnapshot s :=
    resolveSanctionedSnapshot_congr rfl rfl rfl rfl
  cases h with
  | kept hop => exact .kept hop
  | requested row hop hnone hst hamt => exact .requested row hop hnone hst hamt
  | approved b row amount sanction hop hadv hfrom hst hamt happ hpos hs hle =>
      rw [hsan] at hs
      exact .approved b row amount sanction hop hadv hfrom hst hamt happ hpos hs hle
  | rejected b row hop hadv hfrom hst hamt => exact .rejected b row hop hadv hfrom hst hamt
  | disbursed b row hop hadv hfrom hst hsame happ =>
      exact .disbursed b row hop hadv hfrom hst hsame happ
  | cancelled reason hop => exact .cancelled reason hop

theorem Step.advance_effect {c : Call} (h : CampusConnect.Step cfg s c s') :
    AdvanceEffect s c.op s'.advance := by
  obtain ⟨a, hexec, _⟩ := h.entered
  exact (Op.advance_effect hexec).detached

end Effects

/-! ## 2. The ceiling -/

/-- The amount is at most the grant the settlement reads. -/
def Within (s : State) (amount : Int) : Prop :=
  ∃ sanction, resolveSanctionedSnapshot s = .ok sanction ∧ amount ≤ sanction.grant

/-- The grant of the version the event names, as its snapshot has it. -/
def VersionGrant (s : State) (grant : Int) : Prop :=
  ∃ v ∈ s.proposal.versions, v.id = s.event.approvedVersionId ∧ ∃ n ∈ v.snapshot,
    ∃ b ∈ n.budget, ∃ f ∈ b.instituteContribution, f.decimal = grant

section Ceiling

variable {cfg : Config} {d d' : Dossier} {r : Request} {s s' : State}

/-- Of the budget proposal the snapshot reads the three figures only. -/
theorem resolve_figures {t : State} {bp bq : BudgetProposal}
    (hv : t.proposal.versions = s.proposal.versions) (he : t.event = s.event)
    (hs : s.proposal.budgetProposal = some bp) (ht : t.proposal.budgetProposal = some bq)
    (hfig : ∀ id, sanctionOfProposal id bq = sanctionOfProposal id bp) :
    resolveSanctionedSnapshot t = resolveSanctionedSnapshot s := by
  unfold resolveSanctionedSnapshot
  rw [hv, he, hs, ht]
  simp only [hfig]
  split
  · rfl
  · next v n hsome =>
      -- with both figures in the snapshot the budget is not read at all
      have hfallback : Except.ok (ε := Failure) (sanctionOfProposal v.id bq) =
          .ok (sanctionOfProposal v.id bp) := congrArg Except.ok (hfig v.id)
      cases hg : Figure.orElse (Figure.orElse (n.budget.bind BudgetSnapshot.instituteContribution)
          n.instituteContribution) n.sanctionedGrant with
      | none => exact hfallback
      | some g =>
          cases hexp : Figure.orElse (Figure.orElse
              (n.budget.bind BudgetSnapshot.totalExpectedExpenditure) n.totalExpectedExpenditure)
              n.sanctionedExpenditure with
          | none => exact hfallback
          | some e => rfl

/-- **No request moves the grant** of an event that is there. -/
theorem sanction_kept (hin : InStanding (.confirmed s))
    (h : Dossier.Step cfg (.confirmed s) r (.confirmed s')) :
    resolveSanctionedSnapshot s' = resolveSanctionedSnapshot s := by
  have htraced := h.traced
  generalize hd' : Dossier.confirmed s' = d' at htraced
  cases htraced with
  | review env actor op _ q entries hstep =>
      obtain ⟨verificationIn, bp, _, hbp, rfl⟩ := hstep.of_ended hin.rows (.inl hin.approved)
      cases hd'
      exact resolve_figures rfl rfl hbp rfl fun _ => rfl
  | event c _ t hstep =>
      cases hd'
      obtain ⟨a, _, heff⟩ := hstep.entered
      rw [sanction_effect heff]
      exact resolveSanctionedSnapshot_congr rfl rfl rfl rfl

/-- Every version is a snapshot of the rows it was submitted from. -/
theorem Dossier.Reachable.snapshots (h : Dossier.Reachable cfg d) :
    ∀ v ∈ d.proposal.versions, ∃ env actor summary id p,
      v = submittedVersion env actor summary id p := by
  refine Runs.Reach.invariant_given
    (P := fun d => ∀ v ∈ d.proposal.versions, ∃ env actor summary id p,
      v = submittedVersion env actor summary id p)
    (fun _ hr => Dossier.Reachable.inStanding hr) ?_ ?_ h
  · intro d0 h0 v hv
    rw [h0.versions] at hv
    cases hv
  · intro e r e' hin hold hs v hv
    rcases hs.traced.version_origin hin hv with hm | ⟨env, actor, summary, _, keys, _, _, rfl⟩
    · exact hold v hm
    · exact ⟨_, _, _, _, _, rfl⟩

/-- The grant that is read under the key of a version is read from that version. -/
theorem sanction_version {v : EventRequestVersion} {sanction : Sanction}
    (hfind : s.proposal.versions.find? (fun w => w.id = s.event.approvedVersionId) = some v)
    (h : resolveSanctionedSnapshot s = .ok sanction) : sanction.approvedVersionId = v.id := by
  unfold resolveSanctionedSnapshot at h
  simp only [hfind, Option.bind_some] at h
  cases hsnap : v.snapshot with
  | none =>
      simp only [hsnap, Option.map_none] at h
      cases hbp : s.proposal.budgetProposal with
      | none => simp [hbp] at h
      | some bp =>
          simp only [hbp, Except.ok.injEq] at h
          rw [← h]
          rfl
  | some n =>
      simp only [hsnap, Option.map_some] at h
      split at h
      · cases h
        rfl
      · cases h
        rfl
      · cases h

/-- **The ceiling is the grant of the approved version.** -/
theorem sanctioned_grant (h : Dossier.Reachable cfg (.confirmed s)) {sanction : Sanction}
    (hsan : resolveSanctionedSnapshot s = .ok sanction) :
    sanction.approvedVersionId = s.event.approvedVersionId ∧
      ∀ grant, VersionGrant s grant → sanction.grant = grant := by
  have hnamed := h.named
  obtain ⟨v, hv, hid, _⟩ := hnamed.current s.event rfl
  have hfind := hnamed.find hv hid
  refine ⟨(sanction_version hfind hsan).trans hid, ?_⟩
  intro grant hgrant
  obtain ⟨w, hw, hwid, n, hn, b, hb, f, hf, rfl⟩ := hgrant
  have hwv : w = v := List.inj_on_of_nodup_map hnamed.keys hw hv (hwid.trans hid.symm)
  obtain ⟨env, actor, summary, id, p, hsub⟩ := h.snapshots v hv
  have hsnap : v.snapshot = some (proposalSnapshot env actor (p.request.currentVersion + 1) p) :=
    congrArg EventRequestVersion.snapshot hsub
  rw [hwv, hsnap] at hn
  cases hn
  obtain ⟨bp, hbp, hbudget⟩ := Option.map_eq_some_iff.mp hb
  have hresolve := resolve_submitted hfind hsnap hbp
  rw [hsan] at hresolve
  cases hresolve
  rw [← hbudget] at hf
  cases hf
  rfl

end Ceiling

/-! ## 3. The law of the row -/

/-- **What holds of an advance**: what is approved is within the grant, what is paid out is what
    was approved, and nothing is paid out before. -/
structure AdvanceLaw (s : State) (a : CashAdvance) : Prop where
  unpaid : a.status ≠ .disbursed → a.amountDisbursed = 0
  approved : a.status = .approved →
    ∃ amount, a.amountApproved = some amount ∧ 0 < amount ∧ Within s amount
  disbursed : a.status = .disbursed → 0 < a.amountDisbursed ∧
    a.amountApproved = some a.amountDisbursed ∧ Within s a.amountDisbursed

/-- The law holds of the advance of the event, if there is one. -/
def Funded (s : State) : Prop := ∀ a, s.advance = some a → AdvanceLaw s a.1

section Law

variable {cfg : Config} {d d' : Dossier} {r : Request} {s s' : State} {op : Op}

theorem Within.congr (hsan : resolveSanctionedSnapshot s' = resolveSanctionedSnapshot s)
    {amount : Int} (h : Within s amount) : Within s' amount := by
  unfold Within
  rw [hsan]
  exact h

theorem AdvanceLaw.congr (hsan : resolveSanctionedSnapshot s' = resolveSanctionedSnapshot s)
    {a : CashAdvance} (h : AdvanceLaw s a) : AdvanceLaw s' a where
  unpaid := h.unpaid
  approved := by
    intro hst
    obtain ⟨amount, happ, hpos, hin⟩ := h.approved hst
    exact ⟨amount, happ, hpos, hin.congr hsan⟩
  disbursed := by
    intro hst
    obtain ⟨hpos, happ, hin⟩ := h.disbursed hst
    exact ⟨hpos, happ, hin.congr hsan⟩

/-- A rejected row, paid out as little as before. -/
theorem AdvanceLaw.turnedDown {a : CashAdvance} (hst : a.status = .rejected)
    (hamt : a.amountDisbursed = 0) : AdvanceLaw s a where
  unpaid := fun _ => hamt
  approved := by
    intro h
    rw [hst] at h
    cases h
  disbursed := by
    intro h
    rw [hst] at h
    cases h

/-- A cancellation turns down what is pending and leaves the rest. -/
theorem AdvanceLaw.cancelled {a : CashAdvance} (reason : Text) (h : AdvanceLaw s a) :
    AdvanceLaw s (cancelledAdvance reason a) := by
  unfold cancelledAdvance
  by_cases hp : a.Pending
  · rw [if_pos hp]
    refine .turnedDown rfl (h.unpaid ?_)
    rcases hp with hst | hst <;> rw [hst] <;> decide
  · rw [if_neg hp]
    exact h

/-- **The step lemma**, case by case of what a call does to the row. -/
theorem AdvanceEffect.law {advance : Option (Stored CashAdvance)} (h : AdvanceEffect s op advance)
    (hold : Funded s) {a : Stored CashAdvance} (ha : advance = some a) : AdvanceLaw s a.1 := by
  cases h with
  | kept hop => exact hold a ha
  | requested row hop hnone hst hamt =>
      cases ha
      refine ⟨fun _ => hamt, fun h => ?_, fun h => ?_⟩
      · rw [hst] at h
        cases h
      · rw [hst] at h
        cases h
  | approved b row amount sanction hop hadv hfrom hst hamt happ hpos hsan hle =>
      cases ha
      have hzero : b.1.amountDisbursed = 0 :=
        (hold b hadv).unpaid (by rw [hfrom]; decide)
      refine ⟨fun _ => hamt.trans hzero, fun _ => ⟨amount, happ, hpos, sanction, hsan, hle⟩, ?_⟩
      intro h
      rw [hst] at h
      cases h
  | rejected b row hop hadv hfrom hst hamt =>
      cases ha
      exact .turnedDown hst (hamt.trans ((hold b hadv).unpaid (by rw [hfrom]; decide)))
  | disbursed b row hop hadv hfrom hst hsame happ =>
      cases ha
      obtain ⟨amount, hamount, hpos, hin⟩ := (hold b hadv).approved hfrom
      have hpaid : amount = a.1.amountDisbursed :=
        Option.some.inj (hamount.symm.trans happ)
      rw [hpaid] at hpos hin
      refine ⟨fun hne => (hne hst).elim, fun h => ?_, fun _ => ⟨hpos, hsame.trans happ, hin⟩⟩
      rw [hst] at h
      cases h
  | cancelled reason hop =>
      obtain ⟨b, hb, rfl⟩ := Option.map_eq_some_iff.mp ha
      exact (hold b hb).cancelled reason

/-- **The advance of every reachable event is lawful.** -/
theorem Dossier.Reachable.funded (h : Dossier.Reachable cfg d) :
    ∀ s, d = .confirmed s → Funded s := by
  refine Runs.Reach.invariant_given (P := fun d => ∀ s, d = .confirmed s → Funded s)
    (fun _ hr => Dossier.Reachable.inStanding hr) ?_ ?_ h
  · intro d0 h0 s hs
    obtain ⟨request, logs, rfl, _⟩ := h0.row
    cases hs
  · intro e r e' hin hold hstep s' hs' a ha
    rw [hs'] at hstep
    cases e with
    | proposed p logs =>
        obtain ⟨q, event, logs', rfl⟩ := hstep.opened
        cases ha
    | confirmed s =>
        have hsan := sanction_kept hin hstep
        cases r with
        | review env actor op =>
            obtain ⟨q, entries, rfl⟩ := hstep.reviewed
            exact (hold s rfl a ha).congr hsan
        | event c => exact ((Step.advance_effect hstep.call).law (hold s rfl) ha).congr hsan

end Law

/-! ## 4. One advance -/

/-- The request inserts an advance. -/
def Request.requestsAdvance : Request → Bool
  | .review _ _ _ => false
  | .event c => c.op.requestsAdvance

/-- How many advances the event has. -/
def Dossier.advances (d : Dossier) : Nat :=
  (d.state.bind State.advance).toList.length

section Counts

variable {cfg : Config} {d d' : Dossier} {r : Request}

theorem AdvanceEffect.count {s : State} {op : Op} {advance : Option (Stored CashAdvance)}
    (h : AdvanceEffect s op advance) :
    advance.toList.length = s.advance.toList.length + (if op.requestsAdvance then 1 else 0) := by
  cases h with
  | kept hop => simp [hop]
  | requested row hop hnone hst hamt => simp [hop, hnone]
  | approved a row amount sanction hop hadv hfrom hst hamt happ hpos hsan hle => simp [hop, hadv]
  | rejected a row hop hadv hfrom hst hamt => simp [hop, hadv]
  | disbursed a row hop hadv hfrom hst hsame happ => simp [hop, hadv]
  | cancelled reason hop => cases s.advance <;> simp [hop]

/-- A proposal without an event takes no request for an advance. -/
theorem Call.onProposal_advance {c : Call} {p : Proposal} {out : Proposal × List AuditEntry}
    (h : c.onProposal p = .ok out) : c.op.requestsAdvance = false := by
  unfold Call.onProposal at h
  cases hop : c.op <;> simp only [hop] at h <;> first | rfl | cases h

/-- **The step lemma**: an accepted request counts if and only if it inserts an advance. -/
theorem Dossier.Step.advances (h : Dossier.Step cfg d r d') :
    d'.advances = d.advances + (if r.requestsAdvance then 1 else 0) := by
  cases d with
  | confirmed s =>
      obtain ⟨s', rfl⟩ := h.confirmed
      cases r with
      | review env actor op =>
          obtain ⟨q, entries, rfl⟩ := h.reviewed
          rfl
      | event c => exact (Step.advance_effect h.call).count
  | proposed p logs =>
      have hnone : (Dossier.proposed p logs).advances = 0 := rfl
      have hrequest : r.requestsAdvance = false := by
        cases r with
        | review env actor op => rfl
        | event c =>
            unfold Dossier.Step Dossier.exec at h
            simp only [bind_accepts, pure_accepts] at h
            obtain ⟨⟨q, entries⟩, hon, _⟩ := h
            exact Call.onProposal_advance hon
      rw [hnone, hrequest]
      cases d' with
      | proposed q logs' => rfl
      | confirmed s =>
          obtain ⟨q, event, logs'', rfl⟩ := h.opened
          rfl

/-- **The run lemma**: an event has as many advances as the run has accepted requests for one. -/
theorem advance_requests {d0 : Dossier} {requests : List Request} (h0 : Drafted d0)
    (hp : Runs.Path (Dossier.Step cfg) d0 requests d) :
    requests.countP Request.requestsAdvance = d.advances := by
  refine Runs.Path.history
    (P := fun e taken => taken.countP Request.requestsAdvance = e.advances) ?_ hp ?_
  · intro e taken r e' hcount hs
    rw [List.countP_append, List.countP_singleton, hcount, hs.advances]
  · obtain ⟨request, logs, rfl, _⟩ := h0.row
    rfl

theorem advances_le_one (d : Dossier) : d.advances ≤ 1 := by
  unfold Dossier.advances
  cases d.state.bind State.advance <;> simp

end Counts

/-! ## 5. Final rows -/

/-- `REJECTED` and `DISBURSED`. -/
def CashAdvance.Final (a : CashAdvance) : Prop := a.status = .rejected ∨ a.status = .disbursed

section Finality

variable {cfg : Config} {d : Dossier} {s s' : State} {r : Request}

/-- A final advance is in none of the statuses a call moves. -/
theorem AdvanceEffect.final {op : Op} {advance : Option (Stored CashAdvance)}
    {a : Stored CashAdvance} (h : AdvanceEffect s op advance) (ha : s.advance = some a)
    (hfinal : a.1.Final) : advance = some a := by
  have hopen : ∀ b : Stored CashAdvance, s.advance = some b → ¬ b.1.Pending := by
    intro b hb hp
    rw [ha] at hb
    cases hb
    rcases hp with hp | hp <;> rcases hfinal with hf | hf <;> rw [hp] at hf <;> cases hf
  cases h with
  | kept hop => exact ha
  | requested row hop hnone hst hamt =>
      rw [hnone] at ha
      cases ha
  | approved b row amount sanction hop hadv hfrom hst hamt happ hpos hsan hle =>
      exact (hopen b hadv (.inl hfrom)).elim
  | rejected b row hop hadv hfrom hst hamt => exact (hopen b hadv (.inl hfrom)).elim
  | disbursed b row hop hadv hfrom hst hsame happ => exact (hopen b hadv (.inr hfrom)).elim
  | cancelled reason hop =>
      have hsame : cancelStoredAdvance reason a = a := by
        refine Subtype.ext ?_
        show cancelledAdvance reason a.1 = a.1
        unfold cancelledAdvance
        rw [if_neg (hopen a ha)]
      rw [ha, Option.map_some, hsame]

/-- **A final advance stays the row it is**, over every run of requests. -/
theorem final_advance_kept {requests : List Request} {a : Stored CashAdvance}
    (hp : Runs.Path (Dossier.Step cfg) (.confirmed s) requests d) (ha : s.advance = some a)
    (hfinal : a.1.Final) : ∃ s', d = .confirmed s' ∧ s'.advance = some a := by
  refine hp.preserves (P := fun e => ∃ t, e = .confirmed t ∧ t.advance = some a) ?_ ⟨s, rfl, ha⟩
  intro e r e' he hs
  obtain ⟨t, rfl, ht⟩ := he
  obtain ⟨t', rfl⟩ := hs.confirmed
  refine ⟨t', rfl, ?_⟩
  cases r with
  | review env actor op =>
      obtain ⟨q, entries, rfl⟩ := hs.reviewed
      exact ht
  | event c => exact (Step.advance_effect hs.call).final ht hfinal

end Finality

/-! ## 6. The law -/

/-- **The cash advance of an event**, at the end of every run from a draft: there are as many as the
    run has requested, one at most; a DISBURSED one has the approved amount, which is positive and
    at most the grant of the version the event names; any other has nothing paid out; and no
    further run of requests changes a REJECTED or DISBURSED one. -/
theorem cash_advance_invariant (cfg : Config) {d0 : Dossier} {s : State} {requests : List Request}
    (h0 : Drafted d0) (hp : Runs.Path (Dossier.Step cfg) d0 requests (.confirmed s)) :
    requests.countP Request.requestsAdvance = s.advance.toList.length ∧
    requests.countP Request.requestsAdvance ≤ 1 ∧
    ∀ a, s.advance = some a →
      (a.1.status = .disbursed → 0 < a.1.amountDisbursed ∧
        a.1.amountApproved = some a.1.amountDisbursed ∧
        ∃ sanction, resolveSanctionedSnapshot s = .ok sanction ∧
          a.1.amountDisbursed ≤ sanction.grant ∧
          sanction.approvedVersionId = s.event.approvedVersionId ∧
          ∀ grant, VersionGrant s grant → sanction.grant = grant) ∧
      (a.1.status ≠ .disbursed → a.1.amountDisbursed = 0) ∧
      (a.1.status = .rejected ∨ a.1.status = .disbursed → ∀ later d,
        Runs.Path (Dossier.Step cfg) (.confirmed s) later d →
          ∃ s', d = .confirmed s' ∧ s'.advance = some a) := by
  have hcount : requests.countP Request.requestsAdvance = s.advance.toList.length :=
    advance_requests h0 hp
  have hreach : Dossier.Reachable cfg (.confirmed s) := Runs.Reach.path (.start h0) hp
  refine ⟨hcount, hcount.le.trans (advances_le_one (.confirmed s)), ?_⟩
  intro a ha
  have hlaw : AdvanceLaw s a.1 := hreach.funded s rfl a ha
  refine ⟨?_, hlaw.unpaid, ?_⟩
  · intro hst
    obtain ⟨hpos, happ, sanction, hsan, hle⟩ := hlaw.disbursed hst
    obtain ⟨hver, hgrant⟩ := sanctioned_grant hreach hsan
    exact ⟨hpos, happ, sanction, hsan, hle, hver, hgrant⟩
  · intro hfinal later d hlater
    exact final_advance_kept hlater ha hfinal

/-- The sample event under a grant of 100.00: 50.00 are requested, 40.00 approved and paid out. -/
theorem cash_advance_invariant_sample :
    ∃ s a, Dossier.Reachable (Sample.config .sqlite) (.confirmed s) ∧ s.advance = some a ∧
      a.1.status = .disbursed ∧ a.1.amountApproved = some a.1.amountDisbursed ∧
      ∃ sanction, resolveSanctionedSnapshot s = .ok sanction ∧
        a.1.amountDisbursed ≤ sanction.grant := by
  have hrun : Runs.Ends (Sample.after (Sample.plan ++
      [Sample.submit Sample.staff Sample.secretary 1] ++ Sample.approveAll 1 ++
      [.event (Sample.bySecretary (.requestAdvance (Sample.uid 70) 5000 "advance".toList)),
        .event (Sample.byOfficer (.approveAdvance (Sample.uid 70) 4000 none)),
        .event (Sample.byOfficer
          (.disburseAdvance (Sample.uid 70) 4000 "reference".toList none none))])) fun d =>
      (d.state.bind State.advance).map (fun a => a.1.status) = some .disbursed := by
    decide
  obtain ⟨d, hok, hst⟩ := hrun
  obtain ⟨d0, h0, hpath⟩ := Sample.path_of_after hok
  cases d with
  | proposed p logs => cases hst
  | confirmed s =>
      obtain ⟨a, ha, hdis⟩ := Option.map_eq_some_iff.mp hst
      obtain ⟨_, _, hlaw⟩ := cash_advance_invariant (Sample.config .sqlite) h0 hpath
      obtain ⟨_, happ, sanction, hsan, hle, _⟩ := (hlaw a ha).1 hdis
      exact ⟨s, a, Runs.Reach.path (.start h0) hpath, ha, hdis, happ, sanction, hsan, hle⟩

end CampusConnect
