/-
  File:      CampusConnect/Guarantees/Completion.lean
  Subject:   A review comes to its end: who can finish it, in how many approvals, and what stops it.

  * `Proposal.Remains`, `remaining`: the steps of the current instance that nobody has decided;
  * `Staffed`: each of them has a decider in the team, and the hall of the second one is free;
  * `StepDecision.approves`: an approval that passes the guards and finds the hall free is accepted;
  * `Approved.staffed`, `Approved.remaining`: an approval leaves the team sufficient, or insufficient,
    and takes one step away;
  * `review_completes`: a team can take a review to its approval exactly when it is sufficient.
-/
import CampusConnect.Guarantees.Calendar
import CampusConnect.Guarantees.Queue
import CampusConnect.Guarantees.Sequencing

namespace CampusConnect

open Guarded Rows Runs EventService VenueService BudgetService WorkflowService

/-! ## 1. The budget row -/

/-- The budget is within the constraints of its table. -/
def Proposal.BudgetChecked (p : Proposal) : Prop := ∀ b ∈ p.budgetProposal, b.Check

section Budgets

variable {cfg : Config} {env : ReviewEnv} {actor : User} {p q : Proposal} {op : ReviewOp} {f : Flush}
variable {d d' : Dossier} {r : Request}

/-- What an UPDATE leaves has been checked. -/
theorem updateBudget_checked {id : Uuid} {change : BudgetProposal → BudgetProposal}
    (h : p.updateBudget id change = .ok q) : q.BudgetChecked := by
  obtain ⟨b, _, _, hcheck, rfl⟩ := Proposal.updateBudget_accepts.mp h
  intro b' hb'
  cases hb'
  exact hcheck

theorem Proposal.BudgetChecked.congr (h : p.BudgetChecked) (hq : q.budgetProposal = p.budgetProposal) :
    q.BudgetChecked := fun b hb => h b (hq ▸ hb)

/-- **Every operation leaves the budget within its constraints.** The steps of the items say nothing
    of them, so these four are read off their flush. -/
theorem ReviewOp.budgetChecked {existing : Option Event} (hp : p.BudgetChecked)
    (h : op.flush env actor existing p p = .ok f) (hw : f.write p = .ok q) : q.BudgetChecked := by
  obtain ⟨hstep, _⟩ := ReviewOp.step h hw
  cases op with
  | addLineItem newId itemIn =>
      simp only [ReviewOp.flush, BudgetService.addLineItem, bind_accepts, pure_accepts] at h
      obtain ⟨_, _, _, _, rfl⟩ := h
      simp only [bind_accepts, refuse_accepts, exists_unit] at hw
      exact updateBudget_checked hw.2
  | updateLineItem itemId itemIn =>
      simp only [ReviewOp.flush, BudgetService.updateLineItem, bind_accepts, pure_accepts] at h
      obtain ⟨_, _, _, _, _, _, rfl⟩ := h
      simp only [bind_accepts, refuse_accepts, exists_unit] at hw
      exact updateBudget_checked hw.2
  | deleteLineItem itemId =>
      simp only [ReviewOp.flush, BudgetService.deleteLineItem, bind_accepts, pure_accepts] at h
      obtain ⟨_, _, _, _, _, _, rfl⟩ := h
      exact updateBudget_checked hw
  | verifyBudget verificationIn =>
      simp only [ReviewOp.flush, BudgetService.verifyBudget, bind_accepts, pure_accepts] at h
      obtain ⟨_, _, rfl⟩ := h
      exact updateBudget_checked hw
  | updateDraft eventIn =>
      cases hstep
      exact hp
  | submitProposal summary key keys =>
      cases hstep with
      | repeated _ _ _ _ => exact hp
      | submitted _ _ _ _ hsub => exact hp.congr hsub.budget
  | approveStep stepId comments newBookingId newEventId =>
      cases hstep with
      | approved _ _ _ _ step inst _ hd happ =>
          by_cases h3 : step.stepOrder = 3
          · have hbudget := happ.budget
            rw [if_pos h3] at hbudget
            intro b hb
            rw [hbudget] at hb
            obtain ⟨old, hold, rfl⟩ := Option.map_eq_some_iff.mp hb
            exact hp old hold
          · have hbudget := happ.budget
            rw [if_neg h3] at hbudget
            exact hp.congr hbudget
  | rejectStep stepId comments =>
      cases hstep with
      | rejected _ _ step inst _ hd hrej => exact hp.congr hrej.budget
  | requestRevision stepId comments =>
      cases hstep
      exact hp
  | createVenueRequest newId venueIn =>
      cases hstep
      exact hp
  | updateVenueRequest venueIn =>
      cases hstep
      exact hp
  | deleteVenueRequest =>
      cases hstep
      exact hp
  | createBudgetProposal newId newItemId budgetIn =>
      cases hstep with
      | budgetCreated _ _ _ items hed hnone hc hids =>
          intro b hb
          cases hb
          exact hc
  | updateBudgetProposal budgetIn =>
      cases hstep with
      | budgetUpdated _ bp hed hbp hc =>
          intro b hb
          cases hb
          exact hc
  | deleteBudgetProposal =>
      cases hstep
      intro b hb
      cases hb

/-- The step lemma of the budget, for every request. -/
theorem Dossier.Step.budgetChecked (hin : InStanding d) (h : d.proposal.BudgetChecked)
    (hs : Dossier.Step cfg d r d') : d'.proposal.BudgetChecked := by
  cases r with
  | review env actor op =>
      obtain ⟨f, q, hf, hw, rfl⟩ := hs.flush
      exact ReviewOp.budgetChecked h hf hw
  | event c =>
      have htraced := hs.traced
      cases htraced with
      | withdrawn _ p logs entries hst => exact h.congr (withdrawn_budget p)
      | event _ s s' hstep =>
          rcases hstep.proposal hin.approved with hsame | ⟨_, hrel⟩
          · exact h.congr (congrArg Proposal.budgetProposal hsame)
          · refine h.congr ((congrArg Proposal.budgetProposal hrel).trans ?_)
            rw [releaseHall_eq]
            rfl

end Budgets

/-! ## 2. What is left of a review -/

/-- The step belongs to the current instance, and nobody has decided it. -/
def Proposal.Remains (p : Proposal) (step : WorkflowInstanceStep) : Prop :=
  p.request.workflowInstanceId = some step.instanceId ∧ step.status = .pending

instance (p : Proposal) (step : WorkflowInstanceStep) : Decidable (p.Remains step) :=
  inferInstanceAs (Decidable (_ ∧ _))

/-- How many steps remain. -/
def Proposal.remaining (p : Proposal) : Int := p.steps.count p.Remains

/-- The user may decide the step when its turn comes. -/
def Decides (p : Proposal) (step : WorkflowInstanceStep) (u : User) : Prop :=
  p.request.submittedBy ≠ u.id ∧ CanAct u step

instance (p : Proposal) (step : WorkflowInstanceStep) (u : User) : Decidable (Decides p step u) :=
  inferInstanceAs (Decidable (_ ∧ _))

/-- The hall asked for, if any, is free: the query of the second step finds no booking, and where a new
    one has to be written the database accepts it. -/
def VenueFree (env : ReviewEnv) (p : Proposal) : Prop :=
  ∀ vr ∈ p.venueRequest, ¬ VenueConflict env vr ∧
    (p.booking = none → ∀ newId, ¬ Excluded env (bookingOf newId vr))

/-- **The team suffices**: somebody of it decides each step that remains, and if the second one is
    among them the hall is free. -/
structure Staffed (env : ReviewEnv) (team : List User) (p : Proposal) : Prop where
  deciders : ∀ step ∈ p.steps, p.Remains step → ∃ u ∈ team, Decides p step u
  venue : (∃ step ∈ p.steps, p.Remains step ∧ step.stepOrder = 2) → VenueFree env p

/-- An approval of somebody of the team. -/
def Request.ApprovedBy (env : ReviewEnv) (team : List User) (r : Request) : Prop :=
  ∃ actor ∈ team, ∃ stepId comments newBookingId newEventId,
    r = .review env actor (.approveStep stepId comments newBookingId newEventId)

/-- An approval of anybody. -/
def Request.IsApproval (r : Request) : Prop := ∃ env team, r.ApprovedBy env team

section Approvals

variable {env : ReviewEnv} {team : List User} {actor : User} {p q : Proposal}
variable {step : WorkflowInstanceStep} {inst : WorkflowInstance} {stepId newBookingId : Uuid}
variable {comments : Option Text}

/-- A booking in force is not written again, and a new one meets its CHECK constraint. -/
theorem confirmBooking_goes (newBookingId : Uuid) {vr : VenueRequest} {r : Proposal} (hslot : p.Slotted)
    (hlive : ¬ p.request.status.Ended) (hvr : p.venueRequest = some vr) (hfree : VenueFree env p)
    (hb : r.booking = p.booking) : ∃ q, confirmBooking env newBookingId vr p r = .ok q := by
  unfold confirmBooking
  cases hbook : p.booking with
  | none =>
      have hnew : ¬ (r.booking ≠ none ∨ ¬ (bookingOf newBookingId vr).startTime <
          (bookingOf newBookingId vr).endTime ∨ Excluded env (bookingOf newBookingId vr)) := by
        rw [hb, hbook, not_or, not_or, not_not, not_not]
        exact ⟨rfl, hslot.venue vr hvr, (hfree vr hvr).2 hbook newBookingId⟩
      simp only [bind_accepts, refuse_accepts, exists_unit, pure_accepts]
      exact ⟨_, hnew, rfl⟩
  | some b =>
      have hact : b.isActive = true := by
        by_contra hout
        exact hlive (hslot.released b hbook (Bool.eq_false_iff.mpr hout))
      simp only [if_pos hact, pure_accepts]
      exact ⟨r, rfl⟩

theorem interlock_goes (actor : User) (comments : Option Text) (newBookingId : Uuid)
    (step : WorkflowInstanceStep) (hslot : p.Slotted) (hbudget : p.BudgetChecked)
    (hlive : ¬ p.request.status.Ended) (hfree : step.stepOrder = 2 → VenueFree env p) {r : Proposal}
    (hv : r.venueRequest = p.venueRequest) (hb : r.booking = p.booking)
    (hbud : r.budgetProposal = p.budgetProposal) :
    ∃ q, interlock env actor comments newBookingId step p r = .ok q := by
  unfold interlock
  by_cases h2 : step.stepOrder = 2
  · rw [if_pos h2]
    unfold approveVenue
    cases hvr : p.venueRequest with
    | none => exact ⟨r, rfl⟩
    | some vr =>
        simp only [bind_accepts, Proposal.updateVenue_accepts]
        obtain ⟨q, hq⟩ := confirmBooking_goes newBookingId hslot hlive hvr (hfree h2)
          (r := { r with venueRequest := some (approvedVenue env actor vr) }) hb
        exact ⟨q, _, ⟨vr, hv.trans hvr, rfl, hslot.venue vr hvr, rfl⟩, hq⟩
  · rw [if_neg h2]
    by_cases h3 : step.stepOrder = 3
    · rw [if_pos h3]
      unfold approveBudget
      cases hbp : p.budgetProposal with
      | none => exact ⟨r, rfl⟩
      | some bp =>
          simp only [Proposal.updateBudget_accepts]
          exact ⟨_, bp, hbud.trans hbp, rfl, hbudget bp hbp, rfl⟩
    · rw [if_neg h3]
      exact ⟨r, rfl⟩

theorem advance_goes (step : WorkflowInstanceStep) (hi : p.instances.find inst.id = some inst)
    {r : Proposal}
    (hr : r.instances = p.instances) : ∃ q, advance p step inst r = .ok q := by
  unfold advance
  cases hn : nextStep p step with
  | none =>
      obtain ⟨t, ht⟩ := r.instances.replace_of_check (a := { inst with status := .completed }) trivial
      simp only [bind_accepts, pure_accepts, Proposal.updateInstance_accepts, hr, hi]
      exact ⟨_, _, ⟨inst, t, rfl, hr ▸ ht, rfl⟩, rfl⟩
  | some next =>
      obtain ⟨t, ht⟩ := r.instances.replace_of_check
        (a := { inst with currentStepOrder := next.stepOrder }) trivial
      simp only [bind_accepts, pure_accepts, Proposal.updateInstance_accepts, hr, hi]
      exact ⟨_, _, ⟨inst, t, rfl, hr ▸ ht, rfl⟩, rfl⟩

/-- **An approval that passes the guards and finds the hall free is accepted**: none of its writes
    meets a constraint. -/
theorem WorkflowService.StepDecision.approves (comments : Option Text) (newBookingId newEventId : Uuid)
    (existing : Option Event) (hd : StepDecision actor stepId p step inst) (hslot : p.Slotted)
    (hbudget : p.BudgetChecked) (hlive : ¬ p.request.status.Ended)
    (hfree : step.stepOrder = 2 → VenueFree env p) :
    ∃ f q, approveStep env actor stepId comments newBookingId newEventId existing p = .ok f ∧
      f.write p = .ok q := by
  have hs : p.steps.find step.id = some step := hd.step_id ▸ hd.stepFound
  have hi : p.instances.find inst.id = some inst := hd.inst_id ▸ hd.instFound
  have hver : verifyDecision approveWords actor step inst p.request = .ok () :=
    verifyDecision_accepts.mpr ⟨hd.pending, hd.inProgress, hd.current, hd.other, hd.canAct⟩
  have hvenue : ¬ (step.stepOrder = 2 ∧ ∃ vr ∈ p.venueRequest, VenueConflict env vr) := by
    rintro ⟨h2, vr, hvr, hconflict⟩
    exact (hfree h2 vr hvr).1 hconflict
  obtain ⟨t, ht⟩ := p.steps.replace_of_check (a := decideStep env .approved comments step inst step)
    trivial
  obtain ⟨r, hr⟩ := interlock_goes actor comments newBookingId step hslot hbudget hlive hfree
    (r := { p with steps := t }) rfl rfl rfl
  obtain ⟨v, b, _, _, hrows⟩ := interlock_writes hr rfl rfl rfl
  obtain ⟨q, hq⟩ := advance_goes step hi (r := r) (by rw [hrows])
  simp only [approveStep, loadStep, bind_accepts, fetch_accepts, refuse_accepts, exists_unit,
    pure_accepts]
  refine ⟨_, q, ⟨(step, inst), ⟨step, hd.stepFound, inst, hd.instFound, rfl⟩, hver, hvenue, rfl⟩, ?_⟩
  simp only [bind_accepts]
  exact ⟨_, Proposal.updateStep_accepts.mpr ⟨step, t, hs, ht, rfl⟩, r, hr, hq⟩

/-- The steps that remain after an approval are the others. -/
theorem WorkflowService.Approved.remains (hstand : Standing p)
    (hd : StepDecision actor stepId p step inst)
    (ha : Approved env actor comments newBookingId p step inst q) (st : WorkflowInstanceStep) :
    (st ∈ q.steps ∧ q.Remains st) ↔ st ∈ p.steps ∧ p.Remains st ∧ st ≠ step := by
  have hat := hstand.deciding hd
  have hlink : q.request.workflowInstanceId = p.request.workflowInstanceId :=
    (congrArg EventRequest.workflowInstanceId ha.request).trans rfl
  have hremains : q.Remains st ↔ p.Remains st := by
    unfold Proposal.Remains
    rw [hlink]
  rw [hremains]
  constructor
  · rintro ⟨hm, hr⟩
    rcases Table.mem_replace ha.steps hm with rfl | ⟨hold, hne⟩
    · cases hr.2
    · exact ⟨hold, hr, fun he => hne (by rw [he]; rfl)⟩
  · rintro ⟨hm, hr, hne⟩
    refine ⟨Table.mem_replace_of_ne ha.steps hm fun hk => hne ?_, hr⟩
    exact Table.eq_of_key_eq hm hat.stepMem hk

theorem WorkflowService.StepDecision.remains (hstand : Standing p)
    (hd : StepDecision actor stepId p step inst) :
    step ∈ p.steps ∧ p.Remains step := by
  have hat := hstand.deciding hd
  refine ⟨hat.stepMem, ?_, hd.pending⟩
  rw [hat.own]
  exact hat.link

/-- **One step less.** -/
theorem WorkflowService.Approved.remaining (hstand : Standing p)
    (hd : StepDecision actor stepId p step inst)
    (ha : Approved env actor comments newBookingId p step inst q) :
    q.remaining + 1 = p.remaining := by
  obtain ⟨hm, hr⟩ := hd.remains hstand
  have hlink : q.request.workflowInstanceId = p.request.workflowInstanceId :=
    (congrArg EventRequest.workflowInstanceId ha.request).trans rfl
  have hsame : q.steps.count q.Remains = q.steps.count p.Remains := by
    refine Table.count_congr fun st _ => ?_
    unfold Proposal.Remains
    rw [hlink]
  have hcount : q.steps.count p.Remains = p.steps.count p.Remains - 1 :=
    Table.count_replace ha.steps hm rfl hr fun hdone => nomatch hdone.2
  unfold Proposal.remaining
  omega

/-- **An approval of the team leaves it sufficient, and makes no insufficient one sufficient.** -/
theorem WorkflowService.Approved.staffed (hstand : Standing p) (hactor : actor ∈ team)
    (hd : StepDecision actor stepId p step inst)
    (hvenue : ¬ (step.stepOrder = 2 ∧ ∃ vr ∈ p.venueRequest, VenueConflict env vr))
    (ha : Approved env actor comments newBookingId p step inst q) :
    Staffed env team p ↔ Staffed env team q := by
  have hafter := ha.remains hstand hd
  obtain ⟨hm, hr⟩ := hd.remains hstand
  have hby : q.request.submittedBy = p.request.submittedBy :=
    (congrArg EventRequest.submittedBy ha.request).trans rfl
  have hsecond : ∀ st ∈ p.steps, p.Remains st → st ≠ step → st.stepOrder = 2 →
      step.stepOrder ≠ 2 := by
    intro st hst hrst hne h2 hs2
    have hlink : some st.instanceId = some step.instanceId := hrst.1.symm.trans hr.1
    exact hne (hstand.distinct st hst step hm (Option.some.inj hlink) (h2.trans hs2.symm))
  have hkept : step.stepOrder ≠ 2 → (VenueFree env p ↔ VenueFree env q) := by
    intro h2
    obtain ⟨hv, hb⟩ := ha.venueKept h2
    unfold VenueFree
    rw [hv, hb]
  constructor
  · rintro ⟨hdeciders, hfree⟩
    refine ⟨fun st hst hrst => ?_, ?_⟩
    · obtain ⟨hold, hrold, _⟩ := (hafter st).mp ⟨hst, hrst⟩
      obtain ⟨u, hu, hother, hcan⟩ := hdeciders st hold hrold
      exact ⟨u, hu, by rw [hby]; exact hother, hcan⟩
    · rintro ⟨st, hst, hrst, h2⟩
      obtain ⟨hold, hrold, hne⟩ := (hafter st).mp ⟨hst, hrst⟩
      exact (hkept (hsecond st hold hrold hne h2)).mp (hfree ⟨st, hold, hrold, h2⟩)
  · rintro ⟨hdeciders, hfree⟩
    refine ⟨fun st hst hrst => ?_, ?_⟩
    · by_cases hne : st = step
      · rw [hne]
        exact ⟨actor, hactor, hd.other, hd.canAct⟩
      · obtain ⟨hnew, hrnew⟩ := (hafter st).mpr ⟨hst, hrst, hne⟩
        obtain ⟨u, hu, hother, hcan⟩ := hdeciders st hnew hrnew
        exact ⟨u, hu, by rw [← hby]; exact hother, hcan⟩
    · rintro ⟨st, hst, hrst, h2⟩
      by_cases hne : st = step
      · -- the second step itself has just met the query and the constraint
        rw [hne] at h2
        intro vr hvr
        refine ⟨fun hconflict => hvenue ⟨h2, vr, hvr, hconflict⟩, fun hnone newId => ?_⟩
        have hleft := ha.venue h2
        generalize q.venueRequest = v, q.booking = b at hleft
        cases hleft with
        | absent hnovenue =>
            rw [hnovenue] at hvr
            cases hvr
        | booked vr' hvr' _ hfree' =>
            obtain rfl : vr = vr' := Option.some.inj (hvr.symm.trans hvr')
            exact hfree'
        | kept vr' b hvr' hb _ =>
            rw [hnone] at hb
            cases hb
      · obtain ⟨hnew, hrnew⟩ := (hafter st).mpr ⟨hst, hrst, hne⟩
        exact (hkept (hsecond st hst hrst hne h2)).mpr (hfree ⟨st, hnew, hrnew, h2⟩)

end Approvals

/-! ## 3. Runs of approvals -/

/-- The dossier is under review or at its approval, its rows are in order, and the slots and the budget
    are within their constraints. -/
structure Reviewed (d : Dossier) : Prop where
  order : InOrder d
  slotted : d.proposal.Slotted
  budget : d.proposal.BudgetChecked
  status : d.proposal.request.status = .submitted ∨ d.proposal.request.status = .inReview ∨
    d.proposal.request.status = .approved

section Runs

variable {cfg : Config} {env : ReviewEnv} {team : List User} {d d' : Dossier} {r : Request}

/-- Every reachable dossier under review is one. -/
theorem Dossier.ReachableInSequence.reviewed (h : Dossier.ReachableInSequence cfg d)
    (hst : d.proposal.request.status = .submitted ∨ d.proposal.request.status = .inReview) :
    Reviewed d := by
  have hrows : InOrder d ∧ d.proposal.Slotted ∧ d.proposal.BudgetChecked := by
    refine Reach.invariant
      (P := fun e => InOrder e ∧ e.proposal.Slotted ∧ e.proposal.BudgetChecked) ?_ ?_ h
    · intro d0 h0
      refine ⟨h0.inOrder, h0.slotted, fun b hb => ?_⟩
      obtain ⟨request, logs, rfl, _⟩ := h0.row
      cases hb
    · rintro e r e' ⟨hin, hslot, hbudget⟩ ⟨hs, hseq⟩
      exact ⟨hin.step hs.traced hseq, hs.traced.slotted hin.standing hslot,
        hs.budgetChecked hin.standing hbudget⟩
  exact ⟨hrows.1, hrows.2.1, hrows.2.2, hst.imp_right .inl⟩

/-- The step a review waits for is one that remains. -/
theorem Reviewed.awaited (h : Reviewed d) (hne : d.proposal.request.status ≠ .approved) :
    ¬ d.proposal.request.status.Ended ∧ ∃ i ∈ d.proposal.instances, i.status = .inProgress ∧
      ∃ step ∈ d.proposal.steps, step.instanceId = i.id ∧ step.stepOrder = i.currentStepOrder ∧
        d.proposal.Remains step := by
  have ho := h.order.rows
  have hst : d.proposal.request.status = .submitted ∨ d.proposal.request.status = .inReview := by
    rcases h.status with hs | hs | hs
    · exact .inl hs
    · exact .inr hs
    · exact (hne hs).elim
  have hnot : d.proposal.request.status ≠ .revisionRequired := by
    rcases hst with hs | hs <;> rw [hs] <;> decide
  obtain ⟨i, hi, hn, _, hway⟩ := ho.underWay (hst.imp_right .inl)
  rw [if_neg hnot] at hway
  obtain ⟨step, hstep, hown, hord⟩ := hway.current
  refine ⟨?_, i, hi, hway.status, step, hstep, hown, hord, ?_, hway.here step hstep hown hord⟩
  · rintro (hs | hs | hs)
    · exact hne hs
    · rcases hst with hr | hr <;> rw [hr] at hs <;> cases hs
    · rcases hst with hr | hr <;> rw [hr] at hs <;> cases hs
  · rw [hown]
    exact (ho.latest i hi hn).1

/-- A review goes on as long as steps remain. -/
theorem Reviewed.approved_iff (h : Reviewed d) :
    d.proposal.request.status = .approved ↔ d.proposal.remaining = 0 := by
  have ho := h.order.rows
  constructor
  · intro happ
    obtain ⟨i, hi, hn, hst⟩ := ho.approved_iff.mp happ
    have hlink := (ho.latest i hi hn).1
    refine Table.count_eq_zero fun step hstep hr => ?_
    have hown : step.instanceId = i.id := Option.some.inj (hr.1.symm.trans hlink)
    have hsigned := ((ho.signed hi hst).2 step hstep hown).1
    rw [hr.2] at hsigned
    cases hsigned
  · intro hzero
    by_contra hne
    obtain ⟨_, i, hi, _, step, hstep, _, _, hr⟩ := h.awaited hne
    have hpos := Table.count_pos (p := d.proposal.Remains) hstep hr
    unfold Proposal.remaining at hzero
    omega

/-- An accepted approval, by its guards and the rows it leaves. -/
theorem Dossier.Step.approval {actor : User} {stepId newBookingId newEventId : Uuid}
    {comments : Option Text}
    (hs : Dossier.Step cfg d
      (.review env actor (.approveStep stepId comments newBookingId newEventId)) d') :
    ∃ step inst, StepDecision actor stepId d.proposal step inst ∧
      ¬ (step.stepOrder = 2 ∧ ∃ vr ∈ d.proposal.venueRequest, VenueConflict env vr) ∧
      Approved env actor comments newBookingId d.proposal step inst d'.proposal := by
  obtain ⟨f, q, hf, hw, rfl⟩ := hs.flush
  obtain ⟨step, inst, hd, hvenue, happ, _⟩ := approveStep_writes hf hw
  exact ⟨step, inst, hd, hvenue, happ⟩

/-- **One approval**: the review stays in order, one step less remains, and the team suffices after it
    exactly when it did before. -/
theorem Reviewed.step (h : Reviewed d) (hr : r.ApprovedBy env team) (hs : Dossier.Step cfg d r d') :
    Reviewed d' ∧ d'.proposal.remaining + 1 = d.proposal.remaining ∧
      (Staffed env team d.proposal ↔ Staffed env team d'.proposal) := by
  obtain ⟨actor, hactor, stepId, comments, newBookingId, newEventId, rfl⟩ := hr
  obtain ⟨step, inst, hd, hvenue, happ⟩ := hs.approval
  have hstand := h.order.standing.rows
  have hat := hstand.deciding hd
  have hseq : (Request.review env actor
      (.approveStep stepId comments newBookingId newEventId)).InSequence := fun t ht => nomatch ht
  refine ⟨⟨h.order.step hs.traced hseq, hs.traced.slotted h.order.standing h.slotted,
    hs.budgetChecked h.order.standing h.budget, ?_⟩, happ.remaining hstand hd,
    happ.staffed hstand hactor hd hvenue⟩
  rcases happ.moved.cases with ⟨_, _, _, hst⟩ | ⟨_, _, hst⟩
  · rw [hst]
    rcases hat.request with hreq | hreq <;> rw [hreq]
    · exact .inr (.inl rfl)
    · exact .inr (.inl rfl)
  · exact .inr (.inr hst)

/-- **As many approvals as steps remain**, whoever gives them. -/
theorem Reviewed.run {requests : List Request} (h : Reviewed d)
    (hp : Path (restrict (Dossier.Step cfg) fun _ r => r.IsApproval) d requests d') :
    Reviewed d' ∧ d'.proposal.remaining + requests.length = d.proposal.remaining := by
  induction hp with
  | nil d =>
      refine ⟨h, ?_⟩
      rw [List.length_nil]
      omega
  | @cons d e d' r rest hs _ ih =>
      obtain ⟨hstep, env, team, hby⟩ := hs
      obtain ⟨he, hone, _⟩ := h.step hby hstep
      obtain ⟨hd', hrest⟩ := ih he
      refine ⟨hd', ?_⟩
      rw [List.length_cons]
      omega

/-- The run lemma of the team. -/
theorem Reviewed.run_staffed {requests : List Request} (h : Reviewed d)
    (hp : Path (restrict (Dossier.Step cfg) fun _ r => r.ApprovedBy env team) d requests d') :
    Reviewed d' ∧ (Staffed env team d.proposal ↔ Staffed env team d'.proposal) := by
  induction hp with
  | nil d => exact ⟨h, Iff.rfl⟩
  | cons hs _ ih =>
      obtain ⟨he, _, hiff⟩ := h.step hs.2 hs.1
      obtain ⟨hd', hrest⟩ := ih he
      exact ⟨hd', hiff.trans hrest⟩

/-- A sufficient team approves the step the review waits for. -/
theorem Reviewed.next (h : Reviewed d) (hstaff : Staffed env team d.proposal)
    (hne : d.proposal.request.status ≠ .approved) :
    ∃ r d', r.ApprovedBy env team ∧ Dossier.Step cfg d r d' := by
  obtain ⟨hlive, i, hi, hprogress, step, hstep, hown, hord, hr⟩ := h.awaited hne
  obtain ⟨actor, hactor, hother, hcan⟩ := hstaff.deciders step hstep hr
  have hd : StepDecision actor step.id d.proposal step i := by
    refine ⟨Table.find_of_mem hstep, ?_, hr.2, hprogress, hord, hother, hcan⟩
    rw [hown]
    exact Table.find_of_mem hi
  obtain ⟨f, q, hf, hq⟩ := hd.approves none ⟨0⟩ ⟨0⟩ d.event h.slotted h.budget hlive fun h2 =>
    hstaff.venue ⟨step, hstep, hr, h2⟩
  refine ⟨_, d.flushed q f.event f.entries, ⟨actor, hactor, step.id, none, ⟨0⟩, ⟨0⟩, rfl⟩, ?_⟩
  unfold Dossier.Step Dossier.exec
  simp only [bind_accepts, pure_accepts]
  exact ⟨f, hf, q, hq, rfl⟩

/-- A sufficient team gets to the approval. -/
theorem Reviewed.completes (h : Reviewed d) (hstaff : Staffed env team d.proposal) :
    ∃ requests d', Path (restrict (Dossier.Step cfg) fun _ r => r.ApprovedBy env team) d requests d' ∧
      d'.proposal.request.status = .approved := by
  have hrun : ∃ requests e,
      Path (restrict (Dossier.Step cfg) fun _ r => r.ApprovedBy env team) d requests e ∧
        (Reviewed e ∧ Staffed env team e.proposal) ∧ e.proposal.request.status = .approved := by
    refine Path.exhaust (I := fun e => Reviewed e ∧ Staffed env team e.proposal)
      (fun e => e.proposal.remaining.toNat) ?_ ⟨h, hstaff⟩
    rintro e ⟨he, hteam⟩ hne
    obtain ⟨r, e', hby, hs⟩ := he.next hteam hne
    obtain ⟨he', hone, hiff⟩ := he.step hby hs
    refine ⟨[r], e', .single ⟨hs, hby⟩, ⟨he', hiff.mp hteam⟩, ?_⟩
    have hnonneg : 0 ≤ e'.proposal.remaining := Table.count_nonneg _
    omega
  obtain ⟨requests, d', hp, _, happ⟩ := hrun
  exact ⟨requests, d', hp, happ⟩

/-- **A review can be brought to its end by a team exactly when the team suffices**: when every step
that remains has somebody in it who is not the submitter and is its assignee or of its role, and the hall
is free if the second step remains. Whatever approvals of the team come first, it can then go on to the
end. Whoever approves, as many approvals as there are steps left make the end, no fewer and no more, and
the proposal becomes an event at the last one. -/
theorem review_completes (cfg : Config) (env : ReviewEnv) (team : List User) {d : Dossier}
    (h : Dossier.ReachableInSequence cfg d)
    (hst : d.proposal.request.status = .submitted ∨ d.proposal.request.status = .inReview) :
    ((∃ requests d', Path (restrict (Dossier.Step cfg) fun _ r => r.ApprovedBy env team) d requests d' ∧
        d'.proposal.request.status = .approved) ↔ Staffed env team d.proposal) ∧
    (Staffed env team d.proposal → ∀ first e,
      Path (restrict (Dossier.Step cfg) fun _ r => r.ApprovedBy env team) d first e →
        ∃ requests d',
          Path (restrict (Dossier.Step cfg) fun _ r => r.ApprovedBy env team) e requests d' ∧
          d'.proposal.request.status = .approved) ∧
    ∀ requests d', Path (restrict (Dossier.Step cfg) fun _ r => r.IsApproval) d requests d' →
      (requests.length : Int) ≤ d.proposal.remaining ∧
        (d'.proposal.request.status = .approved ↔ (requests.length : Int) = d.proposal.remaining) ∧
        (d'.event ≠ none ↔ (requests.length : Int) = d.proposal.remaining) := by
  have hreview : Reviewed d := h.reviewed hst
  refine ⟨⟨?_, hreview.completes⟩, ?_, ?_⟩
  · rintro ⟨requests, d', hp, happ⟩
    obtain ⟨hend, hiff⟩ := hreview.run_staffed hp
    -- no step remains at the end, so nobody is missing there
    have hnone : ∀ step ∈ d'.proposal.steps, ¬ d'.proposal.Remains step := by
      intro step hstep hr
      have hpos := Table.count_pos (p := d'.proposal.Remains) hstep hr
      have hzero := hend.approved_iff.mp happ
      unfold Proposal.remaining at hzero
      omega
    refine hiff.mpr ⟨fun step hstep hr => (hnone step hstep hr).elim, ?_⟩
    rintro ⟨step, hstep, hr, _⟩
    exact (hnone step hstep hr).elim
  · intro hstaff first e hp
    obtain ⟨he, hiff⟩ := hreview.run_staffed hp
    exact he.completes (hiff.mp hstaff)
  · intro requests d' hp
    obtain ⟨hend, hcount⟩ := hreview.run hp
    have hnonneg : 0 ≤ d'.proposal.remaining := Table.count_nonneg _
    have hdone : d'.proposal.request.status = .approved ↔
        (requests.length : Int) = d.proposal.remaining := by
      rw [hend.approved_iff]
      omega
    exact ⟨by omega, hdone, hend.order.standing.event.symm.trans hdone⟩

/-- The staff brings the sample proposal to its end, with six approvals. -/
theorem review_completes_sample : ∃ d : Dossier, d.proposal.remaining = 6 ∧
    d.proposal.request.status = .submitted ∧
    ∃ requests d', Path (restrict (Dossier.Step (Sample.config .sqlite)) fun _ r =>
        r.ApprovedBy (Sample.reviewEnv Sample.staff) Sample.staff) d requests d' ∧
      d'.proposal.request.status = .approved := by
  let requests := Sample.plan ++ [Sample.submit Sample.staff Sample.secretary 1]
  have hrun : Ends (Sample.after requests) fun d =>
      d.proposal.remaining = 6 ∧ d.proposal.request.status = .submitted ∧
        ∀ step ∈ d.proposal.steps.rows, d.proposal.Remains step →
          ∃ u ∈ Sample.staff, Decides d.proposal step u := by
    decide
  obtain ⟨d, hok, hsix, hst, hdeciders⟩ := hrun
  obtain ⟨d0, h0, hpath⟩ := Sample.path_of_after hok
  have hreach : Dossier.ReachableInSequence (Sample.config .sqlite) d :=
    Reach.path (.start h0) (hpath.under (inSequence_of_standard (by decide)))
  have hfree : VenueFree (Sample.reviewEnv Sample.staff) d.proposal := by
    intro vr _
    refine ⟨?_, fun _ newId hexcluded => nomatch hexcluded.1⟩
    rintro ⟨b, hb, _⟩
    cases hb
  exact ⟨d, hsix, hst, (review_completes (Sample.config .sqlite) (Sample.reviewEnv Sample.staff)
    Sample.staff hreach (.inl hst)).1.mpr ⟨hdeciders, fun _ => hfree⟩⟩

end Runs

end CampusConnect
