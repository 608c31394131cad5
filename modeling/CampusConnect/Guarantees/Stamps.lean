/-
  File:      CampusConnect/Guarantees/Stamps.lean
  Subject:   What an approval stamp vouches for: a budget marked VERIFIED, a venue marked APPROVED.

  * `Counted`: the total of a budget is the sum of its line items, in every reachable state;
  * `Request.VerifiesBudget`, `Request.ApprovesVenue`: the requests that set a stamp;
  * `Request.LeavesStamped`: the request changes nothing under a stamp;
  * `stamps_vouch`: over runs of such requests, what a stamp was set for is still there,
    `stamps_outlive`: an edit after the stamp leaves it on something else.
-/
import CampusConnect.Guarantees.Frozen

namespace CampusConnect

open Guarded Rows EventService VenueService BudgetService WorkflowService

/-! ## 1. Totals -/

/-- Line items with keys of their own, and their total. -/
structure Counted (bp : BudgetProposal) : Prop where
  keys : (bp.lineItems.map BudgetLineItem.id).Nodup
  total : bp.totalExpectedExpenditure = totalOf bp.lineItems

theorem recount_eq {session later : List BudgetLineItem}
    (hkeys : (session.map BudgetLineItem.id).Nodup) (hsub : ∀ i ∈ later, i ∈ session) :
    recount session later = totalOf later := by
  unfold recount
  congr 1
  refine (List.map_congr_left fun i hi => ?_).trans (List.map_id later)
  have hfind : session.find? (fun j => j.id = i.id) = some i := by
    have hsome : (session.find? (fun j => j.id = i.id)).isSome = true :=
      List.find?_isSome.mpr ⟨i, hsub i hi, by rw [decide_eq_true_eq]⟩
    obtain ⟨j, hj⟩ := Option.isSome_iff_exists.mp hsome
    have hid := List.find?_some hj
    rw [decide_eq_true_eq] at hid
    have hsame : j = i :=
      List.inj_on_of_nodup_map hkeys (List.mem_of_find?_eq_some hj) (hsub i hi) hid
    rw [hj, hsame]
  rw [hfind]
  rfl

theorem editItem_id (itemIn : BudgetLineItemUpdate) (seen i : BudgetLineItem) :
    (editItem itemIn seen i).id = i.id := rfl

theorem updateItem_keys (itemIn : BudgetLineItemUpdate) (seen : BudgetLineItem)
    (items : List BudgetLineItem) :
    (updateItem itemIn seen items).map BudgetLineItem.id = items.map BudgetLineItem.id := by
  unfold updateItem
  rw [List.map_map]
  refine List.map_congr_left fun i _ => ?_
  show (if i.id = seen.id then editItem itemIn seen i else i).id = i.id
  by_cases h : i.id = seen.id
  · rw [if_pos h, editItem_id]
  · rw [if_neg h]

/-- A change of line items that keeps their keys apart, recounted. -/
theorem Counted.changed {bp : BudgetProposal} {total : Int}
    {f : List BudgetLineItem → List BudgetLineItem}
    (hkeys : ((f bp.lineItems).map BudgetLineItem.id).Nodup)
    (htotal : total = totalOf (f bp.lineItems)) : Counted (changeItems bp total f bp) := by
  refine ⟨hkeys, ?_⟩
  show assigned bp.totalExpectedExpenditure total bp.totalExpectedExpenditure = _
  rw [assigned_self, htotal]
  rfl

section Totals

variable {env : ReviewEnv} {actor : User} {p q : Proposal} {op : ReviewOp}

/-- The budget of the proposal is counted. -/
def Summed (p : Proposal) : Prop := ∀ bp, p.budgetProposal = some bp → Counted bp

theorem Summed.same (h : Summed p) (hb : q.budgetProposal = p.budgetProposal) : Summed q := by
  intro bp hbp
  rw [hb] at hbp
  exact h bp hbp

theorem Summed.one {bp : BudgetProposal} (hb : q.budgetProposal = some bp) (h : Counted bp) :
    Summed q := by
  intro b hbp
  rw [hb] at hbp
  cases hbp
  exact h

theorem ReviewStep.summed (h : Summed p) (hs : ReviewStep env actor p op q) : Summed q := by
  cases hs with
  | submitted summary key keys _ hsub => exact h.same hsub.budget
  | approved stepId comments newBookingId newEventId step inst _ hd happ =>
      intro b hb
      rw [happ.budget] at hb
      by_cases h3 : step.stepOrder = 3
      · rw [if_pos h3] at hb
        obtain ⟨bp, hbp, rfl⟩ := Option.map_eq_some_iff.mp hb
        exact ⟨(h bp hbp).keys, (h bp hbp).total⟩
      · rw [if_neg h3] at hb
        exact h b hb
  | rejected stepId comments step inst _ hd hrej => exact h.same hrej.budget
  | budgetCreated newId newItemId budgetIn items hed hnone hc hids => exact .one rfl ⟨hids, rfl⟩
  | budgetUpdated budgetIn bp hed hbp hc => exact .one rfl ⟨(h bp hbp).keys, (h bp hbp).total⟩
  | budgetDeleted hed =>
      intro b hb
      cases hb
  | itemAdded newId itemIn bp total hed hbp hnew htotal =>
      have hkeys : ((bp.lineItems ++ [newItem newId itemIn]).map BudgetLineItem.id).Nodup := by
        rw [List.map_append]
        refine List.nodup_append.mpr ⟨(h bp hbp).keys, List.nodup_singleton _, ?_⟩
        intro a ha b hb he
        obtain ⟨i, hi, rfl⟩ := List.mem_map.mp ha
        rw [List.map_singleton, List.mem_singleton] at hb
        exact hnew i hi (he.trans hb)
      refine .one rfl (.changed hkeys ?_)
      rw [htotal]
      exact recount_eq hkeys fun i hi => hi
  | itemUpdated itemId itemIn bp item total hed hbp hitem htotal =>
      have hkeys : ((updateItem itemIn item bp.lineItems).map BudgetLineItem.id).Nodup := by
        rw [updateItem_keys]
        exact (h bp hbp).keys
      refine .one rfl (.changed hkeys ?_)
      rw [htotal]
      exact recount_eq hkeys fun i hi => hi
  | itemDeleted itemId bp item total hed hbp hitem htotal =>
      have hsub : ∀ i ∈ bp.lineItems.filter (fun i => i.id ≠ item.id), i ∈ bp.lineItems :=
        fun i hi => (List.mem_filter.mp hi).1
      refine .one rfl (.changed ?_ ?_)
      · exact ((List.filter_sublist).map BudgetLineItem.id).nodup (h bp hbp).keys
      · rw [htotal]
        exact recount_eq (h bp hbp).keys hsub
  | verified verificationIn bp hbp => exact .one rfl ⟨(h bp hbp).keys, (h bp hbp).total⟩
  | _ => exact h

end Totals

/-! ## 2. Stamps -/

def BudgetStamped (p : Proposal) : Prop :=
  ∃ bp, p.budgetProposal = some bp ∧ bp.financeStatus = .verified

def VenueStamped (p : Proposal) : Prop :=
  ∃ vr, p.venueRequest = some vr ∧ vr.status = .approved

/-- What a finance stamp is about: the figures and the line items. -/
def budgetTerms (d : Dossier) : Option BudgetTerms := d.proposal.budgetProposal.map BudgetProposal.terms

/-- Hall, start and end. -/
def VenueRequest.slot (vr : VenueRequest) : Uuid × Instant × Instant :=
  (vr.hallId, vr.startTime, vr.endTime)

/-- What a venue stamp is about. -/
def venueSlot (d : Dossier) : Option (Uuid × Instant × Instant) :=
  d.proposal.venueRequest.map VenueRequest.slot

/-- The step a request approves. -/
def Request.approval : Request → Option Uuid
  | .review _ _ (.approveStep stepId _ _ _) => some stepId
  | _ => none

/-- The finance status a request sets. -/
def Request.verification : Request → Option FinanceVerificationStatus
  | .review _ _ (.verifyBudget verificationIn) => some verificationIn.status
  | _ => none

/-- An approval of a step of the given order. -/
def Request.ApprovesStep (order : Nat) (d : Dossier) (r : Request) : Prop :=
  ∃ st ∈ d.proposal.steps.rows, r.approval = some st.id ∧ st.stepOrder = order

/-- A verification of the budget, by the finance officer's call or by the third step. -/
def Request.VerifiesBudget (d : Dossier) (r : Request) : Prop :=
  r.ApprovesStep 3 d ∨ r.verification = some .verified

/-- An approval of the venue, by the second step. -/
def Request.ApprovesVenue (d : Dossier) (r : Request) : Prop := r.ApprovesStep 2 d

/-- A value a payload leaves out, or gives as it is. -/
def Same {α : Type} (given : Option α) (present : α) : Prop := ∀ v ∈ given, v = present

/-- The operation gives no figure of the budget another value, and no line item. -/
def ReviewOp.KeepsFigures (bp : BudgetProposal) : ReviewOp → Prop
  | .updateBudgetProposal budgetIn =>
      Same budgetIn.expectedIncome bp.expectedIncome ∧
        Same budgetIn.instituteContribution bp.instituteContribution
  | .addLineItem _ _ => False
  | .deleteLineItem _ => False
  | .updateLineItem itemId itemIn =>
      ∀ i ∈ bp.lineItems, i.id = itemId → Same itemIn.description i.description ∧
        Same itemIn.category i.category ∧ Same itemIn.estimatedAmount i.estimatedAmount ∧
        Same (itemIn.notes.map some) i.notes
  | _ => True

/-- The operation moves the venue to no other hall and no other slot. -/
def ReviewOp.KeepsSlot (vr : VenueRequest) : ReviewOp → Prop
  | .updateVenueRequest venueIn =>
      Same venueIn.hallId vr.hallId ∧ Same venueIn.startTime vr.startTime ∧
        Same venueIn.endTime vr.endTime
  | _ => True

/-- **Nothing changes under a stamp.** -/
def Request.LeavesStamped (d : Dossier) : Request → Prop
  | .review _ _ op =>
      (∀ bp ∈ d.proposal.budgetProposal, bp.financeStatus = .verified → op.KeepsFigures bp) ∧
        ∀ vr ∈ d.proposal.venueRequest, vr.status = .approved → op.KeepsSlot vr
  | .event _ => True

section Decidable

variable {α : Type} [DecidableEq α]

instance (given : Option α) (present : α) : Decidable (Same given present) :=
  inferInstanceAs (Decidable (∀ v ∈ given, v = present))

end Decidable

instance (order : Nat) (d : Dossier) (r : Request) : Decidable (r.ApprovesStep order d) :=
  inferInstanceAs (Decidable (∃ st ∈ d.proposal.steps.rows, _ ∧ _))

instance (d : Dossier) (r : Request) : Decidable (r.VerifiesBudget d) :=
  inferInstanceAs (Decidable (_ ∨ _))

instance (d : Dossier) (r : Request) : Decidable (r.ApprovesVenue d) :=
  inferInstanceAs (Decidable (r.ApprovesStep 2 d))

instance (bp : BudgetProposal) : (op : ReviewOp) → Decidable (op.KeepsFigures bp)
  | .updateBudgetProposal _ => inferInstanceAs (Decidable (_ ∧ _))
  | .addLineItem .. | .deleteLineItem .. => isFalse id
  | .updateLineItem .. => inferInstanceAs (Decidable (∀ i ∈ bp.lineItems, _ → _ ∧ _ ∧ _ ∧ _))
  | .updateDraft .. | .submitProposal .. | .approveStep .. | .rejectStep .. | .requestRevision ..
  | .createVenueRequest .. | .updateVenueRequest .. | .deleteVenueRequest
  | .createBudgetProposal .. | .deleteBudgetProposal | .verifyBudget .. => isTrue trivial

instance (vr : VenueRequest) : (op : ReviewOp) → Decidable (op.KeepsSlot vr)
  | .updateVenueRequest _ => inferInstanceAs (Decidable (_ ∧ _ ∧ _))
  | .updateDraft .. | .submitProposal .. | .approveStep .. | .rejectStep .. | .requestRevision ..
  | .createVenueRequest .. | .deleteVenueRequest | .createBudgetProposal ..
  | .updateBudgetProposal .. | .deleteBudgetProposal | .addLineItem .. | .updateLineItem ..
  | .deleteLineItem .. | .verifyBudget .. => isTrue trivial

instance (d : Dossier) : (r : Request) → Decidable (r.LeavesStamped d)
  | .review _ _ op => inferInstanceAs (Decidable
      ((∀ bp ∈ d.proposal.budgetProposal, bp.financeStatus = .verified → op.KeepsFigures bp) ∧
        ∀ vr ∈ d.proposal.venueRequest, vr.status = .approved → op.KeepsSlot vr))
  | .event _ => isTrue trivial

/-! ## 3. Steps -/

theorem Same.getD {α : Type} {given : Option α} {present : α} (h : Same given present) :
    given.getD present = present := by
  cases given with
  | none => rfl
  | some v => exact h v rfl

theorem editBudget_terms {budgetIn : BudgetProposalUpdate} {bp : BudgetProposal}
    (hincome : Same budgetIn.expectedIncome bp.expectedIncome)
    (hcontribution : Same budgetIn.instituteContribution bp.instituteContribution) :
    (editBudget budgetIn bp bp).terms = bp.terms := by
  unfold BudgetProposal.terms editBudget
  simp only [patched_self, hincome.getD, hcontribution.getD]

/-- An update that gives a line item what it has. -/
theorem updateItem_same {itemIn : BudgetLineItemUpdate} {item : BudgetLineItem}
    {items : List BudgetLineItem} (hkeys : (items.map BudgetLineItem.id).Nodup) (hm : item ∈ items)
    (hdesc : Same itemIn.description item.description) (hcat : Same itemIn.category item.category)
    (hamount : Same itemIn.estimatedAmount item.estimatedAmount)
    (hnotes : Same (itemIn.notes.map some) item.notes) : updateItem itemIn item items = items := by
  have hedit : editItem itemIn item item = item := by
    unfold editItem
    simp only [patched_self, hdesc.getD, hcat.getD, hamount.getD, hnotes.getD]
  refine (List.map_congr_left fun i hi => ?_).trans (List.map_id items)
  by_cases h : i.id = item.id
  · have hsame : i = item := List.inj_on_of_nodup_map hkeys hi hm h
    rw [if_pos h, hsame, hedit]
    rfl
  · rw [if_neg h]
    rfl

theorem editVenue_slot {venueIn : VenueRequestUpdate} {hall : Hall} {vr : VenueRequest}
    (hhall : Same venueIn.hallId vr.hallId) (hstart : Same venueIn.startTime vr.startTime)
    (hend : Same venueIn.endTime vr.endTime) : (editVenue venueIn hall vr vr).slot = vr.slot := by
  unfold VenueRequest.slot editVenue
  simp only [patched_self, hhall.getD, hstart.getD, hend.getD]

section Steps

variable {env : ReviewEnv} {actor : User} {p q : Proposal} {op : ReviewOp} {d : Dossier}

/-- **A budget stamped after an operation** was verified by it, or was stamped on the same figures. -/
theorem ReviewStep.budget_stamped (hsum : Summed d.proposal)
    (hs : ReviewStep env actor d.proposal op q)
    (hok : (Request.review env actor op).LeavesStamped d) (hst : BudgetStamped q) :
    (Request.review env actor op).VerifiesBudget d ∨ (BudgetStamped d.proposal ∧
      q.budgetProposal.map BudgetProposal.terms =
        d.proposal.budgetProposal.map BudgetProposal.terms) := by
  obtain ⟨b, hb, hver⟩ := hst
  have hsame : q.budgetProposal = d.proposal.budgetProposal → BudgetStamped d.proposal ∧
      q.budgetProposal.map BudgetProposal.terms =
        d.proposal.budgetProposal.map BudgetProposal.terms := by
    intro heq
    refine ⟨⟨b, heq ▸ hb, hver⟩, ?_⟩
    rw [heq]
  cases hs with
  | submitted summary key keys _ hsub => exact .inr (hsame hsub.budget)
  | approved stepId comments newBookingId newEventId step inst _ hd happ =>
      by_cases h3 : step.stepOrder = 3
      · exact .inl (.inl ⟨step, Table.mem_of_find hd.stepFound, congrArg some hd.step_id.symm, h3⟩)
      · refine .inr (hsame ?_)
        rw [happ.budget, if_neg h3]
  | rejected stepId comments step inst _ hd hrej => exact .inr (hsame hrej.budget)
  | budgetCreated newId newItemId budgetIn items hed hnone hc =>
      cases hb
      cases hver
  | budgetUpdated budgetIn bp hed hbp hc =>
      cases hb
      have hbv : bp.financeStatus = .verified := hver
      obtain ⟨hincome, hcontribution⟩ := hok.1 bp hbp hbv
      refine .inr ⟨⟨bp, hbp, hbv⟩, ?_⟩
      rw [hbp]
      exact congrArg some (editBudget_terms hincome hcontribution)
  | budgetDeleted hed => cases hb
  | itemAdded newId itemIn bp total hed hbp hnew htotal =>
      cases hb
      exact (hok.1 bp hbp hver).elim
  | itemUpdated itemId itemIn bp item total hed hbp hitem htotal =>
      cases hb
      have hbv : bp.financeStatus = .verified := hver
      have hmem : item ∈ bp.lineItems := List.mem_of_find?_eq_some hitem
      have hid := List.find?_some hitem
      rw [decide_eq_true_eq] at hid
      obtain ⟨hdesc, hcat, hamount, hnotes⟩ := hok.1 bp hbp hbv item hmem hid
      have hcount := hsum bp hbp
      have hitems := updateItem_same hcount.keys hmem hdesc hcat hamount hnotes
      have htot : total = bp.totalExpectedExpenditure := by
        rw [htotal, hitems, recount_eq hcount.keys fun i hi => hi, hcount.total]
      refine .inr ⟨⟨bp, hbp, hbv⟩, ?_⟩
      rw [hbp]
      refine congrArg some ?_
      unfold BudgetProposal.terms changeItems
      simp only [assigned_self, hitems, htot]
  | itemDeleted itemId bp item total hed hbp hitem htotal =>
      cases hb
      exact (hok.1 bp hbp hver).elim
  | verified verificationIn bp hbp =>
      cases hb
      exact .inl (.inr (congrArg some hver))
  | _ => exact .inr (hsame rfl)

/-- **A venue stamped after an operation** was approved by it, or was stamped on the same slot. -/
theorem ReviewStep.venue_stamped (hs : ReviewStep env actor d.proposal op q)
    (hok : (Request.review env actor op).LeavesStamped d) (hst : VenueStamped q) :
    (Request.review env actor op).ApprovesVenue d ∨ (VenueStamped d.proposal ∧
      q.venueRequest.map VenueRequest.slot = d.proposal.venueRequest.map VenueRequest.slot) := by
  obtain ⟨v, hv, happr⟩ := hst
  have hsame : q.venueRequest = d.proposal.venueRequest → VenueStamped d.proposal ∧
      q.venueRequest.map VenueRequest.slot = d.proposal.venueRequest.map VenueRequest.slot := by
    intro heq
    refine ⟨⟨v, heq ▸ hv, happr⟩, ?_⟩
    rw [heq]
  cases hs with
  | submitted summary key keys _ hsub => exact .inr (hsame hsub.venue)
  | approved stepId comments newBookingId newEventId step inst _ hd happ =>
      by_cases h2 : step.stepOrder = 2
      · exact .inl ⟨step, Table.mem_of_find hd.stepFound, congrArg some hd.step_id.symm, h2⟩
      · exact .inr (hsame (happ.venueKept h2).1)
  | rejected stepId comments step inst _ hd hrej =>
      rw [hrej.venue] at hv
      obtain ⟨vr, _, rfl⟩ := Option.map_eq_some_iff.mp hv
      cases happr
  | venueCreated newId venueIn hall hed hnone hc =>
      cases hv
      cases happr
  | venueUpdated venueIn vr hall hed hvr hc =>
      cases hv
      have hva : vr.status = .approved := happr
      obtain ⟨hhall, hstart, hend⟩ := hok.2 vr hvr hva
      refine .inr ⟨⟨vr, hvr, hva⟩, ?_⟩
      rw [hvr]
      exact congrArg some (editVenue_slot hhall hstart hend)
  | venueDeleted hed => cases hv
  | _ => exact .inr (hsame rfl)

end Steps

/-! ## 4. The law -/

section Runs

variable {cfg : Config} {d d' : Dossier} {r : Request}

/-- In standing, with a counted budget. -/
structure Kept (d : Dossier) : Prop where
  standing : InStanding d
  summed : Summed d.proposal

theorem Kept.step (h : Kept d) (hs : Traced cfg d r d') : Kept d' := by
  refine ⟨h.standing.step hs, ?_⟩
  cases hs with
  | review env actor op d q entries hstep =>
      rw [Dossier.proposal_flushed]
      exact hstep.summed h.summed
  | withdrawn c p logs entries hcan => exact h.summed.same (withdrawn_budget p)
  | event c s s' hstep =>
      obtain ⟨booking, hrows⟩ := h.standing.event_rows hstep
      have hsame : s'.proposal.budgetProposal = s.proposal.budgetProposal := by rw [hrows]
      exact h.summed.same hsame

theorem Traced.budget_stamped (h : Kept d) (hs : Traced cfg d r d') (hok : r.LeavesStamped d)
    (hst : BudgetStamped d'.proposal) :
    r.VerifiesBudget d ∨ (BudgetStamped d.proposal ∧ budgetTerms d' = budgetTerms d) := by
  cases hs with
  | review env actor op d q entries hstep =>
      rw [Dossier.proposal_flushed] at hst
      unfold budgetTerms
      rw [Dossier.proposal_flushed]
      exact hstep.budget_stamped h.summed hok hst
  | withdrawn c p logs entries hcan =>
      have hsame := withdrawn_budget p
      refine .inr ⟨?_, congrArg (Option.map BudgetProposal.terms) hsame⟩
      obtain ⟨b, hb, hver⟩ := hst
      exact ⟨b, hsame.symm.trans hb, hver⟩
  | event c s s' hstep =>
      obtain ⟨booking, hrows⟩ := h.standing.event_rows hstep
      have hsame : s'.proposal.budgetProposal = s.proposal.budgetProposal := by rw [hrows]
      refine .inr ⟨?_, congrArg (Option.map BudgetProposal.terms) hsame⟩
      obtain ⟨b, hb, hver⟩ := hst
      exact ⟨b, hsame.symm.trans hb, hver⟩

theorem Traced.venue_stamped (h : Kept d) (hs : Traced cfg d r d') (hok : r.LeavesStamped d)
    (hst : VenueStamped d'.proposal) :
    r.ApprovesVenue d ∨ (VenueStamped d.proposal ∧ venueSlot d' = venueSlot d) := by
  cases hs with
  | review env actor op d q entries hstep =>
      rw [Dossier.proposal_flushed] at hst
      unfold venueSlot
      rw [Dossier.proposal_flushed]
      exact hstep.venue_stamped hok hst
  | withdrawn c p logs entries hcan =>
      -- a withdrawal takes the stamp off
      obtain ⟨v, hv, happr⟩ := hst
      rw [Dossier.proposal_proposed, withdrawn_venue] at hv
      obtain ⟨vr, _, rfl⟩ := Option.map_eq_some_iff.mp hv
      unfold withdrawVenue at happr
      by_cases ha : vr.status = .approved
      · rw [if_pos ha] at happr
        cases happr
      · rw [if_neg ha] at happr
        exact (ha happr).elim
  | event c s s' hstep =>
      obtain ⟨booking, hrows⟩ := h.standing.event_rows hstep
      have hsame : s'.proposal.venueRequest = s.proposal.venueRequest := by rw [hrows]
      refine .inr ⟨?_, congrArg (Option.map VenueRequest.slot) hsame⟩
      obtain ⟨v, hv, happr⟩ := hst
      exact ⟨v, hsame.symm.trans hv, happr⟩

/-- A new draft has neither budget nor venue. -/
theorem Drafted.unplanned (h : Drafted d) :
    d.proposal.budgetProposal = none ∧ d.proposal.venueRequest = none := by
  obtain ⟨request, logs, rfl, _⟩ := h.row
  exact ⟨rfl, rfl⟩

theorem Drafted.kept (h : Drafted d) : Kept d := by
  refine ⟨h.inStanding, fun bp hbp => ?_⟩
  rw [h.unplanned.1] at hbp
  cases hbp

/-- Runs of requests that change nothing under a stamp. -/
def Dossier.StepUnderStamps (cfg : Config) : Dossier → Request → Dossier → Prop :=
  Runs.restrict (Dossier.Step cfg) fun d r => r.LeavesStamped d

/-- **Stamps vouch for what they are on.** In every run whose requests change nothing under a stamp:
    a VERIFIED budget was verified by a request of the run, and every request since kept its figures
    and its line items; an APPROVED venue was approved by one, and every request since kept its hall
    and its slot. -/
theorem stamps_vouch (cfg : Config) {d0 d : Dossier} {requests : List Request} (h0 : Drafted d0)
    (hp : Runs.Path (Dossier.StepUnderStamps cfg) d0 requests d) :
    (BudgetStamped d.proposal → Runs.SetAndKept (Dossier.StepUnderStamps cfg)
      (fun e r => r.VerifiesBudget e) budgetTerms d0 requests d) ∧
    (VenueStamped d.proposal → Runs.SetAndKept (Dossier.StepUnderStamps cfg)
      (fun e r => r.ApprovesVenue e) venueSlot d0 requests d) := by
  have hkept : ∀ e r e', Kept e → Dossier.StepUnderStamps cfg e r e' → Kept e' :=
    fun e r e' he hs => he.step hs.1.traced
  refine ⟨fun hst => ?_, fun hst => ?_⟩
  · refine Runs.Path.setAndKept (P := fun e => BudgetStamped e.proposal) hkept ?_ hp h0.kept ?_ hst
    · intro e r e' he hs hst
      exact hs.1.traced.budget_stamped he hs.2 hst
    · intro h
      obtain ⟨b, hb, _⟩ := h
      rw [h0.unplanned.1] at hb
      cases hb
  · refine Runs.Path.setAndKept (P := fun e => VenueStamped e.proposal) hkept ?_ hp h0.kept ?_ hst
    · intro e r e' he hs hst
      exact hs.1.traced.venue_stamped he hs.2 hst
    · intro h
      obtain ⟨v, hv, _⟩ := h
      rw [h0.unplanned.2] at hv
      cases hv

/-- The sample proposal after its third approval: both stamps are on. -/
theorem stamps_vouch_approved :
    ∃ d0 requests d, Drafted d0 ∧ BudgetStamped d.proposal ∧ VenueStamped d.proposal ∧
      Runs.SetAndKept (Dossier.StepUnderStamps (Sample.config .sqlite))
        (fun e r => r.VerifiesBudget e) budgetTerms d0 requests d ∧
      Runs.SetAndKept (Dossier.StepUnderStamps (Sample.config .sqlite))
        (fun e r => r.ApprovesVenue e) venueSlot d0 requests d := by
  have hrun : Runs.Ends (Sample.afterOnly (fun d r => r.LeavesStamped d)
      (Sample.plan ++ [Sample.submit Sample.staff Sample.secretary 1,
        Sample.approve Sample.advisor 1 1, Sample.approve Sample.warden 1 2,
        Sample.approve Sample.officer 1 3])) fun d =>
      (∃ bp ∈ d.proposal.budgetProposal, bp.financeStatus = .verified) ∧
        ∃ vr ∈ d.proposal.venueRequest, vr.status = .approved := by
    decide
  obtain ⟨d, hok, hbudget, hvenue⟩ := hrun
  obtain ⟨d0, h0, hpath⟩ := Sample.path_of_afterOnly hok
  obtain ⟨hb, hv⟩ := stamps_vouch (Sample.config .sqlite) h0 hpath
  exact ⟨d0, _, d, h0, hbudget, hvenue, hb hbudget, hv hvenue⟩

/-- After the stamps the proposal is sent back; the contribution is raised and the hall is changed
    under them. -/
theorem stamps_outlive :
    (∃ d0 before d1 r d2 after d, Drafted d0 ∧
      Runs.Path (Dossier.Step (Sample.config .sqlite)) d0 before d1 ∧
      Dossier.Step (Sample.config .sqlite) d1 r d2 ∧ r.VerifiesBudget d1 ∧
      Runs.Path (Runs.restrict (Dossier.Step (Sample.config .sqlite)) fun e r =>
        ¬ r.VerifiesBudget e) d2 after d ∧
      BudgetStamped d.proposal ∧ budgetTerms d ≠ budgetTerms d2) ∧
    ∃ d0 before d1 r d2 after d, Drafted d0 ∧
      Runs.Path (Dossier.Step (Sample.config .sqlite)) d0 before d1 ∧
      Dossier.Step (Sample.config .sqlite) d1 r d2 ∧ r.ApprovesVenue d1 ∧
      Runs.Path (Runs.restrict (Dossier.Step (Sample.config .sqlite)) fun e r =>
        ¬ r.ApprovesVenue e) d2 after d ∧
      VenueStamped d.proposal ∧ venueSlot d ≠ venueSlot d2 := by
  let submitted := Sample.plan ++ [Sample.submit Sample.staff Sample.secretary 1,
    Sample.approve Sample.advisor 1 1]
  let edits := [Sample.revise Sample.unionAdvisor 1 4,
    Sample.review Sample.secretary (.updateBudgetProposal { instituteContribution := some 15000 }),
    Sample.review Sample.secretary (.updateVenueRequest { hallId := some (Sample.uid 61) })]
  let figure := fun d : Dossier =>
    d.proposal.budgetProposal.map BudgetProposal.instituteContribution
  have hbudget : Runs.Ends (Sample.after (submitted ++ [Sample.approve Sample.warden 1 2])) fun d1 =>
      (Sample.approve Sample.officer 1 3).VerifiesBudget d1 ∧
      Runs.Ends (Dossier.exec (Sample.config .sqlite) (Sample.approve Sample.officer 1 3) d1) fun d2 =>
        Runs.Ends (Runs.run (Runs.only (fun e r => ¬ r.VerifiesBudget e) noEvent
            (Dossier.exec (Sample.config .sqlite))) edits d2) fun d =>
          (∃ bp ∈ d.proposal.budgetProposal, bp.financeStatus = .verified) ∧
            figure d ≠ figure d2 := by
    decide
  have hvenue : Runs.Ends (Sample.after submitted) fun d1 =>
      (Sample.approve Sample.warden 1 2).ApprovesVenue d1 ∧
      Runs.Ends (Dossier.exec (Sample.config .sqlite) (Sample.approve Sample.warden 1 2) d1) fun d2 =>
        Runs.Ends (Runs.run (Runs.only (fun e r => ¬ r.ApprovesVenue e) noEvent
            (Dossier.exec (Sample.config .sqlite)))
            (Sample.approve Sample.officer 1 3 :: edits) d2) fun d =>
          (∃ vr ∈ d.proposal.venueRequest, vr.status = .approved) ∧ venueSlot d ≠ venueSlot d2 := by
    decide
  refine ⟨?_, ?_⟩
  · obtain ⟨d1, hd1, hset, d2, hd2, d, hd, hst, hne⟩ := hbudget
    obtain ⟨d0, h0, hpath⟩ := Sample.path_of_after hd1
    refine ⟨d0, _, d1, _, d2, _, d, h0, hpath, hd2, hset, Runs.path_of_run_only hd, hst, fun he => ?_⟩
    have hfigure : ∀ e : Dossier, figure e =
        (budgetTerms e).map BudgetTerms.instituteContribution := by
      intro e
      unfold budgetTerms
      rw [Option.map_map]
      rfl
    exact hne (by rw [hfigure, hfigure, he])
  · obtain ⟨d1, hd1, hset, d2, hd2, d, hd, hst, hne⟩ := hvenue
    obtain ⟨d0, h0, hpath⟩ := Sample.path_of_after hd1
    exact ⟨d0, _, d1, _, d2, _, d, h0, hpath, hd2, hset, Runs.path_of_run_only hd, hst, hne⟩

end Runs

end CampusConnect
