/-
  File:      CampusConnect/Guarantees/Balance.lean
  Subject:   The BALANCE of a budget: income and contribution against the expenditure, and the cap
             on the contribution.

  * `BudgetLaw`: a budget with line items is balanced, and its contribution is within the cap;
  * `Request.Admitted`: the settings' cap, and the positive amounts the schemas leave;
  * `Request.KeepsCover`: a change of the line items that leaves enough of them, or none;
  * `budget_law_iff`: the law holds all through a run exactly when each step keeps the cover: the
    operations on the header check the balance, those on the line items do not;
  * `balance_outlived`: a header set without line items, and a first item below it.
-/
import CampusConnect.Guarantees.Stamps

namespace CampusConnect

open Guarded Rows EventService BudgetService WorkflowService

/-! ## 1. Sums of line items -/

section Sums

variable {items : List BudgetLineItem} {item : BudgetLineItem}

theorem totalOf_append (items : List BudgetLineItem) (item : BudgetLineItem) :
    totalOf (items ++ [item]) = totalOf items + item.estimatedAmount := by
  unfold totalOf
  simp

theorem totalOf_pos (hne : items ≠ []) (hpos : ∀ i ∈ items, 0 < i.estimatedAmount) :
    0 < totalOf items := by
  unfold totalOf
  refine List.sum_pos _ ?_ ?_
  · intro x hx
    obtain ⟨i, hi, rfl⟩ := List.mem_map.mp hx
    exact hpos i hi
  · exact fun h => hne (List.map_eq_nil_iff.mp h)

/-- Rows without the key of the update are left. -/
theorem updateItem_of_notMem {itemIn : BudgetLineItemUpdate}
    (h : item.id ∉ items.map BudgetLineItem.id) : updateItem itemIn item items = items := by
  unfold updateItem
  refine (List.map_congr_left fun i hi => ?_).trans (List.map_id items)
  have hne : i.id ≠ item.id := fun he => h (List.mem_map.mpr ⟨i, hi, he⟩)
  rw [if_neg hne]
  rfl

/-- **An update moves the sum** by the difference its row makes. -/
theorem totalOf_updateItem {itemIn : BudgetLineItemUpdate}
    (hkeys : (items.map BudgetLineItem.id).Nodup) (hitem : item ∈ items) :
    totalOf (updateItem itemIn item items) = totalOf items - item.estimatedAmount +
      itemIn.estimatedAmount.getD item.estimatedAmount := by
  have hedit : (editItem itemIn item item).estimatedAmount =
      itemIn.estimatedAmount.getD item.estimatedAmount := patched_self _ _
  induction items with
  | nil => cases hitem
  | cons i items ih =>
      obtain ⟨hnew, hrest⟩ := List.nodup_cons.mp hkeys
      rcases List.mem_cons.mp hitem with rfl | hmem
      · have htail : updateItem itemIn item items = items := updateItem_of_notMem hnew
        have hhead : updateItem itemIn item (item :: items) =
            editItem itemIn item item :: updateItem itemIn item items := by
          unfold updateItem
          rw [List.map_cons, if_pos rfl]
        rw [hhead, htail]
        unfold totalOf
        rw [List.map_cons, List.map_cons, List.sum_cons, List.sum_cons, hedit]
        omega
      · have hne : i.id ≠ item.id := by
          intro he
          exact hnew (by rw [he]; exact List.mem_map_of_mem hmem)
        have hhead : updateItem itemIn item (i :: items) =
            i :: updateItem itemIn item items := by
          unfold updateItem
          rw [List.map_cons, if_neg hne]
        have hih := ih hrest hmem
        rw [hhead]
        unfold totalOf at hih ⊢
        rw [List.map_cons, List.map_cons, List.sum_cons, List.sum_cons, hih]
        omega

/-- **A deletion takes away** what its row adds. -/
theorem totalOf_filter (hkeys : (items.map BudgetLineItem.id).Nodup) (hitem : item ∈ items) :
    totalOf (items.filter fun i => i.id ≠ item.id) = totalOf items - item.estimatedAmount := by
  induction items with
  | nil => cases hitem
  | cons i items ih =>
      obtain ⟨hnew, hrest⟩ := List.nodup_cons.mp hkeys
      rcases List.mem_cons.mp hitem with rfl | hmem
      · have htail : (items.filter fun i => i.id ≠ item.id) = items := by
          refine List.filter_eq_self.mpr fun j hj => ?_
          have hne : j.id ≠ item.id := fun he => hnew (List.mem_map.mpr ⟨j, hj, he⟩)
          rw [decide_eq_true_eq]
          exact hne
        rw [List.filter_cons_of_neg (by simp), htail]
        unfold totalOf
        rw [List.map_cons, List.sum_cons]
        omega
      · have hne : i.id ≠ item.id := by
          intro he
          exact hnew (by rw [he]; exact List.mem_map_of_mem hmem)
        have hih := ih hrest hmem
        rw [List.filter_cons_of_pos (by simpa using hne)]
        unfold totalOf at hih ⊢
        rw [List.map_cons, List.map_cons, List.sum_cons, List.sum_cons, hih]
        omega

end Sums

/-! ## 2. The law -/

/-- **The rules of a budget**: the cap on the contribution, and the balance where there are items. -/
structure BudgetLaw (cap : Int) (bp : BudgetProposal) : Prop where
  capped : bp.instituteContribution ≤ cap
  balanced : bp.lineItems ≠ [] →
    bp.expectedIncome + bp.instituteContribution ≤ bp.totalExpectedExpenditure

instance (cap : Int) (bp : BudgetProposal) : Decidable (BudgetLaw cap bp) :=
  decidable_of_iff (bp.instituteContribution ≤ cap ∧ (bp.lineItems ≠ [] →
      bp.expectedIncome + bp.instituteContribution ≤ bp.totalExpectedExpenditure))
    ⟨fun h => ⟨h.1, h.2⟩, fun h => ⟨h.capped, h.balanced⟩⟩

/-- The law of the proposal's budget, if it has one. -/
def Dossier.BudgetLawful (cap : Int) (d : Dossier) : Prop :=
  ∀ bp, d.proposal.budgetProposal = some bp → BudgetLaw cap bp

/-- **The request is one the settings and the schemas admit**: the cap is the configured one, and an
    amount sent for a line item is positive. -/
def Request.Admitted (cap : Int) : Request → Prop
  | .review env _ op => env.budgetInstituteContributionCap = cap ∧
      match op with
      | .addLineItem _ itemIn => 0 < itemIn.estimatedAmount
      | .updateLineItem _ itemIn => ∀ a ∈ itemIn.estimatedAmount, 0 < a
      | _ => True
  | .event _ => True

/-- **A change of the line items that keeps the cover**: with it the stored total still covers income
    and contribution, or it deletes the last item. -/
def Request.KeepsCover (d : Dossier) : Request → Prop
  | .review _ _ (.addLineItem _ itemIn) => ∀ bp, d.proposal.budgetProposal = some bp →
      bp.expectedIncome + bp.instituteContribution ≤
        bp.totalExpectedExpenditure + itemIn.estimatedAmount
  | .review _ _ (.updateLineItem itemId itemIn) => ∀ bp, d.proposal.budgetProposal = some bp →
      ∀ item, bp.lineItems.find? (fun i => i.id = itemId) = some item →
        bp.expectedIncome + bp.instituteContribution ≤ bp.totalExpectedExpenditure -
          item.estimatedAmount + itemIn.estimatedAmount.getD item.estimatedAmount
  | .review _ _ (.deleteLineItem itemId) => ∀ bp, d.proposal.budgetProposal = some bp →
      ∀ item, bp.lineItems.find? (fun i => i.id = itemId) = some item →
        (∀ i ∈ bp.lineItems, i.id = item.id) ∨
        bp.expectedIncome + bp.instituteContribution ≤
          bp.totalExpectedExpenditure - item.estimatedAmount
  | _ => True

instance (d : Dossier) : (r : Request) → Decidable (r.KeepsCover d)
  | .review _ _ (.addLineItem _ _) =>
      inferInstanceAs (Decidable (∀ bp ∈ d.proposal.budgetProposal, _))
  | .review _ _ (.updateLineItem itemId itemIn) =>
      inferInstanceAs (Decidable (∀ bp ∈ d.proposal.budgetProposal,
        ∀ item ∈ bp.lineItems.find? (fun i => i.id = itemId),
          bp.expectedIncome + bp.instituteContribution ≤ bp.totalExpectedExpenditure -
            item.estimatedAmount + itemIn.estimatedAmount.getD item.estimatedAmount))
  | .review _ _ (.deleteLineItem itemId) =>
      inferInstanceAs (Decidable (∀ bp ∈ d.proposal.budgetProposal,
        ∀ item ∈ bp.lineItems.find? (fun i => i.id = itemId),
          (∀ i ∈ bp.lineItems, i.id = item.id) ∨
          bp.expectedIncome + bp.instituteContribution ≤
            bp.totalExpectedExpenditure - item.estimatedAmount))
  | .review _ _ (.updateDraft _) | .review _ _ (.submitProposal _ _ _)
  | .review _ _ (.approveStep _ _ _ _) | .review _ _ (.rejectStep _ _)
  | .review _ _ (.requestRevision _ _) | .review _ _ (.createVenueRequest _ _)
  | .review _ _ (.updateVenueRequest _) | .review _ _ .deleteVenueRequest
  | .review _ _ (.createBudgetProposal _ _ _) | .review _ _ (.updateBudgetProposal _)
  | .review _ _ .deleteBudgetProposal | .review _ _ (.verifyBudget _) | .event _ => isTrue trivial

/-! ## 3. What the header operations check -/

section Checks

variable {env : ReviewEnv} {actor : User} {p q : Proposal} {f : Flush}

theorem verifyCap_accepts {contribution : Int} {u : Unit} :
    verifyCap env contribution = .ok u ↔ contribution ≤ env.budgetInstituteContributionCap := by
  unfold verifyCap
  rw [refuse_accepts, gt_iff_lt, not_lt]

theorem verifyBalance_accepts {looks : Prop} [Decidable looks] {income contribution total : Int}
    {u : Unit} :
    verifyBalance looks income contribution total = .ok u ↔
      (looks → income + contribution ≤ total) := by
  unfold verifyBalance
  rw [refuse_accepts, not_and, gt_iff_lt, not_lt]

/-- A budget is created with positive items, within the cap and balanced. -/
theorem createBudgetProposal_law {newId : Uuid} {newItemId : Nat → Uuid}
    {budgetIn : BudgetProposalCreate}
    (h : createBudgetProposal env actor newId newItemId budgetIn p = .ok f)
    (hw : f.write p = .ok q) :
    ∃ bp, q.budgetProposal = some bp ∧ (∀ i ∈ bp.lineItems, 0 < i.estimatedAmount) ∧
      BudgetLaw env.budgetInstituteContributionCap bp := by
  simp only [createBudgetProposal, bind_accepts, refuse_accepts, exists_unit, pure_accepts,
    verifyCap_accepts, verifyBalance_accepts] at h
  obtain ⟨_, _, hitems, hcap, hbalance, rfl⟩ := h
  simp only [asConflict_accepts, bind_accepts, refuse_accepts, exists_unit, pure_accepts] at hw
  obtain ⟨_, rfl⟩ := hw
  refine ⟨_, rfl, ?_, hcap, hbalance⟩
  intro i hi
  obtain ⟨⟨itemIn, n⟩, hm, rfl⟩ := List.mem_map.mp hi
  have hin : itemIn ∈ budgetIn.lineItems := List.fst_mem_of_mem_zipIdx hm
  exact not_le.mp fun hle => hitems ⟨itemIn, hin, hle⟩

/-- An update of the header stays within the cap, and within the total where there is one. -/
theorem updateBudgetProposal_law {budgetIn : BudgetProposalUpdate} {bp : BudgetProposal}
    (h : updateBudgetProposal env actor budgetIn p = .ok f) (hbp : p.budgetProposal = some bp)
    (htotal : bp.lineItems ≠ [] → 0 < bp.totalExpectedExpenditure) :
    BudgetLaw env.budgetInstituteContributionCap (editBudget budgetIn bp bp) := by
  simp only [updateBudgetProposal, getBudgetProposal, bind_accepts, fetch_accepts, exists_unit,
    pure_accepts, verifyCap_accepts, verifyBalance_accepts] at h
  obtain ⟨_, b, hb, hcap, hbalance, rfl⟩ := h
  obtain rfl : bp = b := Option.some.inj (hbp.symm.trans hb)
  have hincome : (editBudget budgetIn bp bp).expectedIncome =
      budgetIn.expectedIncome.getD bp.expectedIncome := patched_self _ _
  have hcontribution : (editBudget budgetIn bp bp).instituteContribution =
      budgetIn.instituteContribution.getD bp.instituteContribution := patched_self _ _
  refine ⟨?_, fun hne => ?_⟩
  · rw [hcontribution]
    exact hcap
  · rw [hincome, hcontribution]
    exact hbalance (htotal hne)

end Checks

/-! ## 4. One request -/

/-- The budget of the proposal has positive line items, and its total counts them. -/
structure BudgetSound (p : Proposal) : Prop where
  summed : Summed p
  positive : ∀ bp, p.budgetProposal = some bp → ∀ i ∈ bp.lineItems, 0 < i.estimatedAmount

section Steps

variable {cfg : Config} {env : ReviewEnv} {actor : User} {p q : Proposal} {op : ReviewOp}
variable {cap : Int} {d d' : Dossier} {r : Request}

/-- An operation on the line items of the budget. -/
def ReviewOp.ChangesItems : ReviewOp → Prop
  | .addLineItem _ _ => True
  | .updateLineItem _ _ => True
  | .deleteLineItem _ => True
  | _ => False

/-- The figures and the items of a budget, without its stamps. -/
def BudgetProposal.figures (bp : BudgetProposal) : Int × Int × Int × List BudgetLineItem :=
  (bp.expectedIncome, bp.instituteContribution, bp.totalExpectedExpenditure, bp.lineItems)

theorem BudgetLaw.congr {bp bq : BudgetProposal} (hf : bq.figures = bp.figures)
    (h : BudgetLaw cap bp) : BudgetLaw cap bq := by
  simp only [BudgetProposal.figures, Prod.mk.injEq] at hf
  obtain ⟨hi, hc, ht, hl⟩ := hf
  obtain ⟨hcap, hbal⟩ := h
  refine ⟨by rw [hc]; exact hcap, ?_⟩
  rw [hi, hc, ht, hl]
  exact hbal

/-- **What an operation does to the budget**: it leaves the figures, or sets a lawful header, or
    changes the line items and recounts the total. -/
inductive BudgetChange (cap : Int) (p : Proposal) (op : ReviewOp) : Option BudgetProposal → Prop where
  | kept (budget : Option BudgetProposal) (hop : ¬ op.ChangesItems)
      (hsame : budget.map BudgetProposal.figures = p.budgetProposal.map BudgetProposal.figures) :
      BudgetChange cap p op budget
  | removed (hop : ¬ op.ChangesItems) : BudgetChange cap p op none
  | headed (bp : BudgetProposal) (hop : ¬ op.ChangesItems)
      (hpos : ∀ i ∈ bp.lineItems, 0 < i.estimatedAmount) (hlaw : BudgetLaw cap bp) :
      BudgetChange cap p op (some bp)
  | added (bp : BudgetProposal) (newId : Uuid) (itemIn : BudgetLineItemCreate) (total : Int)
      (hop : op = .addLineItem newId itemIn) (hbp : p.budgetProposal = some bp) :
      BudgetChange cap p op
        (some (changeItems bp total (fun items => items ++ [newItem newId itemIn]) bp))
  | updated (bp : BudgetProposal) (item : BudgetLineItem) (itemId : Uuid)
      (itemIn : BudgetLineItemUpdate) (total : Int) (hop : op = .updateLineItem itemId itemIn)
      (hbp : p.budgetProposal = some bp)
      (hitem : bp.lineItems.find? (fun i => i.id = itemId) = some item) :
      BudgetChange cap p op (some (changeItems bp total (updateItem itemIn item) bp))
  | deleted (bp : BudgetProposal) (item : BudgetLineItem) (itemId : Uuid) (total : Int)
      (hop : op = .deleteLineItem itemId) (hbp : p.budgetProposal = some bp)
      (hitem : bp.lineItems.find? (fun i => i.id = itemId) = some item) :
      BudgetChange cap p op (some
        (changeItems bp total (fun items => items.filter (fun i => i.id ≠ item.id)) bp))

/-- **Every accepted operation** is one of these changes. -/
theorem ReviewOp.budget_change {existing : Option Event} {f : Flush}
    (hf : op.flush env actor existing p p = .ok f) (hw : f.write p = .ok q) (hs : BudgetSound p)
    (hcap : env.budgetInstituteContributionCap = cap) : BudgetChange cap p op q.budgetProposal := by
  have hstep : ReviewStep env actor p op q := (ReviewOp.step hf hw).1
  cases hstep with
  | submitted summary key keys _ hsub => exact .kept _ id (by rw [hsub.budget])
  | approved stepId comments newBookingId newEventId step inst _ hd happ =>
      refine .kept _ id ?_
      rw [happ.budget]
      by_cases h3 : step.stepOrder = 3
      · rw [if_pos h3, Option.map_map]
        rfl
      · rw [if_neg h3]
  | rejected stepId comments step inst _ hd hrej => exact .kept _ id (by rw [hrej.budget])
  | budgetCreated newId newItemId budgetIn items hed hnone hc hids =>
      obtain ⟨bp, hbp, hpos, hlaw⟩ := createBudgetProposal_law hf hw
      rw [hbp]
      rw [hcap] at hlaw
      exact .headed bp id hpos hlaw
  | budgetUpdated budgetIn bp hed hbp hc =>
      have htotal : bp.lineItems ≠ [] → 0 < bp.totalExpectedExpenditure := by
        intro hne
        rw [(hs.summed bp hbp).total]
        exact totalOf_pos hne (hs.positive bp hbp)
      have hlaw := updateBudgetProposal_law hf hbp htotal
      rw [hcap] at hlaw
      exact .headed _ id (hs.positive bp hbp) hlaw
  | budgetDeleted hed => exact .removed id
  | itemAdded newId itemIn bp total hed hbp hnew htotal =>
      exact .added bp newId itemIn total rfl hbp
  | itemUpdated itemId itemIn bp item total hed hbp hitem htotal =>
      exact .updated bp item itemId itemIn total rfl hbp hitem
  | itemDeleted itemId bp item total hed hbp hitem htotal =>
      exact .deleted bp item itemId total rfl hbp hitem
  | verified verificationIn bp hbp =>
      refine .kept _ id ?_
      rw [hbp]
      rfl
  | _ => exact .kept _ id rfl

/-- Line items that are changed and recounted are lawful where their sum covers the header. -/
theorem changeItems_law {bp : BudgetProposal} {total : Int}
    {g : List BudgetLineItem → List BudgetLineItem} (hcount : Counted (changeItems bp total g bp))
    (hlaw : BudgetLaw cap bp) :
    BudgetLaw cap (changeItems bp total g bp) ↔ (g bp.lineItems ≠ [] →
      bp.expectedIncome + bp.instituteContribution ≤ totalOf (g bp.lineItems)) := by
  have htotal : (changeItems bp total g bp).totalExpectedExpenditure = totalOf (g bp.lineItems) :=
    hcount.total
  constructor
  · intro h hne
    rw [← htotal]
    exact h.balanced hne
  · intro h
    refine ⟨hlaw.capped, fun hne => ?_⟩
    rw [htotal]
    exact h hne

/-- The change is lawful exactly when the request keeps the cover. -/
theorem BudgetChange.lawful_iff {d : Dossier} (h : BudgetChange cap d.proposal op q.budgetProposal)
    (hs : BudgetSound d.proposal) (hq : Summed q) (hlaw : d.BudgetLawful cap) :
    (∀ bp, q.budgetProposal = some bp → BudgetLaw cap bp) ↔
      (Request.review env actor op).KeepsCover d := by
  have hother : ¬ op.ChangesItems → (Request.review env actor op).KeepsCover d := by
    intro hop
    cases op <;> first | exact trivial | exact (hop trivial).elim
  generalize hqb : q.budgetProposal = budget at h
  cases h with
  | kept _ hop hsame =>
      refine ⟨fun _ => hother hop, fun _ bq hbq => ?_⟩
      subst hbq
      obtain ⟨bp, hbp, hfig⟩ := Option.map_eq_some_iff.mp hsame.symm
      exact (hlaw bp hbp).congr hfig.symm
  | removed hop => exact ⟨fun _ => hother hop, fun _ bq hbq => nomatch hbq⟩
  | headed bp hop hpos hnew =>
      refine ⟨fun _ => hother hop, fun _ bq hbq => ?_⟩
      cases hbq
      exact hnew
  | added bp newId itemIn total hop hbp =>
      subst hop
      have hnew : totalOf (bp.lineItems ++ [newItem newId itemIn]) =
          bp.totalExpectedExpenditure + itemIn.estimatedAmount := by
        rw [totalOf_append, (hs.summed bp hbp).total]
        rfl
      have hiff := changeItems_law (hq _ hqb) (hlaw bp hbp)
      rw [hnew] at hiff
      constructor
      · intro h bp' hbp'
        obtain rfl : bp = bp' := Option.some.inj (hbp.symm.trans hbp')
        exact hiff.mp (h _ rfl) (by simp)
      · intro h bq hbq
        cases hbq
        exact hiff.mpr fun _ => h bp hbp
  | updated bp item itemId itemIn total hop hbp hitem =>
      subst hop
      have hmem : item ∈ bp.lineItems := List.mem_of_find?_eq_some hitem
      have hnew : totalOf (updateItem itemIn item bp.lineItems) =
          totalOf bp.lineItems - item.estimatedAmount +
            itemIn.estimatedAmount.getD item.estimatedAmount :=
        totalOf_updateItem (hs.summed bp hbp).keys hmem
      rw [← (hs.summed bp hbp).total] at hnew
      have hiff := changeItems_law (hq _ hqb) (hlaw bp hbp)
      rw [hnew] at hiff
      have hne : updateItem itemIn item bp.lineItems ≠ [] := by
        unfold updateItem
        intro hnil
        rw [List.map_eq_nil_iff.mp hnil] at hmem
        cases hmem
      constructor
      · intro h bp' hbp' item' hitem'
        obtain rfl : bp = bp' := Option.some.inj (hbp.symm.trans hbp')
        obtain rfl : item = item' := Option.some.inj (hitem.symm.trans hitem')
        exact hiff.mp (h _ rfl) hne
      · intro h bq hbq
        cases hbq
        exact hiff.mpr fun _ => h bp hbp item hitem
  | deleted bp item itemId total hop hbp hitem =>
      subst hop
      have hmem : item ∈ bp.lineItems := List.mem_of_find?_eq_some hitem
      have hnew := totalOf_filter (hs.summed bp hbp).keys hmem
      rw [← (hs.summed bp hbp).total] at hnew
      have hiff := changeItems_law (hq _ hqb) (hlaw bp hbp)
      rw [hnew] at hiff
      have hnil : bp.lineItems.filter (fun i => i.id ≠ item.id) = [] ↔
          ∀ i ∈ bp.lineItems, i.id = item.id := by
        simp [List.filter_eq_nil_iff]
      constructor
      · intro h bp' hbp' item' hitem'
        obtain rfl : bp = bp' := Option.some.inj (hbp.symm.trans hbp')
        obtain rfl : item = item' := Option.some.inj (hitem.symm.trans hitem')
        by_cases hlast : ∀ i ∈ bp.lineItems, i.id = item.id
        · exact .inl hlast
        · exact .inr (hiff.mp (h _ rfl) fun he => hlast (hnil.mp he))
      · intro h bq hbq
        cases hbq
        refine hiff.mpr fun hne => ?_
        rcases h bp hbp item hitem with hlast | hle
        · exact (hne (hnil.mpr hlast)).elim
        · exact hle

/-- A call on the event leaves the budget. -/
theorem Dossier.Step.event_budget {c : Call} (hin : InStanding d)
    (h : Dossier.Step cfg d (.event c) d') :
    d'.proposal.budgetProposal = d.proposal.budgetProposal := by
  have htraced := h.traced
  cases htraced with
  | withdrawn c p logs entries hst => exact withdrawn_budget p
  | event c s s' hstep =>
      obtain ⟨booking, hrows⟩ := hin.event_rows hstep
      rw [Dossier.proposal_confirmed, hrows]
      rfl

/-- The line items stay positive. -/
theorem BudgetChange.positive (h : BudgetChange cap p op q.budgetProposal) (hs : BudgetSound p)
    (hadm : (Request.review env actor op).Admitted cap) :
    ∀ bp, q.budgetProposal = some bp → ∀ i ∈ bp.lineItems, 0 < i.estimatedAmount := by
  generalize q.budgetProposal = budget at h
  intro bq hbq i hi
  cases h with
  | kept _ hop hsame =>
      subst hbq
      obtain ⟨bp, hbp, hfig⟩ := Option.map_eq_some_iff.mp hsame.symm
      have hitems : bp.lineItems = bq.lineItems := congrArg (fun t => t.2.2.2) hfig
      rw [← hitems] at hi
      exact hs.positive bp hbp i hi
  | removed hop => cases hbq
  | headed bp hop hpos hnew =>
      cases hbq
      exact hpos i hi
  | added bp newId itemIn total hop hbp =>
      subst hop
      cases hbq
      rcases List.mem_append.mp hi with hold | hnew
      · exact hs.positive bp hbp i hold
      · rw [List.mem_singleton.mp hnew]
        exact hadm.2
  | updated bp item itemId itemIn total hop hbp hitem =>
      subst hop
      cases hbq
      have hmem : i ∈ updateItem itemIn item bp.lineItems := hi
      unfold updateItem at hmem
      obtain ⟨j, hj, rfl⟩ := List.mem_map.mp hmem
      by_cases hid : j.id = item.id
      · rw [if_pos hid]
        have hsame : j = item := List.inj_on_of_nodup_map (hs.summed bp hbp).keys hj
          (List.mem_of_find?_eq_some hitem) hid
        have hedit : (editItem itemIn item j).estimatedAmount =
            itemIn.estimatedAmount.getD j.estimatedAmount := by
          rw [hsame]
          exact patched_self _ _
        rw [hedit]
        cases ha : itemIn.estimatedAmount with
        | none => exact hs.positive bp hbp j hj
        | some a => exact hadm.2 a ha
      · rw [if_neg hid]
        exact hs.positive bp hbp j hj
  | deleted bp item itemId total hop hbp hitem =>
      cases hbq
      exact hs.positive bp hbp i (List.mem_filter.mp hi).1

/-- **The step lemma for the rows**: positive items, and a total that counts them. -/
theorem Dossier.Step.budget_sound (hin : InStanding d) (hs : BudgetSound d.proposal)
    (hadm : r.Admitted cap)
    (h : Dossier.Step cfg d r d') : BudgetSound d'.proposal := by
  cases r with
  | review env actor op =>
      obtain ⟨f, q, hf, hq, rfl⟩ := h.flush
      have hstep : ReviewStep env actor d.proposal op d'.proposal := (ReviewOp.step hf hq).1
      exact ⟨hstep.summed hs.summed, (ReviewOp.budget_change hf hq hs hadm.1).positive hs hadm⟩
  | event c =>
      have hsame := h.event_budget hin
      refine ⟨hs.summed.same hsame, ?_⟩
      rw [hsame]
      exact hs.positive

/-- **The step lemma for the law.** -/
theorem Dossier.Step.lawful_iff (hin : InStanding d) (hs : BudgetSound d.proposal)
    (hlaw : d.BudgetLawful cap) (hadm : r.Admitted cap) (h : Dossier.Step cfg d r d') :
    d'.BudgetLawful cap ↔ r.KeepsCover d := by
  cases r with
  | review env actor op =>
      have hq : Summed d'.proposal := (h.budget_sound hin hs hadm).summed
      obtain ⟨f, q, hf, hw, rfl⟩ := h.flush
      exact (ReviewOp.budget_change hf hw hs hadm.1).lawful_iff hs hq hlaw
  | event c =>
      refine ⟨fun _ => trivial, fun _ bp hbp => ?_⟩
      rw [h.event_budget hin] at hbp
      exact hlaw bp hbp

end Steps

/-! ## 5. Runs -/

section Runs

variable {cfg : Config} {cap : Int} {d d0 : Dossier} {requests : List Request}

/-- The law holds in every state a run passes. -/
def LawfulThroughout (cfg : Config) (cap : Int) (d0 : Dossier) (requests : List Request) : Prop :=
  ∀ before after t, requests = before ++ after → Runs.Path (Dossier.Step cfg) d0 before t →
    t.BudgetLawful cap

/-- A draft has no budget. -/
theorem Drafted.noBudget (h : Drafted d) : d.proposal.budgetProposal = none := by
  obtain ⟨request, logs, rfl, _⟩ := h.row
  rfl

theorem Drafted.budgetSound (h : Drafted d) : BudgetSound d.proposal := by
  refine ⟨?_, ?_⟩
  · intro bp hbp
    rw [h.noBudget] at hbp
    cases hbp
  · intro bp hbp
    rw [h.noBudget] at hbp
    cases hbp

/-- What the step lemmas need holds in every state of a run of admitted requests. -/
theorem Drafted.sound_path (h0 : Drafted d0) (hadm : ∀ r ∈ requests, r.Admitted cap)
    (hp : Runs.Path (Dossier.Step cfg) d0 requests d) : InStanding d ∧ BudgetSound d.proposal := by
  refine (hp.under hadm).preserves (P := fun e => InStanding e ∧ BudgetSound e.proposal) ?_ ?_
  · intro e r e' he hs
    exact ⟨he.1.step hs.1.traced, hs.1.budget_sound he.1 he.2 hs.2⟩
  · exact ⟨h0.inStanding, h0.budgetSound⟩

/-- **The balance of a budget, over every run from a draft**: income and contribution stay within
    the expenditure wherever there are line items, and the contribution within the cap, exactly when
    each change of the line items in the run keeps the cover. -/
theorem budget_law_iff (cfg : Config) (cap : Int) (h0 : Drafted d0)
    (hadm : ∀ r ∈ requests, r.Admitted cap) :
    LawfulThroughout cfg cap d0 requests ↔
      Runs.Every (Dossier.Step cfg) (fun _ t r _ => r.KeepsCover t) d0 requests := by
  constructor
  · intro hlaw before r after t u hsplit hbefore hstep
    have hadmBefore : ∀ i ∈ before, i.Admitted cap := by
      intro i hi
      exact hadm i (by rw [hsplit]; exact List.mem_append_left _ hi)
    have hr : r.Admitted cap :=
      hadm r (by rw [hsplit]; exact List.mem_append_right _ (List.mem_cons_self ..))
    obtain ⟨hin, hs⟩ := h0.sound_path hadmBefore hbefore
    have ht : t.BudgetLawful cap := hlaw before (r :: after) t hsplit hbefore
    have hu : u.BudgetLawful cap := by
      refine hlaw (before ++ [r]) after u ?_ (hbefore.append (.single hstep))
      rw [hsplit, List.append_assoc, List.singleton_append]
    exact (hstep.lawful_iff hin hs ht hr).mp hu
  · intro hevery before after t hsplit hbefore
    rw [hsplit] at hevery hadm
    have hadmBefore : ∀ i ∈ before, i.Admitted cap := fun i hi =>
      hadm i (List.mem_append_left _ hi)
    have hrun : InStanding t ∧ BudgetSound t.proposal ∧ t.BudgetLawful cap := by
      refine hbefore.preserves_every
        (P := fun e => InStanding e ∧ BudgetSound e.proposal ∧ e.BudgetLawful cap)
        (Q := fun _ e r _ => r.KeepsCover e ∧ r.Admitted cap) ?_ ?_ ?_
      · intro _ e r e' he hs hr
        obtain ⟨hin, hsound, hlaw⟩ := he
        exact ⟨hin.step hs.traced, hs.budget_sound hin hsound hr.2,
          (hs.lawful_iff hin hsound hlaw hr.2).mpr hr.1⟩
      · intro before' r after' e e' hsplit' hp' hs'
        refine ⟨hevery.of_append before' r after' e e' hsplit' hp' hs', hadmBefore r ?_⟩
        rw [hsplit']
        exact List.mem_append_right _ (List.mem_cons_self ..)
      · refine ⟨h0.inStanding, h0.budgetSound, fun bp hbp => ?_⟩
        rw [h0.noBudget] at hbp
        cases hbp
    exact hrun.2.2

end Runs

namespace Sample

/-- A contribution of 100.00 without line items, and then an item of 50.00. -/
def undercut : List Request :=
  [review secretary (.createBudgetProposal (uid 63) (fun n => uid (64 + n))
      { instituteContribution := 10000 }),
    review secretary (.addLineItem (uid 64)
      { description := "food".toList
        category := .catering
        estimatedAmount := 5000 })]

theorem admitted_undercut : ∀ r ∈ undercut, r.Admitted 10000000 := by
  intro r hr
  rcases List.mem_cons.mp hr with rfl | hr
  · exact ⟨rfl, trivial⟩
  · rw [List.mem_singleton.mp hr]
    exact ⟨rfl, by decide⟩

/-- Two items over a contribution of 100.00: a third is added, the first is lowered and the second goes. -/
def balanced : List Request :=
  [review secretary (.createBudgetProposal (uid 63) (fun n => uid (64 + n))
      { instituteContribution := 10000
        lineItems := [
          { description := "food".toList, category := .catering, estimatedAmount := 8000 },
          { description := "prizes".toList, category := .other, estimatedAmount := 7000 }] }),
    review secretary (.addLineItem (uid 70)
      { description := "posters".toList
        category := .printing
        estimatedAmount := 4000 }),
    review secretary (.updateLineItem (uid 64) { estimatedAmount := some 6000 }),
    review secretary (.deleteLineItem (uid 65))]

theorem admitted_balanced : ∀ r ∈ balanced, r.Admitted 10000000 := by
  intro r hr
  rcases List.mem_cons.mp hr with rfl | hr
  · exact ⟨rfl, trivial⟩
  rcases List.mem_cons.mp hr with rfl | hr
  · exact ⟨rfl, by decide⟩
  rcases List.mem_cons.mp hr with rfl | hr
  · exact ⟨rfl, by decide⟩
  · rw [List.mem_singleton.mp hr]
    exact ⟨rfl, trivial⟩

end Sample

/-- Line items are added, lowered and deleted, and those that are left cover the contribution. -/
theorem budget_law_iff_plan :
    ∃ d0 d, Drafted d0 ∧ Runs.Path (Dossier.Step (Sample.config .sqlite)) d0 Sample.balanced d ∧
      (∃ bp, d.proposal.budgetProposal = some bp ∧ bp.totalExpectedExpenditure = 10000 ∧
        bp.instituteContribution = 10000) ∧
      LawfulThroughout (Sample.config .sqlite) 10000000 d0 Sample.balanced := by
  have hrun : Runs.Ends (Sample.afterOnly (fun d r => r.KeepsCover d) Sample.balanced) fun d =>
      ∃ bp ∈ d.proposal.budgetProposal, bp.totalExpectedExpenditure = 10000 ∧
        bp.instituteContribution = 10000 := by
    decide
  obtain ⟨d, hok, bp, hbp, hfigures⟩ := hrun
  obtain ⟨d0, h0, hp⟩ := Sample.path_of_afterOnly hok
  have hcover := hp.every fun s r t u ht hu => Except.ok.inj (ht.symm.trans hu)
  refine ⟨d0, d, h0, hp.of_restrict, ⟨bp, hbp, hfigures⟩, ?_⟩
  exact (budget_law_iff (Sample.config .sqlite) 10000000 h0 Sample.admitted_balanced).mpr hcover

/-- **The balance is not checked again**: a contribution of 100.00 stands over an item of 50.00. -/
theorem balance_outlived :
    ∃ d0 d, Drafted d0 ∧ (∀ r ∈ Sample.undercut, r.Admitted 10000000) ∧
      Runs.Path (Dossier.Step (Sample.config .sqlite)) d0 Sample.undercut d ∧
      ∃ bp, d.proposal.budgetProposal = some bp ∧ bp.lineItems ≠ [] ∧
        bp.totalExpectedExpenditure < bp.expectedIncome + bp.instituteContribution := by
  have hrun : Runs.Ends (Sample.after Sample.undercut) fun d =>
      ∃ bp ∈ d.proposal.budgetProposal, bp.lineItems ≠ [] ∧
        bp.totalExpectedExpenditure < bp.expectedIncome + bp.instituteContribution := by
    decide
  obtain ⟨d, hok, bp, hbp, hne, hlt⟩ := hrun
  obtain ⟨d0, h0, hpath⟩ := Sample.path_of_after hok
  exact ⟨d0, d, h0, Sample.admitted_undercut, hpath, bp, hbp, hne, hlt⟩

end CampusConnect
