/-
  File:      CampusConnect/Guarantees/Dashboard.lean
  Subject:   THE DASHBOARDS AGREE: whatever role asks, the proposals under review and the steps that wait
             for a decision are the same number.

  * `StepRow.Waits`, `waits_iff_awaited`: a joined row waits for a decision exactly when the proposal is
    under review and it is the turn of the step;
  * `countP_waits`: one row waits for each proposal under review, and none for any other;
  * `AllOrderly`, `allOrderly_of_reach`: the rows of every proposal are in order, over whole runs;
  * `dashboards_agree`: the figures of the three views against the pending queue.
-/
import CampusConnect.Guarantees.Notices
import CampusConnect.Guarantees.Queue
import CampusConnect.Services.Dashboard

namespace CampusConnect

open Rows Runs WorkflowService DashboardService

/-! ## 1. Counting -/

section Counting

variable {α β : Type} {p q : α → Prop} [DecidablePred p] [DecidablePred q] {l : List α}

/-- What is counted has a property or has it not. -/
theorem countP_split : l.countP (fun a => p a) =
    l.countP (fun a => p a ∧ q a) + l.countP (fun a => p a ∧ ¬ q a) := by
  induction l with
  | nil => rfl
  | cons a l ih =>
      rw [List.countP_cons, List.countP_cons, List.countP_cons, ih]
      by_cases hp : p a <;> by_cases hq : q a <;> simp [hp, hq] <;> omega

/-- Each element gives one row of a kind, or none. -/
theorem countP_flatMap_one {f : α → List β} {r : β → Prop} [DecidablePred r]
    (h : ∀ a ∈ l, (f a).countP (fun b => r b) = if p a then 1 else 0) :
    (l.flatMap f).countP (fun b => r b) = l.countP fun a => p a := by
  induction l with
  | nil => rfl
  | cons a l ih =>
      rw [List.flatMap_cons, List.countP_append, List.countP_cons, h a (List.mem_cons_self ..),
        ih fun b hb => h b (List.mem_cons_of_mem a hb), Nat.add_comm]
      simp only [decide_eq_true_eq]

/-- The one element of a list that has a property. -/
theorem countP_unique [DecidableEq α] {a : α} (hl : l.Nodup) (ha : a ∈ l) (hp : p a)
    (honly : ∀ b ∈ l, p b → b = a) : l.countP (fun b => p b) = 1 := by
  have hcount : l.countP (fun b => p b) = l.count a := by
    refine List.countP_congr fun b hb => ?_
    rw [decide_eq_true_eq, beq_iff_eq]
    exact ⟨honly b hb, fun he => he ▸ hp⟩
  rw [hcount, List.count_eq_one_of_mem hl ha]

end Counting

/-! ## 2. The step that waits -/

/-- The row waits for a decision, whoever has it to make. -/
def StepRow.Waits (row : StepRow) : Prop :=
  row.step.status = .pending ∧ row.step.stepOrder = row.inst.currentStepOrder ∧
    row.inst.status = .inProgress

instance StepRow.decWaits (row : StepRow) : Decidable row.Waits :=
  inferInstanceAs (Decidable (_ ∧ _ ∧ _))

instance Proposal.decUnderReview (p : Proposal) : Decidable p.UnderReview :=
  inferInstanceAs (Decidable (_ ∨ _))

section Waiting

variable {p : Proposal} {step : WorkflowInstanceStep} {inst : WorkflowInstance}

/-- A row of an instance waits exactly when the proposal is under review and the step has its turn. -/
theorem waits_iff_awaited (h : Orderly p) (hstep : step ∈ p.steps)
    (hinst : p.instances.find step.instanceId = some inst) :
    StepRow.Waits ⟨p, inst, step⟩ ↔ p.UnderReview ∧ p.Awaited step := by
  have hi : inst ∈ p.instances := Table.mem_of_find hinst
  have hid : inst.id = step.instanceId := Table.key_of_find hinst
  constructor
  · rintro ⟨hpending, hord, hprogress⟩
    have hversion : inst.versionNumber = p.request.currentVersion := by
      by_contra hold
      have hst := (h.superseded inst hi hold).1
      rw [hprogress] at hst
      cases hst
    obtain ⟨hlink, hstage⟩ := h.latest inst hi hversion
    refine ⟨?_, inst, hi, hlink, hstep, hid.symm, hord⟩
    cases hstage with
    | underReview hreq _ => exact hreq
    | returned _ hway =>
        have hst := hway.here step hstep hid.symm hord
        rw [hpending] at hst
        cases hst
    | completed _ hst _ =>
        rw [hprogress] at hst
        cases hst
    | ended hreq _ =>
        rcases hreq with ⟨_, hst⟩ | ⟨_, hst⟩ <;> rw [hprogress] at hst <;> cases hst
  · rintro ⟨hreview, i, hmem, hlink, _, hown, hord⟩
    obtain rfl : i = inst := Table.eq_of_key_eq hmem hi (hown.symm.trans hid.symm)
    obtain ⟨j, hj, hn, _, hway⟩ := h.underWay (hreview.imp_right .inl)
    obtain rfl : j = i :=
      Table.eq_of_key_eq hj hmem (Option.some.inj ((h.latest j hj hn).1.symm.trans hlink))
    have hnot : p.request.status ≠ .revisionRequired := by
      rcases hreview with hs | hs <;> rw [hs] <;> decide
    rw [if_neg hnot] at hway
    exact ⟨hway.here step hstep hown hord, hord, hway.status⟩

theorem Proposal.Awaited.mem (h : p.Awaited step) : step ∈ p.steps := by
  obtain ⟨_, _, _, hm, _⟩ := h
  exact hm

/-- Under review, some step has its turn. -/
theorem Orderly.awaited (h : Orderly p) (hreview : p.UnderReview) : ∃ step, p.Awaited step := by
  obtain ⟨i, hi, hn, _, hway⟩ := h.underWay (hreview.imp_right .inl)
  obtain ⟨step, hstep, hown, hord⟩ := hway.current
  exact ⟨step, i, hi, (h.latest i hi hn).1, hstep, hown, hord⟩

/-- The join gives a row that waits for the step that has its turn. -/
theorem joined_waits_iff (h : Orderly p) (Q : Proposal → Prop) [DecidablePred Q]
    (hstep : step ∈ p.steps) :
    (((p.instances.find step.instanceId).map fun inst => (⟨p, inst, step⟩ : StepRow)).map fun row =>
      decide (row.Waits ∧ Q row.proposal)).getD false = true ↔
      (p.UnderReview ∧ Q p) ∧ p.Awaited step := by
  cases hinst : p.instances.find step.instanceId with
  | none =>
      refine ⟨fun hwaits => (nomatch hwaits), ?_⟩
      rintro ⟨_, i, hi, _, _, hown, _⟩
      have hfound : p.instances.find step.instanceId = some i := hown ▸ Table.find_of_mem hi
      rw [hinst] at hfound
      cases hfound
  | some inst =>
      simp only [Option.map_some, Option.getD_some, decide_eq_true_eq, waits_iff_awaited h hstep hinst]
      exact and_right_comm

/-- The joined rows of one proposal. -/
def Proposal.stepRows (p : Proposal) : List StepRow :=
  p.steps.rows.filterMap fun step => (p.instances.find step.instanceId).map fun inst => ⟨p, inst, step⟩

/-- The join lists the rows of each proposal. -/
theorem joinSteps_eq (t : ReviewTables) : t.joinSteps = t.proposals.flatMap Proposal.stepRows := rfl

/-- **One row waits for a proposal under review**, and none for any other. -/
theorem Orderly.countP_waits (h : Orderly p) (Q : Proposal → Prop) [DecidablePred Q] :
    p.stepRows.countP (fun row => row.Waits ∧ Q row.proposal) =
      if p.UnderReview ∧ Q p then 1 else 0 := by
  unfold Proposal.stepRows
  rw [List.countP_filterMap]
  by_cases hreview : p.UnderReview ∧ Q p
  · rw [if_pos hreview]
    obtain ⟨step, hawaited⟩ := h.awaited hreview.1
    have hstep : step ∈ p.steps := hawaited.mem
    have hone := countP_unique (List.Nodup.of_map _ p.steps.distinct) hstep
      ((joined_waits_iff h Q hstep).mpr ⟨hreview, hawaited⟩) fun other hother hwaits =>
        hawaited.unique h.toStanding ((joined_waits_iff h Q hother).mp hwaits).2
    simpa using hone
  · rw [if_neg hreview]
    exact List.countP_eq_zero.mpr fun step hstep hwaits =>
      hreview ((joined_waits_iff h Q hstep).mp hwaits).1

end Waiting

/-! ## 3. Runs -/

/-- The rows of every proposal are in order. -/
def AllOrderly (w : Registry) : Prop := ∀ d ∈ w.dossiers, InOrder d

section Runs

variable {cfg : Config} {files : FileSettings} {roleOf : Uuid → UserRole} {w w' : Registry} {v : Visit}

/-- **The step lemma.** -/
theorem AllOrderly.step (h : AllOrderly w) (hs : Registry.Step cfg files w v w')
    (hv : v.OnDefault roleOf) : AllOrderly w' := by
  intro d hd
  obtain ⟨j, hj⟩ := List.getElem?_of_mem hd
  cases hs.step with
  | drafted v d0 hd0 _ =>
      rcases Registry.get_add hj with ⟨_, rfl⟩ | ⟨_, hold⟩
      · exact hd0.inOrder
      · exact h d (List.mem_of_getElem? hold)
  | requested i r d0 d' hd0 hstep _ _ =>
      rcases Registry.get_update hd0 hj with ⟨_, rfl⟩ | ⟨_, hold⟩
      · refine (h d0 (List.mem_of_getElem? hd0)).step hstep fun template ht => ?_
        have hstd : template = standardSteps := by
          cases r with
          | review env actor op => exact hv.2 template ht
          | event c => exact hv.2 template ht
        exact hstd ▸ standardSteps_inSequence
      · exact h d (List.mem_of_getElem? hold)
  | filed v f _ => exact h d hd

/-- **The run lemma.** -/
theorem allOrderly_of_reach
    (h : Reach Registry.Empty (restrict (Registry.Step cfg files) fun _ v => v.OnDefault roleOf) w) :
    AllOrderly w := by
  refine Reach.invariant (P := AllOrderly) (fun w hempty d hd => ?_)
    (fun w v w' hall hs => hall.step hs.1 hs.2) h
  rw [show w = Registry.empty from hempty] at hd
  cases hd

/-! ## 4. The law -/

variable {t : CampusTables} {actor : User} {limit : Nat}

/-- The rows that wait are as many as the proposals under review. -/
theorem countP_joinSteps (hall : AllOrderly w) (ht : t.proposals = w.dossiers.map Dossier.proposal)
    (Q : Proposal → Prop) [DecidablePred Q] :
    t.joinSteps.countP (fun row => row.Waits ∧ Q row.proposal) =
      t.proposals.countP fun p => p.UnderReview ∧ Q p := by
  refine countP_flatMap_one fun p hp => ?_
  rw [ht] at hp
  obtain ⟨d, hd, rfl⟩ := List.mem_map.mp hp
  exact (hall d hd).rows.countP_waits Q

/-- An administrator's figure counts his queue, and what he has submitted himself. -/
theorem pendingProposals_eq (hall : AllOrderly w)
    (hlive : ∀ p ∈ t.proposals, p.request.deletedAt = none)
    (ht : t.proposals = w.dossiers.map Dossier.proposal) (hadmin : actor.role = .systemAdmin)
    (hpage : (pendingRows t.toReviewTables actor).length ≤ limit) :
    (adminMetrics t).pendingProposals =
      (getPendingQueue t.toReviewTables actor 0 limit).length +
        t.proposals.countP fun p => p.UnderReview ∧ p.request.submittedBy = actor.id := by
  have hqueue : (getPendingQueue t.toReviewTables actor 0 limit).length =
      t.proposals.countP fun p => p.UnderReview ∧ p.request.submittedBy ≠ actor.id := by
    rw [length_getPendingQueue hpage,
      ← countP_joinSteps hall ht fun p => p.request.submittedBy ≠ actor.id]
    refine List.countP_congr fun row hrow => ?_
    rw [decide_eq_true_eq, decide_eq_true_eq]
    have hlive' := hlive row.proposal (ReviewTables.mem_joinSteps.mp hrow).1
    constructor
    · rintro ⟨hpending, hord, hprogress, _, hother, _⟩
      exact ⟨⟨hpending, hord, hprogress⟩, hother⟩
    · rintro ⟨⟨hpending, hord, hprogress⟩, hother⟩
      exact ⟨hpending, hord, hprogress, hlive', hother, fun hne => (hne hadmin).elim⟩
  have hcount : (adminMetrics t).pendingProposals = t.proposals.countP fun p => p.UnderReview := by
    refine List.countP_congr fun p hp => ?_
    rw [decide_eq_true_eq, decide_eq_true_eq]
    constructor
    · rintro ⟨hst, _⟩
      exact (List.mem_pair.mp hst)
    · intro hst
      exact ⟨List.mem_pair.mpr hst, hlive p hp⟩
  rw [hqueue, hcount, countP_split (q := fun p : Proposal => p.request.submittedBy = actor.id),
    Nat.add_comm]

/-- A secretary's two figures count the steps that wait on his proposals. -/
theorem secretaryCounts_eq (hall : AllOrderly w) (hlive : ∀ p ∈ t.proposals, p.request.deletedAt = none)
    (ht : t.proposals = w.dossiers.map Dossier.proposal) :
    (secretaryMetrics t actor).submittedCount + (secretaryMetrics t actor).inReviewCount =
      t.joinSteps.countP fun row => row.Waits ∧ Mine t actor row.proposal.request := by
  rw [countP_joinSteps hall ht fun p => Mine t actor p.request,
    countP_split (q := fun p : Proposal => p.request.status = .submitted)]
  refine congrArg₂ _ (List.countP_congr fun p hp => ?_) (List.countP_congr fun p hp => ?_)
  · rw [decide_eq_true_eq, decide_eq_true_eq]
    constructor
    · rintro ⟨hmine, hst, _⟩
      exact ⟨⟨.inl hst, hmine⟩, hst⟩
    · rintro ⟨⟨_, hmine⟩, hst⟩
      exact ⟨hmine, hst, hlive p hp⟩
  · rw [decide_eq_true_eq, decide_eq_true_eq]
    constructor
    · rintro ⟨hmine, hst, _⟩
      exact ⟨⟨.inr hst, hmine⟩, fun hsub => by rw [hst] at hsub; cases hsub⟩
    · rintro ⟨⟨hreview, hmine⟩, hnot⟩
      exact ⟨hmine, hreview.resolve_left hnot, hlive p hp⟩

/-- **THE DASHBOARDS AGREE**: in every state that fixed users reach on the default template, one row of the
    join waits for each proposal under review and none for any other; and so an administrator is shown as
    many pending proposals as his queue has steps, those he has submitted himself apart; a secretary, as
    many submitted and in review as steps wait for a decision on his proposals; and a reviewer, the length
    of his queue. -/
theorem dashboards_agree (cfg : Config) (files : FileSettings) (roleOf : Uuid → UserRole)
    (h : Reach Registry.Empty (restrict (Registry.Step cfg files) fun _ v => v.OnDefault roleOf) w)
    (ht : t.proposals = w.dossiers.map Dossier.proposal) (hrole : actor.role = roleOf actor.id)
    (hpage : (pendingRows t.toReviewTables actor).length ≤ limit) :
    t.joinSteps = t.proposals.flatMap Proposal.stepRows ∧
    (∀ p ∈ t.proposals, p.stepRows.countP (fun row => row.Waits) = if p.UnderReview then 1 else 0) ∧
    (∀ m, (getDashboard t actor).admin = some m → m.pendingProposals =
      (getPendingQueue t.toReviewTables actor 0 limit).length +
        t.proposals.countP fun p => p.UnderReview ∧ p.request.submittedBy = actor.id) ∧
    (∀ m, (getDashboard t actor).secretary = some m → m.submittedCount + m.inReviewCount =
      t.joinSteps.countP fun row => row.Waits ∧ Mine t actor row.proposal.request) ∧
    (∀ m, (getDashboard t actor).reviewer = some m →
      m.pendingActions = (getPendingQueue t.toReviewTables actor 0 limit).length) := by
  have hall : AllOrderly w := allOrderly_of_reach h
  obtain ⟨_, hreviewable⟩ := allReviewable_of_reach h
  have hlive : ∀ p ∈ t.proposals, p.request.deletedAt = none :=
    fun p hp => (hreviewable.row (t := t.toReviewTables) ht hp).1
  refine ⟨joinSteps_eq _, fun p hp => ?_, fun m hm => ?_, fun m hm => ?_, fun m hm => ?_⟩
  · rw [ht] at hp
    obtain ⟨d, hd, rfl⟩ := List.mem_map.mp hp
    simpa only [and_true] using (hall d hd).rows.countP_waits fun _ => True
  · obtain ⟨hadmin, rfl⟩ := admin_of_getDashboard hm
    exact pendingProposals_eq hall hlive ht hadmin hpage
  · obtain ⟨_, rfl⟩ := secretary_of_getDashboard hm
    exact secretaryCounts_eq hall hlive ht
  · obtain ⟨hadmin, hsecretary, hcount⟩ := reviewer_of_getDashboard hm
    exact Option.some.inj (hcount.trans
      (pendingActions_eq_length hreviewable (t := t.toReviewTables) ht hrole hadmin hsecretary hpage))

end Runs

namespace Sample

/-- The tables of a registry of one club, with its secretary and no users. -/
def campusTables (w : Registry) (h : ∀ d ∈ w.dossiers, d.proposal.request.clubId = uid 13) :
    CampusTables where
  toReviewTables := tables w h
  users := []
  members := [⟨uid 13, secretary.id, .secretary, true⟩]
  auditLogs := []
  requestedAt _ := 0

end Sample

/-- The secretary of the sample is shown one proposal submitted, and one step waits on it. -/
theorem dashboards_agree_sample :
    ∃ (t : CampusTables) (m : SecretaryDashboardMetrics),
      (getDashboard t Sample.secretary).secretary = some m ∧
      (∃ p ∈ t.proposals, p.UnderReview ∧ p.stepRows.countP (fun row => row.Waits) = 1) ∧
      m.submittedCount + m.inReviewCount =
        t.joinSteps.countP fun row => row.Waits ∧ Mine t Sample.secretary row.proposal.request := by
  have hrun : Ends (Sample.registryOnly (fun _ v => v.OnDefault Sample.roleOf) Sample.submittedOnly)
      fun w => (∀ d ∈ w.dossiers, d.proposal.request.clubId = Sample.uid 13) ∧
        ∃ d ∈ w.dossiers, d.proposal.UnderReview := by
    decide +kernel
  obtain ⟨w, hw, hclub, d, hd, hreview⟩ := hrun
  obtain ⟨_, hone, _, hagree, _⟩ := dashboards_agree (Sample.config .sqlite) Sample.files Sample.roleOf
    (Reach.path (.start rfl) (path_of_run_only hw)) (t := Sample.campusTables w hclub) rfl
    (by decide : Sample.secretary.role = Sample.roleOf Sample.secretary.id) le_rfl
  have hp : d.proposal ∈ (Sample.campusTables w hclub).proposals := List.mem_map_of_mem hd
  exact ⟨Sample.campusTables w hclub, _, rfl,
    ⟨d.proposal, hp, hreview, (hone _ hp).trans (if_pos hreview)⟩,
    hagree _ rfl⟩

end CampusConnect
