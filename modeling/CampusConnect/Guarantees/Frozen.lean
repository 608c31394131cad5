/-
  File:      CampusConnect/Guarantees/Frozen.lean
  Subject:   What the reviewers see: under review and after it, the live proposal is the content of its
             current version.

  * `Content`: what a club proposes, in its own terms, `Proposal.content`: what the live rows say;
  * `VersionSnapshot.decode`: what a snapshot says, `decode_proposalSnapshot`: the round trip;
  * `Frozen`, `ReviewStep.frozen`: the invariant and its step lemma;
  * `frozen_under_review`: the law, and that a version once written never changes.
-/
import CampusConnect.Guarantees.Standing
import Mathlib.Data.Multiset.MapFold

namespace CampusConnect

open Guarded Rows EventService WorkflowService

/-! ## 1. Content -/

/-- A line item without its key. -/
structure LineTerms where
  description : Text
  category : BudgetLineItemCategory
  estimatedAmount : Int
  notes : Option Text

/-- The figures of a budget, and its line items in no order. -/
structure BudgetTerms where
  expectedIncome : Int
  instituteContribution : Int
  totalExpectedExpenditure : Int
  lineItems : Multiset LineTerms

structure VenueTerms where
  hallId : Uuid
  requestedDate : Instant
  startTime : Instant
  endTime : Instant
  expectedAudience : Option Nat

/-- **What a club proposes.** -/
structure Content where
  title : Text
  description : Option Text
  eventType : EventType
  expectedAttendees : Option Nat
  eventDate : Option Instant
  chiefGuestName : Option Text
  chiefGuestDesignation : Option Text
  chiefGuestInstitution : Option Text
  academicYear : Text
  venue : Option VenueTerms
  budget : Option BudgetTerms

def BudgetLineItem.terms (i : BudgetLineItem) : LineTerms :=
  ⟨i.description, i.category, i.estimatedAmount, i.notes⟩

def BudgetProposal.terms (b : BudgetProposal) : BudgetTerms :=
  ⟨b.expectedIncome, b.instituteContribution, b.totalExpectedExpenditure,
    b.lineItems.map BudgetLineItem.terms⟩

def VenueRequest.terms (v : VenueRequest) : VenueTerms :=
  ⟨v.hallId, v.requestedDate, v.startTime, v.endTime, v.expectedAudience⟩

/-- The live content. -/
def Proposal.content (p : Proposal) : Content where
  title := p.request.title
  description := p.request.description
  eventType := p.request.eventType
  expectedAttendees := p.request.expectedAttendees
  eventDate := p.request.eventDate
  chiefGuestName := p.request.chiefGuestName
  chiefGuestDesignation := p.request.chiefGuestDesignation
  chiefGuestInstitution := p.request.chiefGuestInstitution
  academicYear := p.request.academicYear
  venue := p.venueRequest.map VenueRequest.terms
  budget := p.budgetProposal.map BudgetProposal.terms

/-! ## 2. Decoding -/

def LineItemContent.decode (i : LineItemContent) : LineTerms :=
  ⟨i.description, i.category, i.estimatedAmount.decimal, i.notes⟩

def VenueContent.decode (v : VenueContent) : VenueTerms :=
  ⟨v.hallId, v.requestedDate, v.startTime, v.endTime, v.expectedAudience⟩

/-- A `budget` object says something only with all three figures. -/
def BudgetSnapshot.decode (b : BudgetSnapshot) : Option BudgetTerms := do
  let income ← b.expectedIncome
  let contribution ← b.instituteContribution
  let expenditure ← b.totalExpectedExpenditure
  return ⟨income.decimal, contribution.decimal, expenditure.decimal,
    b.lineItems.map LineItemContent.decode⟩

/-- The decoding of a snapshot. -/
def VersionSnapshot.decode (s : VersionSnapshot) : Option Content := do
  let c ← s.content
  let budget ← s.budget.elim (some none) fun b => b.decode.map some
  return {
    title := c.title
    description := c.description
    eventType := c.eventType
    expectedAttendees := c.expectedAttendees
    eventDate := c.eventDate
    chiefGuestName := c.chiefGuestName
    chiefGuestDesignation := c.chiefGuestDesignation
    chiefGuestInstitution := c.chiefGuestInstitution
    academicYear := c.academicYear
    venue := s.venue.map VenueContent.decode
    budget := budget }

/-- What a version row says. -/
def EventRequestVersion.content (v : EventRequestVersion) : Option Content :=
  v.snapshot.bind VersionSnapshot.decode

/-- The venue a snapshot says is its `venue` object. -/
theorem VersionSnapshot.decode_venue {s : VersionSnapshot} {c : Content} {t : VenueTerms}
    (h : s.decode = some c) (ht : c.venue = some t) : ∃ v, s.venue = some v ∧ v.decode = t := by
  unfold VersionSnapshot.decode at h
  simp only [Option.bind_eq_bind, Option.bind_eq_some_iff, Option.pure_def, Option.some.injEq] at h
  obtain ⟨_, _, _, _, rfl⟩ := h
  exact Option.map_eq_some_iff.mp ht

theorem decode_budgetSnapshot (b : BudgetProposal) : (budgetSnapshot b).decode = some b.terms := by
  unfold BudgetSnapshot.decode budgetSnapshot
  simp only [Option.bind_eq_bind, Option.bind_some, Option.pure_def, List.map_map]
  rfl

/-- **The round trip**: a snapshot says what the rows it was taken from say. -/
theorem decode_proposalSnapshot (env : Env) (actor : User) (version : Nat) (p : Proposal) :
    (proposalSnapshot env actor version p).decode = some p.content := by
  have hvenue : (p.venueRequest.map venueContent).map VenueContent.decode =
      p.venueRequest.map VenueRequest.terms := by
    rw [Option.map_map]
    rfl
  have hbudget : (p.budgetProposal.map budgetSnapshot).elim (some none)
      (fun b => b.decode.map some) = some (p.budgetProposal.map BudgetProposal.terms) := by
    cases p.budgetProposal with
    | none => rfl
    | some b =>
        show (budgetSnapshot b).decode.map some = _
        rw [decode_budgetSnapshot]
        rfl
  unfold VersionSnapshot.decode proposalSnapshot
  simp only [Option.bind_eq_bind, Option.bind_some, hbudget, hvenue]
  rfl

theorem content_submittedVersion (env : Env) (actor : User) (summary : Option Text) (newId : Uuid)
    (p : Proposal) : (submittedVersion env actor summary newId p).content = some p.content :=
  decode_proposalSnapshot env actor (p.request.currentVersion + 1) p

/-! ## 3. The invariant -/

/-- `SUBMITTED`, `IN_REVIEW`, `APPROVED` and `REJECTED`. -/
def EventRequestStatus.Reviewed (status : EventRequestStatus) : Prop :=
  status = .submitted ∨ status = .inReview ∨ status = .approved ∨ status = .rejected

theorem EventRequestStatus.Reviewed.not_editable {r : EventRequest} (h : r.status.Reviewed) :
    ¬ r.Editable := by
  intro hed
  rcases hed with hr | hr <;> rcases h with he | he | he | he <;> rw [hr] at he <;> cases he

/-- **Reviewed proposals say what their current version says.** -/
def Frozen (p : Proposal) : Prop :=
  p.request.status.Reviewed →
    ∃ v ∈ p.versions, v.versionNumber = p.request.currentVersion ∧ v.content = some p.content

section Steps

variable {env : ReviewEnv} {actor : User} {p q : Proposal} {op : ReviewOp}

theorem Frozen.congr (h : Frozen p) (hv : q.versions = p.versions)
    (hc : q.request.currentVersion = p.request.currentVersion) (hcont : q.content = p.content)
    (hst : q.request.status.Reviewed → p.request.status.Reviewed) : Frozen q := by
  intro hq
  rw [hv, hc, hcont]
  exact h (hst hq)

/-- An edit leaves a proposal that is not under review. -/
theorem Frozen.edited (hed : p.request.Editable) (hst : q.request.status = p.request.status) :
    Frozen q := by
  intro hq
  rw [hst] at hq
  exact (hq.not_editable hed).elim

/-- The live content reads these rows. -/
theorem content_congr (hr : q.request = { p.request with status := q.request.status })
    (hv : q.venueRequest.map VenueRequest.terms = p.venueRequest.map VenueRequest.terms)
    (hb : q.budgetProposal.map BudgetProposal.terms = p.budgetProposal.map BudgetProposal.terms) :
    q.content = p.content := by
  unfold Proposal.content
  rw [hv, hb, hr]

/-- The second step leaves the terms of the venue. -/
theorem VenueApproved.terms {newId : Uuid} {v : Option VenueRequest}
    {b : Option HallBookingConfirmed} (h : VenueApproved env actor newId p v b) :
    v.map VenueRequest.terms = p.venueRequest.map VenueRequest.terms := by
  cases h with
  | absent h => rw [h]
  | booked vr h hb hfree =>
      rw [h]
      rfl
  | kept vr b h hb hfree =>
      rw [h]
      rfl

theorem approved_content {comments : Option Text} {newId : Uuid} {step : WorkflowInstanceStep}
    {inst : WorkflowInstance} (h : Approved env actor comments newId p step inst q) :
    q.content = p.content := by
  refine content_congr h.request ?_ ?_
  · by_cases h2 : step.stepOrder = 2
    · exact VenueApproved.terms (h.venue h2)
    · rw [(h.venueKept h2).1]
  · rw [h.budget]
    by_cases h3 : step.stepOrder = 3
    · rw [if_pos h3, Option.map_map]
      rfl
    · rw [if_neg h3]

theorem rejected_content {comments : Text} {step : WorkflowInstanceStep} {inst : WorkflowInstance}
    (h : Rejected env comments p step inst q) : q.content = p.content := by
  refine content_congr ?_ ?_ ?_
  · rw [h.request]
  · rw [h.venue, Option.map_map]
    rfl
  · rw [h.budget]

/-- **The step lemma.** -/
theorem ReviewStep.frozen (hstand : Standing p) (h : Frozen p) (hs : ReviewStep env actor p op q) :
    Frozen q := by
  cases hs with
  | drafted eventIn hed => exact .edited hed rfl
  | repeated summary key keys ha => exact h
  | submitted summary key keys _ hsub =>
      intro _
      refine ⟨submittedVersion env.toEnv actor summary keys.version p, ?_, ?_, ?_⟩
      · rw [hsub.versions]
        exact List.mem_append_right _ (List.mem_singleton.mpr rfl)
      · rw [hsub.request]
        rfl
      · rw [content_submittedVersion]
        unfold Proposal.content
        rw [hsub.venue, hsub.budget, hsub.request]
        rfl
  | approved stepId comments newBookingId newEventId step inst _ hd happ =>
      refine h.congr happ.versions ?_ (approved_content happ) fun _ => ?_
      · rw [happ.request]
      · exact (hstand.deciding hd).request.elim .inl fun hr => .inr (.inl hr)
  | rejected stepId comments step inst _ hd hrej =>
      refine h.congr hrej.versions ?_ (rejected_content hrej) fun _ => ?_
      · rw [hrej.request]
      · exact (hstand.deciding hd).request.elim .inl fun hr => .inr (.inl hr)
  | revised stepId comments step inst t hd ht =>
      intro hq
      rcases hq with he | he | he | he <;> cases he
  | venueCreated newId venueIn hall hed hnone hc => exact .edited hed rfl
  | venueUpdated venueIn vr hall hed hvr hc => exact .edited hed rfl
  | venueDeleted hed => exact .edited hed rfl
  | budgetCreated newId newItemId budgetIn items hed hnone hc => exact .edited hed rfl
  | budgetUpdated budgetIn bp hed hbp hc => exact .edited hed rfl
  | budgetDeleted hed => exact .edited hed rfl
  | itemAdded newId itemIn bp total hed hbp => exact .edited hed rfl
  | itemUpdated itemId itemIn bp item total hed hbp hitem => exact .edited hed rfl
  | itemDeleted itemId bp item total hed hbp hitem => exact .edited hed rfl
  | verified verificationIn bp hbp =>
      refine h.congr rfl rfl ?_ id
      refine content_congr rfl rfl ?_
      rw [hbp]
      rfl

/-- Versions are only added. -/
theorem ReviewStep.versions (hs : ReviewStep env actor p op q) : p.versions <+: q.versions := by
  cases hs with
  | submitted summary key keys _ hsub =>
      rw [hsub.versions]
      exact List.prefix_append _ _
  | approved stepId comments newBookingId newEventId step inst _ hd happ => rw [happ.versions]
  | rejected stepId comments step inst _ hd hrej => rw [hrej.versions]
  | _ => exact List.prefix_rfl

end Steps

/-! ## 4. The law -/

section Runs

variable {cfg : Config} {d d' : Dossier} {r : Request}

theorem Traced.frozen (hin : InStanding d) (h : Frozen d.proposal) (hs : Traced cfg d r d') :
    Frozen d'.proposal := by
  cases hs with
  | review env actor op d q entries hstep =>
      rw [Dossier.proposal_flushed]
      exact hstep.frozen hin.rows h
  | withdrawn c p logs entries hst =>
      intro hq
      rw [Dossier.proposal_proposed, (withdrawn_rows p).2.2.2] at hq
      rcases hq with he | he | he | he <;> cases he
  | event c s s' hstep =>
      obtain ⟨booking, hrows⟩ := hin.event_rows hstep
      rw [Dossier.proposal_confirmed, hrows]
      exact Frozen.congr h rfl rfl rfl id

theorem Traced.versions (hin : InStanding d) (hs : Traced cfg d r d') :
    d.proposal.versions <+: d'.proposal.versions := by
  cases hs with
  | review env actor op d q entries hstep =>
      rw [Dossier.proposal_flushed]
      exact hstep.versions
  | withdrawn c p logs entries hst =>
      rw [Dossier.proposal_proposed, Dossier.proposal_proposed, (withdrawn_rows p).1]
  | event c s s' hstep =>
      obtain ⟨booking, hrows⟩ := hin.event_rows hstep
      rw [Dossier.proposal_confirmed, Dossier.proposal_confirmed, hrows]

theorem Drafted.frozen (h : Drafted d) : Frozen d.proposal := by
  obtain ⟨request, logs, rfl, hdraft, _⟩ := h.row
  intro hrev
  rw [Dossier.proposal_proposed, hdraft] at hrev
  rcases hrev with he | he | he | he <;> cases he

theorem Dossier.Reachable.frozen (h : Dossier.Reachable cfg d) : Frozen d.proposal := by
  refine Runs.Reach.invariant_given (P := fun e => Frozen e.proposal)
    (fun _ hr => Dossier.Reachable.inStanding hr) (fun e h0 => h0.frozen) ?_ h
  intro e i e' hin hf hs
  exact hs.traced.frozen hin hf

/-- A version keeps its row over every run. -/
theorem Dossier.Reachable.versions_kept (h : Dossier.Reachable cfg d) {requests : List Request}
    (hp : Runs.Path (Dossier.Step cfg) d requests d') :
    d.proposal.versions <+: d'.proposal.versions := by
  have hkeep := Runs.Path.preserves
    (P := fun e => InStanding e ∧ d.proposal.versions <+: e.proposal.versions) ?_ hp
    ⟨h.inStanding, List.prefix_rfl⟩
  · exact hkeep.2
  · intro e r e' he hs
    exact ⟨he.1.step hs.traced, he.2.trans (hs.traced.versions he.1)⟩

/-- **Frozen under review.** In every reachable state with a proposal submitted, in review, approved
    or rejected, the live content is the decoding of the one version with the current number; and no
    run changes a version once written. -/
theorem frozen_under_review (cfg : Config) {d : Dossier} (h : Dossier.Reachable cfg d) :
    (d.proposal.request.status.Reviewed →
      (∃! v, v ∈ d.proposal.versions ∧
        v.versionNumber = d.proposal.request.currentVersion) ∧
      ∀ v ∈ d.proposal.versions, v.versionNumber = d.proposal.request.currentVersion →
        v.content = some d.proposal.content) ∧
    ∀ requests d', Runs.Path (Dossier.Step cfg) d requests d' →
      ∀ v ∈ d.proposal.versions, v ∈ d'.proposal.versions := by
  refine ⟨fun hrev => ?_, fun requests d' hp v hv => (h.versions_kept hp).subset hv⟩
  obtain ⟨v, hv, hn, hc⟩ := h.frozen hrev
  have hone : ∀ w ∈ d.proposal.versions,
      w.versionNumber = d.proposal.request.currentVersion → w = v := fun w hw hwn =>
    h.inStanding.rows.version_unique hw hv (hwn.trans hn.symm)
  refine ⟨⟨v, ⟨hv, hn⟩, fun w hw => hone w hw.1 hw.2⟩, fun w hw hwn => ?_⟩
  rw [hone w hw hwn]
  exact hc

/-- The sample proposal, with a hall and a budget, approved in its second version. -/
theorem frozen_under_review_approved :
    ∃ d, Dossier.Reachable (Sample.config .sqlite) d ∧ d.proposal.request.status = .approved ∧
      d.proposal.request.currentVersion = 2 ∧
      ∃ v ∈ d.proposal.versions, v.versionNumber = 2 ∧ v.content = some d.proposal.content := by
  have hrun : Runs.Ends (Sample.after (Sample.plan ++ [Sample.submit Sample.staff Sample.secretary 1,
      Sample.revise Sample.advisor 1 1, Sample.submit Sample.staff Sample.secretary 2] ++
      Sample.approveAll 2)) fun d =>
      d.proposal.request.status = .approved ∧ d.proposal.request.currentVersion = 2 := by
    decide
  obtain ⟨d, hok, happ, hver⟩ := hrun
  obtain ⟨d0, h0, hpath⟩ := Sample.path_of_after hok
  have hreach : Dossier.Reachable (Sample.config .sqlite) d := Runs.Reach.path (.start h0) hpath
  obtain ⟨⟨v, ⟨hv, hn⟩, _⟩, hall⟩ :=
    (frozen_under_review (Sample.config .sqlite) hreach).1 (.inr (.inr (.inl happ)))
  exact ⟨d, hreach, happ, hver, v, hv, hn.trans hver, hall v hv hn⟩

end Runs

end CampusConnect
