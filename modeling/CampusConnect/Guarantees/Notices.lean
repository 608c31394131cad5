/-
  File:      CampusConnect/Guarantees/Notices.lean
  Subject:   WHO IS TOLD WHAT in a review: every decision once, and whose turn it is.

  * `sent`, `about`: the notices of the table, and those of a type about the proposal;
  * `owed`: how many of each type the rows of the proposal call for;
  * `Told`: as many as are owed have been sent, to whom they are due, and the last call for action
    went to the assignee of the step under review;
  * `Proposal.Awaited`, `submitted_awaits`, `approved_awaits`: the step whose turn it is;
  * `Told.submitted`, `Told.approved`, ...: each step keeps it, `told_of_reach`: so does every run;
  * `review_told`: the law.
-/
import CampusConnect.Guarantees.Bills
import CampusConnect.Guarantees.Inbox
import CampusConnect.Guarantees.Sequencing

namespace CampusConnect

open Guarded Rows Runs EventService WorkflowService NotificationService

/-! ## 1. What has been sent -/

/-- The notices of the table, read or not. -/
def sent (t : Table Notification) : List Notice := t.rows.map Notification.toNotice

/-- Those of a type about the proposal of a key. -/
def about (requestId : Uuid) (type : NotificationType) (l : List Notice) : List Notice :=
  l.filter fun n => n.eventRequestId = some requestId ∧ n.notificationType = type

/-- The notices a call adds. -/
def InboxOp.sends : InboxOp → List Notice
  | .notify _ _ n => [n]
  | _ => []

section Sent

variable {t t' : Table Notification} {op : InboxOp} {requestId : Uuid} {type : NotificationType}

theorem about_append (l l' : List Notice) :
    about requestId type (l ++ l') = about requestId type l ++ about requestId type l' :=
  List.filter_append ..

/-- Marks add nothing. -/
theorem InboxOp.Step.sent (h : InboxOp.Step t op t') :
    CampusConnect.sent t' = CampusConnect.sent t ++ op.sends := by
  unfold InboxOp.Step InboxOp.exec at h
  have hmap : ∀ {f : Notification → Notification}, (∀ n, (f n).toNotice = n.toNotice) →
      t'.rows = t.rows.map f → CampusConnect.sent t' = CampusConnect.sent t ++ [] := by
    intro f hf hrows
    unfold CampusConnect.sent
    rw [hrows, List.map_map, List.append_nil]
    exact List.map_congr_left fun n _ => hf n
  cases op with
  | notify newId now n =>
      simp only [createNotification, fetch_accepts] at h
      unfold CampusConnect.sent
      rw [(Table.insert_eq_some.mp h).2, List.map_append]
      rfl
  | markAsRead notificationId recipientId now =>
      simp only [bind_accepts, pure_accepts] at h
      obtain ⟨r, hr, rfl⟩ := h
      refine hmap (fun n => ?_) (markAsRead_accepts hr).2
      by_cases he : n.id = notificationId
      · rw [if_pos he, markRead_notice]
      · rw [if_neg he]
  | markAllAsRead recipientId now =>
      simp only [pure_accepts] at h
      subst h
      refine hmap (f := markReadBy recipientId now) (fun n => ?_) rfl
      unfold markReadBy
      by_cases he : n.recipientId = recipientId
      · rw [if_pos he, markRead_notice]
      · rw [if_neg he]

/-- The notices of a request are sent in their order. -/
theorem sent_sending {newIds : Nat → Uuid} {now : Instant} {l : List Notice}
    (h : run InboxOp.exec (sending newIds now l) t = .ok t') : sent t' = sent t ++ l := by
  have main : ∀ (l : List Notice) (k : Nat) (t : Table Notification),
      Path InboxOp.Step t ((l.zipIdx k).map fun x => InboxOp.notify (newIds x.2) now x.1) t' →
        sent t' = sent t ++ l := by
    intro l
    induction l with
    | nil =>
        intro k t hp
        cases hp
        exact (List.append_nil _).symm
    | cons n l ih =>
        intro k t hp
        rw [List.zipIdx_cons, List.map_cons] at hp
        cases hp with
        | cons hs hrest =>
            rw [ih (k + 1) _ hrest, InboxOp.Step.sent hs]
            exact List.append_assoc ..
  exact main l 0 t (path_of_run h)

end Sent

/-! ## 2. What is owed -/

/-- How many steps of the proposal, of all its versions, have a status. -/
def Proposal.stepsWith (p : Proposal) (status : WorkflowStepStatus) : Int :=
  p.steps.count fun step => step.status = status

/-- Whether the last approval has been given. -/
def Proposal.sanctioned (p : Proposal) : Int := if p.request.status = .approved then 1 else 0

/-- **How many notices of a type the rows call for**: one for each decision, and a call for action for
    each version and each step approved but the last. -/
def owed (p : Proposal) : NotificationType → Int
  | .actionRequired => p.request.currentVersion + (p.stepsWith .approved - p.sanctioned)
  | .stepApproved => p.stepsWith .approved - p.sanctioned
  | .proposalApproved => p.sanctioned
  | .proposalRejected => p.stepsWith .rejected
  | .revisionRequired => p.stepsWith .revisionRequested
  | .system => 0
  | .later _ => 0

/-- The types that only the review sends. -/
def NotificationType.OfReview : NotificationType → Prop
  | .system => False
  | .later _ => False
  | _ => True

/-- The call for action that goes with a step. -/
def turnNotice (r : EventRequest) (step : WorkflowInstanceStep) : Notice :=
  if step.stepOrder = 1 then firstStepNotice r step else nextStepNotice r step

/-- The step of the current instance whose turn it is. -/
def Proposal.Awaited (p : Proposal) (step : WorkflowInstanceStep) : Prop :=
  ∃ i ∈ p.instances, p.request.workflowInstanceId = some i.id ∧ step ∈ p.steps ∧
    step.instanceId = i.id ∧ step.stepOrder = i.currentStepOrder

def Proposal.UnderReview (p : Proposal) : Prop :=
  p.request.status = .submitted ∨ p.request.status = .inReview

/-- **What the notices say of the proposal.** -/
structure Told (p : Proposal) (l : List Notice) : Prop where
  /-- As many as are owed, -/
  tally : ∀ type : NotificationType, type.OfReview →
    ((about p.request.id type l).length : Int) = owed p type
  /-- the outcomes to the submitter, -/
  addressed : ∀ n ∈ l, n.eventRequestId = some p.request.id → n.notificationType.OfReview →
    n.notificationType ≠ .actionRequired → n.recipientId = p.request.submittedBy
  /-- and the last call for action to the assignee of the step whose turn it is. -/
  turn : p.UnderReview → ∀ step, p.Awaited step →
    (about p.request.id .actionRequired l).getLast? = some (turnNotice p.request step)

section Counting

variable {env : ReviewEnv} {actor : User} {p q : Proposal} {step : WorkflowInstanceStep}
variable {inst : WorkflowInstance} {status : WorkflowStepStatus} {comments : Option Text}
variable {stepId : Uuid}

/-- A decision adds its step to those of its status. -/
theorem stepsWith_decided (hd : StepDecision actor stepId p step inst)
    (ht : p.steps.replace (decideStep env status comments step inst step) = some q.steps)
    {other : WorkflowStepStatus} (hother : other ≠ .pending) :
    q.stepsWith other = p.stepsWith other + if status = other then 1 else 0 := by
  unfold Proposal.stepsWith Table.count
  rw [Table.sum_replace ht (Table.mem_of_find hd.stepFound) rfl]
  have hold : ¬ step.status = other := by
    rw [hd.pending]
    exact hother.symm
  rw [if_neg hold]
  show p.steps.sum _ - 0 + (if status = other then 1 else 0) = _
  omega

theorem stepsWith_congr (h : q.steps = p.steps) : q.stepsWith status = p.stepsWith status := by
  unfold Proposal.stepsWith
  rw [h]

/-- The steps of a new instance are pending. -/
theorem stepsWith_insertAll {rows : List WorkflowInstanceStep}
    (ht : p.steps.insertAll rows = some q.steps) (hrows : ∀ st ∈ rows, st.status = .pending)
    (hs : status ≠ .pending) : q.stepsWith status = p.stepsWith status := by
  unfold Proposal.stepsWith Table.count Table.sum
  rw [Table.rows_insertAll ht, List.map_append, List.sum_append]
  have hzero : (rows.map fun st => if st.status = status then (1 : Int) else 0).sum = 0 := by
    refine List.sum_eq_zero fun x hx => ?_
    obtain ⟨st, hst, rfl⟩ := List.mem_map.mp hx
    rw [hrows st hst]
    exact if_neg hs.symm
  rw [hzero]
  omega

/-- A withdrawal skips what is pending. -/
theorem stepsWith_withdrawn (h1 : status ≠ .pending) (h2 : status ≠ .skipped) :
    (withdrawn p).stepsWith status = p.stepsWith status := by
  rw [stepsWith_congr (q := withdrawn p) (p := cancelWorkflow p) (withdrawn_rows p).2.2.1]
  unfold cancelWorkflow
  cases activeInstance p with
  | none => rfl
  | some wf =>
      unfold Proposal.stepsWith Table.count
      rw [Table.sum_modify]
      refine Table.sum_congr fun st _ => ?_
      unfold skipPending
      by_cases hs : st.instanceId = wf.id ∧ st.status = .pending
      · rw [if_pos hs]
        show (if WorkflowStepStatus.skipped = status then (1 : Int) else 0) =
          if st.status = status then 1 else 0
        rw [hs.2, if_neg h2.symm, if_neg h1.symm]
      · rw [if_neg hs]

end Counting

/-! ## 3. One step -/

section Steps

variable {cfg : Config} {env : ReviewEnv} {actor : User} {p q : Proposal} {l new : List Notice}
variable {step : WorkflowInstanceStep} {inst : WorkflowInstance} {comments : Option Text}
variable {stepId newBookingId : Uuid}

/-- What a step has to add: the notices that the change of the rows calls for, about this proposal, and
    the call for action of the step whose turn it is then. -/
structure Tells (p q : Proposal) (new : List Notice) : Prop where
  id : q.request.id = p.request.id
  submittedBy : q.request.submittedBy = p.request.submittedBy
  owed : ∀ type : NotificationType, type.OfReview →
    owed q type = owed p type + ((about p.request.id type new).length : Int)
  addressed : ∀ n ∈ new, n.eventRequestId = some p.request.id → n.notificationType.OfReview →
    n.notificationType ≠ .actionRequired → n.recipientId = p.request.submittedBy

theorem Told.add (h : Told p l) (hs : Tells p q new)
    (hturn : q.UnderReview → ∀ step, q.Awaited step →
      (about p.request.id .actionRequired (l ++ new)).getLast? = some (turnNotice q.request step)) :
    Told q (l ++ new) := by
  refine ⟨fun type htype => ?_, fun n hn hreq htype hne => ?_, fun hreview step hstep => ?_⟩
  · rw [hs.id, about_append, List.length_append, hs.owed type htype, ← h.tally type htype]
    omega
  · rw [hs.id] at hreq
    rw [hs.submittedBy]
    rcases List.mem_append.mp hn with hold | hnew
    · exact h.addressed n hold hreq htype hne
    · exact hs.addressed n hnew hreq htype hne
  · rw [hs.id]
    exact hturn hreview step hstep

/-- Where a call for action is the last that is added, it is the last. -/
theorem last_about {n : Notice} {requestId : Uuid} (before after : List Notice)
    (hn : n.eventRequestId = some requestId ∧ n.notificationType = .actionRequired)
    (hafter : ∀ m ∈ after, m.notificationType ≠ .actionRequired) :
    (about requestId .actionRequired (before ++ n :: after)).getLast? = some n := by
  have hnone : about requestId .actionRequired after = [] := by
    refine List.filter_eq_nil_iff.mpr fun m hm => ?_
    rw [decide_eq_true_eq]
    exact fun he => hafter m hm he.2
  have hone : about requestId .actionRequired (n :: after) = [n] := by
    unfold about at hnone ⊢
    rw [List.filter_cons_of_pos (p := fun m : Notice => decide (m.eventRequestId = some requestId ∧
      m.notificationType = .actionRequired)) (decide_eq_true hn), hnone]
  rw [about_append, hone, List.getLast?_concat]

/-- **A step that sends none of these**, and after which nobody's turn is another's. -/
theorem Told.quiet (h : Told p l) (hid : q.request.id = p.request.id)
    (hby : q.request.submittedBy = p.request.submittedBy)
    (howed : ∀ type : NotificationType, type.OfReview → owed q type = owed p type)
    (hnew : ∀ n ∈ new, n.eventRequestId = some p.request.id → ¬ n.notificationType.OfReview)
    (hturn : q.UnderReview → p.UnderReview ∧ ∀ step, q.Awaited step →
      p.Awaited step ∧ turnNotice q.request step = turnNotice p.request step) : Told q (l ++ new) := by
  have hnone : ∀ type : NotificationType, type.OfReview → about p.request.id type new = [] := by
    intro type htype
    refine List.filter_eq_nil_iff.mpr fun n hn => ?_
    rw [decide_eq_true_eq]
    rintro ⟨hreq, rfl⟩
    exact hnew n hn hreq htype
  refine h.add ⟨hid, hby, fun type htype => ?_, fun n hn hreq htype _ => (hnew n hn hreq htype).elim⟩
    fun hreview step hstep => ?_
  · rw [hnone type htype, howed type htype]
    exact (Int.add_zero _).symm
  · obtain ⟨hreview', hsame⟩ := hturn hreview
    obtain ⟨hold, hnotice⟩ := hsame step hstep
    rw [about_append, hnone .actionRequired trivial, List.append_nil, hnotice]
    exact h.turn hreview' step hold

/-- No two steps have their turn. -/
theorem Proposal.Awaited.unique {other : WorkflowInstanceStep} (hstand : Standing p)
    (h : p.Awaited step) (ho : p.Awaited other) : other = step := by
  obtain ⟨i, hi, hlink, hm, hown, hord⟩ := h
  obtain ⟨j, hj, hjlink, hom, hoown, hoord⟩ := ho
  have hid : j.id = i.id := Option.some.inj (hjlink.symm.trans hlink)
  obtain rfl := Table.eq_of_key_eq hj hi hid
  exact hstand.distinct other hom step hm (hoown.trans hown.symm) (hoord.trans hord.symm)

/-- After a submission it is the turn of the first step of the new instance. -/
theorem submitted_awaits {summary key : Option Text} {keys : SubmissionKeys} (hq : Orderly q)
    (hsub : Submitted env actor summary key keys p q) :
    ∃ first, stepAt q keys.inst 1 = some first ∧ first.stepOrder = 1 ∧ q.Awaited first := by
  have hstatus : q.request.status = .submitted := (congrArg EventRequest.status hsub.request).trans rfl
  have hlink : q.request.workflowInstanceId = some keys.inst :=
    (congrArg EventRequest.workflowInstanceId hsub.request).trans rfl
  obtain ⟨t, _, hins⟩ := hsub.instances
  have hinst : newInstance keys.inst (p.request.currentVersion + 1) ∈ q.instances :=
    (Table.mem_insert hins).mpr (.inr rfl)
  obtain ⟨i, hi, hn, _, hway⟩ := hq.underWay (.inl hstatus)
  have hiid : i.id = keys.inst := Option.some.inj ((hq.latest i hi hn).1.symm.trans hlink)
  obtain ⟨first, hfirst, hown, hord⟩ := hway.current
  obtain rfl := Table.eq_of_key_eq hi hinst hiid
  refine ⟨first, ?_, hord, _, hi, hlink, hfirst, hown, hord⟩
  cases hf : stepAt q keys.inst 1 with
  | none =>
      have hno := List.find?_eq_none.mp hf first hfirst
      rw [decide_eq_true_eq] at hno
      exact (hno ⟨hown, hord⟩).elim
  | some other =>
      have hm := List.mem_of_find?_eq_some hf
      have ho := List.find?_some hf
      rw [decide_eq_true_eq] at ho
      rw [hq.distinct other hm first hfirst (ho.1.trans hown.symm) (ho.2.trans hord.symm)]

/-- After an approval it is the turn of the next step. -/
theorem approved_awaits {next : WorkflowInstanceStep} (hp : Orderly p)
    (hd : StepDecision actor stepId p step inst)
    (ha : Approved env actor comments newBookingId p step inst q) (hnext : nextStep p step = some next)
    (hinsts : p.instances.replace { inst with currentStepOrder := next.stepOrder } = some q.instances) :
    next.stepOrder ≠ 1 ∧ q.Awaited next := by
  have hat := hp.toStanding.deciding hd
  obtain ⟨hnm, hnown, hnord⟩ := nextStep_eq_some hnext
  have hnew : next ∈ q.steps := by
    refine Table.mem_replace_of_ne ha.steps hnm fun hk => ?_
    have hsame : next = step := Table.eq_of_key_eq hnm hat.stepMem hk
    rw [hsame] at hnord
    omega
  have hpos : 1 ≤ step.stepOrder := by
    obtain ⟨n, hle, _⟩ := hp.orders inst hat.instMem
    exact (hle step hat.stepMem hat.own).1
  have hlink : q.request.workflowInstanceId = some inst.id :=
    ((congrArg EventRequest.workflowInstanceId ha.request).trans rfl).trans hat.link
  exact ⟨by omega, _, Table.mem_replace_self hinsts hat.instMem rfl, hlink, hnew,
    hnown.trans hat.own, rfl⟩

/-- **A submission calls the assignee of its first step.** -/
theorem Told.submitted {summary key : Option Text} {keys : SubmissionKeys} (h : Told p l)
    (hq : Orderly q) (hsub : Submitted env actor summary key keys p q) :
    Told q (l ++ (stepAt q keys.inst 1).toList.map (firstStepNotice p.request)) := by
  have hreq := hsub.request
  have hid : q.request.id = p.request.id := (congrArg EventRequest.id hreq).trans rfl
  have hby : q.request.submittedBy = p.request.submittedBy :=
    (congrArg EventRequest.submittedBy hreq).trans rfl
  have htitle : q.request.title = p.request.title := (congrArg EventRequest.title hreq).trans rfl
  have hstatus : q.request.status = .submitted := (congrArg EventRequest.status hreq).trans rfl
  have hversion : q.request.currentVersion = p.request.currentVersion + 1 :=
    (congrArg EventRequest.currentVersion hreq).trans rfl
  obtain ⟨first, hfind, hord, hfirst⟩ := submitted_awaits hq hsub
  rw [hfind]
  have hp0 : p.sanctioned = 0 := by
    unfold Proposal.sanctioned
    refine if_neg fun happ => ?_
    rcases hsub.editable with he | he <;> rw [happ] at he <;> cases he
  have hq0 : q.sanctioned = 0 := by
    unfold Proposal.sanctioned
    rw [hstatus]
    rfl
  have hsteps : ∀ {status : WorkflowStepStatus}, status ≠ .pending →
      q.stepsWith status = p.stepsWith status := by
    intro status hne
    refine stepsWith_insertAll hsub.steps (fun st hst => ?_) hne
    obtain ⟨_, _, rfl⟩ := List.mem_map.mp hst
    rfl
  refine h.add ⟨hid, hby, fun type htype => ?_, fun n hn _ _ hne => ?_⟩ fun _ step hstep => ?_
  · unfold owed about firstStepNotice noticeOf
    cases type with
    | actionRequired => simp [hsteps, hp0, hq0, hversion]; omega
    | stepApproved => simp [hsteps, hp0, hq0]
    | proposalApproved => simp [hp0, hq0]
    | proposalRejected => simp [hsteps]
    | revisionRequired => simp [hsteps]
    | system => exact htype.elim
    | later name => exact htype.elim
  · rw [List.mem_singleton.mp hn] at hne
    exact (hne rfl).elim
  · obtain rfl := hfirst.unique hq.toStanding hstep
    have hturn : turnNotice q.request step = firstStepNotice p.request step := by
      unfold turnNotice
      rw [if_pos hord]
      unfold firstStepNotice noticeOf
      rw [hid, htitle]
    rw [hturn]
    exact last_about l [] ⟨rfl, rfl⟩ fun m hm => by cases hm

/-- The columns of the request that no decision writes. -/
theorem decided_columns {status : EventRequestStatus}
    (h : q.request = { p.request with status := status }) :
    q.request.id = p.request.id ∧ q.request.submittedBy = p.request.submittedBy ∧
      q.request.title = p.request.title ∧ q.request.currentVersion = p.request.currentVersion ∧
      q.request.workflowInstanceId = p.request.workflowInstanceId ∧ q.request.status = status := by
  rw [h]
  exact ⟨rfl, rfl, rfl, rfl, rfl, rfl⟩

/-- A proposal whose step is decided has not been sanctioned. -/
theorem unsanctioned (hstand : Standing p) (hd : StepDecision actor stepId p step inst) :
    p.sanctioned = 0 := by
  unfold Proposal.sanctioned
  refine if_neg fun happ => ?_
  rcases (hstand.deciding hd).request with he | he <;> rw [happ] at he <;> cases he

/-- **An approval calls the next assignee and tells the submitter.** -/
theorem Told.approved (h : Told p l) (hp : Orderly p) (hq : Orderly q)
    (hd : StepDecision actor stepId p step inst)
    (ha : Approved env actor comments newBookingId p step inst q) :
    Told q (l ++ approvalNotices p step) := by
  have hstand := hp.toStanding
  have hat := hstand.deciding hd
  obtain ⟨hid, hby, htitle, hversion, hlink, _⟩ := decided_columns ha.request
  have hp0 := unsanctioned hstand hd
  have happroved : q.stepsWith .approved = p.stepsWith .approved + 1 :=
    stepsWith_decided hd ha.steps (by decide)
  have hrejected : q.stepsWith .rejected = p.stepsWith .rejected := by
    rw [stepsWith_decided hd ha.steps (by decide)]
    exact Int.add_zero _
  have hrevised : q.stepsWith .revisionRequested = p.stepsWith .revisionRequested := by
    rw [stepsWith_decided hd ha.steps (by decide)]
    exact Int.add_zero _
  unfold approvalNotices
  rcases ha.moved.cases with ⟨next, hnext, hinsts, hst⟩ | ⟨hnone, hinsts, hst⟩
  · rw [hnext]
    have hstatus : q.request.status = .inReview := by
      rw [hst]
      rcases hat.request with hr | hr <;> rw [hr] <;> rfl
    have hq0 : q.sanctioned = 0 := by
      unfold Proposal.sanctioned
      rw [hstatus]
      rfl
    refine h.add ⟨hid, hby, fun type htype => ?_, fun n hn _ _ hne => ?_⟩ fun _ other hother => ?_
    · unfold owed about nextStepNotice stepApprovedNotice noticeOf
      cases type with
      | actionRequired => simp [hp0, hq0, happroved, hversion]; omega
      | stepApproved => simp [hp0, hq0, happroved]
      | proposalApproved => simp [hp0, hq0]
      | proposalRejected => simp [hrejected]
      | revisionRequired => simp [hrevised]
      | system => exact htype.elim
      | later name => exact htype.elim
    · rcases List.mem_cons.mp hn with rfl | hn
      · exact (hne rfl).elim
      · rw [List.mem_singleton.mp hn]
        rfl
    · -- the step whose turn it is now is the next one
      obtain ⟨hlater, hnew⟩ := approved_awaits hp hd ha hnext hinsts
      obtain rfl := hnew.unique hq.toStanding hother
      have hturn : turnNotice q.request other = nextStepNotice p.request other := by
        unfold turnNotice
        rw [if_neg hlater]
        unfold nextStepNotice noticeOf
        rw [hid, htitle]
      rw [hturn]
      refine last_about l [stepApprovedNotice p.request step] ⟨rfl, rfl⟩ fun m hm => ?_
      rw [List.mem_singleton.mp hm]
      exact fun he => nomatch he
  · rw [hnone]
    have hq1 : q.sanctioned = 1 := by
      unfold Proposal.sanctioned
      rw [hst]
      rfl
    refine h.add ⟨hid, hby, fun type htype => ?_, fun n hn _ _ _ => ?_⟩ fun hreview _ _ => ?_
    · unfold owed about proposalApprovedNotice noticeOf
      cases type with
      | actionRequired => simp [hp0, hq1, happroved, hversion]
      | stepApproved => simp [hp0, hq1, happroved]
      | proposalApproved => simp [hp0, hq1]
      | proposalRejected => simp [hrejected]
      | revisionRequired => simp [hrevised]
      | system => exact htype.elim
      | later name => exact htype.elim
    · rw [List.mem_singleton.mp hn]
      rfl
    · unfold Proposal.UnderReview at hreview
      rcases hreview with he | he <;> rw [hst] at he <;> cases he

/-- A rejection and a request for revision tell the submitter, and nobody has a turn. -/
theorem Told.declined {status : WorkflowStepStatus} {after : EventRequestStatus} {n : Notice}
    (h : Told p l) (hp : Orderly p) (hd : StepDecision actor stepId p step inst)
    (hreq : q.request = { p.request with status := after })
    (ht : p.steps.replace (decideStep env status comments step inst step) = some q.steps)
    (hn : n.eventRequestId = some p.request.id ∧ n.recipientId = p.request.submittedBy)
    (hkind : (status = .rejected ∧ after = .rejected ∧ n.notificationType = .proposalRejected) ∨
      (status = .revisionRequested ∧ after = .revisionRequired ∧
        n.notificationType = .revisionRequired)) : Told q (l ++ [n]) := by
  obtain ⟨hid, hby, htitle, hversion, hlink, hst⟩ := decided_columns hreq
  have hp0 := unsanctioned hp.toStanding hd
  have hq0 : q.sanctioned = 0 := by
    unfold Proposal.sanctioned
    rw [hst]
    rcases hkind with ⟨_, he, _⟩ | ⟨_, he, _⟩ <;> rw [he] <;> rfl
  have hsteps : ∀ {other : WorkflowStepStatus}, other ≠ .pending →
      q.stepsWith other = p.stepsWith other + if status = other then 1 else 0 :=
    fun hother => stepsWith_decided hd ht hother
  refine h.add ⟨hid, hby, fun type htype => ?_, fun m hm _ _ _ => ?_⟩ fun hreview _ _ => ?_
  · unfold owed about
    rcases hkind with ⟨rfl, _, hty⟩ | ⟨rfl, _, hty⟩
    · cases type with
      | actionRequired => simp [hp0, hq0, hsteps, hversion, hty]
      | stepApproved => simp [hp0, hq0, hsteps, hty]
      | proposalApproved => simp [hp0, hq0, hty]
      | proposalRejected => simp [hsteps, hty, hn.1]
      | revisionRequired => simp [hsteps, hty]
      | system => exact htype.elim
      | later name => exact htype.elim
    · cases type with
      | actionRequired => simp [hp0, hq0, hsteps, hversion, hty]
      | stepApproved => simp [hp0, hq0, hsteps, hty]
      | proposalApproved => simp [hp0, hq0, hty]
      | proposalRejected => simp [hsteps, hty]
      | revisionRequired => simp [hsteps, hty, hn.1]
      | system => exact htype.elim
      | later name => exact htype.elim
  · rw [List.mem_singleton.mp hm]
    exact hn.2
  · unfold Proposal.UnderReview at hreview
    rcases hkind with ⟨_, hafter, _⟩ | ⟨_, hafter, _⟩ <;> rcases hreview with he | he <;>
      rw [hst, hafter] at he <;> cases he

/-- A step that leaves the request, the instances and the steps. -/
theorem Told.same (h : Told p l) (hr : q.request = p.request) (hi : q.instances = p.instances)
    (hs : q.steps = p.steps) : Told q l := by
  have howed : ∀ type : NotificationType, owed q type = owed p type := by
    intro type
    unfold owed Proposal.sanctioned Proposal.stepsWith
    rw [hr, hs]
  rw [← List.append_nil l]
  refine h.quiet (by rw [hr]) (by rw [hr]) (fun type _ => howed type) (fun n hn => by cases hn) ?_
  intro hreview
  unfold Proposal.UnderReview Proposal.Awaited at *
  rw [hr] at hreview ⊢
  rw [hi, hs]
  exact ⟨hreview, fun step hstep => ⟨hstep, rfl⟩⟩

/-- **An operation on the proposal.** -/
theorem ReviewStep.told {op : ReviewOp} (h : Told p l) (hp : Orderly p) (hq : Orderly q)
    (hs : ReviewStep env actor p op q) : Told q (l ++ op.notices p q) := by
  cases hs with
  | drafted eventIn hed =>
      refine h.quiet rfl rfl (fun type _ => rfl) (fun n hn => by cases hn) fun hreview => ?_
      have hst : p.UnderReview := hreview
      rcases hst with hs | hs <;> rcases hed with he | he <;> rw [hs] at he <;> cases he
  | repeated summary key keys ha =>
      simp only [ReviewOp.notices, if_pos ha, List.append_nil]
      exact h
  | submitted summary key keys _ hsub =>
      have hnew : ¬ AlreadySubmitted key p.request := by
        rintro ⟨_, _, hst⟩
        rcases hsub.editable with he | he <;> rw [hst] at he <;> cases he
      simp only [ReviewOp.notices, if_neg hnew]
      exact h.submitted hq hsub
  | approved stepId comments newBookingId newEventId step inst _ hd happ =>
      simp only [ReviewOp.notices, hd.stepFound, Option.toList_some, List.flatMap_singleton]
      exact h.approved hp hq hd happ
  | rejected stepId comments step inst _ hd hrej =>
      simp only [ReviewOp.notices, hd.stepFound, Option.toList_some, List.map_cons, List.map_nil]
      exact h.declined hp hd hrej.request hrej.steps ⟨rfl, rfl⟩ (.inl ⟨rfl, rfl, rfl⟩)
  | revised stepId comments step inst t hd ht =>
      simp only [ReviewOp.notices, hd.stepFound, Option.toList_some, List.map_cons, List.map_nil]
      exact h.declined hp hd rfl ht ⟨rfl, rfl⟩ (.inr ⟨rfl, rfl, rfl⟩)
  | _ =>
      simp only [ReviewOp.notices, List.append_nil]
      exact h.same rfl rfl rfl

/-- The notices of a cancellation are none of the review's. -/
theorem Call.notices_quiet {c : Call} {n : Notice} (hn : n ∈ c.notices p) :
    ¬ n.notificationType.OfReview := by
  have hquiet : ∀ {actor : User} {reason : Text}, n ∈ cancellationNotices actor reason p →
      n.notificationType = .system := by
    intro actor reason hm
    unfold cancellationNotices at hm
    by_cases hother : actor.id ≠ p.request.submittedBy
    · rw [if_pos hother] at hm
      rw [List.mem_singleton.mp hm]
      rfl
    · rw [if_neg hother] at hm
      obtain ⟨current, _, rfl⟩ := List.mem_map.mp hm
      rfl
  have hsystem : n.notificationType = .system := by
    unfold Call.notices at hn
    split at hn
    · exact hquiet hn
    · exact hquiet hn
    · cases hn
  rw [hsystem]
  exact fun h => h

/-- **A withdrawal ends every turn.** -/
theorem Told.withdrawn {c : Call} (h : Told p l) (hst : p.request.status ≠ .approved) :
    Told (EventService.withdrawn p) (l ++ c.notices p) := by
  obtain ⟨_, _, _, hreq⟩ := withdrawn_rows p
  have hcancelled : (EventService.withdrawn p).request.status = .cancelled := by
    rw [hreq]
  refine h.quiet (by rw [hreq]) (by rw [hreq]) (fun type htype => ?_)
    (fun n hn _ => Call.notices_quiet hn) fun hreview => ?_
  · have hp0 : p.sanctioned = 0 := if_neg hst
    have hq0 : (EventService.withdrawn p).sanctioned = 0 := by
      unfold Proposal.sanctioned
      rw [hcancelled]
      rfl
    have hversion : (EventService.withdrawn p).request.currentVersion = p.request.currentVersion := by
      rw [hreq]
    unfold owed
    cases type with
    | actionRequired => rw [hp0, hq0, hversion, stepsWith_withdrawn (by decide) (by decide)]
    | stepApproved => rw [hp0, hq0, stepsWith_withdrawn (by decide) (by decide)]
    | proposalApproved => rw [hp0, hq0]
    | proposalRejected => exact stepsWith_withdrawn (by decide) (by decide)
    | revisionRequired => exact stepsWith_withdrawn (by decide) (by decide)
    | system => exact htype.elim
    | later name => exact htype.elim
  · unfold Proposal.UnderReview at hreview
    rcases hreview with he | he <;> rw [hcancelled] at he <;> cases he

end Steps

/-! ## 4. Every run -/

/-- The call is a reader's, or its notice is not one that only the review of the proposal sends. -/
def InboxOp.Foreign (requestId : Uuid) : InboxOp → Prop
  | .notify _ _ n => n.eventRequestId = some requestId → ¬ n.notificationType.OfReview
  | _ => True

/-- Submissions meet a template in sequence, and other services send their own notices only. -/
def MailingOp.Proper (requestId : Uuid) : MailingOp → Prop
  | .request r _ _ => r.InSequence
  | .inbox op => op.Foreign requestId

/-- A new draft, of which no notification speaks. -/
def Mailing.Opening (requestId : Uuid) (m : Mailing) : Prop :=
  Drafted m.dossier ∧ m.dossier.proposal.request.id = requestId ∧
    ∀ n ∈ sent m.notifications, n.eventRequestId ≠ some requestId

section Runs

variable {cfg : Config} {d d' : Dossier} {r : Request} {l : List Notice} {m m' : Mailing}
variable {requestId : Uuid}

/-- The key of the proposal stays. -/
theorem Traced.request_id (hin : InStanding d) (hs : Traced cfg d r d') :
    d'.proposal.request.id = d.proposal.request.id := by
  cases hs with
  | review env actor op d q entries hstep =>
      rw [Dossier.proposal_flushed]
      exact hstep.request_id
  | withdrawn c p logs entries hst =>
      rw [Dossier.proposal_proposed, (withdrawn_rows p).2.2.2]
      rfl
  | event c s s' hstep =>
      obtain ⟨booking, hrows⟩ := hin.event_rows hstep
      rw [Dossier.proposal_confirmed, hrows]
      rfl

/-- **The step lemma**: an accepted request. -/
theorem Dossier.Step.told (hin : InOrder d) (hin' : InOrder d') (h : Told d.proposal l)
    (hs : Dossier.Step cfg d r d') : Told d'.proposal (l ++ r.notices d d') := by
  have htraced := hs.traced
  cases htraced with
  | review env actor op _ q entries hstep =>
      have hq : Orderly q := by
        have hrows := hin'.rows
        rw [Dossier.proposal_flushed] at hrows
        exact hrows
      simp only [Request.notices, Dossier.proposal_flushed]
      exact hstep.told h hin.rows hq
  | withdrawn c p logs entries hst => exact h.withdrawn hst.2.2
  | event c s s' hstep =>
      obtain ⟨booking, hrows⟩ := hin.standing.event_rows hstep
      simp only [Request.notices, List.append_nil]
      rw [Dossier.proposal_confirmed] at h ⊢
      exact h.same (by rw [hrows]) (by rw [hrows]) (by rw [hrows])

theorem Drafted.told (hd : Drafted d)
    (hl : ∀ n ∈ l, n.eventRequestId ≠ some d.proposal.request.id) : Told d.proposal l := by
  obtain ⟨request, logs, rfl, hst, hversion, _⟩ := hd.row
  have hnone : ∀ type, about request.id type l = [] := by
    intro type
    refine List.filter_eq_nil_iff.mpr fun n hn => ?_
    rw [decide_eq_true_eq]
    exact fun he => hl n hn he.1
  refine ⟨fun type htype => ?_, fun n hn he _ _ => (hl n hn he).elim, fun hreview => ?_⟩
  · rw [Dossier.proposal_proposed]
    rw [hnone type]
    unfold owed Proposal.sanctioned Proposal.stepsWith
    simp only [hst, hversion]
    cases type <;> rfl
  · unfold Proposal.UnderReview at hreview
    rcases hreview with he | he <;> rw [Dossier.proposal_proposed, hst] at he <;> cases he

/-- What every run keeps. -/
structure Informed (requestId : Uuid) (m : Mailing) : Prop where
  order : InOrder m.dossier
  id : m.dossier.proposal.request.id = requestId
  told : Told m.dossier.proposal (sent m.notifications)

/-- Notices that only others send leave what the proposal's own say. -/
theorem Told.foreign {p : Proposal} {op : InboxOp} (h : Told p l) (hop : op.Foreign p.request.id) :
    Told p (l ++ op.sends) := by
  refine h.quiet rfl rfl (fun _ _ => rfl) (fun n hn hreq => ?_) fun hreview =>
    ⟨hreview, fun step hstep => ⟨hstep, rfl⟩⟩
  cases op with
  | notify newId now n' =>
      rw [List.mem_singleton.mp hn] at hreq ⊢
      exact hop hreq
  | markAsRead _ _ _ => cases hn
  | markAllAsRead _ _ => cases hn

theorem Informed.step {op : MailingOp} (h : Informed requestId m) (hs : Mailing.Step cfg m op m')
    (hop : op.Proper requestId) : Informed requestId m' := by
  unfold Mailing.Step Mailing.exec at hs
  cases op with
  | request r newIds now =>
      simp only [bind_accepts, pure_accepts] at hs
      obtain ⟨d, hd, t, ht, rfl⟩ := hs
      have hstep : Dossier.Step cfg m.dossier r d := hd
      have hin := h.order.step hstep.traced hop
      have htold := hstep.told h.order hin h.told
      refine ⟨hin, (hstep.traced.request_id h.order.standing).trans h.id, ?_⟩
      show Told d.proposal (sent t)
      rw [sent_sending ht]
      exact htold
  | inbox op =>
      simp only [bind_accepts, pure_accepts] at hs
      obtain ⟨t, ht, rfl⟩ := hs
      refine ⟨h.order, h.id, ?_⟩
      show Told m.dossier.proposal (sent t)
      rw [InboxOp.Step.sent ht]
      exact h.told.foreign (by rw [h.id]; exact hop)

/-- What a turn notice is addressed to. -/
theorem turnNotice_recipient (r : EventRequest) (step : WorkflowInstanceStep) :
    (turnNotice r step).recipientId = step.assignedTo := by
  unfold turnNotice
  by_cases hfirst : step.stepOrder = 1
  · rw [if_pos hfirst]
    rfl
  · rw [if_neg hfirst]
    rfl

/-- **Who is told what.** In every run of a proposal beside the notifications, with readers and other
services in between, there are as many notices of approval, rejection and revision as decisions of each
kind, all to the submitter; there is a call for action for each version and for each approved step but the
last; the last call is the one of the step whose turn it is; and its assignee has it in his inbox. -/
theorem review_told (cfg : Config) (h : Reach (Mailing.Opening requestId)
      (restrict (Mailing.Step cfg) fun _ op => op.Proper requestId) m) :
    Told m.dossier.proposal (sent m.notifications) ∧
      ∀ step, m.dossier.proposal.UnderReview → m.dossier.proposal.Awaited step →
        ∃ n ∈ inbox m.notifications step.assignedTo,
          n.toNotice = turnNotice m.dossier.proposal.request step := by
  have hinformed : Informed requestId m := by
    refine Reach.invariant ?_ (fun _ _ _ hm hs => hm.step hs.1 hs.2) h
    rintro m0 ⟨hdraft, hid, hnone⟩
    exact ⟨hdraft.inOrder, hid, hdraft.told (by rw [hid]; exact hnone)⟩
  refine ⟨hinformed.told, fun step hreview hstep => ?_⟩
  have hlast := List.mem_of_getLast? (hinformed.told.turn hreview step hstep)
  obtain ⟨n, hn, hnotice⟩ := List.mem_map.mp (List.mem_filter.mp hlast).1
  refine ⟨n, mem_inbox.mpr ⟨hn, ?_⟩, hnotice⟩
  rw [hnotice, turnNotice_recipient]

end Runs

namespace Sample

/-- The advisor has approved the sample proposal, and reads his notifications. -/
def mailed : List MailingOp :=
  (plan ++ [submit staff secretary 1, approve advisor 1 1]).zipIdx.map
      (fun (r, k) => .request r (fun j => uid (800 + 10 * k + j)) 0) ++
    [.inbox (.markAllAsRead advisor.id 1)]

end Sample

/-- After the advisor's approval it is the warden's turn. -/
theorem review_told_sample : ∃ m : Mailing, m.dossier.proposal.UnderReview ∧
    ∃ step, m.dossier.proposal.Awaited step ∧ ∃ n ∈ inbox m.notifications Sample.warden.id,
      n.toNotice = turnNotice m.dossier.proposal.request step := by
  have hrun : Ends (Sample.draft >>= fun d =>
      run (Mailing.exec (Sample.config .sqlite)) Sample.mailed ⟨d, Table.empty⟩) fun m =>
      m.dossier.proposal.request.status = .inReview ∧
        ∃ i ∈ m.dossier.proposal.instances.rows, ∃ step ∈ m.dossier.proposal.steps.rows,
          m.dossier.proposal.request.workflowInstanceId = some i.id ∧ step.instanceId = i.id ∧
            step.stepOrder = i.currentStepOrder ∧ step.assignedTo = Sample.warden.id := by
    decide
  obtain ⟨m, hok, hst, i, hi, step, hstep, hlink, hown, hord, hwarden⟩ := hrun
  obtain ⟨d, hd, hok⟩ := bind_accepts.mp hok
  have hdraft : Drafted d := ⟨_, _, _, _, hd⟩
  have hpath : Path (restrict (Mailing.Step (Sample.config .sqlite)) fun _ op =>
      op.Proper d.proposal.request.id) ⟨d, Table.empty⟩ Sample.mailed m := by
    refine (path_of_run hok).under fun op hop => ?_
    rcases List.mem_append.mp hop with hop | hop
    · obtain ⟨⟨r, k⟩, hr, rfl⟩ := List.mem_map.mp hop
      exact inSequence_of_standard (by decide) r (List.fst_mem_of_mem_zipIdx hr)
    · rw [List.mem_singleton.mp hop]
      trivial
  have hopening : Mailing.Opening d.proposal.request.id ⟨d, Table.empty⟩ :=
    ⟨hdraft, rfl, fun n hn => by cases hn⟩
  have hreach := Reach.path (.start hopening) hpath
  have hawaited : m.dossier.proposal.Awaited step := ⟨i, hi, hlink, hstep, hown, hord⟩
  obtain ⟨n, hn, hnotice⟩ :=
    (review_told (Sample.config .sqlite) hreach).2 step (.inr hst) hawaited
  rw [hwarden] at hn
  exact ⟨m, .inr hst, step, hawaited, n, hn, hnotice⟩

end CampusConnect
