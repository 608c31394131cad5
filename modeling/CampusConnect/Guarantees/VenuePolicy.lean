/-
  File:      CampusConnect/Guarantees/VenuePolicy.lean
  Subject:   The policy of the halls over runs: the capacity of the hall and the lead time of the start,
             in every version a club submits.

  * `lastSetStart`: the start of the venue request and the clock of the request that set it last;
  * `VenuePolicy`: the effective audience fits into the hall, and the start was set early enough;
  * `Request.KeepsPolicy`: an edit of the draft that leaves the audience within the hall, an edit of the
    venue that leaves the lead time. The creation checks both, the edits do not check the other half;
  * `submitted_venues_meet_policy`: over every run of such requests each submitted venue meets the
    policy; `policy_outgrown`, `policy_overtaken`: a submitted version beyond the capacity, and one
    without notice.
-/
import CampusConnect.Guarantees.Sanction

namespace CampusConnect

open Guarded Rows EventService VenueService BudgetService WorkflowService

/-! ## 1. The policy -/

/-- A start that was set, and the clock of the request that set it. -/
structure SetStart where
  start : Instant
  clock : Instant
  deriving DecidableEq

/-- What an accepted request makes of it. -/
def Request.setsStart (last : Option SetStart) : Request → Option SetStart
  | .review env _ (.createVenueRequest _ venueIn) => some ⟨venueIn.startTime, env.now⟩
  | .review env _ (.updateVenueRequest venueIn) =>
      (venueIn.startTime.map fun start => ⟨start, env.now⟩).or last
  | _ => last

/-- The start that was set last by the requests taken so far. -/
def lastSetStart (taken : List Request) : Option SetStart :=
  taken.foldl (fun last r => r.setsStart last) none

theorem lastSetStart_append (taken : List Request) (r : Request) :
    lastSetStart (taken ++ [r]) = r.setsStart (lastSetStart taken) := by
  unfold lastSetStart
  rw [List.foldl_append]
  rfl

/-- **The policy on one venue**, under the halls and the notice in force. The effective audience is the
    venue's own, or the expected attendees. -/
structure VenuePolicy (halls : List Hall) (days : Int) (last : Option SetStart) (c : Content)
    (t : VenueTerms) : Prop where
  capacity : ∃ hall, halls.find? (fun h => h.id = t.hallId) = some hall ∧
    ∀ n, t.expectedAudience.or c.expectedAttendees = some n → n ≤ hall.capacity
  notice : ∃ set, last = some set ∧ set.start = t.startTime ∧ days * 86400 ≤ set.start - set.clock

/-- The venue of a content, if any, meets the policy. -/
def Content.MeetsPolicy (halls : List Hall) (days : Int) (last : Option SetStart) (c : Content) :
    Prop :=
  ∀ t, c.venue = some t → VenuePolicy halls days last c t

/-- The requests are made under these halls and this notice, and no administrator creates a venue
    request. -/
def Request.UnderSettings (halls : List Hall) (days : Int) : Request → Prop
  | .review env actor (.createVenueRequest _ _) =>
      env.halls = halls ∧ env.hallBookingMinAdvanceDays = days ∧ actor.role ≠ .systemAdmin
  | .review env _ (.updateVenueRequest _) => env.halls = halls
  | _ => True

/-- **The condition**: an edit of the draft under a venue without an audience of its own expects no more
    attendees than the hall takes, and an edit of the venue that gives a start gives one early enough. -/
def Request.KeepsPolicy (halls : List Hall) (days : Int) (d : Dossier) : Request → Prop
  | .review _ _ (.updateDraft eventIn) =>
      ∀ vr ∈ d.proposal.venueRequest, vr.expectedAudience = none →
        ∀ hall ∈ halls.find? (fun h => h.id = vr.hallId),
          ∀ n ∈ eventIn.expectedAttendees, n ≤ hall.capacity
  | .review env _ (.updateVenueRequest venueIn) =>
      ∀ start ∈ venueIn.startTime, days * 86400 ≤ start - env.now
  | _ => True

instance (halls : List Hall) (days : Int) : (r : Request) → Decidable (r.UnderSettings halls days)
  | .review _ _ (.createVenueRequest ..) => inferInstanceAs (Decidable (_ ∧ _ ∧ _))
  | .review env _ (.updateVenueRequest _) => inferInstanceAs (Decidable (env.halls = halls))
  | .review _ _ (.updateDraft ..) | .review _ _ (.submitProposal ..)
  | .review _ _ (.approveStep ..) | .review _ _ (.rejectStep ..) | .review _ _ (.requestRevision ..)
  | .review _ _ .deleteVenueRequest | .review _ _ (.createBudgetProposal ..)
  | .review _ _ (.updateBudgetProposal ..) | .review _ _ .deleteBudgetProposal
  | .review _ _ (.addLineItem ..) | .review _ _ (.updateLineItem ..)
  | .review _ _ (.deleteLineItem ..) | .review _ _ (.verifyBudget ..) => isTrue trivial
  | .event _ => isTrue trivial

instance (halls : List Hall) (days : Int) (d : Dossier) :
    (r : Request) → Decidable (r.KeepsPolicy halls days d)
  | .review _ _ (.updateDraft eventIn) => inferInstanceAs (Decidable
      (∀ vr ∈ d.proposal.venueRequest, vr.expectedAudience = none →
        ∀ hall ∈ halls.find? (fun h => h.id = vr.hallId),
          ∀ n ∈ eventIn.expectedAttendees, n ≤ hall.capacity))
  | .review env _ (.updateVenueRequest venueIn) => inferInstanceAs (Decidable
      (∀ start ∈ venueIn.startTime, days * 86400 ≤ start - env.now))
  | .review _ _ (.createVenueRequest ..) | .review _ _ (.submitProposal ..)
  | .review _ _ (.approveStep ..) | .review _ _ (.rejectStep ..) | .review _ _ (.requestRevision ..)
  | .review _ _ .deleteVenueRequest | .review _ _ (.createBudgetProposal ..)
  | .review _ _ (.updateBudgetProposal ..) | .review _ _ .deleteBudgetProposal
  | .review _ _ (.addLineItem ..) | .review _ _ (.updateLineItem ..)
  | .review _ _ (.deleteLineItem ..) | .review _ _ (.verifyBudget ..) => isTrue trivial
  | .event _ => isTrue trivial

/-! ## 2. Steps -/

section Steps

variable {cfg : Config} {env : ReviewEnv} {actor : User} {p q : Proposal} {op : ReviewOp}
  {d d' : Dossier} {r : Request} {f : Flush} {halls : List Hall} {days : Int}
  {last : Option SetStart} {c c' : Content} {hall : Hall}

theorem Content.MeetsPolicy.congr (h : c.MeetsPolicy halls days last)
    (hv : ∀ t, c'.venue = some t → c.venue = some t)
    (ha : c'.expectedAttendees = c.expectedAttendees) : c'.MeetsPolicy halls days last := by
  intro t ht
  obtain ⟨hcap, hnotice⟩ := h t (hv t ht)
  refine ⟨?_, hnotice⟩
  rw [ha]
  exact hcap

/-- A count the check let through covers the effective one: zero is falsy, and fits. -/
theorem audience_within {a b : Option Nat} (h : verifyCapacity (orNumber a b) hall = .ok ()) :
    ∀ n, a.or b = some n → n ≤ hall.capacity := by
  unfold verifyCapacity at h
  rw [refuse_accepts] at h
  intro n hn
  by_contra hlt
  refine h ⟨n, ?_, by omega⟩
  cases a with
  | none => exact hn
  | some m =>
      obtain rfl : m = n := Option.some.inj hn
      cases m with
      | zero => omega
      | succ m => rfl

/-- An audience given with an edit, one there before, and the attendees. -/
theorem audience_within_edit {a b attendees : Option Nat}
    (h : verifyCapacity (orNumber (orNumber a b) attendees) hall = .ok ()) :
    ∀ n, (a.or b).or attendees = some n → n ≤ hall.capacity := by
  cases a with
  | none => exact audience_within h
  | some m =>
      intro n hn
      obtain rfl : m = n := Option.some.inj hn
      cases m with
      | zero => omega
      | succ m => exact audience_within (a := some (m + 1)) h _ rfl

theorem createVenueRequest_checks {newId : Uuid} {venueIn : VenueRequestCreate}
    (h : createVenueRequest env actor newId venueIn p = .ok f) :
    ∃ hall, env.halls.find? (fun h => h.id = venueIn.hallId) = some hall ∧
      verifyCapacity (orNumber venueIn.expectedAudience p.request.expectedAttendees) hall = .ok () ∧
      verifyLeadTime env actor venueIn.startTime = .ok () := by
  simp only [createVenueRequest, getHall, bind_accepts, fetch_accepts, exists_unit] at h
  obtain ⟨_, hall, hfind, _, hcap, hlead, _⟩ := h
  exact ⟨hall, hfind, hcap, hlead⟩

theorem updateVenueRequest_checks {venueIn : VenueRequestUpdate} {vr : VenueRequest}
    (h : updateVenueRequest env actor venueIn p = .ok f) (hvr : p.venueRequest = some vr) :
    ∃ hall, env.halls.find? (fun h => h.id = venueIn.hallId.getD vr.hallId) = some hall ∧
      verifyCapacity (orNumber (orNumber venueIn.expectedAudience vr.expectedAudience)
        p.request.expectedAttendees) hall = .ok () := by
  simp only [updateVenueRequest, getHall, getVenueRequest, bind_accepts, fetch_accepts, exists_unit] at h
  obtain ⟨_, v, hv, _, hall, hfind, _, hcap, _⟩ := h
  obtain rfl : vr = v := Option.some.inj (hvr.symm.trans hv)
  exact ⟨hall, hfind, hcap⟩

/-- The lead time holds for anyone but an administrator. -/
theorem leadTime_kept {startTime : Instant} (h : verifyLeadTime env actor startTime = .ok ())
    (hadmin : actor.role ≠ .systemAdmin) :
    env.hallBookingMinAdvanceDays * 86400 ≤ startTime - env.now := by
  simp only [verifyLeadTime, bind_accepts, refuse_accepts, exists_unit] at h
  by_contra hlt
  exact h.2 ⟨hadmin, not_le.mp hlt⟩

/-- The operations that leave the terms of the venue and the attendees, or delete the venue. -/
def ReviewOp.LeavesTerms : ReviewOp → Prop
  | .updateDraft _ | .createVenueRequest _ _ | .updateVenueRequest _ => False
  | _ => True

theorem ReviewStep.terms_left (hs : ReviewStep env actor p op q) (hop : op.LeavesTerms) :
    (∀ t, q.content.venue = some t → p.content.venue = some t) ∧
      q.content.expectedAttendees = p.content.expectedAttendees := by
  cases hs with
  | drafted eventIn hed => exact hop.elim
  | venueCreated newId venueIn hall hed hnone hc => exact hop.elim
  | venueUpdated venueIn vr hall hed hvr hc => exact hop.elim
  | submitted summary key keys _ hsub =>
      have hvenue : q.content.venue = p.content.venue := by
        unfold Proposal.content
        rw [hsub.venue]
      refine ⟨fun t ht => hvenue ▸ ht, ?_⟩
      unfold Proposal.content
      rw [hsub.request]
      rfl
  | approved stepId comments newBookingId newEventId step inst _ hd happ =>
      rw [approved_content happ]
      exact ⟨fun _ ht => ht, rfl⟩
  | rejected stepId comments step inst _ hd hrej =>
      rw [rejected_content hrej]
      exact ⟨fun _ ht => ht, rfl⟩
  | venueDeleted hed =>
      refine ⟨fun t ht => ?_, rfl⟩
      cases ht
  | _ => exact ⟨fun _ ht => ht, rfl⟩

/-- A withdrawal leaves the terms of the venue and the attendees. -/
theorem withdrawn_terms (p : Proposal) :
    (withdrawn p).content.venue = p.content.venue ∧
      (withdrawn p).content.expectedAttendees = p.content.expectedAttendees := by
  have hvenue : (cancelWorkflow p).venueRequest = p.venueRequest := by
    unfold cancelWorkflow
    cases activeInstance p <;> rfl
  have hterms : ∀ vr, (withdrawVenue vr).terms = vr.terms := by
    intro vr
    unfold withdrawVenue
    split <;> rfl
  constructor
  · unfold Proposal.content withdrawn
    rw [releaseHall_eq]
    show ((cancelWorkflow p).venueRequest.map withdrawVenue).map VenueRequest.terms = _
    rw [hvenue, Option.map_map]
    exact congrArg (fun g => p.venueRequest.map g) (funext hterms)
  · unfold Proposal.content
    rw [(withdrawn_rows p).2.2.2]

/-- The creation of a venue request checks the whole policy. -/
theorem created_meets_policy {newId : Uuid} {venueIn : VenueRequestCreate}
    (h : createVenueRequest env actor newId venueIn p = .ok f) (hw : f.write p = .ok q)
    (hadmin : actor.role ≠ .systemAdmin) :
    q.content.MeetsPolicy env.halls env.hallBookingMinAdvanceDays
      (some ⟨venueIn.startTime, env.now⟩) := by
  obtain ⟨hall, hfind, hcap, hlead⟩ := createVenueRequest_checks h
  obtain ⟨_, _, _, _, _, rfl⟩ := createVenueRequest_writes h hw
  intro t ht
  cases ht
  exact ⟨⟨hall, hfind, audience_within hcap⟩, _, rfl, rfl, leadTime_kept hlead hadmin⟩

/-- An edit of the venue checks the capacity; the notice is the one before, or the condition's. -/
theorem edited_meets_policy {venueIn : VenueRequestUpdate}
    (hold : p.content.MeetsPolicy env.halls days last)
    (h : updateVenueRequest env actor venueIn p = .ok f) (hw : f.write p = .ok q)
    (hkeep : ∀ start ∈ venueIn.startTime, days * 86400 ≤ start - env.now) :
    q.content.MeetsPolicy env.halls days
      ((venueIn.startTime.map fun start => ⟨start, env.now⟩).or last) := by
  obtain ⟨_, _, vr, hall, hvr, _, rfl⟩ := updateVenueRequest_writes h hw
  obtain ⟨target, hfind, hcap⟩ := updateVenueRequest_checks h hvr
  have hbefore := hold vr.terms (congrArg (Option.map VenueRequest.terms) hvr)
  intro t ht
  cases ht
  constructor
  · refine ⟨target, ?_, ?_⟩
    · rw [← hfind]
      unfold VenueRequest.terms editVenue
      simp only [patched_self]
    · have haudience : (editVenue venueIn hall vr vr).terms.expectedAudience =
          venueIn.expectedAudience.or vr.expectedAudience := by
        unfold VenueRequest.terms editVenue
        simp only [patched_self]
        cases venueIn.expectedAudience <;> rfl
      rw [haudience]
      exact audience_within_edit hcap
  · have hstart : (editVenue venueIn hall vr vr).terms.startTime =
        venueIn.startTime.getD vr.startTime := by
      unfold VenueRequest.terms editVenue
      simp only [patched_self]
    rw [hstart]
    cases hgiven : venueIn.startTime with
    | none => exact hbefore.notice
    | some start => exact ⟨⟨start, env.now⟩, rfl, rfl, hkeep start hgiven⟩

/-- An edit of the draft leaves the venue; the attendees are those before, or the condition's. -/
theorem drafted_meets_policy {eventIn : EventRequestUpdate}
    (hold : p.content.MeetsPolicy halls days last)
    (hkeep : ∀ vr ∈ p.venueRequest, vr.expectedAudience = none →
      ∀ hall ∈ halls.find? (fun h => h.id = vr.hallId),
        ∀ n ∈ eventIn.expectedAttendees, n ≤ hall.capacity) :
    (p.updateRequest (editRequest eventIn p.request)).content.MeetsPolicy halls days last := by
  intro t ht
  obtain ⟨vr, hvr, rfl⟩ := Option.map_eq_some_iff.mp ht
  obtain ⟨⟨hall, hfind, hcap⟩, hnotice⟩ :=
    hold vr.terms (congrArg (Option.map VenueRequest.terms) hvr)
  have hattendees : (p.updateRequest (editRequest eventIn p.request)).content.expectedAttendees =
      eventIn.expectedAttendees.or p.request.expectedAttendees := by
    unfold Proposal.content Proposal.updateRequest editRequest
    simp only [patched_self]
    cases eventIn.expectedAttendees <;> rfl
  refine ⟨⟨hall, hfind, ?_⟩, hnotice⟩
  rw [hattendees]
  intro n hn
  cases hown : vr.terms.expectedAudience with
  | some m =>
      rw [hown] at hn
      exact hcap n (by rw [hown]; exact hn)
  | none =>
      rw [hown, Option.none_or] at hn
      cases hgiven : eventIn.expectedAttendees with
      | some m =>
          rw [hgiven] at hn
          cases hn
          exact hkeep vr hvr hown hall hfind n hgiven
      | none =>
          rw [hgiven, Option.none_or] at hn
          exact hcap n (by rw [hown]; exact hn)

/-- **The step lemma.** -/
theorem Dossier.Step.meets_policy (hin : InStanding d)
    (hold : d.proposal.content.MeetsPolicy halls days last) (hs : Dossier.Step cfg d r d')
    (hset : r.UnderSettings halls days) (hkeep : r.KeepsPolicy halls days d) :
    d'.proposal.content.MeetsPolicy halls days (r.setsStart last) := by
  cases r with
  | review env actor op =>
      obtain ⟨f, q, hf, hw, hq⟩ := hs.flush
      rw [hq]
      obtain ⟨hstep, _⟩ := ReviewOp.step hf hw
      cases op with
      | createVenueRequest newId venueIn =>
          obtain ⟨rfl, rfl, hadmin⟩ := hset
          exact created_meets_policy hf hw hadmin
      | updateVenueRequest venueIn =>
          obtain rfl : env.halls = halls := hset
          exact edited_meets_policy hold hf hw hkeep
      | updateDraft eventIn =>
          cases hstep
          exact drafted_meets_policy hold hkeep
      | _ => exact hold.congr (hstep.terms_left trivial).1 (hstep.terms_left trivial).2
  | event c =>
      have htraced := hs.traced
      cases htraced with
      | withdrawn _ p logs entries hst =>
          obtain ⟨hvenue, hattendees⟩ := withdrawn_terms p
          refine hold.congr (fun t ht => ?_) hattendees
          rw [Dossier.proposal_proposed, hvenue] at ht
          exact ht
      | event _ s s' hstep =>
          obtain ⟨booking, hrows⟩ := hin.event_rows hstep
          have hsame : s'.proposal.content = s.proposal.content := by
            rw [hrows]
            rfl
          rw [Dossier.proposal_confirmed, hsame]
          exact hold

end Steps

/-! ## 3. The law -/

/-- The version was submitted in the run, and its venue met the policy then: the start it shows is the
    one set last before, by a request early enough. -/
def SubmittedUnderPolicy (cfg : Config) (halls : List Hall) (days : Int) (d0 : Dossier)
    (requests : List Request) (v : EventRequestVersion) : Prop :=
  ∃ before r after e, requests = before ++ r :: after ∧
    Runs.Path (Dossier.Step cfg) d0 before e ∧ r.Submits v e ∧
    ∀ c, v.content = some c → c.MeetsPolicy halls days (lastSetStart before)

section Runs

variable {cfg : Config} {halls : List Hall} {days : Int} {d0 d : Dossier} {requests : List Request}

theorem SubmittedUnderPolicy.append {v : EventRequestVersion}
    (h : SubmittedUnderPolicy cfg halls days d0 requests v) (r : Request) :
    SubmittedUnderPolicy cfg halls days d0 (requests ++ [r]) v := by
  obtain ⟨before, i, after, e, hsplit, hrest⟩ := h
  refine ⟨before, i, after ++ [r], e, ?_, hrest⟩
  rw [hsplit, List.append_assoc, List.cons_append]

/-- **Every submitted venue meets the policy.** In every run from a draft, by any clock, whose requests
    are made under the same halls and notice, without administrators, and meet the condition: the venue
    of each version, if any, has an effective audience within the capacity of its hall, and a start
    that the request that set it last before the submission set with the notice. -/
theorem submitted_venues_meet_policy (cfg : Config) (halls : List Hall) (days : Int) (h0 : Drafted d0)
    (hp : Runs.Path (Runs.restrict (Dossier.Step cfg) fun e r =>
      r.UnderSettings halls days ∧ r.KeepsPolicy halls days e) d0 requests d) :
    ∀ v ∈ d.proposal.versions, SubmittedUnderPolicy cfg halls days d0 requests v := by
  have hrun := Runs.Path.history
    (P := fun e taken => InStanding e ∧ Runs.Path (Dossier.Step cfg) d0 taken e ∧
      e.proposal.content.MeetsPolicy halls days (lastSetStart taken) ∧
      ∀ v ∈ e.proposal.versions, SubmittedUnderPolicy cfg halls days d0 taken v) ?_ hp ?_
  · exact hrun.2.2.2
  · intro e taken r e' hold hs
    obtain ⟨hin, hpath, hpolicy, hversions⟩ := hold
    obtain ⟨hstep, hset, hkeep⟩ := hs
    refine ⟨hin.step hstep.traced, hpath.append (.single hstep), ?_, ?_⟩
    · rw [lastSetStart_append]
      exact hstep.meets_policy hin hpolicy hset hkeep
    · intro v hv
      rcases hstep.traced.version_origin hin hv with hm | ⟨env, actor, summary, key, keys, rfl, _, rfl⟩
      · exact (hversions v hm).append r
      · refine ⟨taken, _, [], e, rfl, hpath, rfl, fun c hc => ?_⟩
        rw [content_submittedVersion] at hc
        cases hc
        exact hpolicy
  · refine ⟨h0.inStanding, .nil d0, fun t ht => ?_, fun v hv => ?_⟩
    · obtain ⟨request, logs, rfl, _⟩ := h0.row
      cases ht
    · rw [h0.versions] at hv
      cases hv

end Runs

namespace Sample

/-- Three days of notice, on PostgreSQL. -/
def noticeEnv : ReviewEnv :=
  { reviewEnv staff with
    backend := .postgresql
    hallBookingMinAdvanceDays := 3 }

/-- The hall 60, for 100 people, from 300000 to 301000, and a budget. -/
def noticedPlan : List Request :=
  [.review noticeEnv secretary (.createVenueRequest (uid 62)
      { hallId := uid 60
        requestedDate := 300000
        startTime := 300000
        endTime := 301000 }),
    review secretary (.createBudgetProposal (uid 63) (fun n => uid (64 + n))
      { instituteContribution := 10000
        lineItems := [{ description := "food".toList
                        category := .catering
                        estimatedAmount := 20000 }] })]

/-- The club expects so many attendees. -/
def expect (attendees : Nat) : Request :=
  .review noticeEnv secretary (.updateDraft { expectedAttendees := some attendees })

/-- The club moves the start. -/
def startAt (start : Instant) : Request :=
  .review noticeEnv secretary (.updateVenueRequest { startTime := some start })

end Sample

/-- With 80 attendees and a start four days ahead, the sample proposal meets the policy. -/
theorem submitted_venues_meet_policy_sample :
    ∃ d0 requests d, Drafted d0 ∧ Runs.Path (Dossier.Step (Sample.config .postgresql)) d0 requests d ∧
      d.proposal.versions ≠ [] ∧ d.proposal.venueRequest ≠ none ∧
      ∀ v ∈ d.proposal.versions,
        SubmittedUnderPolicy (Sample.config .postgresql) Sample.noticeEnv.halls 3 d0 requests v := by
  have hrun : Runs.Ends (Sample.afterOnPostgres (fun d r => r.UnderSettings Sample.noticeEnv.halls 3 ∧
      r.KeepsPolicy Sample.noticeEnv.halls 3 d) (Sample.noticedPlan ++ [Sample.expect 80,
        Sample.startAt 300500, Sample.submit Sample.staff Sample.secretary 1])) fun d =>
      d.proposal.versions ≠ [] ∧ d.proposal.venueRequest ≠ none := by
    decide
  obtain ⟨d, hok, hversions, hvenue⟩ := hrun
  obtain ⟨d0, h0, hpath⟩ := Sample.path_of_afterOnPostgres hok
  exact ⟨d0, _, d, h0, Runs.Path.of_restrict hpath, hversions, hvenue,
    submitted_venues_meet_policy (Sample.config .postgresql) Sample.noticeEnv.halls 3 h0 hpath⟩

/-- **The audience outgrows the hall**: 500 attendees are expected after the hall for 100 was requested,
    and the version is submitted. -/
theorem policy_outgrown :
    ∃ d0 requests d, Drafted d0 ∧ Runs.Path (Dossier.Step (Sample.config .postgresql)) d0 requests d ∧
      (∀ r ∈ requests, r.UnderSettings Sample.noticeEnv.halls 3) ∧
      ∃ v ∈ d.proposal.versions,
        ¬ SubmittedUnderPolicy (Sample.config .postgresql) Sample.noticeEnv.halls 3 d0 requests v := by
  have hrun : Runs.Ends (Sample.afterOnPostgres (fun _ r => r.UnderSettings Sample.noticeEnv.halls 3)
      (Sample.noticedPlan ++ [Sample.expect 500, Sample.submit Sample.staff Sample.secretary 1]))
      fun d => d.proposal.request.status = .submitted ∧
        d.proposal.request.expectedAttendees = some 500 ∧ ∃ vr ∈ d.proposal.venueRequest,
          vr.hallId = Sample.uid 60 ∧ vr.expectedAudience = none := by
    decide
  obtain ⟨d, hok, hst, hattendees, vr, hvr, hhall, hown⟩ := hrun
  obtain ⟨d0, h0, hpath⟩ := Sample.path_of_afterOnPostgres hok
  have hset := hpath.labels fun _ _ h => h
  have hplain := Runs.Path.of_restrict hpath
  have hreach : Dossier.Reachable (Sample.config .postgresql) d := (Runs.Reach.start h0).path hplain
  obtain ⟨v, hv, _, hcontent⟩ := hreach.frozen (.inl hst)
  refine ⟨d0, _, d, h0, hplain, hset, v, hv, fun hunder => ?_⟩
  obtain ⟨before, _, _, _, _, _, _, hpolicy⟩ := hunder
  obtain ⟨hall, hfind, hcap⟩ := (hpolicy _ hcontent vr.terms
    (congrArg (Option.map VenueRequest.terms) hvr)).capacity
  have hfits : 500 ≤ hall.capacity := by
    refine hcap 500 ?_
    show vr.expectedAudience.or d.proposal.request.expectedAttendees = some 500
    rw [hown, hattendees]
    rfl
  have hsixty : Sample.noticeEnv.halls.find? (fun h => h.id = vr.hallId) =
      some ⟨Sample.uid 60, "hall".toList, 100, true⟩ := by
    rw [hhall]
    decide
  have hsame := Option.some.inj (hsixty.symm.trans hfind)
  rw [← hsame] at hfits
  exact absurd hfits (by decide)

/-- **The notice is overtaken**: requested four days ahead, the start is moved to the next day, and the
    version is submitted. -/
theorem policy_overtaken :
    ∃ d0 requests d, Drafted d0 ∧ Runs.Path (Dossier.Step (Sample.config .postgresql)) d0 requests d ∧
      (∀ r ∈ requests, r.UnderSettings Sample.noticeEnv.halls 3) ∧
      ∃ v ∈ d.proposal.versions,
        ¬ SubmittedUnderPolicy (Sample.config .postgresql) Sample.noticeEnv.halls 3 d0 requests v := by
  have hrun : Runs.Ends (Sample.afterOnPostgres (fun _ r => r.UnderSettings Sample.noticeEnv.halls 3)
      (Sample.noticedPlan ++ [Sample.startAt 90000, Sample.submit Sample.staff Sample.secretary 1]))
      fun d => d.proposal.request.status = .submitted ∧
        ∃ vr ∈ d.proposal.venueRequest, vr.startTime = 90000 := by
    decide
  obtain ⟨d, hok, hst, vr, hvr, hstart⟩ := hrun
  obtain ⟨d0, h0, hpath⟩ := Sample.path_of_afterOnPostgres hok
  have hset := hpath.labels fun _ _ h => h
  have hplain := Runs.Path.of_restrict hpath
  have hreach : Dossier.Reachable (Sample.config .postgresql) d := (Runs.Reach.start h0).path hplain
  obtain ⟨v, hv, _, hcontent⟩ := hreach.frozen (.inl hst)
  -- whatever was taken before: a start of 90000 was set without the notice
  have hlate : ∀ before ∈ ((Sample.noticedPlan ++ [Sample.startAt 90000,
        Sample.submit Sample.staff Sample.secretary 1]).map Sample.onPostgres).inits,
      ∀ set ∈ lastSetStart before, set.start = 90000 → set.start - set.clock < 3 * 86400 := by
    decide
  refine ⟨d0, _, d, h0, hplain, hset, v, hv, fun hunder => ?_⟩
  obtain ⟨before, r, after, _, hsplit, _, _, hpolicy⟩ := hunder
  obtain ⟨set, hlast, hsame, hnotice⟩ := (hpolicy _ hcontent vr.terms
    (congrArg (Option.map VenueRequest.terms) hvr)).notice
  have hinit : before ∈ ((Sample.noticedPlan ++ [Sample.startAt 90000,
      Sample.submit Sample.staff Sample.secretary 1]).map Sample.onPostgres).inits := by
    rw [List.mem_inits, hsplit]
    exact List.prefix_append _ _
  have hbefore := hlate before hinit set hlast (hsame.trans hstart)
  exact absurd hnotice (not_le.mpr hbefore)

end CampusConnect
