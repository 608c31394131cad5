/-
  File:      CampusConnect/Guarantees/Idempotence.lean
  Subject:   IDEMPOTENT SUBMISSION: what a repeated `submit_proposal` finds, and what it does.

  * `Dossier.attempt`: a request that is refused leaves every row;
  * `retries`, `versionsUnder`: the repeated submissions of a run, and the versions a key created;
  * `Idempotent`: one version a key, and no retry changes anything;
  * `submission_idempotent`: a run is idempotent exactly when every retry still finds the proposal
    SUBMITTED under its key.
-/
import CampusConnect.Review

namespace CampusConnect

open Guarded Rows EventService

/-! ## 1. Retries -/

/-- The idempotency key a submission presents. -/
def Request.idempotencyKey : Request → Option Text
  | .review _ _ (.submitProposal _ key _) => key
  | _ => none

/-- The dossier after a request, accepted or refused. -/
def Dossier.attempt (cfg : Config) (r : Request) (d : Dossier) : Dossier :=
  match Dossier.exec cfg r d with
  | .ok d' => d'
  | .error _ => d

/-- **The retries of a key in a run**: the submissions that present it after one that presented it
    was accepted, each with the dossier it finds. -/
def retries (cfg : Config) (k : Text) : Bool → List Request → Dossier → List (Request × Dossier)
  | _, [], _ => []
  | succeeded, r :: rest, d =>
      if r.idempotencyKey = some k then
        (if succeeded then [(r, d)] else []) ++
          retries cfg k (succeeded || (Dossier.exec cfg r d).isOk) rest (Dossier.attempt cfg r d)
      else retries cfg k succeeded rest (Dossier.attempt cfg r d)

/-- The number of versions the submissions that present the key create. -/
def versionsUnder (cfg : Config) (k : Text) : List Request → Dossier → Nat
  | [], _ => 0
  | r :: rest, d =>
      (if r.idempotencyKey = some k then
        (Dossier.attempt cfg r d).proposal.versions.length - d.proposal.versions.length else 0) +
        versionsUnder cfg k rest (Dossier.attempt cfg r d)

/-- **Idempotent submission** under a key: it creates one version at most, and a retry is accepted
    and changes no row. -/
structure Idempotent (cfg : Config) (k : Text) (d : Dossier) (requests : List Request) : Prop where
  once : versionsUnder cfg k requests d ≤ 1
  retried : ∀ x ∈ retries cfg k false requests d, Dossier.exec cfg x.1 x.2 = .ok x.2

section Submissions

variable {cfg : Config} {k : Text} {r : Request} {d d' : Dossier}

theorem attempt_accepted (h : Dossier.exec cfg r d = .ok d') : Dossier.attempt cfg r d = d' := by
  unfold Dossier.attempt
  rw [h]

theorem attempt_refused {e : Failure} (h : Dossier.exec cfg r d = .error e) :
    Dossier.attempt cfg r d = d := by
  unfold Dossier.attempt
  rw [h]

theorem Request.presents (h : r.idempotencyKey = some k) : ∃ env actor summary keys,
    r = .review env actor (.submitProposal summary (some k) keys) := by
  cases r with
  | event c => cases h
  | review env actor op =>
      cases op with
      | submitProposal summary key keys => exact ⟨env, actor, summary, keys, by rw [← h]; rfl⟩
      | _ => cases h

/-- A flush of nothing leaves the dossier. -/
theorem Dossier.flushed_nothing (d : Dossier) : d.flushed d.proposal none [] = d := by
  cases d with
  | proposed p logs => simp [Dossier.flushed]
  | confirmed s => simp [Dossier.flushed, State.log]

/-- **An accepted submission** finds the proposal already submitted, or adds a version. -/
theorem submission_cases (hk : r.idempotencyKey = some k) (h : Dossier.exec cfg r d = .ok d') :
    AlreadySubmitted (some k) d.proposal.request ∧ d'.proposal = d.proposal ∨
      ∃ v, d'.proposal.versions = d.proposal.versions ++ [v] := by
  obtain ⟨env, actor, summary, keys, rfl⟩ := Request.presents hk
  simp only [Dossier.exec, bind_accepts, pure_accepts] at h
  obtain ⟨f, hf, q, hq, rfl⟩ := h
  rw [Dossier.proposal_flushed]
  rcases (submitProposal_writes hf hq).2 with ⟨ha, rfl⟩ | hs
  · exact .inl ⟨ha, rfl⟩
  · exact .inr ⟨_, hs.versions⟩

/-- A submission under the key of a proposal already submitted changes nothing. -/
theorem submission_repeated (hk : r.idempotencyKey = some k)
    (hlive : d.proposal.request.deletedAt = none)
    (ha : AlreadySubmitted (some k) d.proposal.request) : Dossier.exec cfg r d = .ok d := by
  obtain ⟨env, actor, summary, keys, rfl⟩ := Request.presents hk
  simp only [Dossier.exec, bind_accepts, pure_accepts]
  refine ⟨Flush.nothing, ?_, d.proposal, rfl, d.flushed_nothing⟩
  simp only [ReviewOp.flush, EventService.submitProposal, bind_accepts, exists_unit,
    requireProposal_accepts]
  refine ⟨hlive, ?_⟩
  rw [if_pos ha]
  rfl

/-- **A retry that changes nothing** is one that finds the proposal submitted under its key. -/
theorem submission_unchanged_iff (hk : r.idempotencyKey = some k)
    (hlive : d.proposal.request.deletedAt = none) :
    Dossier.exec cfg r d = .ok d ↔ AlreadySubmitted (some k) d.proposal.request := by
  constructor
  · intro h
    rcases submission_cases hk h with ⟨ha, _⟩ | ⟨v, hv⟩
    · exact ha
    · have hlen := congrArg List.length hv
      rw [List.length_append, List.length_singleton] at hlen
      omega
  · exact submission_repeated hk hlive

end Submissions

/-! ## 2. No proposal is deleted -/

section Live

variable {cfg : Config} {r : Request} {d d' : Dossier}

theorem ReviewStep.deletedAt {env : ReviewEnv} {actor : User} {op : ReviewOp} {p q : Proposal}
    (h : ReviewStep env actor p op q) : q.request.deletedAt = p.request.deletedAt := by
  cases h with
  | submitted summary key keys q h => rw [h.request]; rfl
  | approved stepId comments newBookingId newEventId step inst q hd h => rw [h.request]
  | rejected stepId comments step inst q hd h => rw [h.request]
  | _ => rfl

theorem withdrawn_deletedAt (p : Proposal) :
    (EventService.withdrawn p).request.deletedAt = p.request.deletedAt := by
  have hflow : (cancelWorkflow p).request = p.request := by
    unfold cancelWorkflow
    cases activeInstance p <;> rfl
  show (releaseHall (cancelWorkflow p)).request.deletedAt = p.request.deletedAt
  rw [releaseHall_eq, ← hflow]

theorem Effect.deletedAt {s s' : State} {m : Move} (h : Effect cfg s m s') :
    s'.proposal.request.deletedAt = s.proposal.request.deletedAt := by
  cases h with
  | settlement m s' h => cases h <;> rfl
  | cancellation s' h =>
      cases h with
      | proposal entries hfrom => exact withdrawn_deletedAt s.proposal
      | event event advance entries hfrom hid hreq hver hst hpend hadv =>
          exact congrArg (fun p => p.request.deletedAt) (releaseHall_eq s.proposal)
  | closeout m s' h => cases h <;> rfl
  | _ => rfl

/-- The row of the proposal is never deleted. -/
def Dossier.Live (d : Dossier) : Prop := d.proposal.request.deletedAt = none

theorem Dossier.Live.step (h : d.Live) (hstep : Dossier.Step cfg d r d') : d'.Live := by
  unfold Dossier.Live
  cases hstep.traced with
  | review env actor op d q entries hq =>
      rw [Dossier.proposal_flushed, hq.deletedAt]
      exact h
  | withdrawn c p logs entries hst => exact (withdrawn_deletedAt p).trans h
  | event c s s' hs =>
      obtain ⟨a, _, heff⟩ := hs.entered
      exact heff.deletedAt.trans h

theorem Dossier.Live.attempt (h : d.Live) : (Dossier.attempt cfg r d).Live := by
  cases hr : Dossier.exec cfg r d with
  | ok d' =>
      rw [attempt_accepted hr]
      exact h.step hr
  | error e =>
      rw [attempt_refused hr]
      exact h

theorem Drafted.live (h : Drafted d) : d.Live := by
  obtain ⟨request, logs, rfl, _, _, _, hlive⟩ := h.row
  exact hlive

end Live

/-! ## 3. Every run -/

section Runs

variable {cfg : Config} {k : Text} {requests : List Request} {d : Dossier}

/-- The retries of a run see the rows of live proposals. By induction on the run. -/
theorem retries_live {succeeded : Bool} (h : d.Live) :
    ∀ x ∈ retries cfg k succeeded requests d, x.1.idempotencyKey = some k ∧ x.2.Live := by
  induction requests generalizing d succeeded with
  | nil =>
      intro x hx
      cases hx
  | cons r rest ih =>
      intro x hx
      unfold retries at hx
      by_cases hk : r.idempotencyKey = some k
      · rw [if_pos hk] at hx
        rcases List.mem_append.mp hx with hhere | hlater
        · by_cases hs : succeeded = true
          · rw [if_pos hs, List.mem_singleton] at hhere
            rw [hhere]
            exact ⟨hk, h⟩
          · rw [if_neg hs] at hhere
            cases hhere
        · exact ih h.attempt x hlater
      · rw [if_neg hk] at hx
        exact ih h.attempt x hx

/-- When no retry changes anything, nothing is created after the first success. -/
theorem versionsUnder_retried (h : ∀ x ∈ retries cfg k true requests d,
    Dossier.exec cfg x.1 x.2 = .ok x.2) : versionsUnder cfg k requests d = 0 := by
  induction requests generalizing d with
  | nil => rfl
  | cons r rest ih =>
      unfold retries at h
      unfold versionsUnder
      by_cases hk : r.idempotencyKey = some k
      · rw [if_pos hk, if_pos rfl, Bool.true_or] at h
        have hsame : Dossier.attempt cfg r d = d :=
          attempt_accepted (h (r, d) (List.mem_append_left _ (List.mem_singleton_self _)))
        rw [if_pos hk, ih fun x hx => h x (List.mem_append_right _ hx), hsame, Nat.sub_self]
      · rw [if_neg hk] at h ⊢
        rw [ih h]

/-- **One version a key**, when no retry changes anything. -/
theorem versionsUnder_le_one (h : ∀ x ∈ retries cfg k false requests d,
    Dossier.exec cfg x.1 x.2 = .ok x.2) : versionsUnder cfg k requests d ≤ 1 := by
  induction requests generalizing d with
  | nil => exact Nat.zero_le 1
  | cons r rest ih =>
      unfold retries at h
      unfold versionsUnder
      by_cases hk : r.idempotencyKey = some k
      · rw [if_pos hk] at h ⊢
        have hlater := fun x hx => h x (List.mem_append_right _ hx)
        cases hr : Dossier.exec cfg r d with
        | error e =>
            -- a refused submission creates nothing, and the next one is no retry
            rw [hr, Bool.false_or] at hlater
            have hrest := ih hlater
            rw [attempt_refused hr, Nat.sub_self, Nat.zero_add, ← attempt_refused hr]
            exact hrest
        | ok d' =>
            rw [hr, Bool.false_or] at hlater
            have hnone : versionsUnder cfg k rest (Dossier.attempt cfg r d) = 0 :=
              versionsUnder_retried hlater
            rw [hnone, attempt_accepted hr]
            rcases submission_cases hk hr with ⟨_, hsame⟩ | ⟨v, hv⟩
            · rw [hsame, Nat.sub_self]
              exact Nat.zero_le 1
            · rw [hv, List.length_append, List.length_singleton]
              omega
      · rw [if_neg hk] at h ⊢
        rw [Nat.zero_add]
        exact ih h

end Runs

/-- **A run is idempotent under a key** exactly when each retry finds the proposal SUBMITTED, under the
    key it presents. -/
theorem submission_idempotent {cfg : Config} {d : Dossier} (h0 : Drafted d) (k : Text)
    (requests : List Request) : Idempotent cfg k d requests ↔
      ∀ x ∈ retries cfg k false requests d, AlreadySubmitted (some k) x.2.proposal.request := by
  constructor
  · intro h x hx
    obtain ⟨hk, hlive⟩ := retries_live h0.live x hx
    exact (submission_unchanged_iff hk hlive).mp (h.retried x hx)
  · intro h
    have hretried : ∀ x ∈ retries cfg k false requests d, Dossier.exec cfg x.1 x.2 = .ok x.2 := by
      intro x hx
      obtain ⟨hk, hlive⟩ := retries_live h0.live x hx
      exact submission_repeated hk hlive (h x hx)
    exact ⟨versionsUnder_le_one hretried, hretried⟩

namespace Sample

def key : Text := "key".toList

/-- The `n`-th submission, under the key. -/
def submitKey (n : Nat) : Request :=
  .review (reviewEnv staff) secretary (.submitProposal none (some key)
    { version := uid (100 + n), inst := uid (200 + n), step := fun i => uid (300 + 10 * n + i) })

end Sample

/-- The sample proposal is submitted and the submission retried at once: one version, one retry. -/
theorem submission_idempotent_retried :
    ∃ d0, Drafted d0 ∧ (retries (Sample.config .sqlite) Sample.key false
        (Sample.plan ++ [Sample.submitKey 1, Sample.submitKey 2]) d0).length = 1 ∧
      Idempotent (Sample.config .sqlite) Sample.key d0
        (Sample.plan ++ [Sample.submitKey 1, Sample.submitKey 2]) := by
  have hrun : Runs.Ends Sample.draft fun d0 =>
      (retries (Sample.config .sqlite) Sample.key false
        (Sample.plan ++ [Sample.submitKey 1, Sample.submitKey 2]) d0).length = 1 ∧
      ∀ x ∈ retries (Sample.config .sqlite) Sample.key false
        (Sample.plan ++ [Sample.submitKey 1, Sample.submitKey 2]) d0,
        AlreadySubmitted (some Sample.key) x.2.proposal.request := by
    decide
  obtain ⟨d0, hd0, hlen, hall⟩ := hrun
  have h0 : Drafted d0 := ⟨_, _, _, _, hd0⟩
  exact ⟨d0, h0, hlen, (submission_idempotent h0 _ _).mpr hall⟩

/-- A revision is requested before the retry, which submits a second version. -/
theorem retry_submits_again :
    ∃ d0, Drafted d0 ∧ versionsUnder (Sample.config .sqlite) Sample.key
        (Sample.plan ++ [Sample.submitKey 1, Sample.revise Sample.advisor 1 1, Sample.submitKey 2])
        d0 = 2 ∧
      ¬ Idempotent (Sample.config .sqlite) Sample.key d0
        (Sample.plan ++
          [Sample.submitKey 1, Sample.revise Sample.advisor 1 1, Sample.submitKey 2]) := by
  have hrun : Runs.Ends Sample.draft fun d0 => versionsUnder (Sample.config .sqlite) Sample.key
      (Sample.plan ++ [Sample.submitKey 1, Sample.revise Sample.advisor 1 1, Sample.submitKey 2])
      d0 = 2 := by
    decide
  obtain ⟨d0, hd0, htwo⟩ := hrun
  refine ⟨d0, ⟨_, _, _, _, hd0⟩, htwo, fun h => ?_⟩
  have hone := h.once
  omega

end CampusConnect
