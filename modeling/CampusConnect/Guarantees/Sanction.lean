/-
  File:      CampusConnect/Guarantees/Sanction.lean
  Subject:   The sanctioned budget: which version the event of a proposal names, and what the
             settlement reads from it.

  * `decimalOf`, `decimalOf_fixed2`: the decoding of the strings a snapshot keeps its figures in;
  * `resolve_submitted`: the settlement reads the figures of the rows a snapshot was taken from;
  * `Named`, `Traced.named`: the event names the current version, over every run;
  * `sanction_is_approved`: the law.
-/
import CampusConnect.Guarantees.Frozen

namespace CampusConnect

open Guarded Rows EventService WorkflowService SettlementService

/-! ## 1. The strings -/

/-- The hundredths in a text of digits with two decimals. -/
def unsignedDecimal (t : Text) : Option Nat :=
  match t.reverse with
  | d :: c :: '.' :: rest =>
      if (rest.reverse ++ [c, d]).all Char.isDigit then
        some (Nat.ofDigitChars 10 (rest.reverse ++ [c, d]) 0)
      else none
  | _ => none

/-- `Decimal(text)`, in hundredths, for a text with two decimals. -/
def decimalOf : Text → Option Int
  | '-' :: t => (unsignedDecimal t).map Int.negOfNat
  | t => (unsignedDecimal t).map Int.ofNat

theorem unsignedDecimal_digits (n : Nat) :
    unsignedDecimal (Nat.toDigits 10 (n / 100) ++
      ['.', Nat.digitChar (n / 10 % 10), Nat.digitChar (n % 10)]) = some n := by
  have hten : n / 10 % 10 < 10 := Nat.mod_lt _ (by omega)
  have hone : n % 10 < 10 := Nat.mod_lt _ (by omega)
  have hdigits : (Nat.toDigits 10 (n / 100) ++
      [Nat.digitChar (n / 10 % 10), Nat.digitChar (n % 10)]).all Char.isDigit = true := by
    rw [List.all_append, Bool.and_eq_true]
    refine ⟨List.all_eq_true.mpr fun c hc => ?_, ?_⟩
    · exact Nat.isDigit_of_mem_toDigits (by omega) (by omega) hc
    · have hdigit : ∀ i : Fin 10, (Nat.digitChar i).isDigit = true := by decide
      simp only [List.all_cons, List.all_nil, Bool.and_true, Bool.and_eq_true]
      exact ⟨hdigit ⟨_, hten⟩, hdigit ⟨_, hone⟩⟩
  unfold unsignedDecimal
  simp only [List.reverse_append, List.reverse_cons, List.reverse_nil, List.nil_append,
    List.cons_append, List.reverse_reverse]
  rw [if_pos hdigits, Nat.ofDigitChars_append, Nat.ofDigitChars_ten_toDigits,
    Nat.ofDigitChars_cons_digitChar_of_lt_ten hten, Nat.ofDigitChars_cons_digitChar_of_lt_ten hone,
    Nat.ofDigitChars_nil]
  congr 1
  omega

/-- **The round trip of an amount**, zero included. -/
theorem decimalOf_fixed2 (c : Int) : decimalOf (fixed2 c) = some c := by
  unfold fixed2
  by_cases hneg : c < 0
  · rw [if_pos hneg, List.append_assoc, List.singleton_append]
    show (unsignedDecimal _).map Int.negOfNat = some c
    rw [unsignedDecimal_digits, Option.map_some, Int.negOfNat_eq]
    refine congrArg some ?_
    show -(c.natAbs : Int) = c
    omega
  · rw [if_neg hneg, List.nil_append]
    have hunsigned : ∀ t : Text, (∀ u, t ≠ '-' :: u) →
        decimalOf t = (unsignedDecimal t).map Int.ofNat := by
      intro t ht
      unfold decimalOf
      split
      · exact (ht _ rfl).elim
      · rfl
    rw [hunsigned, unsignedDecimal_digits, Option.map_some]
    · refine congrArg some ?_
      show (c.natAbs : Int) = c
      omega
    · intro u hu
      cases hd : Nat.toDigits 10 (c.natAbs / 100) with
      | nil =>
          rw [hd] at hu
          cases hu
      | cons d ds =>
          rw [hd, List.cons_append] at hu
          obtain ⟨rfl, _⟩ := List.cons.inj hu
          exact toDigits_ne_sign hd

/-- A figure written as text is the string of its amount: never empty, and read back as it is. -/
theorem figure_text (c : Int) :
    decimalOf (fixed2 c) = some (Figure.text c).decimal ∧
      ((Figure.text c).truthy = true ↔ fixed2 c ≠ []) := by
  refine ⟨decimalOf_fixed2 c, fun _ he => ?_, fun _ => rfl⟩
  have hdec := decimalOf_fixed2 c
  rw [he] at hdec
  cases hdec

/-! ## 2. What the settlement reads -/

theorem latestVersion_eq_none {versions : List EventRequestVersion}
    (h : latestVersion versions = none) : versions = [] := by
  cases versions with
  | nil => rfl
  | cons v rest =>
      unfold latestVersion at h
      cases hl : latestVersion rest with
      | none =>
          rw [hl] at h
          cases h
      | some w =>
          rw [hl] at h
          by_cases hge : v.versionNumber ≥ w.versionNumber
          · simp only [if_pos hge] at h
            cases h
          · simp only [if_neg hge] at h
            cases h

/-- The latest version is one of the highest number. -/
theorem latestVersion_max {versions : List EventRequestVersion} {v : EventRequestVersion}
    (h : latestVersion versions = some v) :
    v ∈ versions ∧ ∀ w ∈ versions, w.versionNumber ≤ v.versionNumber := by
  induction versions generalizing v with
  | nil => cases h
  | cons x rest ih =>
      unfold latestVersion at h
      cases hl : latestVersion rest with
      | none =>
          rw [hl] at h
          cases h
          rw [latestVersion_eq_none hl]
          refine ⟨List.mem_cons_self .., fun w hw => ?_⟩
          rw [List.mem_singleton.mp hw]
      | some y =>
          rw [hl] at h
          obtain ⟨hy, hmax⟩ := ih hl
          by_cases hge : x.versionNumber ≥ y.versionNumber
          · simp only [if_pos hge] at h
            cases h
            refine ⟨List.mem_cons_self .., fun w hw => ?_⟩
            rcases List.mem_cons.mp hw with rfl | hw
            · exact Nat.le_refl _
            · exact (hmax w hw).trans hge
          · simp only [if_neg hge] at h
            cases h
            refine ⟨List.mem_cons_of_mem _ hy, fun w hw => ?_⟩
            rcases List.mem_cons.mp hw with rfl | hw
            · omega
            · exact hmax w hw

/-- The version of the current number is the latest one. -/
theorem Standing.latest {p : Proposal} (h : Standing p) {v : EventRequestVersion}
    (hv : v ∈ p.versions) (hn : v.versionNumber = p.request.currentVersion) :
    latestVersion p.versions = some v := by
  cases hl : latestVersion p.versions with
  | none =>
      rw [latestVersion_eq_none hl] at hv
      cases hv
  | some w =>
      obtain ⟨hw, hmax⟩ := latestVersion_max hl
      have hbound := h.version_bounds hw
      have hge := hmax v hv
      exact congrArg some (h.version_unique hw hv (by omega))

/-- **The settlement reads the figures of the rows a version was taken from.** -/
theorem resolve_submitted {s : State} {v : EventRequestVersion} {env : Env} {actor : User} {n : Nat}
    {p : Proposal} {bp : BudgetProposal}
    (hfind : s.proposal.versions.find? (fun w => w.id = s.event.approvedVersionId) = some v)
    (hsnap : v.snapshot = some (proposalSnapshot env actor n p))
    (hbp : p.budgetProposal = some bp) :
    resolveSanctionedSnapshot s = .ok
      { approvedVersionId := v.id
        grant := bp.instituteContribution
        expenditure := bp.totalExpectedExpenditure
        expectedIncome := bp.expectedIncome } := by
  have hbudget : (proposalSnapshot env actor n p).budget = some (budgetSnapshot bp) := by
    unfold proposalSnapshot
    rw [hbp]
    rfl
  unfold resolveSanctionedSnapshot
  simp only [hfind, hsnap, Option.bind_some, Option.map_some, hbudget]
  rfl

/-! ## 3. The version an event names -/

/-- The event names the current version, and no other version has its key. -/
structure Named (d : Dossier) : Prop where
  keys : (d.proposal.versions.map EventRequestVersion.id).Nodup
  current : ∀ e, d.event = some e → ∃ v ∈ d.proposal.versions,
    v.id = e.approvedVersionId ∧ v.versionNumber = d.proposal.request.currentVersion

section Steps

variable {cfg : Config} {d d' : Dossier} {r : Request}

/-- The event of an accepted operation names the latest version, if there is one. -/
theorem ReviewOp.creates_version {env : ReviewEnv} {actor : User} {existing : Option Event}
    {p : Proposal} {op : ReviewOp} {e : Event} {v : EventRequestVersion}
    (h : op.creates env actor existing p = some e) (hv : latestVersion p.versions = some v) :
    e.approvedVersionId = v.id := by
  obtain ⟨newId, rfl⟩ := ReviewOp.creates_some h
  show ((latestVersion p.versions).map EventRequestVersion.id).getD _ = _
  rw [hv]
  rfl

/-- A call on the event leaves the version it names. -/
theorem Step.version {s s' : State} {c : Call} (h : CampusConnect.Step cfg s c s') :
    s'.event.approvedVersionId = s.event.approvedVersionId := by
  obtain ⟨a, _, heff⟩ := h.entered
  generalize c.op.move = m at heff
  cases heff with
  | settlement m s' hstep => cases hstep <;> rfl
  | cancellation s' hstep =>
      cases hstep with
      | proposal entries hfrom => rfl
      | event event advance entries hfrom hid hreq hver hst hpend hadv => exact hver
  | closeout m s' hstep => cases hstep <;> rfl
  | _ => rfl

theorem ReviewStep.keys {env : ReviewEnv} {actor : User} {p q : Proposal} {op : ReviewOp}
    (hs : ReviewStep env actor p op q) (h : (p.versions.map EventRequestVersion.id).Nodup) :
    (q.versions.map EventRequestVersion.id).Nodup := by
  cases hs with
  | submitted summary key keys _ hsub =>
      rw [hsub.versions, List.map_append]
      refine List.nodup_append.mpr ⟨h, List.nodup_singleton _, ?_⟩
      intro a ha b hb he
      obtain ⟨v, hv, rfl⟩ := List.mem_map.mp ha
      rw [List.map_singleton, List.mem_singleton] at hb
      exact hsub.freshVersion v hv (he.trans hb)
  | approved stepId comments newBookingId newEventId step inst _ hd happ =>
      rw [happ.versions]
      exact h
  | rejected stepId comments step inst _ hd hrej =>
      rw [hrej.versions]
      exact h
  | _ => exact h

/-- **The step lemma.** -/
theorem Traced.named (hin : InStanding d) (h : Named d) (hs : Traced cfg d r d') : Named d' := by
  cases hs with
  | review env actor op d q entries hstep =>
      refine ⟨?_, fun e he => ?_⟩
      · rw [Dossier.proposal_flushed]
        exact hstep.keys h.keys
      · rw [Dossier.proposal_flushed]
        rw [Dossier.event_flushed] at he
        cases hev : d.event with
        | some e0 =>
            -- there is an event: the operation only verifies the budget
            rw [hev, Option.some_or] at he
            cases he
            have hended : d.proposal.request.status.Ended :=
              .inl (hin.event.mpr fun hn => by rw [hev] at hn; cases hn)
            obtain ⟨verificationIn, bp, _, _, rfl⟩ := hstep.of_ended hin.rows hended
            exact h.current e hev
        | none =>
            rw [hev, Option.none_or] at he
            cases hstep with
            | approved stepId comments newBookingId newEventId step inst _ hd happ =>
                have hat := hin.rows.deciding hd
                have hpos := (hin.rows.instance_bounds hat.instMem)
                have hmem : d.proposal.request.currentVersion ∈
                    d.proposal.versions.map EventRequestVersion.versionNumber := by
                  rw [hin.rows.versions, List.mem_range'_1]
                  omega
                obtain ⟨v, hv, hn⟩ := List.mem_map.mp hmem
                have hname := ReviewOp.creates_version he (hin.rows.latest hv hn)
                refine ⟨v, ?_, hname.symm, ?_⟩
                · rw [happ.versions]
                  exact hv
                · rw [happ.request]
                  exact hn
            | _ => cases he
  | withdrawn c p logs entries hcan =>
      refine ⟨?_, fun e he => nomatch he⟩
      rw [Dossier.proposal_proposed, (withdrawn_rows p).1]
      exact h.keys
  | event c s s' hstep =>
      obtain ⟨booking, hrows⟩ := hin.event_rows hstep
      have hvers : s'.proposal.versions = s.proposal.versions := by rw [hrows]
      have hreq : s'.proposal.request = s.proposal.request := by rw [hrows]
      refine ⟨?_, fun e he => ?_⟩
      · rw [Dossier.proposal_confirmed, hvers]
        exact h.keys
      · cases he
        obtain ⟨v, hv, hid, hn⟩ := h.current s.event rfl
        refine ⟨v, ?_, hid.trans hstep.version.symm, ?_⟩
        · rw [Dossier.proposal_confirmed, hvers]
          exact hv
        · rw [Dossier.proposal_confirmed, hreq]
          exact hn

theorem Drafted.named (h : Drafted d) : Named d := by
  obtain ⟨request, logs, rfl, _⟩ := h.row
  exact ⟨List.nodup_nil, fun e he => nomatch he⟩

theorem Dossier.Reachable.named (h : Dossier.Reachable cfg d) : Named d :=
  Runs.Reach.invariant_given (fun _ hr => Dossier.Reachable.inStanding hr)
    (fun _ h0 => h0.named) (fun _ _ _ hin hn hs => hs.traced.named hin hn) h

/-! ## 4. The law -/

/-- The version the event names is the one its key finds. -/
theorem Named.find {s : State} {v : EventRequestVersion} (h : Named (.confirmed s))
    (hv : v ∈ s.proposal.versions) (hid : v.id = s.event.approvedVersionId) :
    s.proposal.versions.find? (fun w => w.id = s.event.approvedVersionId) = some v := by
  have hsome : (s.proposal.versions.find?
      (fun w => w.id = s.event.approvedVersionId)).isSome = true :=
    List.find?_isSome.mpr ⟨v, hv, by rw [decide_eq_true_eq]; exact hid⟩
  obtain ⟨w, hw⟩ := Option.isSome_iff_exists.mp hsome
  have hwid := List.find?_some hw
  rw [decide_eq_true_eq] at hwid
  rw [hw]
  exact congrArg some (List.inj_on_of_nodup_map h.keys (List.mem_of_find?_eq_some hw) hv
    (hwid.trans hid.symm))

/-- The request writes the version, taken from the rows of the dossier. -/
def Request.Submits (v : EventRequestVersion) (d : Dossier) : Request → Prop
  | .review env actor (.submitProposal summary _ keys) =>
      v = submittedVersion env.toEnv actor summary keys.version d.proposal
  | _ => False

/-- A version of the last state was written by a request of the run, and has been there since. -/
theorem Dossier.version_submitted {d0 : Dossier} {requests : List Request} (h0 : Drafted d0)
    (hp : Runs.Path (Dossier.Step cfg) d0 requests d) {v : EventRequestVersion}
    (hv : v ∈ d.proposal.versions) :
    Runs.SetAndKept (Dossier.Step cfg) (fun e r => r.Submits v e)
      (fun e => v ∈ e.proposal.versions) d0 requests d := by
  refine Runs.Path.setAndKept (J := InStanding) (P := fun e => v ∈ e.proposal.versions)
    (fun e r e' he hs => he.step hs.traced) ?_ hp h0.inStanding ?_ hv
  · intro e r e' he hs hm
    rcases hs.traced.version_origin he hm with hold | ⟨env, actor, summary, key, keys, rfl, _, rfl⟩
    · exact .inr ⟨hold, propext ⟨fun _ => hold, fun _ => hm⟩⟩
    · exact .inl rfl
  · intro hm
    rw [h0.versions] at hm
    cases hm

/-- **The settled budget is the approved one.** At the end of every run, the version the event of a
    proposal names is the one every step of its COMPLETED instance reviewed; and the settlement reads
    from it the three figures the proposal had when that version was submitted. -/
theorem sanction_is_approved (cfg : Config) {d0 : Dossier} {s : State} {requests : List Request}
    (h0 : Drafted d0) (hp : Runs.Path (Dossier.Step cfg) d0 requests (.confirmed s)) :
    (∃ v ∈ s.proposal.versions, v.id = s.event.approvedVersionId ∧
      (∃ i ∈ s.proposal.instances, i.status = .completed) ∧
      (∀ i ∈ s.proposal.instances, i.status = .completed → i.versionNumber = v.versionNumber ∧
        ∀ st ∈ s.proposal.steps, st.instanceId = i.id →
          st.versionReviewed = some v.versionNumber) ∧
      Runs.SetAndKept (Dossier.Step cfg)
        (fun e r => r.Submits v e ∧ ∀ bp, e.proposal.budgetProposal = some bp →
          resolveSanctionedSnapshot s = .ok
            { approvedVersionId := v.id
              grant := bp.instituteContribution
              expenditure := bp.totalExpectedExpenditure
              expectedIncome := bp.expectedIncome })
        (fun e => v ∈ e.proposal.versions) d0 requests (.confirmed s)) ∧
    ∀ c : Int, decimalOf (fixed2 c) = some (Figure.text c).decimal ∧
      ((Figure.text c).truthy = true ↔ fixed2 c ≠ []) := by
  refine ⟨?_, figure_text⟩
  have hreach : Dossier.Reachable cfg (.confirmed s) := Runs.Reach.path (.start h0) hp
  have hin := hreach.inStanding
  have hnamed := hreach.named
  have happ : s.proposal.request.status = .approved := hin.approved
  obtain ⟨v, hv, hid, hn⟩ := hnamed.current s.event rfl
  have hfind := hnamed.find hv hid
  refine ⟨v, hv, hid, ?_, ?_, ?_⟩
  · obtain ⟨i, hi, _, hst⟩ := hin.rows.approved happ
    exact ⟨i, hi, hst⟩
  · intro i hi hst
    have hnum : i.versionNumber = v.versionNumber := by
      rw [hin.rows.current i hi (hin.rows.completed i hi hst).1]
      exact hn.symm
    refine ⟨hnum, fun st hstm hown => ?_⟩
    rw [← hnum]
    exact hin.rows.reviewed st hstm i hi hown.symm
  · obtain ⟨before, r, after, t, u, hsplit, hbefore, hr, hsub, hafter⟩ :=
      Dossier.version_submitted h0 hp hv
    refine ⟨before, r, after, t, u, hsplit, hbefore, hr, ⟨hsub, fun bp hbp => ?_⟩, hafter⟩
    cases r with
    | review env actor op =>
        cases op with
        | submitProposal summary key keys =>
            have hver : v = submittedVersion env.toEnv actor summary keys.version t.proposal := hsub
            have hsnap : v.snapshot = some (proposalSnapshot env.toEnv actor
                (t.proposal.request.currentVersion + 1) t.proposal) :=
              congrArg EventRequestVersion.snapshot hver
            exact resolve_submitted hfind hsnap hbp
        | _ => exact hsub.elim
    | event c => exact hsub.elim

/-- The sample proposal, whose budget expects no income, approved in its second version. -/
theorem sanction_is_approved_sample :
    ∃ s, Dossier.Reachable (Sample.config .sqlite) (.confirmed s) ∧
      s.proposal.request.currentVersion = 2 ∧
      ∃ v ∈ s.proposal.versions, v.id = s.event.approvedVersionId ∧
        ∀ i ∈ s.proposal.instances, i.status = .completed →
          i.versionNumber = v.versionNumber ∧
            ∀ st ∈ s.proposal.steps, st.instanceId = i.id →
              st.versionReviewed = some v.versionNumber := by
  have hrun : Runs.Ends (Sample.after (Sample.plan ++ [Sample.submit Sample.staff Sample.secretary 1,
      Sample.revise Sample.advisor 1 1,
      Sample.review Sample.secretary (.updateBudgetProposal { instituteContribution := some 0 }),
      Sample.submit Sample.staff Sample.secretary 2] ++ Sample.approveAll 2)) fun d =>
      d.event ≠ none ∧ d.proposal.request.currentVersion = 2 := by
    decide
  obtain ⟨d, hok, hev, hver⟩ := hrun
  obtain ⟨d0, h0, hpath⟩ := Sample.path_of_after hok
  cases d with
  | proposed p logs => exact (hev rfl).elim
  | confirmed s =>
      obtain ⟨⟨v, hv, hid, _, hall, _⟩, _⟩ := sanction_is_approved (Sample.config .sqlite) h0 hpath
      exact ⟨s, Runs.Reach.path (.start h0) hpath, hver, v, hv, hid, hall⟩

end Steps

end CampusConnect
