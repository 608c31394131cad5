/-
  File:      CampusConnect/Guarantees/Expenses.lean
  Subject:   The STATE OF AN EXPENSE: which amounts go with which status, over every run.

  * `ExpenseSound`: the amounts and the verifier of a row, by its status;
  * `ExpenseChange`, `Op.expense_rows`: where the rows an accepted call leaves come from;
  * `expense_state_invariant`: every row of every reachable event is sound, a decided row is
    claimed = verified + disallowed, and no further run changes or deletes it.
-/
import CampusConnect.Guarantees.Duties

namespace CampusConnect

open Guarded Rows ExpenseService

/-! ## 1. The amounts of a row -/

/-- **The amounts that go with a status.** -/
structure ExpenseSound (e : ActualExpense) : Prop where
  verified : e.status = .verified → e.verifiedAmount = some e.claimedAmount
  partiallyVerified : e.status = .partiallyVerified →
    ∃ v, e.verifiedAmount = some v ∧ 0 < v ∧ v < e.claimedAmount
  disallowed : e.status = .disallowed → e.verifiedAmount = some 0
  undecided : ¬ e.Decided → e.verifiedAmount = none ∧ e.verifiedBy = none

/-- A decided row has a verified amount. -/
theorem ExpenseSound.decided {e : ActualExpense} (h : ExpenseSound e) (hdec : e.Decided) :
    ∃ v, e.verifiedAmount = some v := by
  rcases hdec with hst | hst | hst
  · exact ⟨_, h.verified hst⟩
  · obtain ⟨v, hv, _⟩ := h.partiallyVerified hst
    exact ⟨v, hv⟩
  · exact ⟨_, h.disallowed hst⟩

/-- **Nothing of a decided claim is lost**: what is not verified is disallowed. -/
theorem ExpenseSound.claimed {e : ActualExpense} (h : ExpenseSound e) (hcheck : e.Check)
    (hdec : e.Decided) :
    ∃ v, e.verifiedAmount = some v ∧ e.claimedAmount = v + e.disallowedAmount := by
  obtain ⟨v, hv⟩ := h.decided hdec
  have hle : v ≤ e.claimedAmount := (hcheck.2 v hv).2
  have hdis : e.disallowedAmount = e.claimedAmount - v := by
    unfold ActualExpense.disallowedAmount
    rw [if_pos hdec, hv, Option.getD_some]
    omega
  refine ⟨v, hv, ?_⟩
  rw [hdis]
  omega

/-! ## 2. Where a row comes from -/

/-- A row no decision has been made on, with the amount and the verifier of `old`. -/
structure StillOpen (old e : ActualExpense) : Prop where
  undecided : ¬ old.Decided
  after : ¬ e.Decided
  amount : e.verifiedAmount = old.verifiedAmount
  verifier : e.verifiedBy = old.verifiedBy

/-- **Where the rows of a table come from** that an accepted call leaves. -/
inductive ExpenseChange (rows : Table ActualExpense) (e : ActualExpense) : Prop where
  | same (hold : e ∈ rows)
  | drafted (hst : e.status = .draft) (hamt : e.verifiedAmount = none)
      (hby : e.verifiedBy = none)
  | reworked (old : ActualExpense) (hold : old ∈ rows) (hopen : StillOpen old e)
  | verified (hst : e.status = .verified) (hamt : e.verifiedAmount = some e.claimedAmount)
  | partiallyVerified (v : Int) (hst : e.status = .partiallyVerified)
      (hamt : e.verifiedAmount = some v) (hpos : 0 < v) (hlt : v < e.claimedAmount)
  | disallowed (hst : e.status = .disallowed) (hamt : e.verifiedAmount = some 0)

section Changes

variable {cfg : Config} {env : Env} {actor : User} {s s' : State}

theorem not_decided_of_editable {e : ActualExpense} (h : Editable e) : ¬ e.Decided :=
  fun hdec => hdec.not_editable h

/-- **The step lemma**: a row from a sound table is sound. -/
theorem ExpenseChange.sound {rows : Table ActualExpense} {e : ActualExpense}
    (h : ExpenseChange rows e) (hrows : ∀ old ∈ rows, ExpenseSound old) : ExpenseSound e := by
  cases h with
  | same hold => exact hrows e hold
  | drafted hst hamt hby =>
      refine ⟨?_, ?_, ?_, fun _ => ⟨hamt, hby⟩⟩
      · intro h
        rw [hst] at h
        cases h
      · intro h
        rw [hst] at h
        cases h
      · intro h
        rw [hst] at h
        cases h
  | reworked old hold hopen =>
      obtain ⟨hamt, hby⟩ := (hrows old hold).undecided hopen.undecided
      refine ⟨?_, ?_, ?_, fun _ => ⟨hopen.amount.trans hamt, hopen.verifier.trans hby⟩⟩
      · exact fun h => (hopen.after (.inl h)).elim
      · exact fun h => (hopen.after (.inr (.inl h))).elim
      · exact fun h => (hopen.after (.inr (.inr h))).elim
  | verified hst hamt =>
      refine ⟨fun _ => hamt, ?_, ?_, fun hnot => (hnot (.inl hst)).elim⟩
      · intro h
        rw [hst] at h
        cases h
      · intro h
        rw [hst] at h
        cases h
  | partiallyVerified v hst hamt hpos hlt =>
      refine ⟨?_, fun _ => ⟨v, hamt, hpos, hlt⟩, ?_, fun hnot => (hnot (.inr (.inl hst))).elim⟩
      · intro h
        rw [hst] at h
        cases h
      · intro h
        rw [hst] at h
        cases h
  | disallowed hst hamt =>
      refine ⟨?_, ?_, fun _ => hamt, fun hnot => (hnot (.inr (.inr hst))).elim⟩
      · intro h
        rw [hst] at h
        cases h
      · intro h
        rw [hst] at h
        cases h

theorem createDraftExpense_rows {newId : Uuid} {payload : ActualExpenseCreate}
    (h : createDraftExpense cfg env actor newId payload s = .ok s') :
    ∀ e ∈ s'.expenses, ExpenseChange s.expenses e := by
  simp only [createDraftExpense, bind_accepts, fetch_accepts, exists_unit, pure_accepts] at h
  obtain ⟨_, _, _, _, _, ⟨flagged, notes⟩, _, t, hins, rfl⟩ := h
  intro e he
  rcases (Table.mem_insert hins).mp he with hold | rfl
  · exact .same hold
  · exact .drafted rfl rfl rfl

theorem updateExpense_rows {id : Uuid} {payload : ActualExpenseUpdate}
    (h : updateExpense cfg env actor id payload s = .ok s') :
    ∀ e ∈ s'.expenses, ExpenseChange s.expenses e := by
  simp only [updateExpense, bind_accepts, fetch_accepts, exists_unit, pure_accepts,
    refuse_accepts] at h
  obtain ⟨_, _, old, hfind, hterm, _, _, ⟨flagged, notes⟩, _, t, hrep, rfl⟩ := h
  intro e he
  rcases Table.mem_replace hrep he with rfl | hold
  · -- an edit leaves the status, the verified amount and the verifier
    exact .reworked old (Table.mem_of_find hfind) ⟨hterm, hterm, rfl, rfl⟩
  · exact .same hold.1

theorem deleteDraftExpense_rows {id : Uuid} (h : deleteDraftExpense env actor id s = .ok s') :
    ∀ e ∈ s'.expenses, ExpenseChange s.expenses e := by
  obtain ⟨_, _, _, _, _, rfl⟩ := deleteDraftExpense_accepts.mp h
  intro e he
  exact .same (Table.mem_erase.mp he).1

theorem submitExpenses_rows {ids : Option (List Uuid)}
    (h : submitExpenses env actor ids s = .ok s') :
    ∀ e ∈ s'.expenses, ExpenseChange s.expenses e := by
  simp only [submitExpenses, bind_accepts, exists_unit, pure_accepts, refuse_accepts] at h
  obtain ⟨_, _, _, _, rfl⟩ := h
  intro e he
  have hmem : e ∈ s.expenses.rows.map (submitRow env.now actor.id ids) := he
  obtain ⟨old, hold, rfl⟩ := List.mem_map.mp hmem
  unfold submitRow
  by_cases hsel : ExpenseService.Selected ids old
  · rw [if_pos hsel]
    exact .reworked old hold
      ⟨not_decided_of_editable hsel.1, fun hdec => hdec.not_submitted rfl, rfl, rfl⟩
  · rw [if_neg hsel]
    exact .same hold

/-- A decision writes one row, on a submitted one. -/
theorem decision_written {verb : String} {id : Uuid} {old row : ActualExpense} {action : AuditAction}
    {previous new : StateDict} {reason : Text} (hload : loadSubmitted verb actor id s = .ok old)
    (hwrite : writeDecision env actor action row previous new reason s = .ok s') :
    old ∈ s.expenses ∧ old.status = .submitted ∧ ∀ e ∈ s'.expenses, e = row ∨ e ∈ s.expenses := by
  obtain ⟨_, _, _, hfind, hst⟩ := loadSubmitted_accepts.mp hload
  obtain ⟨t, hrep, rfl⟩ := writeDecision_accepts.mp hwrite
  refine ⟨Table.mem_of_find hfind, hst, fun e he => ?_⟩
  rcases Table.mem_replace hrep he with hrow | hold
  · exact .inl hrow
  · exact .inr hold.1

theorem decision_rows {verb : String} {id : Uuid} {old row : ActualExpense} {action : AuditAction}
    {previous new : StateDict} {reason : Text} (hload : loadSubmitted verb actor id s = .ok old)
    (hwrite : writeDecision env actor action row previous new reason s = .ok s')
    (hrow : old ∈ s.expenses → ¬ old.Decided → ExpenseChange s.expenses row) :
    ∀ e ∈ s'.expenses, ExpenseChange s.expenses e := by
  obtain ⟨hold, hst, hrows⟩ := decision_written hload hwrite
  intro e he
  rcases hrows e he with rfl | hkept
  · exact hrow hold fun hdec => hdec.not_submitted hst
  · exact .same hkept

theorem verifyExpense_rows {id : Uuid} {remarks : Option Text}
    (h : verifyExpense env actor id remarks s = .ok s') :
    ∀ e ∈ s'.expenses, ExpenseChange s.expenses e := by
  simp only [verifyExpense, bind_accepts] at h
  obtain ⟨old, hload, hwrite⟩ := h
  exact decision_rows hload hwrite fun _ _ => .verified rfl rfl

theorem partialVerifyExpense_rows {id : Uuid} {amount : Int} {remarks : Text}
    (h : partialVerifyExpense env actor id amount remarks s = .ok s') :
    ∀ e ∈ s'.expenses, ExpenseChange s.expenses e := by
  simp only [partialVerifyExpense, bind_accepts, refuse_accepts, exists_unit] at h
  obtain ⟨old, hload, hlt, hpos, hwrite⟩ := h
  exact decision_rows hload hwrite fun _ _ =>
    .partiallyVerified amount rfl rfl (not_le.mp hpos) (not_le.mp hlt)

theorem queryExpense_rows {id : Uuid} {remarks : Text}
    (h : queryExpense env actor id remarks s = .ok s') :
    ∀ e ∈ s'.expenses, ExpenseChange s.expenses e := by
  simp only [queryExpense, bind_accepts] at h
  obtain ⟨old, hload, hwrite⟩ := h
  exact decision_rows hload hwrite fun hold hopen =>
    .reworked old hold ⟨hopen, not_decided_of_editable (.inr rfl), rfl, rfl⟩

theorem disallowExpense_rows {id : Uuid} {remarks : Text}
    (h : disallowExpense env actor id remarks s = .ok s') :
    ∀ e ∈ s'.expenses, ExpenseChange s.expenses e := by
  simp only [disallowExpense, bind_accepts] at h
  obtain ⟨old, hload, hwrite⟩ := h
  exact decision_rows hload hwrite fun _ _ => .disallowed rfl rfl

/-- **Every accepted operation** leaves rows from the table it found. -/
theorem Op.expense_rows {op : Op} (h : op.exec cfg env actor s = .ok s') :
    ∀ e ∈ s'.expenses, ExpenseChange s.expenses e := by
  have heff : Effect cfg s op.move s' := Op.exec_effect h
  cases op with
  | createDraftExpense newId payload => exact createDraftExpense_rows h
  | updateExpense id payload => exact updateExpense_rows h
  | deleteDraftExpense id => exact deleteDraftExpense_rows h
  | submitExpenses ids => exact submitExpenses_rows h
  | verifyExpense id remarks => exact verifyExpense_rows h
  | partialVerifyExpense id amount remarks => exact partialVerifyExpense_rows h
  | queryExpense id remarks => exact queryExpense_rows h
  | disallowExpense id remarks => exact disallowExpense_rows h
  | _ =>
      have hkept := heff.expenses_kept fun k he => by cases he
      intro e he
      rw [hkept] at he
      exact .same he

theorem Step.expense_rows {c : Call} (h : CampusConnect.Step cfg s c s') :
    ∀ e ∈ s'.expenses, ExpenseChange s.expenses e := by
  obtain ⟨a, hexec, _⟩ := h.entered
  exact Op.expense_rows (s := { s with attached := a }) hexec

end Changes

/-! ## 3. The invariant -/

section Runs

variable {cfg : Config} {s : State} {d : Dossier}

/-- **Every row of a reachable event is sound.** -/
theorem Dossier.Reachable.expenses_sound (h : Dossier.Reachable cfg (.confirmed s)) :
    ∀ e ∈ s.expenses, ExpenseSound e := by
  refine Dossier.Reachable.event_invariant (P := fun s => ∀ e ∈ s.expenses, ExpenseSound e)
    ?_ ?_ ?_ h
  · intro q event logs e he
    cases he
  · intro s q entries hold
    exact hold
  · intro s c s' hold hstep e he
    exact (hstep.expense_rows e he).sound hold

/-- **A decided row is kept as it is**, over every run of requests. -/
theorem decided_expense_kept {requests : List Request} {e : ActualExpense}
    (hp : Runs.Path (Dossier.Step cfg) (.confirmed s) requests d) (he : e ∈ s.expenses)
    (hdec : e.Decided) : ∃ s', d = .confirmed s' ∧ e ∈ s'.expenses := by
  refine hp.preserves (P := fun d => ∃ t, d = .confirmed t ∧ e ∈ t.expenses) ?_ ⟨s, rfl, he⟩
  intro d r d' hd hs
  obtain ⟨t, rfl, ht⟩ := hd
  obtain ⟨t', rfl⟩ := hs.confirmed
  refine ⟨t', rfl, ?_⟩
  cases r with
  | review env actor op =>
      obtain ⟨q, entries, rfl⟩ := hs.reviewed
      exact ht
  | event c => exact hs.call.decided_kept ht hdec

/-- **The expense state invariant.** Of every expense of every reachable event: VERIFIED goes with
    the claimed amount, PARTIALLY_VERIFIED with a positive one below it, DISALLOWED with nothing,
    any other status with no amount and no verifier; a decided claim is its verified and its
    disallowed amount; and a decided row is in the table after every further run of requests. -/
theorem expense_state_invariant (h : Dossier.Reachable cfg (.confirmed s)) {e : ActualExpense}
    (he : e ∈ s.expenses) :
    (e.status = .verified → e.verifiedAmount = some e.claimedAmount) ∧
    (e.status = .partiallyVerified →
      ∃ v, e.verifiedAmount = some v ∧ 0 < v ∧ v < e.claimedAmount) ∧
    (e.status = .disallowed → e.verifiedAmount = some 0) ∧
    (¬ e.Decided → e.verifiedAmount = none ∧ e.verifiedBy = none) ∧
    (e.Decided → ∃ v, e.verifiedAmount = some v ∧ e.claimedAmount = v + e.disallowedAmount) ∧
    (e.Decided → ∀ later d, Runs.Path (Dossier.Step cfg) (.confirmed s) later d →
      ∃ s', d = .confirmed s' ∧ e ∈ s'.expenses) := by
  have hsound := h.expenses_sound e he
  refine ⟨hsound.verified, hsound.partiallyVerified, hsound.disallowed, hsound.undecided, ?_, ?_⟩
  · exact hsound.claimed (s.expenses.checked e he)
  · intro hdec later d hlater
    exact decided_expense_kept hlater he hdec

/-- The sample event's expense of 60.00, verified for 45.00: 15.00 are disallowed. -/
theorem expense_state_invariant_sample :
    ∃ s e v, Dossier.Reachable (Sample.config .sqlite) (.confirmed s) ∧ e ∈ s.expenses ∧
      e.verifiedAmount = some v ∧ 0 < v ∧ v < e.claimedAmount := by
  have hrun : Runs.Ends (Sample.after (Sample.plan ++
      [Sample.submit Sample.staff Sample.secretary 1] ++ Sample.approveAll 1 ++
      [.event Sample.complete, .event (Sample.byAdvisor (.certifyReport none)),
        .event (Sample.bySecretary (.createDraftExpense (Sample.uid 41) Sample.expenseIn)),
        .event (Sample.bySecretary (.submitExpenses none)),
        .event (Sample.byOfficer
          (.partialVerifyExpense (Sample.uid 41) 4500 "partly".toList))])) fun d =>
      d.state.any (fun s => s.expenses.rows.any fun e => e.status = .partiallyVerified) = true := by
    decide
  obtain ⟨d, hok, hst⟩ := hrun
  obtain ⟨d0, h0, hpath⟩ := Sample.path_of_after hok
  cases d with
  | proposed p logs => cases hst
  | confirmed s =>
      obtain ⟨e, he, hpart⟩ := List.any_eq_true.mp hst
      rw [decide_eq_true_eq] at hpart
      have hreach : Dossier.Reachable (Sample.config .sqlite) (.confirmed s) :=
        Runs.Reach.path (.start h0) hpath
      obtain ⟨_, hlaw, _⟩ := expense_state_invariant hreach he
      obtain ⟨v, hv, hpos, hlt⟩ := hlaw hpart
      exact ⟨s, e, v, hreach, he, hv, hpos, hlt⟩

end Runs

end CampusConnect
