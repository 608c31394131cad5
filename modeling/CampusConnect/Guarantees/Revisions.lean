/-
  File:      CampusConnect/Guarantees/Revisions.lean
  Subject:   The history of reopenings: revisions, payments and certified manifests.

  * `Effect.recorded`: a call appends to the payments and to both lists of revisions, or leaves them;
  * `revisions_counted`: one revision for each accepted reopening, and no other;
  * `Numbered`: both kinds of revisions are numbered 1, 2, .. in the order they were added;
  * `manifests`, `State.hashes`: the manifest hashes a run certifies, and those its last state has kept;
  * `RevisionHistory`, `revision_history`: the histories are complete, and nothing in them changes.
-/
import CampusConnect.Guarantees.Closure

namespace CampusConnect

open Guarded Rows
open SettlementService (settlementRevision settlementSnapshot paymentSnapshot)

/-! ## 1. What a call records -/

/-- **What an effect appends**: a payment of the settlement, a revision of it, a revision of the closure. -/
structure Recorded (s s' : State) : Prop where
  payments : s'.payments = s.payments ∨ ∃ r p, s.settlement = some r ∧
    p.1.settlementId = r.1.id ∧ s'.payments = s.payments ++ [p]
  revisions : s'.settlementRevisions = s.settlementRevisions ∨ ∃ r newId reason actor,
    s.settlement = some r ∧ r.1.status = .settled ∧
      s'.settlementRevisions = s.settlementRevisions ++ [settlementRevision s newId r.1 reason actor]
  closureRevisions : s'.closureRevisions = s.closureRevisions ∨ ∃ v,
    v.revisionNumber = s.closureRevisions.length + 1 ∧
      s'.closureRevisions = s.closureRevisions ++ [v]
  settlement : ∀ r, s.settlement = some r → ∃ row, s'.settlement = some row ∧ row.1.id = r.1.id

section Effects

variable {cfg : Config} {s s' : State} {m : Move}

/-- A row replaced under its key records nothing. -/
theorem Recorded.of_row {r row : Stored FinancialSettlement} (hr : s.settlement = some r)
    (hrow : s'.settlement = some row) (hid : row.1.id = r.1.id) (hpay : s'.payments = s.payments)
    (hrev : s'.settlementRevisions = s.settlementRevisions)
    (hcrev : s'.closureRevisions = s.closureRevisions) : Recorded s s' := by
  refine ⟨.inl hpay, .inl hrev, .inl hcrev, fun q hq => ⟨row, hrow, ?_⟩⟩
  rw [hr] at hq
  cases hq
  exact hid

theorem SettlementStep.recorded {m : SettlementMove} (h : SettlementStep cfg s m s') :
    Recorded s s' := by
  cases h with
  | prepared preparedBy newId sanction row entries hcomp hcert hprev hsan hres hrow =>
      refine ⟨.inl rfl, .inl rfl, .inl rfl, fun r hr => ⟨row, rfl, ?_⟩⟩
      rw [hrow, hr]
      rfl
  | submitted r row prepared sanction entries hr hmut hfrom hcons hfig hst =>
      exact .of_row hr rfl hfig.id rfl rfl rfl
  | queried r row prepared sanction entries hr hmut hfrom hcons hfig hst =>
      exact .of_row hr rfl hfig.id rfl rfl rfl
  | approved r row prepared sanction entries hr hmut hfrom hcons hfig hst =>
      exact .of_row hr rfl hfig.id rfl rfl rfl
  | paid r row p entries hr hmut hfrom hid hdir hle hrow =>
      refine ⟨.inr ⟨r, p, hr, hid, rfl⟩, .inl rfl, .inl rfl, fun q hq => ⟨row, rfl, ?_⟩⟩
      rw [hr] at hq
      cases hq
      rw [hrow]
      exact (clearedRow_sameFigures r.1 _).id
  | reopened r row newId reason actor entries hr hmut hfrom hfig hst =>
      refine ⟨.inl rfl, .inr ⟨r, newId, reason, actor, hr, hfrom, rfl⟩, .inl rfl, fun q hq => ?_⟩
      rw [hr] at hq
      cases hq
      exact ⟨row, rfl, hfig.id⟩

theorem CloseoutStep.recorded {m : CloseoutMove} (h : CloseoutStep s m s') : Recorded s s' := by
  cases h with
  | reopened r row revision newId reason actor entries hfrom hnum hr hset hfig hst =>
      refine ⟨.inl rfl, .inr ⟨r, newId, reason, actor, hr, hset, rfl⟩,
        .inr ⟨revision, hnum, rfl⟩, fun q hq => ?_⟩
      rw [hr] at hq
      cases hq
      exact ⟨row, rfl, hfig.id⟩
  | _ => exact ⟨.inl rfl, .inl rfl, .inl rfl, fun r hr => ⟨r, hr, rfl⟩⟩

theorem Effect.recorded (h : Effect cfg s m s') : Recorded s s' := by
  cases h with
  | settlement m s' hstep => exact hstep.recorded
  | cancellation s' hstep =>
      cases hstep <;> exact ⟨.inl rfl, .inl rfl, .inl rfl, fun r hr => ⟨r, hr, rfl⟩⟩
  | closeout m s' hstep => exact hstep.recorded
  | _ => exact ⟨.inl rfl, .inl rfl, .inl rfl, fun r hr => ⟨r, hr, rfl⟩⟩

theorem Step.recorded {c : Call} (h : CampusConnect.Step cfg s c s') : Recorded s s' := by
  obtain ⟨a, _, heff⟩ := h.entered
  exact ⟨heff.recorded.payments, heff.recorded.revisions, heff.recorded.closureRevisions,
    heff.recorded.settlement⟩

/-- **One reopening, one revision**: of the settlement, and of the closure when the event is reopened. -/
theorem Effect.counted (h : Effect cfg s m s') :
    s'.settlementRevisions.length = s.settlementRevisions.length + (if m.Reopens then 1 else 0) ∧
      s'.closureRevisions.length =
        s.closureRevisions.length + (if m = .closeout .reopened then 1 else 0) := by
  cases h with
  | settlement m s' hstep =>
      cases hstep with
      | reopened r row newId reason actor entries hr hmut hfrom hfig hst =>
          exact ⟨List.length_append, rfl⟩
      | _ => exact ⟨rfl, rfl⟩
  | cancellation s' hstep => cases hstep <;> exact ⟨rfl, rfl⟩
  | closeout m s' hstep =>
      cases hstep with
      | reopened r row revision newId reason actor entries hfrom hnum hr hset hfig hst =>
          exact ⟨List.length_append, List.length_append⟩
      | _ => exact ⟨rfl, rfl⟩
  | _ => exact ⟨rfl, rfl⟩

/-- **Over a run**: as many revisions as accepted reopenings. -/
theorem revisions_counted {calls : List Call} (h : Runs.Path (CampusConnect.Step cfg) s calls s') :
    s'.settlementRevisions.length =
        s.settlementRevisions.length + calls.countP (fun c => c.op.move.Reopens) ∧
      s'.closureRevisions.length =
        s.closureRevisions.length + calls.countP (fun c => c.op.move = .closeout .reopened) := by
  induction h with
  | nil s => exact ⟨rfl, rfl⟩
  | @cons s t u c calls hs _ ih =>
      have hset : t.settlementRevisions.length =
          s.settlementRevisions.length + if c.op.move.Reopens then 1 else 0 := hs.effect.counted.1
      have hclo : t.closureRevisions.length =
          s.closureRevisions.length + if c.op.move = .closeout .reopened then 1 else 0 :=
        hs.effect.counted.2
      simp only [List.countP_cons, decide_eq_true_eq]
      constructor
      · rw [ih.1, hset]
        omega
      · rw [ih.2, hclo]
        omega

end Effects

/-! ## 2. Numbers and owners -/

/-- The revisions of a settlement. -/
def State.revisionsOf (s : State) (id : Uuid) : List SettlementRevision :=
  s.settlementRevisions.filter fun v => v.settlementId = id

/-- **Both histories are numbered from 1 on**, and what they record is the settlement's. -/
structure Numbered (s : State) : Prop where
  revisions : ∀ id, (s.revisionsOf id).map SettlementRevision.revisionNumber =
    List.range' 1 (s.revisionsOf id).length
  closureRevisions : s.closureRevisions.map EventClosureRevision.revisionNumber =
    List.range' 1 s.closureRevisions.length
  payments : ∀ p ∈ s.payments, ∃ r, s.settlement = some r ∧ p.1.settlementId = r.1.id
  owned : ∀ v ∈ s.settlementRevisions, ∃ r, s.settlement = some r ∧ v.settlementId = r.1.id

/-- One more number. -/
theorem numbers_append {α : Type} {number : α → Nat} {l : List α} {a : α}
    (h : l.map number = List.range' 1 l.length) (ha : number a = l.length + 1) :
    (l ++ [a]).map number = List.range' 1 (l ++ [a]).length := by
  rw [List.map_append, h, List.length_append, List.length_singleton, List.range'_concat,
    List.map_singleton, ha]
  congr 2
  omega

theorem Opening.numbered {s : State} (h : Opening s) : Numbered s where
  revisions := by
    intro id
    unfold State.revisionsOf
    rw [h.settlementRevisions]
    rfl
  closureRevisions := by
    rw [h.closureRevisions]
    rfl
  payments := by
    rw [h.payments]
    intro p hp
    cases hp
  owned := by
    rw [h.settlementRevisions]
    intro v hv
    cases hv

theorem Recorded.numbered {s s' : State} (h : Recorded s s') (hs : Numbered s) : Numbered s' := by
  have hmoved : ∀ {id : Uuid}, (∃ r, s.settlement = some r ∧ id = r.1.id) →
      ∃ r, s'.settlement = some r ∧ id = r.1.id := by
    intro id hex
    obtain ⟨r, hr, hid⟩ := hex
    obtain ⟨row, hrow, hsame⟩ := h.settlement r hr
    exact ⟨row, hrow, hid.trans hsame.symm⟩
  constructor
  · intro id
    unfold State.revisionsOf
    rcases h.revisions with hsame | ⟨r, newId, reason, actor, hr, hset, hnew⟩
    · rw [hsame]
      exact hs.revisions id
    · rw [hnew, List.filter_append, List.filter_singleton]
      by_cases hid : (settlementRevision s newId r.1 reason actor).settlementId = id
      · rw [decide_eq_true hid]
        refine numbers_append (hs.revisions id) ?_
        rw [← hid]
        rfl
      · rw [decide_eq_false hid]
        simp only [cond_false, List.append_nil]
        exact hs.revisions id
  · rcases h.closureRevisions with hsame | ⟨v, hv, hnew⟩
    · rw [hsame]
      exact hs.closureRevisions
    · rw [hnew]
      exact numbers_append hs.closureRevisions hv
  · intro p hp
    rcases h.payments with hsame | ⟨r, q, hr, hq, hnew⟩
    · rw [hsame] at hp
      exact hmoved (hs.payments p hp)
    · rw [hnew] at hp
      rcases List.mem_append.mp hp with hold | hlast
      · exact hmoved (hs.payments p hold)
      · rw [List.mem_singleton.mp hlast]
        exact hmoved ⟨r, hr, hq⟩
  · intro v hv
    rcases h.revisions with hsame | ⟨r, newId, reason, actor, hr, hset, hnew⟩
    · rw [hsame] at hv
      exact hmoved (hs.owned v hv)
    · rw [hnew] at hv
      rcases List.mem_append.mp hv with hold | hlast
      · exact hmoved (hs.owned v hold)
      · rw [List.mem_singleton.mp hlast]
        exact hmoved ⟨r, hr, rfl⟩

/-! ## 3. What is kept -/

/-- **The rows a continuation finds are still there**, unchanged and in their order. -/
structure Extends (s t : State) : Prop where
  payments : s.payments <+: t.payments
  revisions : s.settlementRevisions <+: t.settlementRevisions
  closureRevisions : s.closureRevisions <+: t.closureRevisions

theorem Extends.refl (s : State) : Extends s s :=
  ⟨List.prefix_refl _, List.prefix_refl _, List.prefix_refl _⟩

theorem Extends.trans {s t u : State} (h : Extends s t) (h' : Extends t u) : Extends s u where
  payments := h.payments.trans h'.payments
  revisions := h.revisions.trans h'.revisions
  closureRevisions := h.closureRevisions.trans h'.closureRevisions

theorem Recorded.extends {s s' : State} (h : Recorded s s') : Extends s s' := by
  constructor
  · rcases h.payments with hsame | ⟨_, p, _, _, hnew⟩
    · exact hsame ▸ List.prefix_refl _
    · exact ⟨[p], hnew.symm⟩
  · rcases h.revisions with hsame | ⟨r, newId, reason, actor, _, _, hnew⟩
    · exact hsame ▸ List.prefix_refl _
    · exact ⟨[settlementRevision s newId r.1 reason actor], hnew.symm⟩
  · rcases h.closureRevisions with hsame | ⟨v, _, hnew⟩
    · exact hsame ▸ List.prefix_refl _
    · exact ⟨[v], hnew.symm⟩

/-- By induction on the run: each call appends. -/
theorem Extends.of_path {cfg : Config} {s t : State} {calls : List Call}
    (h : Runs.Path (CampusConnect.Step cfg) s calls t) : Extends s t := by
  induction h with
  | nil s => exact .refl s
  | cons hs _ ih => exact hs.recorded.extends.trans ih

/-- The call is the reopening that took the revision, from the settlement and the payments it found. -/
def Taken (v : SettlementRevision) (t : State) (c : Call) (u : State) : Prop :=
  c.op.move.Reopens ∧
  ∃ r, t.settlement = some r ∧ r.1.status = .settled ∧ v.settlementId = r.1.id ∧
    v.snapshotData.settlement = r.1 ∧
    v.snapshotData.payments = (t.payments.filter fun p => p.1.settlementId = r.1.id).map
      (fun p => paymentSnapshot p.1) ∧
    u.settlementRevisions = t.settlementRevisions ++ [v]

/-- A call into a state that has the revision took it, or found it there. -/
theorem Step.taken {cfg : Config} {s s' : State} {c : Call} (h : CampusConnect.Step cfg s c s')
    {v : SettlementRevision} (hv : v ∈ s'.settlementRevisions) :
    v ∈ s.settlementRevisions ∨ Taken v s c s' := by
  rcases h.recorded.revisions with hsame | ⟨r, newId, reason, actor, hr, hset, hnew⟩
  · rw [hsame] at hv
    exact .inl hv
  · rw [hnew] at hv
    rcases List.mem_append.mp hv with hold | hlast
    · exact .inl hold
    · rw [List.mem_singleton] at hlast
      subst hlast
      have hreopens : c.op.move.Reopens := by
        by_contra hno
        have hcount : s'.settlementRevisions.length =
            s.settlementRevisions.length + if c.op.move.Reopens then 1 else 0 := h.effect.counted.1
        rw [hnew, if_neg hno, List.length_append, List.length_singleton] at hcount
        omega
      exact .inr ⟨hreopens, r, hr, hset, rfl, rfl, rfl, hnew⟩

/-! ## 4. Manifest hashes -/

/-- The hash an accepted call certifies. -/
def Call.manifest (c : Call) (s' : State) : List Text :=
  match c.op with
  | .certifyCloseout _ _ _ => s'.closure.toList.map EventClosure.certificateManifestHash
  | _ => []

/-- **The manifest hashes certified in a run**, in their order; a refused call certifies nothing. -/
def manifests (cfg : Config) : List Call → State → List Text
  | [], _ => []
  | c :: calls, s =>
      match c.exec cfg s with
      | .ok s' => c.manifest s' ++ manifests cfg calls s'
      | .error _ => manifests cfg calls s

/-- The hash of the current closure, when the event is CLOSED or ARCHIVED. -/
def State.sealedHash (s : State) : List Text :=
  if s.event.Sealed then s.closure.toList.map EventClosure.certificateManifestHash else []

/-- The hashes in the closure revisions, then the current one. -/
def State.hashes (s : State) : List Text :=
  (s.closureRevisions.map fun v => v.snapshotData.closure.certificateManifestHash) ++ s.sealedHash

theorem State.hashes_congr {s s' : State} (hseal : s'.event.Sealed ↔ s.event.Sealed)
    (hclosure : s'.closure = s.closure) (hrev : s'.closureRevisions = s.closureRevisions) :
    s'.hashes = s.hashes := by
  unfold State.hashes State.sealedHash
  rw [hclosure, hrev]
  simp only [hseal]

theorem Call.manifest_of_move {c : Call} {s' : State} (h : c.op.move ≠ .closeout .certified) :
    c.manifest s' = [] := by
  unfold Call.manifest
  split
  · rename_i heq
    rw [heq] at h
    exact absurd rfl h
  · rfl

theorem Call.manifest_certified {c : Call} {s' : State} {closure : EventClosure}
    (h : c.op.move = .closeout .certified) (hclosure : s'.closure = some closure) :
    c.manifest s' = [closure.certificateManifestHash] := by
  unfold Call.manifest
  rw [hclosure]
  cases hop : c.op with
  | certifyCloseout newId notes cleared => rfl
  | _ =>
      rw [hop] at h
      cases h

/-- An event goes from one status to another, and neither is the seal. -/
theorem seal_same (a b : EventStatus) {e t : Event} (h : e.status = a) (h' : t.status = b)
    (ha : a ≠ .closed ∧ a ≠ .archived) (hb : b ≠ .closed ∧ b ≠ .archived) :
    t.Sealed ↔ e.Sealed :=
  ⟨fun hs => (hs.ne hb.1 hb.2 h').elim, fun hs => (hs.ne ha.1 ha.2 h).elim⟩

section Hashes

variable {cfg : Config} {s s' : State} {m : Move}

theorem ExecutionStep.hashes {status : EventStatus} {report : Option (Stored PostEventReport)}
    {entries : List AuditEntry} (h : ExecutionStep s status report) :
    ({ s with event := { s.event with status := status }, report := report }.log entries).hashes =
      s.hashes := by
  refine State.hashes_congr ?_ rfl rfl
  cases h with
  | started hfrom =>
      exact seal_same .scheduled .inProgress hfrom rfl (by decide) (by decide)
  | completed row hfrom hnone hst =>
      rcases hfrom with hf | hf
      · exact seal_same .inProgress .completed hf rfl (by decide) (by decide)
      · exact seal_same .scheduled .completed hf rfl (by decide) (by decide)
  | revised old row hmut hrep hfrom hid => exact Iff.rfl

theorem CancellationStep.hashes (h : CancellationStep s s') : s'.hashes = s.hashes := by
  cases h with
  | proposal entries hfrom => exact State.hashes_congr Iff.rfl rfl rfl
  | event event advance entries hfrom hid hreq hver hst hpend hadv =>
      refine State.hashes_congr ?_ rfl rfl
      rcases hfrom with hf | hf
      · exact seal_same .scheduled .cancelled hf hst (by decide) (by decide)
      · exact seal_same .inProgress .cancelled hf hst (by decide) (by decide)

/-- **A certification adds its hash** to the hashes kept; the other closeout moves but a reopening
    keep them. -/
theorem CloseoutStep.hashes {m : CloseoutMove} (h : CloseoutStep s m s') (hm : m ≠ .reopened) :
    s'.hashes = s.hashes ∧ m ≠ .certified ∨ m = .certified ∧ ∃ closure,
      s'.closure = some closure ∧ s'.hashes = s.hashes ++ [closure.certificateManifestHash] := by
  cases h with
  | requestedAgain hfrom => exact .inl ⟨rfl, by decide⟩
  | archivedAgain hfrom => exact .inl ⟨rfl, by decide⟩
  | requested entries hfrom hready =>
      have hseal := seal_same .completed .closureRequested hfrom
        (t := { s.event with status := .closureRequested }) rfl (by decide) (by decide)
      exact .inl ⟨State.hashes_congr hseal rfl rfl, by decide⟩
  | certified r report closure entries hfrom hready hr hrep hset hrid =>
      refine .inr ⟨rfl, closure, rfl, ?_⟩
      have hopen : s.sealedHash = [] := if_neg (fun hs => hs.ne (by decide) (by decide) hfrom)
      have hkept : s.hashes =
          s.closureRevisions.map fun v => v.snapshotData.closure.certificateManifestHash := by
        unfold State.hashes
        rw [hopen, List.append_nil]
      rw [hkept]
      rfl
  | rejected entries hfrom =>
      have hseal := seal_same .closureRequested .completed hfrom
        (t := { s.event with status := .completed }) rfl (by decide) (by decide)
      exact .inl ⟨State.hashes_congr hseal rfl rfl, by decide⟩
  | petitioned entries hfrom => exact .inl ⟨State.hashes_congr Iff.rfl rfl rfl, by decide⟩
  | reopened r row revision newId reason actor entries hfrom hnum hr hset hfig hst =>
      exact absurd rfl hm
  | archived entries hfrom =>
      have hseal : Event.Sealed { s.event with status := .archived } ↔ s.event.Sealed :=
        ⟨fun _ => .inl hfrom, fun _ => .inr rfl⟩
      exact .inl ⟨State.hashes_congr hseal rfl rfl, by decide⟩

theorem Effect.hashes (h : Effect cfg s m s') (hm : m ≠ .closeout .reopened) :
    s'.hashes = s.hashes ∧ m ≠ .closeout .certified ∨ m = .closeout .certified ∧ ∃ closure,
      s'.closure = some closure ∧ s'.hashes = s.hashes ++ [closure.certificateManifestHash] := by
  cases h with
  | settlement m s' hstep =>
      cases hstep <;> exact .inl ⟨State.hashes_congr Iff.rfl rfl rfl, nofun⟩
  | execution status report entries hstep => exact .inl ⟨hstep.hashes, nofun⟩
  | cancellation s' hstep => exact .inl ⟨hstep.hashes, nofun⟩
  | closeout m s' hstep =>
      rcases hstep.hashes (fun h => hm (congrArg _ h)) with ⟨hsame, hne⟩ | ⟨rfl, closure, hc, hh⟩
      · exact .inl ⟨hsame, fun h => hne (Move.closeout.inj h)⟩
      · exact .inr ⟨rfl, closure, hc, hh⟩
  | _ => exact .inl ⟨State.hashes_congr Iff.rfl rfl rfl, nofun⟩

/-- A reopening moves the closure's hash into the revisions. -/
theorem CloseoutService.approveReopen_hashes {env : Env} {actor : User}
    {newId revId : Uuid} {reason : Text}
    (h : CloseoutService.approveReopen env actor newId revId reason s = .ok s') :
    s'.hashes = s.hashes := by
  simp only [CloseoutService.approveReopen, bind_accepts, exists_unit, refuse_accepts,
    fetch_accepts, pure_accepts, not_not, ne_eq] at h
  obtain ⟨_, _, _, hfrom, closure, hclosure, r, _, _, t, hre, rfl⟩ := h
  obtain ⟨_, _, _, _, _, _, _, row, _, rfl⟩ := SettlementService.reopenSettlement_accepts.mp hre
  have hseal : s.sealedHash = [closure.certificateManifestHash] := by
    unfold State.sealedHash
    rw [if_pos (.inl hfrom), hclosure]
    rfl
  unfold State.hashes
  rw [hseal]
  unfold State.sealedHash
  rw [if_neg (by rintro (h | h) <;> cases h), List.append_nil]
  exact List.map_append

/-- **What is certified is kept**: each call adds the hash it certifies, and none is lost. -/
theorem Step.hashes {c : Call} (h : CampusConnect.Step cfg s c s') :
    s'.hashes = s.hashes ++ c.manifest s' := by
  have hseen : (c.enter s).hashes = s.hashes := rfl
  by_cases hm : c.op.move = .closeout .reopened
  · have hnone : c.manifest s' = [] := by
      refine Call.manifest_of_move ?_
      rw [hm]
      decide
    obtain ⟨newId, revId, reason, hop⟩ := Op.move_reopened hm
    have hexec := h
    unfold CampusConnect.Step Call.exec at hexec
    rw [hop] at hexec
    rw [hnone, List.append_nil, ← hseen]
    exact CloseoutService.approveReopen_hashes hexec
  · rcases h.effect.hashes hm with ⟨hsame, hne⟩ | ⟨hcert, closure, hc, hh⟩
    · rw [Call.manifest_of_move hne, List.append_nil, hsame, hseen]
    · rw [Call.manifest_certified hcert hc, hh, hseen]

/-- By induction on the run. -/
theorem manifests_of_path {calls : List Call}
    (h : Runs.Path (CampusConnect.Step cfg) s calls s') :
    s'.hashes = s.hashes ++ manifests cfg calls s := by
  induction h with
  | nil s => exact (List.append_nil _).symm
  | @cons s t u c calls hs _ ih =>
      have hstep : c.exec cfg s = .ok t := hs
      unfold manifests
      rw [hstep, ih, Step.hashes hs, List.append_assoc]

end Hashes

/-! ## 5. The history is complete -/

/-- **The history of a run**, with the two kinds of revisions, the payments and the manifests. The calls
    of a run are those accepted, so that there is one revision for each reopening accepted in it. -/
structure RevisionHistory (cfg : Config) (s0 : State) (calls : List Call) (s : State) : Prop where
  complete : s.settlementRevisions.length = calls.countP (fun c => c.op.move.Reopens)
  owned : ∀ v ∈ s.settlementRevisions, ∃ r, s.settlement = some r ∧ v.settlementId = r.1.id
  closuresComplete : s.closureRevisions.length =
    calls.countP (fun c => c.op.move = .closeout .reopened)
  revisions : ∀ id, (s.revisionsOf id).map SettlementRevision.revisionNumber =
    List.range' 1 (s.revisionsOf id).length
  closureRevisions : s.closureRevisions.map EventClosureRevision.revisionNumber =
    List.range' 1 s.closureRevisions.length
  snapshots : ∀ v ∈ s.settlementRevisions,
    Runs.Passed (CampusConnect.Step cfg) (Taken v) s0 calls s
  kept : ∀ later t, Runs.Path (CampusConnect.Step cfg) s later t → Extends s t
  manifests : manifests cfg calls s0 = s.hashes

/-- **Complete and immutable**: in every run there is one revision for each reopening, numbered without
    gap or repeat, each snapshot was taken of the settlement and the payments its reopening found, no
    later call changes what is recorded, and the certified manifests are those kept. -/
theorem revision_history {cfg : Config} {s0 s : State} {calls : List Call} (h0 : Opening s0)
    (hp : Runs.Path (CampusConnect.Step cfg) s0 calls s) : RevisionHistory cfg s0 calls s := by
  have hnum : Numbered s :=
    hp.preserves (P := Numbered) (fun _ _ _ hs hstep => hstep.recorded.numbered hs) h0.numbered
  have hhashes := manifests_of_path hp
  have hstart : s0.hashes = [] := by
    unfold State.hashes State.sealedHash
    rw [h0.closureRevisions, if_neg h0.unsealed]
    rfl
  obtain ⟨hset, hclo⟩ := revisions_counted hp
  rw [h0.settlementRevisions, List.length_nil, Nat.zero_add] at hset
  rw [h0.closureRevisions, List.length_nil, Nat.zero_add] at hclo
  refine ⟨hset, hnum.owned, hclo, hnum.revisions, hnum.closureRevisions, fun v hv => ?_,
    fun _ _ h => .of_path h, ?_⟩
  · refine hp.passed (P := fun s => v ∈ s.settlementRevisions) (fun s c s' hs => hs.taken) ?_ hv
    rw [h0.settlementRevisions]
    exact List.not_mem_nil
  · rw [hhashes, hstart, List.nil_append]

namespace Sample

/-- The closed event is reopened. -/
def reopen (n m : Nat) : Call := byDean (.approveReopen (uid n) (uid m) "error".toList)

/-- The event is closed, reopened, settled and closed again, and reopened once more. -/
def reopenTwice : List Call :=
  close ++ reopen 60 61 :: settle ++ [bySecretary (.requestCloseout none), certify, reopen 62 63]

end Sample

/-- The sample event is reopened twice, with one payment and two manifests on record. -/
theorem revision_history_reopened :
    ∃ s, s.payments.length = 1 ∧ s.settlementRevisions.length = 2 ∧ s.closureRevisions.length = 2 ∧
      (manifests (Sample.config .sqlite) Sample.reopenTwice (Sample.opening none)).length = 2 ∧
      RevisionHistory (Sample.config .sqlite) (Sample.opening none) Sample.reopenTwice s := by
  have hrun : Runs.Ends (Runs.run (Call.exec (Sample.config .sqlite)) Sample.reopenTwice
      (Sample.opening none)) (fun s => s.payments.length = 1 ∧ s.settlementRevisions.length = 2 ∧
        s.closureRevisions.length = 2) := by
    decide
  have htwo : (manifests (Sample.config .sqlite) Sample.reopenTwice
      (Sample.opening none)).length = 2 := by
    decide
  obtain ⟨s, hok, hpay, hrev, hcrev⟩ := hrun
  exact ⟨s, hpay, hrev, hcrev, htwo,
    revision_history Sample.opening_opening (Runs.path_of_run hok)⟩

end CampusConnect
