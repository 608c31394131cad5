/-
  File:      CampusConnect/Guarantees/Staleness.lean
  Subject:   STALENESS DETECTION: which fingerprint `submit_settlement` and `audit_settlement`
             compare the live sources with.

  * `lookup_sqlite`: the audit-log lookup finds nothing, its operand is never the stored text;
  * `attached_effect`: what is attached in memory changes by a preparation or by that lookup only;
  * `Loaded.Hashed.held_since`: between two preparations a session holds the object it held, until it
    lets go of it, and calls of other sessions change nothing about that;
  * `staleness_detected_iff`: a submission or audit compares with the latest preparation exactly
    when its session still holds an object with the fingerprint of that preparation.
-/
import CampusConnect.Guarantees.Ledger
import CampusConnect.Objects

namespace CampusConnect

open Guarded Rows SettlementService

/-! ## 1. The lookup -/

/-- Every key in the log is `str` of an identifier. -/
def KeysAreText (logs : List AuditLog) : Prop := ∀ l ∈ logs, ∃ u : Uuid, l.entityId = u.str

theorem KeysAreText.append {logs : List AuditLog} (h : KeysAreText logs)
    (entries : List AuditEntry) : KeysAreText (logs ++ entries.map AuditEntry.row) := by
  intro l hl
  rcases List.mem_append.mp hl with hold | hnew
  · exact h l hold
  · obtain ⟨e, _, rfl⟩ := List.mem_map.mp hnew
    exact ⟨e.entityId, rfl⟩

/-- **The log is append-only**, and what is appended has text keys. -/
theorem keysAreText_effect {cfg : Config} {s s' : State} {m : Move} (h : KeysAreText s.auditLogs)
    (heff : Effect cfg s m s') : KeysAreText s'.auditLogs := by
  cases heff with
  | read => exact h
  | advance m row entries hstep => exact h.append entries
  | income m t entries hstep => exact h.append entries
  | expense m t entries hstep => exact h.append entries
  | settlement m s' hstep => cases hstep <;> exact h.append _
  | execution status report entries hstep => exact h.append entries
  | cancellation s' hstep => cases hstep <;> exact h.append _
  | closeout m s' hstep =>
      cases hstep with
      | requestedAgain hfrom => exact h
      | archivedAgain hfrom => exact h
      | _ => exact h.append _

theorem Reachable.keysAreText {cfg : Config} {s : State} (h : Reachable cfg s) :
    KeysAreText s.auditLogs :=
  h.invariant (P := fun s => KeysAreText s.auditLogs) (fun _ _ hs => hs)
    (fun _ ho => ho.auditKeys) (fun _ _ _ hs heff => keysAreText_effect hs heff)

/-- **The lookup finds nothing**: 32 digits are never the dashed text of an identifier. -/
theorem lookup_sqlite {logs : List AuditLog} (h : KeysAreText logs) (id : Uuid) :
    latestPreparation .sqlite id logs = .ok none := by
  unfold latestPreparation
  simp only
  rw [List.filter_eq_nil_iff.mpr]
  · rfl
  · intro l hl hmatch
    obtain ⟨_, hkey, _⟩ := of_decide_eq_true hmatch
    obtain ⟨u, hu⟩ := h l hl
    unfold entityIdEquals at hkey
    have heq : l.entityId = id.hex := of_decide_eq_true (Except.ok.inj hkey)
    exact Uuid.hex_ne_str id u (heq.symm.trans hu)

/-- A submission or audit in a new session on SQLite compares with nothing. -/
theorem unattached_sqlite {cfg : Config} {s : State} (hb : cfg.backend = .sqlite)
    (hkeys : KeysAreText s.auditLogs) (hatt : s.attached = none) (id : Uuid) :
    getPreparedSourceFingerprint cfg s id = .ok none := by
  unfold getPreparedSourceFingerprint
  rw [hatt, hb, lookup_sqlite hkeys]
  rfl

/-- On PostgreSQL the lookup fails, and the call with it. -/
theorem unattached_postgresql {cfg : Config} {s : State} (hb : cfg.backend = .postgresql)
    (hatt : s.attached = none) {id : Uuid} {prepared : Option Text} :
    getPreparedSourceFingerprint cfg s id ≠ .ok prepared := by
  intro h
  unfold getPreparedSourceFingerprint at h
  rw [hatt, hb] at h
  cases h

/-- With nothing attached there is nothing to compare with, on either backend. -/
theorem compared_of_unattached {cfg : Config} {s : State} (hkeys : KeysAreText s.auditLogs)
    (hatt : s.attached = none) {id : Uuid} {prepared : Option Text}
    (h : getPreparedSourceFingerprint cfg s id = .ok prepared) : prepared = none := by
  cases hb : cfg.backend with
  | sqlite =>
      rw [unattached_sqlite hb hkeys hatt] at h
      exact (Except.ok.inj h).symm
  | postgresql => exact absurd h (unattached_postgresql hb hatt)

/-- What is attached is what is compared with. -/
theorem compared_of_attached {cfg : Config} {s : State} {fp : Text} (hatt : s.attached = some fp)
    (hne : fp ≠ []) (id : Uuid) : getPreparedSourceFingerprint cfg s id = .ok (some fp) := by
  unfold getPreparedSourceFingerprint
  have hfilter : s.attached.filter (fun fp => fp ≠ []) = some fp := by
    rw [hatt, Option.filter_some, if_pos (decide_eq_true hne)]
  rw [hfilter]
  rfl

/-! ## 2. What is attached -/

/-- **An effect keeps what is attached**, or attaches what the lookup found. -/
theorem attached_effect {cfg : Config} {s s' : State} {m : Move} (heff : Effect cfg s m s')
    (hm : m ≠ .settlement .prepared) :
    s'.attached = s.attached ∨
      ∃ id, getPreparedSourceFingerprint cfg s id = .ok s'.attached := by
  cases heff with
  | read => exact .inl rfl
  | advance m row entries hstep => exact .inl rfl
  | income m t entries hstep => exact .inl rfl
  | expense m t entries hstep => exact .inl rfl
  | settlement m s' hstep =>
      cases hstep with
      | prepared preparedBy newId sanction row entries hcomp hcert hprev hsan hres hrow =>
          exact absurd rfl hm
      | submitted r row prepared sanction entries hr hmut hfrom hcons hfig hst =>
          exact .inr ⟨r.1.id, hcons.compared⟩
      | queried r row prepared sanction entries hr hmut hfrom hcons hfig hst =>
          exact .inr ⟨r.1.id, hcons.compared⟩
      | approved r row prepared sanction entries hr hmut hfrom hcons hfig hst =>
          exact .inr ⟨r.1.id, hcons.compared⟩
      | paid r row p entries hr hmut hfrom hid hdir hle hrow => exact .inl rfl
      | reopened r row newId reason actor entries hr hmut hfrom hfig hst => exact .inl rfl
  | execution status report entries hstep => exact .inl rfl
  | cancellation s' hstep => cases hstep <;> exact .inl rfl
  | closeout m s' hstep => cases hstep <;> exact .inl rfl

/-- An object that carries a fingerprint keeps it, and one without gets none, until a preparation. -/
theorem attached_kept {cfg : Config} {s s' : State} {m : Move} (heff : Effect cfg s m s')
    (hm : m ≠ .settlement .prepared) (hkeys : KeysAreText s.auditLogs)
    (hhashed : s.attached ≠ some []) : s'.attached = s.attached := by
  rcases attached_effect heff hm with hsame | ⟨id, hfound⟩
  · exact hsame
  · cases hatt : s.attached with
    | none => exact compared_of_unattached hkeys hatt hfound
    | some fp =>
        have hne : fp ≠ [] := fun h => hhashed (hatt.trans (congrArg some h))
        rw [compared_of_attached hatt hne id] at hfound
        exact (Except.ok.inj hfound).symm

/-- What a preparation leaves attached. -/
theorem attached_prepared {cfg : Config} {s s' : State}
    (heff : Effect cfg s (.settlement .prepared) s') :
    ∃ sanction, resolveSanctionedSnapshot s = .ok sanction ∧
      s'.attached = some (liveFingerprint cfg s sanction) := by
  cases heff with
  | settlement m s' hstep =>
      cases hstep with
      | prepared preparedBy newId sanction row entries hcomp hcert hprev hsan hres hrow =>
          exact ⟨sanction, hsan, rfl⟩

/-! ## 3. What the sessions hold -/

/-- No session holds an empty fingerprint, and the keys in the log are text. -/
structure Loaded.Hashed (w : Loaded) : Prop where
  keys : KeysAreText w.state.auditLogs
  hashed : ∀ session, w.held session ≠ some []

section Held

variable {cfg : Config} {w w' : Loaded} {a : Loaded.Action}

/-- **A call that does not prepare** leaves every session with the object it had. -/
theorem Loaded.Hashed.held_call {session : Nat} {env : Env} {actor : User} {op : Op} (h : w.Hashed)
    (hstep : Loaded.Step cfg w (.call session env actor op) w')
    (hop : op.move ≠ .settlement .prepared) : w'.held = w.held := by
  obtain ⟨s, hs, rfl⟩ := Loaded.step_call.mp hstep
  have hkept : s.attached = w.held session :=
    attached_kept hs.effect hop h.keys (h.hashed session)
  show Function.update w.held session s.attached = w.held
  rw [hkept, Function.update_eq_self]

theorem Loaded.Hashed.step (hdigest : ∀ x, cfg.sha256 x ≠ []) (h : w.Hashed)
    (hstep : Loaded.Step cfg w a w') : w'.Hashed := by
  cases a with
  | call session env actor op =>
      by_cases hop : op.move = .settlement .prepared
      · obtain ⟨s, hs, rfl⟩ := Loaded.step_call.mp hstep
        have heff := hs.effect
        refine ⟨keysAreText_effect (s := (w.callAt session env actor op).enter w.state) h.keys heff, ?_⟩
        rw [show (w.callAt session env actor op).op.move = .settlement .prepared from hop] at heff
        obtain ⟨sanction, _, hatt⟩ := attached_prepared heff
        intro other
        by_cases ho : other = session
        · subst ho
          show Function.update w.held other s.attached other ≠ some []
          rw [Function.update_self, hatt]
          exact fun h => hdigest _ (Option.some.inj h)
        · show Function.update w.held session s.attached other ≠ some []
          rw [Function.update_of_ne ho]
          exact h.hashed other
      · have hheld := h.held_call hstep hop
        obtain ⟨s, hs, rfl⟩ := Loaded.step_call.mp hstep
        refine ⟨keysAreText_effect (s := (w.callAt session env actor op).enter w.state) h.keys
          hs.effect, ?_⟩
        rw [hheld]
        exact h.hashed
  | release session =>
      cases Loaded.step_release.mp hstep
      refine ⟨h.keys, fun other => ?_⟩
      by_cases ho : other = session
      · subst ho
        show Function.update w.held other none other ≠ some []
        rw [Function.update_self]
        exact fun h => nomatch h
      · show Function.update w.held session none other ≠ some []
        rw [Function.update_of_ne ho]
        exact h.hashed other

theorem Loaded.Hashed.path {actions : List Loaded.Action} (hdigest : ∀ x, cfg.sha256 x ≠ [])
    (h : w.Hashed) (hpath : Runs.Path (Loaded.Step cfg) w actions w') : w'.Hashed :=
  hpath.preserves (fun _ _ _ hw hstep => hw.step hdigest hstep) h

/-- What a session holds after one action. -/
theorem Loaded.Hashed.held_step (h : w.Hashed) (hstep : Loaded.Step cfg w a w')
    (ha : ¬ a.Prepares) (session : Nat) :
    (a = .release session → w'.held session = none) ∧
      (a ≠ .release session → w'.held session = w.held session) := by
  cases a with
  | call other env actor op =>
      rw [h.held_call hstep ha]
      exact ⟨(fun h => nomatch h), fun _ => rfl⟩
  | release other =>
      cases Loaded.step_release.mp hstep
      constructor
      · intro heq
        cases heq
        exact Function.update_self ..
      · intro hne
        exact Function.update_of_ne (fun heq => hne (congrArg Loaded.Action.release heq.symm)) ..

/-- **Between two preparations** a session holds what it held, until it lets go of it. -/
theorem Loaded.Hashed.held_since {actions : List Loaded.Action} (hdigest : ∀ x, cfg.sha256 x ≠ [])
    (h : w.Hashed) (hpath : Runs.Path (Loaded.Step cfg) w actions w')
    (hlast : ∀ a ∈ actions, ¬ a.Prepares) (session : Nat) :
    (.release session ∈ actions → w'.held session = none) ∧
      (.release session ∉ actions → w'.held session = w.held session) := by
  induction hpath with
  | nil w => exact ⟨(fun h => nomatch h), fun _ => rfl⟩
  | @cons w u w' a actions hstep _ ih =>
      obtain ⟨hout, hkept⟩ := ih (h.step hdigest hstep) fun b hb => hlast b (List.mem_cons_of_mem a hb)
      obtain ⟨hnone, hsame⟩ := h.held_step hstep (hlast a List.mem_cons_self) session
      by_cases hin : .release session ∈ actions
      · exact ⟨fun _ => hout hin, fun hno => absurd (List.mem_cons_of_mem a hin) hno⟩
      · constructor
        · intro hmem
          rcases List.mem_cons.mp hmem with heq | hrest
          · rw [hkept hin]
            exact hnone heq.symm
          · exact absurd hrest hin
        · intro hno
          rw [hkept hin]
          exact hsame fun heq => hno (heq ▸ List.mem_cons_self)

end Held

/-! ## 4. Completeness -/

/-- The live sources of a settlement: the sanctioned version and grant and the components of the
    expenses, the income records and the advance. -/
def SourcesAre (s : State) (sources : Sources) : Prop :=
  ∃ sanction, resolveSanctionedSnapshot s = .ok sanction ∧
    sources = sourcesOf sanction.approvedVersionId sanction.grant s.expenses.rows s.incomes.rows
      (s.advance.map Subtype.val)

/-- The fingerprint `prepare_settlement` computes. -/
def FingerprintIs (cfg : Config) (s : State) (fp : Text) : Prop :=
  ∃ sanction, resolveSanctionedSnapshot s = .ok sanction ∧ fp = liveFingerprint cfg s sanction

/-- The fingerprint `submit_settlement` and `audit_settlement` compare with. -/
def ComparedWith (cfg : Config) (s : State) (fp : Text) : Prop :=
  ∃ r, s.settlement = some r ∧ getPreparedSourceFingerprint cfg s r.1.id = .ok (some fp)

/-- A submission and an audit find the live sources consistent. -/
theorem consistent_of_effect {cfg : Config} {s s' : State} {m : Move} (heff : Effect cfg s m s')
    (hm : m = .settlement .submitted ∨ m = .settlement .audited) :
    ∃ r prepared sanction, s.settlement = some r ∧ Consistent cfg s r.1 prepared sanction := by
  cases heff with
  | settlement m s' hstep =>
      cases hstep with
      | submitted r row prepared sanction entries hr hmut hfrom hcons hfig hst =>
          exact ⟨r, prepared, sanction, hr, hcons⟩
      | queried r row prepared sanction entries hr hmut hfrom hcons hfig hst =>
          exact ⟨r, prepared, sanction, hr, hcons⟩
      | approved r row prepared sanction entries hr hmut hfrom hcons hfig hst =>
          exact ⟨r, prepared, sanction, hr, hcons⟩
      | prepared preparedBy newId sanction row entries hcomp hcert hprev hsan hres hrow =>
          rcases hm with hm | hm <;> cases hm
      | paid r row p entries hr hmut hfrom hid hdir hle hrow => rcases hm with hm | hm <;> cases hm
      | reopened r row newId reason actor entries hr hmut hfrom hfig hst =>
          rcases hm with hm | hm <;> cases hm
  | _ => rcases hm with hm | hm <;> cases hm

theorem FingerprintIs.unique {cfg : Config} {s : State} {fp fp' : Text} (h : FingerprintIs cfg s fp)
    (h' : FingerprintIs cfg s fp') : fp' = fp := by
  obtain ⟨sanction, hsan, rfl⟩ := h
  obtain ⟨sanction', hsan', rfl⟩ := h'
  rw [hsan] at hsan'
  cases hsan'
  rfl

/-- **The comparison is with what the session holds.** -/
theorem Loaded.Hashed.compared_iff {cfg : Config} {w : Loaded} {session : Nat} {id : Uuid} {fp : Text}
    {prepared : Option Text} (h : w.Hashed)
    (hfound : getPreparedSourceFingerprint cfg (w.seen session) id = .ok prepared) :
    prepared = some fp ↔ w.held session = some fp := by
  cases hheld : w.held session with
  | none =>
      have hnone : prepared = none := compared_of_unattached (s := w.seen session) h.keys hheld hfound
      rw [hnone]
  | some other =>
      have hne : other ≠ [] := fun he => h.hashed session (hheld.trans (congrArg some he))
      rw [compared_of_attached (s := w.seen session) hheld hne] at hfound
      rw [Except.ok.inj hfound]

/-- **Staleness detection.** Take any run of calls in any sessions, whose settlement objects are let go
    at any time, cut at the latest preparation in it, and a submission or audit accepted after it. It
    compares with the fingerprint of that preparation and finds the sources of that preparation exactly
    when its session still holds the object of that preparation, or one on which a preparation before
    that left the same fingerprint. -/
theorem staleness_detected_iff {cfg : Config} {s0 : State} {w w' v v' : Loaded}
    {before since : List Loaded.Action} {preparing session : Nat} {prepareEnv env : Env}
    {preparer actor : User} {prepare op : Op} (hsha : Function.Injective cfg.sha256)
    (hdigest : ∀ x, cfg.sha256 x ≠ []) (h0 : Opening s0)
    (hbefore : Runs.Path (Loaded.Step cfg) (.start s0) before w)
    (hp : prepare.move = .settlement .prepared)
    (hprepare : Loaded.Step cfg w (.call preparing prepareEnv preparer prepare) w')
    (hsince : Runs.Path (Loaded.Step cfg) w' since v) (hlast : ∀ a ∈ since, ¬ a.Prepares)
    (hc : op.move = .settlement .submitted ∨ op.move = .settlement .audited)
    (hstep : Loaded.Step cfg v (.call session env actor op) v') :
    ((∃ fp, FingerprintIs cfg w.state fp ∧ ComparedWith cfg (v.seen session) fp) ∧
      ∃ sources, SourcesAre w.state sources ∧ SourcesAre v.state sources) ↔
      (session = preparing ∨ ∃ fp, FingerprintIs cfg w.state fp ∧ w.held session = some fp) ∧
        .release session ∉ since := by
  have hstart : (Loaded.start s0).Hashed := ⟨h0.auditKeys, fun _ h => nomatch h⟩
  have hw : w.Hashed := hstart.path hdigest hbefore
  have hw' : w'.Hashed := hw.step hdigest hprepare
  have hv : v.Hashed := hw'.path hdigest hsince
  obtain ⟨t, ht, rfl⟩ := Loaded.step_call.mp hprepare
  have heff := ht.effect
  rw [show (w.callAt preparing prepareEnv preparer prepare).op.move = _ from hp] at heff
  obtain ⟨sanction, hsan, hatt⟩ := attached_prepared heff
  have hfp : FingerprintIs cfg w.state (liveFingerprint cfg w.state sanction) := ⟨sanction, hsan, rfl⟩
  obtain ⟨hout, hkept⟩ := hw'.held_since hdigest hsince hlast session
  -- what the session of the submission or audit holds, from what it held before the preparation
  have hheld : v.held session = some (liveFingerprint cfg w.state sanction) ↔
      (session = preparing ∨ ∃ fp, FingerprintIs cfg w.state fp ∧ w.held session = some fp) ∧
        .release session ∉ since := by
    by_cases hrel : .release session ∈ since
    · rw [hout hrel]
      exact ⟨(fun h => nomatch h), fun h => absurd hrel h.2⟩
    · rw [hkept hrel]
      show Function.update w.held preparing t.attached session = _ ↔ _
      by_cases hsame : session = preparing
      · subst hsame
        rw [Function.update_self]
        exact ⟨fun _ => ⟨.inl rfl, hrel⟩, fun _ => hatt⟩
      · rw [Function.update_of_ne hsame]
        constructor
        · intro h
          exact ⟨.inr ⟨_, hfp, h⟩, hrel⟩
        · intro h
          obtain ⟨heq | ⟨fp, hthis, hfound⟩, _⟩ := h
          · exact absurd heq hsame
          · rw [hfound, hfp.unique hthis]
  rw [← hheld]
  obtain ⟨u, hu, _⟩ := Loaded.step_call.mp hstep
  obtain ⟨r, prepared, sanction', hr, hcons⟩ := consistent_of_effect hu.effect hc
  have hcompared : getPreparedSourceFingerprint cfg (v.seen session) r.1.id = .ok prepared :=
    hcons.compared
  constructor
  · intro h
    obtain ⟨⟨fp, hthis, r', hr', hfound⟩, _⟩ := h
    have hrow : r' = r := Option.some.inj (hr'.symm.trans hr)
    subst hrow
    have heq := (hv.compared_iff hfound).mp rfl
    rw [heq, hfp.unique hthis]
  · intro h
    have hprepared : prepared = some (liveFingerprint cfg w.state sanction) :=
      (hv.compared_iff hcompared).mpr h
    refine ⟨⟨_, hfp, r, hr, ?_⟩, ?_⟩
    · rw [hcompared, hprepared]
    · have hlive : liveFingerprint cfg v.state sanction' = liveFingerprint cfg w.state sanction :=
        hcons.fingerprint _ (by rw [hprepared]; rfl)
      exact ⟨_, ⟨sanction, hsan, rfl⟩, sanction', hcons.sanctioned,
        (sources_eq_of_fingerprint_eq hsha hlive).symm⟩

namespace Sample

/-- The canonical text of the sources of the sample event, without an advance. -/
def sourceText : Text := (sourceJson (uid 12) 10000 [expense 40 .verified (some 6000)] [] none).render

/-- SHA-256 at `sourceText`; texts that are not hashed in the run below get distinct values of
    another shape. -/
def digest (t : Text) : Text :=
  if t = sourceText then
    "1aab8e6079608a3b7bb5806a20996af07d7f9d85df65600beaf855646d91e866".toList
  else 'x' :: t

theorem digest_injective : Function.Injective digest := by
  intro a b h
  unfold digest at h
  by_cases ha : a = sourceText
  · by_cases hb : b = sourceText
    · rw [ha, hb]
    · rw [if_pos ha, if_neg hb] at h
      exact absurd (List.cons.inj h).1 (by decide)
  · by_cases hb : b = sourceText
    · rw [if_neg ha, if_pos hb] at h
      exact absurd (List.cons.inj h).1 (by decide)
    · rw [if_neg ha, if_neg hb] at h
      exact (List.cons.inj h).2

theorem digest_ne_nil (t : Text) : digest t ≠ [] := by
  unfold digest
  by_cases h : t = sourceText
  · rw [if_pos h]
    exact List.cons_ne_nil _ _
  · rw [if_neg h]
    exact List.cons_ne_nil _ _

end Sample

/-- Prepared and submitted in one session, with a call of another session in between. -/
theorem staleness_detected_iff_held :
    ∃ cfg w' v v' fp sources,
      Loaded.Step cfg (.start (Sample.opening none))
        ((Sample.bySecretary (.prepareSettlement (Sample.uid 30))).within 0) w' ∧
      Loaded.Step cfg w' ((Sample.byOfficer .settlementEligibility).within 1) v ∧
      Loaded.Step cfg v ((Sample.bySecretary (.submitSettlement (Sample.uid 30))).within 0) v' ∧
      ComparedWith cfg (v.seen 0) fp ∧ SourcesAre v.state sources := by
  let cfg : Config := { Sample.config .sqlite with sha256 := Sample.digest }
  let p : Loaded.Action := (Sample.bySecretary (.prepareSettlement (Sample.uid 30))).within 0
  let a : Loaded.Action := (Sample.byOfficer .settlementEligibility).within 1
  let c : Loaded.Action := (Sample.bySecretary (.submitSettlement (Sample.uid 30))).within 0
  have hrun : Runs.Ends (Loaded.exec cfg p (.start (Sample.opening none))) (fun w' =>
      Runs.Ends (Loaded.exec cfg a w') fun v => Runs.Ends (Loaded.exec cfg c v) fun _ => True) := by
    decide +kernel
  obtain ⟨w', hprepare, v, hbetween, v', hstep, _⟩ := hrun
  have hsha : Function.Injective cfg.sha256 := Sample.digest_injective
  have hdigest : ∀ x, cfg.sha256 x ≠ [] := Sample.digest_ne_nil
  have hlast : ∀ b ∈ [a], ¬ b.Prepares := by
    intro b hb hprepares
    cases List.mem_singleton.mp hb
    cases hprepares
  have hkept : .release 0 ∉ [a] := by
    intro hmem
    have heq : Loaded.Action.release 0 = .call 1 _ _ _ := List.mem_singleton.mp hmem
    cases heq
  obtain ⟨⟨fp, _, hcompared⟩, sources, _, hlive⟩ :=
    (staleness_detected_iff hsha hdigest Sample.opening_opening (.nil _) rfl hprepare
      (.single hbetween) hlast (.inl rfl) hstep).mpr ⟨.inl rfl, hkept⟩
  exact ⟨cfg, w', v, v', fp, sources, hprepare, hbetween, hstep, hcompared, hlive⟩

namespace Sample

/-- A claim of 60.00 is submitted and disallowed, each call in a session of its own. -/
def claimRefused : List Loaded.Action :=
  (claim ++ [byOfficer (.disallowExpense (uid 41) "remarks".toList)]).mapIdx fun n c =>
    c.within (n + 1)

end Sample

/-- Each call in a session of its own: a claim of 60.00 is submitted and disallowed after the
    preparation, and the settlement is submitted although its sources are not those prepared. -/
theorem staleness_can_be_missed :
    ∃ w' v v', Loaded.Step (Sample.config .sqlite) (.start (Sample.opening none))
        ((Sample.bySecretary (.prepareSettlement (Sample.uid 30))).within 0) w' ∧
      Runs.Path (Loaded.Step (Sample.config .sqlite)) w' Sample.claimRefused v ∧
      Loaded.Step (Sample.config .sqlite) v
        ((Sample.bySecretary (.submitSettlement (Sample.uid 30))).within 4) v' ∧
      ¬ ∃ sources, SourcesAre (Sample.opening none) sources ∧ SourcesAre v.state sources := by
  have hrun : Runs.Ends (Loaded.exec (Sample.config .sqlite)
      ((Sample.bySecretary (.prepareSettlement (Sample.uid 30))).within 0)
      (.start (Sample.opening none))) (fun w' =>
        Runs.Ends (Runs.run (Loaded.exec (Sample.config .sqlite)) Sample.claimRefused w')
          fun v => (∃ e ∈ v.state.expenses.rows, e.id = Sample.uid 41) ∧
            Runs.Ends (Loaded.exec (Sample.config .sqlite)
              ((Sample.bySecretary (.submitSettlement (Sample.uid 30))).within 4) v)
                fun _ => True) := by
    decide
  obtain ⟨w', hprepare, v, hsince, ⟨e, he, hid⟩, v', hstep, _⟩ := hrun
  refine ⟨w', v, v', hprepare, Runs.path_of_run hsince, hstep, ?_⟩
  intro h
  obtain ⟨sources, ⟨sanction, _, hthen⟩, sanction', _, hnow⟩ := h
  have hexp : expenseSource e ∈ sources.expenses := by
    rw [hnow]
    exact ⟨e, he, rfl⟩
  rw [hthen] at hexp
  obtain ⟨old, hold, heq⟩ := hexp
  have hkey : old.id = Sample.uid 41 := (congrArg Prod.fst heq).trans hid
  have hnone : ∀ old ∈ (Sample.opening none).expenses.rows, old.id ≠ Sample.uid 41 := by
    decide
  exact hnone old hold hkey

end CampusConnect
