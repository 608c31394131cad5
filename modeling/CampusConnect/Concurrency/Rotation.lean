/-
  File:      CampusConnect/Concurrency/Rotation.lean
  Subject:   SINGLE USE of refresh tokens, with any number of rotations and revocations at once.

  * `TokenRequest.script`: the transactions of `rotate_refresh_token`, `revoke_refresh_token` and
    `revoke_all_user_tokens`; none of them locks the record it looks at;
  * `Written`: what a commit writes: it issues a successor, revokes rows, or has detected a reuse;
  * `Later`: the order commits climb when each rotation still finds its record unrevoked;
  * `SingleUse`, `rotation_single_use`: then a token has one successor, and a detected reuse leaves
    none of its successors usable.
-/
import CampusConnect.Base.Transactions
import CampusConnect.Services.Tokens
import CampusConnect.System

namespace CampusConnect

open Guarded Transactions

/-! ## 1. The transactions -/

/-- What a request reads outside the tokens. -/
structure AuthEnv where
  now : Moment
  users : List Account
  /-- `timedelta(days=settings.REFRESH_TOKEN_EXPIRE_DAYS)`. -/
  lifetime : Int

/-- `await db.get(User, record.user_id)`, when the account is usable. -/
def AuthEnv.account (env : AuthEnv) (id : Uuid) : Option Account :=
  (env.users.find? fun u => u.id = id).filter fun u => u.isActive ∧ u.deletedAt = none

/-- A call on the refresh tokens. `newId` and `newRaw` are the successor a rotation draws. -/
inductive TokenRequest where
  | rotate (env : AuthEnv) (raw : Text) (newId : Uuid) (newRaw : Text)
  | revoke (env : AuthEnv) (raw : Text)
  | revokeAll (env : AuthEnv) (userId : Uuid)

/-- Programs on the tokens. A row of the table is locked under its key. -/
abbrev TokenProg := Prog Failure TokenStore Uuid

namespace AuthService

/-- `record.revoked_at = now; await db.commit()`: the UPDATE waits for the row. -/
def revokeRecord (now : Moment) (record : RefreshToken) :
    TokenProg (TokenStore → Result TokenStore) := do
  let _ ← Prog.hold fun _ => [record.id]
  return fun s => .ok (s.revoke [record.id] now)

/-- `UPDATE refresh_tokens … WHERE user_id = … AND revoked_at IS NULL`: the rows its snapshot finds,
    and of these the ones that still match when they are locked. -/
def revokeActive (now : Moment) (userId : Uuid) (after : TokenStore → TokenStore) :
    TokenProg (TokenStore → Result TokenStore) := do
  let found ← Prog.view
  let held ← Prog.hold fun _ => found.active userId
  return fun s => .ok (after
    (s.revoke ((found.active userId).filter fun id => id ∈ held.active userId) now))

/-- The insert and the update of a rotation, at its commit. -/
def writeRotation (env : AuthEnv) (hash : Text) (record : RefreshToken) (userId newId : Uuid)
    (newHash : Text) (s : TokenStore) : Result TokenStore := do
  let s ← (s.revoke [record.id] env.now).insert
    { id := newId
      userId := userId
      tokenHash := newHash
      expiresAt := env.now + env.lifetime
      revokedAt := none }
  return { s with rotations := s.rotations ++ [⟨hash, newId⟩] }

/-- `rotate_refresh_token`. The expired, the inactive and the reused token raise after their commit. -/
def rotateRefreshToken (cfg : Config) (env : AuthEnv) (raw : Text) (newId : Uuid) (newRaw : Text) :
    TokenProg (TokenStore → Result TokenStore) := do
  let _ ← Prog.lift (refuse (raw = [])
    ⟨.invalidToken, "Refresh token must be a non-empty string", []⟩)
  let seen ← Prog.view
  let record ← Prog.lift (fetch (seen.record (cfg.sha256 raw))
    ⟨.invalidToken, "Invalid or unknown refresh token", []⟩)
  if record.revokedAt ≠ none then
    revokeActive env.now record.userId fun s =>
      { s with detections := s.detections ++ [cfg.sha256 raw] }
  else if record.expiresAt ≤ env.now then revokeRecord env.now record
  else match env.account record.userId with
    | none => revokeRecord env.now record
    | some user => do
        let _ ← Prog.hold fun _ => [record.id]
        return writeRotation env (cfg.sha256 raw) record user.id newId (cfg.sha256 newRaw)

/-- `revoke_refresh_token`; an unknown or revoked token changes nothing. -/
def revokeRefreshToken (cfg : Config) (env : AuthEnv) (raw : Text) :
    TokenProg (TokenStore → Result TokenStore) := do
  if raw = [] then return fun s => .ok s
  else do
    let seen ← Prog.view
    match (seen.record (cfg.sha256 raw)).filter fun t => t.revokedAt = none with
    | none => return fun s => .ok s
    | some record => revokeRecord env.now record

end AuthService

/-- The transaction of a request. -/
def TokenRequest.script (cfg : Config) : TokenRequest → Script Failure TokenStore Uuid
  | .rotate env raw newId newRaw => AuthService.rotateRefreshToken cfg env raw newId newRaw
  | .revoke env raw => AuthService.revokeRefreshToken cfg env raw
  | .revokeAll env userId => AuthService.revokeActive env.now userId id

/-- The request, having read the rows, goes on to issue a successor of the record. -/
def TokenRequest.Issues (cfg : Config) (seen : TokenStore) : TokenRequest → Prop
  | .rotate env raw _ _ => ∃ record ∈ seen.record (cfg.sha256 raw), record.revokedAt = none ∧
      ¬ record.expiresAt ≤ env.now ∧ env.account record.userId ≠ none
  | _ => False

instance (cfg : Config) (seen : TokenStore) : (r : TokenRequest) → Decidable (r.Issues cfg seen)
  | .rotate _ _ _ _ => inferInstanceAs (Decidable (∃ record ∈ seen.record _, _))
  | .revoke _ _ | .revokeAll _ _ => .isFalse id

/-- The hash of the token a request presents. -/
def TokenRequest.presented (cfg : Config) : TokenRequest → Text
  | .rotate _ raw _ _ => cfg.sha256 raw
  | .revoke _ raw => cfg.sha256 raw
  | .revokeAll _ _ => []

/-! ## 2. What a commit writes -/

/-- **The commit of a request** that has the views `vs`, on the committed rows `s`. -/
inductive Written (cfg : Config) (r : TokenRequest) (vs : List TokenStore) (s : TokenStore) :
    TokenStore → Prop where
  | same : Written cfg r vs s s
  | revoked (ids : List Uuid) (now : Moment) : Written cfg r vs s (s.revoke ids now)
  | issued (seen : TokenStore) (rest : List TokenStore) (record : RefreshToken) (now : Moment)
      (row : RefreshToken) (hvs : vs = seen :: rest) (hrec : seen.record (r.presented cfg) = some record)
      (hissues : r.Issues cfg seen) (huser : row.userId = record.userId)
      (hfresh : ∀ u ∈ s.tokens, u.id ≠ row.id) :
      Written cfg r vs s
        { s.revoke [record.id] now with
          tokens := (s.revoke [record.id] now).tokens ++ [row]
          rotations := s.rotations ++ [⟨r.presented cfg, row.id⟩] }
  | detected (seen found held : TokenStore) (rest : List TokenStore) (record : RefreshToken)
      (now : Moment) (hvs : vs = seen :: found :: held :: rest)
      (hrec : seen.record (r.presented cfg) = some record) (hrevoked : record.revokedAt ≠ none) :
      Written cfg r vs s
        { s.revoke ((found.active record.userId).filter fun id => id ∈ held.active record.userId) now
          with detections := s.detections ++ [r.presented cfg] }

section Commits

variable {cfg : Config} {r : TokenRequest} {vs : List TokenStore} {s s' : TokenStore}
  {write : TokenStore → Result TokenStore}

theorem AuthService.revokeRecord_writes {now : Moment} {record : RefreshToken}
    (h : (AuthService.revokeRecord now record).after vs = .done write) :
    write = fun s => .ok (s.revoke [record.id] now) := by
  obtain ⟨_, _, _, h⟩ := Prog.after_hold.mp h
  exact (Prog.after_done.mp h).symm

theorem AuthService.revokeActive_writes {now : Moment} {userId : Uuid}
    {after : TokenStore → TokenStore}
    (h : (AuthService.revokeActive now userId after).after vs = .done write) :
    ∃ found held rest, vs = found :: held :: rest ∧ write = fun s => .ok (after
      (s.revoke ((found.active userId).filter fun id => id ∈ held.active userId) now)) := by
  obtain ⟨found, _, rfl, h⟩ := Prog.after_view.mp h
  obtain ⟨held, rest, rfl, h⟩ := Prog.after_hold.mp h
  exact ⟨found, held, rest, rfl, (Prog.after_done.mp h).symm⟩

theorem AuthEnv.account_id {env : AuthEnv} {id : Uuid} {user : Account}
    (h : env.account id = some user) : user.id = id := by
  obtain ⟨hfind, _⟩ := Option.filter_eq_some_iff.mp h
  have hkey := List.find?_some hfind
  rwa [decide_eq_true_eq] at hkey

theorem AuthService.rotateRefreshToken_writes {env : AuthEnv} {raw newRaw : Text} {newId : Uuid}
    (h : (AuthService.rotateRefreshToken cfg env raw newId newRaw).after vs = .done write)
    (hw : write s = .ok s') : Written cfg (.rotate env raw newId newRaw) vs s s' := by
  unfold AuthService.rotateRefreshToken at h
  obtain ⟨_, _, h⟩ := Prog.after_decision.mp h
  obtain ⟨seen, rest, rfl, h⟩ := Prog.after_view.mp h
  obtain ⟨record, hrec, h⟩ := Prog.after_decision.mp h
  rw [fetch_accepts] at hrec
  by_cases hrevoked : record.revokedAt ≠ none
  · rw [if_pos hrevoked] at h
    obtain ⟨found, held, tail, rfl, rfl⟩ := AuthService.revokeActive_writes h
    cases hw
    exact .detected seen found held tail record env.now rfl hrec hrevoked
  · rw [if_neg hrevoked] at h
    by_cases hexp : record.expiresAt ≤ env.now
    · rw [if_pos hexp] at h
      rw [AuthService.revokeRecord_writes h] at hw
      cases hw
      exact .revoked _ _
    · rw [if_neg hexp] at h
      cases hacc : env.account record.userId with
      | none =>
          simp only [hacc] at h
          rw [AuthService.revokeRecord_writes h] at hw
          cases hw
          exact .revoked _ _
      | some user =>
          simp only [hacc] at h
          obtain ⟨_, _, _, h⟩ := Prog.after_hold.mp h
          rw [← Prog.after_done.mp h] at hw
          simp only [AuthService.writeRotation, TokenStore.insert, bind_accepts, refuse_accepts,
            exists_unit, pure_accepts] at hw
          obtain ⟨t, ⟨hfresh, rfl⟩, rfl⟩ := hw
          refine .issued seen rest record env.now _ rfl hrec ?_ ?_ ?_
          · refine ⟨record, hrec, not_not.mp hrevoked, hexp, ?_⟩
            rw [hacc]
            exact Option.some_ne_none user
          · exact AuthEnv.account_id hacc
          · intro u hu hid
            refine hfresh ⟨TokenStore.revoked [record.id] env.now u, ?_, .inl ?_⟩
            · exact TokenStore.mem_revoke.mpr ⟨u, hu, rfl⟩
            · rw [TokenStore.revoked_id]
              exact hid

/-- **Every commit writes one of these.** -/
theorem TokenRequest.writes (h : (r.script cfg).after vs = .done write) (hw : write s = .ok s') :
    Written cfg r vs s s' := by
  cases r with
  | rotate env raw newId newRaw => exact AuthService.rotateRefreshToken_writes h hw
  | revoke env raw =>
      unfold TokenRequest.script AuthService.revokeRefreshToken at h
      by_cases hraw : raw = []
      · simp only [if_pos hraw] at h
        rw [← Prog.after_done.mp h] at hw
        cases hw
        exact .same
      · simp only [if_neg hraw] at h
        obtain ⟨seen, rest, rfl, hseen⟩ := Prog.after_view.mp h
        split at hseen
        · rw [← Prog.after_done.mp hseen] at hw
          cases hw
          exact .same
        · rw [AuthService.revokeRecord_writes hseen] at hw
          cases hw
          exact .revoked _ _
  | revokeAll env userId =>
      obtain ⟨found, held, rest, rfl, rfl⟩ := AuthService.revokeActive_writes h
      cases hw
      exact .revoked _ _

end Commits

/-! ## 3. The order commits climb -/

/-- **What is there stays**: a record with its user, a row, what is revoked, the rotations; and a
    revoked token is rotated no more. -/
structure Later (s t : TokenStore) : Prop where
  record : ∀ hash r, s.record hash = some r → ∃ r', t.record hash = some r' ∧ r'.id = r.id ∧
    r'.userId = r.userId ∧ (r.revokedAt ≠ none → r'.revokedAt ≠ none)
  row : ∀ id, (∃ u ∈ s.tokens, u.id = id) → ∃ u ∈ t.tokens, u.id = id
  gone : ∀ id, s.Gone id → t.Gone id
  closed : ∀ hash r, s.record hash = some r → r.revokedAt ≠ none →
    t.successors hash = s.successors hash

theorem Later.refl (s : TokenStore) : Later s s :=
  ⟨fun _ r hr => ⟨r, hr, rfl, rfl, id⟩, fun _ h => h, fun _ h => h, fun _ _ _ _ => rfl⟩

theorem Later.trans {s t u : TokenStore} (h : Later s t) (h' : Later t u) : Later s u where
  record := by
    intro hash r hr
    obtain ⟨r', hr', hid, huser, hrev⟩ := h.record hash r hr
    obtain ⟨q, hq, hid', huser', hrev'⟩ := h'.record hash r' hr'
    exact ⟨q, hq, hid'.trans hid, huser'.trans huser, fun hn => hrev' (hrev hn)⟩
  row := fun id hid => h'.row id (h.row id hid)
  gone := fun id hid => h'.gone id (h.gone id hid)
  closed := by
    intro hash r hr hrev
    obtain ⟨r', hr', _, _, hrev'⟩ := h.record hash r hr
    rw [h'.closed hash r' hr' (hrev' hrev), h.closed hash r hr hrev]

section Orders

variable {s : TokenStore} {ids : List Uuid} {now : Moment}

theorem Later.revoke (s : TokenStore) (ids : List Uuid) (now : Moment) :
    Later s (s.revoke ids now) where
  record := by
    intro hash r hr
    refine ⟨TokenStore.revoked ids now r, ?_, TokenStore.revoked_id r, TokenStore.revoked_userId r,
      TokenStore.revoked_of_revoked⟩
    rw [TokenStore.record_revoke, hr]
    rfl
  row := by
    intro id h
    obtain ⟨u, hu, hid⟩ := h
    exact ⟨TokenStore.revoked ids now u, TokenStore.mem_revoke.mpr ⟨u, hu, rfl⟩,
      (TokenStore.revoked_id u).trans hid⟩
  gone := by
    intro id h
    obtain ⟨⟨u, hu, hid⟩, hall⟩ := h
    refine ⟨⟨TokenStore.revoked ids now u, TokenStore.mem_revoke.mpr ⟨u, hu, rfl⟩,
      (TokenStore.revoked_id u).trans hid⟩, fun t ht htid => ?_⟩
    obtain ⟨v, hv, rfl⟩ := TokenStore.mem_revoke.mp ht
    exact TokenStore.revoked_of_revoked (hall v hv ((TokenStore.revoked_id v).symm.trans htid))
  closed := fun _ _ _ _ => rfl

/-- A successor is issued for a record that is not revoked. -/
theorem Later.issue {hash : Text} {row r : RefreshToken} (hr : s.record hash = some r)
    (hlive : r.revokedAt = none) (hfresh : ∀ u ∈ s.tokens, u.id ≠ row.id) :
    Later s { s with tokens := s.tokens ++ [row], rotations := s.rotations ++ [⟨hash, row.id⟩] } where
  record := fun _ q hq => ⟨q, TokenStore.record_append hq, rfl, rfl, id⟩
  row := by
    intro id h
    obtain ⟨u, hu, hid⟩ := h
    exact ⟨u, List.mem_append_left _ hu, hid⟩
  gone := by
    intro id h
    obtain ⟨⟨u, hu, hid⟩, hall⟩ := h
    refine ⟨⟨u, List.mem_append_left _ hu, hid⟩, fun t ht htid => ?_⟩
    rcases List.mem_append.mp ht with hold | hnew
    · exact hall t hold htid
    · rw [List.mem_singleton.mp hnew] at htid
      exact (hfresh u hu (hid.trans htid.symm)).elim
  closed := by
    intro other q hq hrev
    have hne : hash ≠ other := by
      intro he
      rw [← he, hr] at hq
      rw [← Option.some.inj hq] at hrev
      exact hrev hlive
    unfold TokenStore.successors
    rw [List.filter_append, List.filter_singleton, decide_eq_false hne]
    exact congrArg (List.map Rotation.issued) (List.append_nil _)

end Orders

/-! ## 4. Rotations of a current record -/

/-- **The condition on a commit**: a rotation that issues a successor commits while the record of the
    token it was presented is not revoked. -/
def CurrentRecord (cfg : Config) (r : TokenRequest) (vs : List TokenStore) (s : TokenStore) : Prop :=
  ∀ seen ∈ vs.head?, r.Issues cfg seen → ∃ record ∈ s.record (r.presented cfg),
    record.revokedAt = none

instance (cfg : Config) (r : TokenRequest) (vs : List TokenStore) (s : TokenStore) :
    Decidable (CurrentRecord cfg r vs s) :=
  inferInstanceAs (Decidable (∀ seen ∈ vs.head?, _ → ∃ record ∈ s.record _, _))

/-- The tokens before the run: no rotation and no reuse is on record. -/
def Unrotated (s : TokenStore) : Prop := s.rotations = [] ∧ s.detections = []

/-- The worlds of all runs whose rotations are of current records. -/
abbrev ReachableCurrent (cfg : Config) : World Failure TokenStore Uuid TokenRequest → Prop :=
  Transactions.Reachable (TokenRequest.script cfg) Unrotated (OnCommit (CurrentRecord cfg))

/-- **The rows after an issue**: the successor is appended, then the record revoked. -/
structure Issued (hash : Text) (r row : RefreshToken) (s : TokenStore) : Prop where
  record : s.record hash = some r
  live : r.revokedAt = none
  user : row.userId = r.userId
  fresh : ∀ u ∈ s.tokens, u.id ≠ row.id

/-- The rows a rotation leaves. -/
def TokenStore.rotated (s : TokenStore) (hash : Text) (row : RefreshToken) (id : Uuid)
    (now : Moment) : TokenStore :=
  ({ s with
    tokens := s.tokens ++ [row]
    rotations := s.rotations ++ [⟨hash, row.id⟩] } : TokenStore).revoke [id] now

section Currents

variable {cfg : Config} {r : TokenRequest} {vs : List TokenStore} {s s' : TokenStore}

/-- **A commit on rows no older than its views**, when a rotation is of a current record. -/
theorem Written.current (h : Written cfg r vs s s') (hcur : CurrentRecord cfg r vs s)
    (hviews : ∀ v ∈ vs, Later v s) :
    (∃ ids now, s' = s.revoke ids now) ∨ s' = s ∨
      (∃ record row now, Issued (r.presented cfg) record row s ∧
        s' = s.rotated (r.presented cfg) row record.id now) ∨
      ∃ seen found held rest record now, vs = seen :: found :: held :: rest ∧
        seen.record (r.presented cfg) = some record ∧ record.revokedAt ≠ none ∧
        s' = { s.revoke ((found.active record.userId).filter fun id =>
          id ∈ held.active record.userId) now with
            detections := s.detections ++ [r.presented cfg] } := by
  cases h with
  | same => exact .inr (.inl rfl)
  | revoked ids now => exact .inl ⟨ids, now, rfl⟩
  | issued seen rest record now row hvs hrec hissues huser hfresh =>
      subst hvs
      obtain ⟨found, hfound, hlive⟩ := hcur seen rfl hissues
      obtain ⟨r', hr', hid, huser', _⟩ :=
        (hviews seen (List.mem_cons_self ..)).record _ record hrec
      have hsame : r' = found := Option.some.inj (hr'.symm.trans hfound)
      subst hsame
      have hne : row.id ∉ [record.id] := by
        rw [List.mem_singleton, ← hid]
        exact (hfresh r' (List.mem_of_find?_eq_some hr')).symm
      refine .inr (.inr (.inl ⟨r', row, now, ⟨hr', hlive, huser.trans huser'.symm, hfresh⟩, ?_⟩))
      have hrow : TokenStore.revoked [record.id] now row = row := if_neg hne
      unfold TokenStore.rotated TokenStore.revoke
      rw [List.map_append, List.map_singleton, hid, hrow]
  | detected seen found held rest record now hvs hrec hrevoked =>
      exact .inr (.inr (.inr ⟨seen, found, held, rest, record, now, hvs, hrec, hrevoked, rfl⟩))

theorem Later.of_written (h : Written cfg r vs s s') (hcur : CurrentRecord cfg r vs s)
    (hviews : ∀ v ∈ vs, Later v s) : Later s s' := by
  rcases h.current hcur hviews with ⟨ids, now, rfl⟩ | rfl | ⟨record, row, now, hi, rfl⟩ |
      ⟨seen, found, held, rest, record, now, _, _, _, rfl⟩
  · exact .revoke s ids now
  · exact .refl _
  · exact (Later.issue hi.record hi.live hi.fresh).trans (.revoke _ _ _)
  · have hlater := Later.revoke s ((found.active record.userId).filter fun id =>
      id ∈ held.active record.userId) now
    exact ⟨hlater.record, hlater.row, hlater.gone, hlater.closed⟩

variable {w : World Failure TokenStore Uuid TokenRequest}

/-- What a session has read is older than the rows. -/
theorem ReachableCurrent.older (h : ReachableCurrent cfg w) :
    ∀ i t, w.running i = some t → ∀ v ∈ t.views, Later v w.db := by
  refine Transactions.Reachable.sessions (P := fun _ vs s => ∀ v ∈ vs, Later v s) ?_ ?_ ?_ h
  · intro r s v hv
    cases hv
  · intro w r vs _ hp v hv
    rcases List.mem_append.mp hv with hold | hnew
    · exact hp v hold
    · rw [List.mem_singleton.mp hnew]
      exact .refl w.db
  · intro w i t s hw hok hc hp j u _ hj v hv
    obtain ⟨write, hdone, hwrite⟩ := hc.write
    have hlater : Later w.db s := .of_written (TokenRequest.writes hdone hwrite)
      (OnCommit.commit hw hok hc) (hp i t hc.running)
    exact (hp j u hj v hv).trans hlater

/-- A commit of such a run, with what it was decided on. -/
theorem ReachableCurrent.commit (h : ReachableCurrent cfg w) {i : Nat}
    {t : Txn Failure TokenStore Uuid TokenRequest} {s : TokenStore}
    (hok : OnCommit (CurrentRecord cfg) w (.run i)) (hc : Commit (TokenRequest.script cfg) w i t s) :
    Written cfg t.request t.views w.db s ∧ CurrentRecord cfg t.request t.views w.db ∧
      (∀ v ∈ t.views, Later v w.db) ∧ Later w.db s := by
  obtain ⟨write, hdone, hwrite⟩ := hc.write
  have hwritten := TokenRequest.writes hdone hwrite
  have hcur := OnCommit.commit h hok hc
  have hviews := h.older i t hc.running
  exact ⟨hwritten, hcur, hviews, .of_written hwritten hcur hviews⟩

/-- A session reads forward. -/
theorem ReachableCurrent.ordered (h : ReachableCurrent cfg w) :
    ∀ i t, w.running i = some t → t.views.Pairwise Later :=
  Transactions.Reachable.ordered Later.refl (fun _ _ _ => Later.trans)
    (fun _ _ _ _ hw hok hc => (ReachableCurrent.commit hw hok hc).2.2.2) h

end Currents

/-! ## 5. Every successor is accounted for -/

/-- **A token has one successor at most**; its record is revoked, and the row belongs to its user. -/
structure Accounted (s : TokenStore) : Prop where
  owned : ∀ hash, ∀ id ∈ s.successors hash, ∃ r, s.record hash = some r ∧ r.revokedAt ≠ none ∧
    (∃ u ∈ s.tokens, u.id = id) ∧ ∀ u ∈ s.tokens, u.id = id → u.userId = r.userId
  once : ∀ hash, (s.successors hash).length ≤ 1

section Accounts

variable {s : TokenStore}

theorem Accounted.revoke (h : Accounted s) (ids : List Uuid) (now : Moment) :
    Accounted (s.revoke ids now) where
  owned := by
    intro hash id hid
    obtain ⟨r, hr, hrev, hrow, huser⟩ := h.owned hash id hid
    refine ⟨TokenStore.revoked ids now r, ?_, TokenStore.revoked_of_revoked hrev,
      (Later.revoke s ids now).row id hrow, fun u hu huid => ?_⟩
    · rw [TokenStore.record_revoke, hr]
      rfl
    · obtain ⟨v, hv, rfl⟩ := TokenStore.mem_revoke.mp hu
      rw [TokenStore.revoked_userId, TokenStore.revoked_userId]
      exact huser v hv ((TokenStore.revoked_id v).symm.trans huid)
  once := h.once

/-- The successors after a rotation. -/
theorem TokenStore.successors_rotated {hash other : Text} {row : RefreshToken} {id : Uuid}
    {now : Moment} : (s.rotated hash row id now).successors other =
      if hash = other then s.successors other ++ [row.id] else s.successors other := by
  unfold TokenStore.rotated TokenStore.revoke TokenStore.successors
  rw [List.filter_append, List.filter_singleton, List.map_append]
  by_cases h : hash = other
  · rw [if_pos h, decide_eq_true h]
    rfl
  · rw [if_neg h, decide_eq_false h]
    exact List.append_nil _

theorem Accounted.rotated {hash : Text} {r row : RefreshToken} (h : Accounted s)
    (hi : Issued hash r row s) (now : Moment) : Accounted (s.rotated hash row r.id now) := by
  -- a live record has no successor yet
  have hnone : s.successors hash = [] := by
    rw [List.eq_nil_iff_forall_not_mem]
    intro id hid
    obtain ⟨q, hq, hrev, _⟩ := h.owned hash id hid
    rw [hi.record] at hq
    rw [← Option.some.inj hq] at hrev
    exact hrev hi.live
  constructor
  · intro other id hid
    rw [TokenStore.successors_rotated] at hid
    by_cases he : hash = other
    · rw [if_pos he, ← he, hnone, List.nil_append, List.mem_singleton] at hid
      subst hid he
      refine ⟨TokenStore.revoked [r.id] now r, ?_,
        TokenStore.revoked_of_mem (List.mem_singleton_self _), ?_, fun u hu huid => ?_⟩
      · unfold TokenStore.rotated
        rw [TokenStore.record_revoke]
        exact congrArg (Option.map _) (TokenStore.record_append hi.record)
      · refine ⟨TokenStore.revoked [r.id] now row, ?_, TokenStore.revoked_id row⟩
        exact TokenStore.mem_revoke.mpr
          ⟨row, List.mem_append_right _ (List.mem_singleton_self _), rfl⟩
      · obtain ⟨v, hv, rfl⟩ := TokenStore.mem_revoke.mp hu
        rw [TokenStore.revoked_id] at huid
        rw [TokenStore.revoked_userId, TokenStore.revoked_userId]
        rcases List.mem_append.mp hv with hold | hnew
        · exact (hi.fresh v hold huid).elim
        · rw [List.mem_singleton.mp hnew]
          exact hi.user
    · rw [if_neg he] at hid
      obtain ⟨q, hq, hrev, ⟨u, hu, huid⟩, huser⟩ := h.owned other id hid
      refine ⟨TokenStore.revoked [r.id] now q, ?_, TokenStore.revoked_of_revoked hrev, ?_,
        fun t ht htid => ?_⟩
      · unfold TokenStore.rotated
        rw [TokenStore.record_revoke]
        exact congrArg (Option.map _) (TokenStore.record_append hq)
      · refine ⟨TokenStore.revoked [r.id] now u, ?_, (TokenStore.revoked_id u).trans huid⟩
        exact TokenStore.mem_revoke.mpr ⟨u, List.mem_append_left _ hu, rfl⟩
      · obtain ⟨v, hv, rfl⟩ := TokenStore.mem_revoke.mp ht
        rw [TokenStore.revoked_id] at htid
        rw [TokenStore.revoked_userId, TokenStore.revoked_userId]
        rcases List.mem_append.mp hv with hold | hnew
        · exact huser v hold htid
        · rw [List.mem_singleton.mp hnew] at htid
          exact (hi.fresh u hu (huid.trans htid.symm)).elim
  · intro other
    rw [TokenStore.successors_rotated]
    by_cases he : hash = other
    · rw [if_pos he, ← he, hnone]
      exact Nat.le_refl 1
    · rw [if_neg he]
      exact h.once other

variable {cfg : Config} {w : World Failure TokenStore Uuid TokenRequest}

theorem ReachableCurrent.accounted (h : ReachableCurrent cfg w) : Accounted w.db := by
  refine Transactions.Reachable.invariant (P := fun _ s => Accounted s) ?_ ?_ h
  · intro s hex
    obtain ⟨hrot, _⟩ := hex
    constructor
    · intro hash id hid
      unfold TokenStore.successors at hid
      rw [hrot] at hid
      cases hid
    · intro hash
      unfold TokenStore.successors
      rw [hrot]
      exact Nat.zero_le 1
  · intro w i t s hw hok hc hp
    obtain ⟨hwritten, hcur, hviews, _⟩ := ReachableCurrent.commit hw hok hc
    rcases hwritten.current hcur hviews with ⟨ids, now, rfl⟩ | rfl | ⟨record, row, now, hi, rfl⟩ |
        ⟨seen, found, held, rest, record, now, _, _, _, rfl⟩
    · exact hp.revoke ids now
    · exact hp
    · exact hp.rotated hi now
    · have hacc := hp.revoke ((found.active record.userId).filter fun id =>
        id ∈ held.active record.userId) now
      exact ⟨hacc.owned, hacc.once⟩

end Accounts

/-! ## 6. Detected reuses -/

/-- The record of a reused token is revoked, and so is every successor it has. -/
structure Defended (s : TokenStore) (hash : Text) : Prop where
  record : ∃ r, s.record hash = some r ∧ r.revokedAt ≠ none
  successors : ∀ id ∈ s.successors hash, s.Gone id

/-- No later commit issues a successor of a reused token, or revives one. -/
theorem Defended.later {s t : TokenStore} {hash : Text} (h : Defended s hash) (hl : Later s t) :
    Defended t hash := by
  obtain ⟨r, hr, hrev⟩ := h.record
  obtain ⟨r', hr', _, _, hrev'⟩ := hl.record hash r hr
  refine ⟨⟨r', hr', hrev' hrev⟩, fun id hid => ?_⟩
  rw [hl.closed hash r hr hrev] at hid
  exact hl.gone id (h.successors id hid)

/-- A successor that is still live was active when an earlier statement looked. -/
theorem Accounted.active {seen found s : TokenStore} {hash : Text} {record u : RefreshToken}
    (hacc : Accounted found) (hrec : seen.record hash = some record) (hlater : Later seen found)
    (hnow : Later found s) (hid : u.id ∈ found.successors hash) (hu : u ∈ s.tokens)
    (hlive : u.revokedAt = none) : u.id ∈ found.active record.userId := by
  obtain ⟨r, hr, _, hrow, huser⟩ := hacc.owned hash u.id hid
  obtain ⟨r', hr', _, huser', _⟩ := hlater.record hash record hrec
  have hsame : r = r' := Option.some.inj (hr.symm.trans hr')
  have hnot : ¬ found.Gone u.id := by
    intro hgone
    exact (hnow.gone u.id hgone).2 u hu rfl hlive
  obtain ⟨v, hv, hvid, hvlive⟩ := TokenStore.live_of_not_gone hnot hrow
  refine TokenStore.mem_active.mpr ⟨v, hv, ?_, hvlive, hvid⟩
  rw [huser v hv hvid, hsame, huser']

/-- **A detection catches every successor**: each was issued before the record was seen revoked. -/
theorem Defended.detected {seen found held s : TokenStore} {hash : Text} {record : RefreshToken}
    (hrec : seen.record hash = some record) (hrev : record.revokedAt ≠ none)
    (hsf : Later seen found) (hsh : Later seen held) (hfs : Later found s) (hhs : Later held s)
    (hfound : Accounted found) (hheld : Accounted held) (hs : Accounted s) (now : Moment)
    (detections : List Text) :
    Defended { s.revoke ((found.active record.userId).filter fun id =>
      id ∈ held.active record.userId) now with detections := detections } hash := by
  obtain ⟨r, hr, _, _, hrev'⟩ := (hsf.trans hfs).record hash record hrec
  obtain ⟨q, hq, _, _, hgone⟩ := (Later.revoke s ((found.active record.userId).filter fun id =>
    id ∈ held.active record.userId) now).record hash r hr
  refine ⟨⟨q, hq, hgone (hrev' hrev)⟩, fun id hid => ?_⟩
  have hsid : id ∈ s.successors hash := hid
  have hold : s.successors hash = seen.successors hash :=
    (hsf.trans hfs).closed hash record hrec hrev
  obtain ⟨_, _, _, ⟨u, hu, huid⟩, _⟩ := hs.owned hash id hsid
  refine ⟨⟨_, TokenStore.mem_revoke.mpr ⟨u, hu, rfl⟩, (TokenStore.revoked_id u).trans huid⟩,
    fun t ht htid => ?_⟩
  obtain ⟨v, hv, rfl⟩ := TokenStore.mem_revoke.mp ht
  rw [TokenStore.revoked_id] at htid
  by_cases hlive : v.revokedAt = none
  · refine TokenStore.revoked_of_mem (List.mem_filter.mpr ⟨?_, decide_eq_true ?_⟩)
    · refine hfound.active hrec hsf hfs ?_ hv hlive
      rw [hsf.closed hash record hrec hrev, ← hold, htid]
      exact hsid
    · refine hheld.active hrec hsh hhs ?_ hv hlive
      rw [hsh.closed hash record hrec hrev, ← hold, htid]
      exact hsid
  · exact TokenStore.revoked_of_revoked hlive

section Detections

variable {cfg : Config} {w : World Failure TokenStore Uuid TokenRequest}

theorem ReachableCurrent.defended (h : ReachableCurrent cfg w) :
    ∀ hash ∈ w.db.detections, Defended w.db hash := by
  refine Transactions.Reachable.invariant (P := fun _ s => ∀ hash ∈ s.detections, Defended s hash) ?_ ?_ h
  · rintro s ⟨_, hdet⟩ hash hh
    rw [hdet] at hh
    cases hh
  · intro w i t s hw hok hc hp hash hh
    obtain ⟨hwritten, hcur, hviews, hlater⟩ := ReachableCurrent.commit hw hok hc
    rcases hwritten.current hcur hviews with ⟨ids, now, rfl⟩ | rfl | ⟨record, row, now, hi, rfl⟩ |
        ⟨seen, found, held, rest, record, now, hvs, hrec, hrev, rfl⟩
    · exact (hp hash hh).later hlater
    · exact hp hash hh
    · exact (hp hash hh).later hlater
    · rcases List.mem_append.mp hh with hold | hnew
      · exact (hp hash hold).later hlater
      · rw [List.mem_singleton.mp hnew]
        have hmem : ∀ v ∈ [seen, found, held], v ∈ t.views := by
          intro v hv
          rw [hvs]
          exact List.mem_append_left rest hv
        have hpair : [seen, found, held].Pairwise Later := by
          have hall := ReachableCurrent.ordered hw i t hc.running
          rw [show t.views = [seen, found, held] ++ rest from hvs] at hall
          exact (List.pairwise_append.mp hall).1
        have hacc := Transactions.Reachable.views (fun _ => ReachableCurrent.accounted) hw i t hc.running
        have hfound := hmem found (by simp)
        have hheld := hmem held (by simp)
        refine .detected hrec hrev ?_ ?_ (hviews found hfound) (hviews held hheld)
          (hacc found hfound) (hacc held hheld) (ReachableCurrent.accounted hw) now _
        · exact (List.pairwise_cons.mp hpair).1 found (by simp)
        · exact (List.pairwise_cons.mp hpair).1 held (by simp)

end Detections

/-! ## 7. Single use -/

/-- **Single use**: a token has one successor at most, and a token whose reuse was detected has no
    successor that is not revoked. -/
structure SingleUse (s : TokenStore) : Prop where
  once : ∀ hash, (s.successors hash).length ≤ 1
  detected : ∀ hash ∈ s.detections, ∀ t ∈ s.tokens, t.id ∈ s.successors hash → t.revokedAt ≠ none

/-- **Rotation is single-use** in every interleaving in which each rotation issues its successor while
    the record of its token is not revoked. -/
theorem rotation_single_use {cfg : Config} {w : World Failure TokenStore Uuid TokenRequest}
    (h : ReachableCurrent cfg w) : SingleUse w.db where
  once := h.accounted.once
  detected := fun hash hh t ht hid => ((h.defended hash hh).successors t.id hid).2 t ht rfl

namespace Sample

def authEnv : AuthEnv where
  now := 100
  users := [⟨uid 1, true, none⟩]
  lifetime := 1000

/-- The secretary's token. -/
def tokens : TokenStore where
  tokens := [⟨uid 90, uid 1, "token".toList, 500, none⟩]
  rotations := []
  detections := []

/-- The token is rotated; the successor has the key `91 + n`. -/
def rotate (n : Nat) : TokenRequest :=
  .rotate authEnv "token".toList (uid (91 + n)) ("next".toList ++ List.replicate n 'x')

end Sample

/-- The token is rotated and then presented again: its one successor is revoked. -/
theorem rotation_single_use_replayed :
    ∃ w, ReachableCurrent (Sample.config .postgresql) w ∧
      (w.db.successors "token".toList).length = 1 ∧ w.db.detections = ["token".toList] ∧
      SingleUse w.db := by
  have hrun : Runs.Ends (Runs.run (Runs.only (OnCommit (CurrentRecord (Sample.config .postgresql))) .idle
      (World.next (TokenRequest.script (Sample.config .postgresql))))
      [.start 0 (Sample.rotate 0), .run 0, .run 0, .run 0,
        .start 1 (Sample.rotate 1), .run 1, .run 1, .run 1, .run 1] (World.idle Sample.tokens))
      (fun w => (w.db.successors "token".toList).length = 1 ∧
        w.db.detections = ["token".toList]) := by
    decide
  obtain ⟨w, hok, hone, hdet⟩ := hrun
  have hreach : ReachableCurrent (Sample.config .postgresql) w :=
    Runs.Reach.path (.start ⟨Sample.tokens, ⟨rfl, rfl⟩, rfl⟩) (Runs.path_of_run_only hok)
  exact ⟨w, hreach, hone, hdet, rotation_single_use hreach⟩

/-- Two rotations read the token before either commits, and both issue a successor. -/
theorem rotated_twice :
    ∃ w, Transactions.Reachable (TokenRequest.script (Sample.config .postgresql)) Unrotated
        (fun _ _ => True) w ∧ (w.db.successors "token".toList).length = 2 ∧
      (∀ t ∈ w.db.tokens, t.id ∈ w.db.successors "token".toList → t.revokedAt = none) ∧
      ¬ SingleUse w.db := by
  have hrun : Runs.Ends (Runs.run (World.next (TokenRequest.script (Sample.config .postgresql)))
      [.start 0 (Sample.rotate 0), .start 1 (Sample.rotate 1), .run 0, .run 1, .run 0, .run 0,
        .run 1, .run 1] (World.idle Sample.tokens))
      (fun w => (w.db.successors "token".toList).length = 2 ∧
        ∀ t ∈ w.db.tokens, t.id ∈ w.db.successors "token".toList → t.revokedAt = none) := by
    decide
  obtain ⟨w, hok, htwo, hlive⟩ := hrun
  have hpath := (Runs.path_of_run hok).under (fun _ _ => trivial)
  refine ⟨w, Runs.Reach.path (.start ⟨Sample.tokens, ⟨rfl, rfl⟩, rfl⟩) hpath, htwo, hlive,
    fun h => ?_⟩
  have hone := h.once "token".toList
  omega

end CampusConnect
