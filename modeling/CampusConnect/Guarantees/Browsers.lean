/-
  File:      CampusConnect/Guarantees/Browsers.lean
  Subject:   SESSIONS STAND ALONE: what the session of a browser is to its user, whatever the other browsers
             ask.

  * `rotateToken_live`, `AuthOp.keeps_usable`: the refresh with a live token is accepted, and no call takes
    an account out of use;
  * `Web.Seated`, `Web.Kept`: the invariant: the cookie of a browser is the live token of who sits at it,
    and no two browsers have one token;
  * `Web.Kept.step`, `sessions_stand_alone`: every run refines the session of each browser by itself.
-/
import CampusConnect.Browsers

namespace CampusConnect

open Guarded Runs

/-! ## 1. Calls -/

/-- The row of the successor. -/
def successorToken (cfg : Config) (auth : AuthSettings) (userId : Uuid) (c : RotateCall) :
    RefreshToken where
  id := c.newId
  userId := userId
  tokenHash := cfg.sha256 c.newRaw
  expiresAt := c.now + days auth.refreshTokenExpireDays
  revokedAt := none

section Calls

variable {cfg : Config} {auth : AuthSettings} {s : AccountStore} {c : RotateCall} {t : TokenStore}
  {record r : RefreshToken} {row : AccountRow} {ids : List Uuid} {now : Moment} {hash : Text} {id : Uuid}

theorem record_revoke_other (h : t.record hash = some r) (hid : r.id ∉ ids) :
    (t.revoke ids now).record hash = some r := by
  rw [TokenStore.record_revoke, h, Option.map_some]
  unfold TokenStore.revoked
  rw [if_neg hid]

/-- A row of a new hash is what its hash finds. -/
theorem record_append_new (h : ∀ u ∈ t.tokens, u.tokenHash ≠ r.tokenHash) :
    ({ t with tokens := t.tokens ++ [r] } : TokenStore).record r.tokenHash = some r := by
  unfold TokenStore.record
  rw [List.find?_append, List.find?_eq_none.mpr fun u hu => by simpa using h u hu, Option.none_or,
    List.find?_singleton, if_pos (decide_eq_true rfl)]

theorem ids_revoke : (t.revoke ids now).tokens.map RefreshToken.id = t.tokens.map RefreshToken.id := by
  unfold TokenStore.revoke
  rw [List.map_map]
  exact List.map_congr_left fun u _ => TokenStore.revoked_id u

/-- The cookie lasts as long as the token in it. -/
theorem setCookie_eq (now : Moment) (raw : Text) :
    setCookie auth now raw = ⟨raw, now + days auth.refreshTokenExpireDays⟩ := by
  have hage : seconds (maxAge auth) = days auth.refreshTokenExpireDays := by
    unfold seconds maxAge days
    omega
  unfold setCookie
  rw [hage]

/-- **The refresh with a live token is accepted**, when the account is usable and what it draws is new. -/
theorem rotateToken_live (hraw : c.raw ≠ [])
    (hrecord : s.tokens.record (cfg.sha256 c.raw) = some record)
    (hlive : record.revokedAt = none) (htime : c.now < record.expiresAt)
    (husable : s.usable record.userId = some row)
    (hnew : ∀ t ∈ s.tokens.tokens, t.id ≠ c.newId ∧ t.tokenHash ≠ cfg.sha256 c.newRaw) :
    rotateToken cfg auth s c =
      ⟨.ok
        { user := row.toLoginUser
          accessToken := refreshedAccessToken auth row.toLoginUser c
          rawRefreshToken := c.newRaw
          expiresIn := auth.accessTokenExpireMinutes * 60 },
        { s with
          tokens := s.tokens.succeeded record (successorToken cfg auth row.id c) c.now (cfg.sha256 c.raw) }⟩ := by
  have hfresh : ∀ u ∈ (s.tokens.revoke [record.id] c.now).tokens,
      u.id ≠ (successorToken cfg auth row.id c).id ∧
        u.tokenHash ≠ (successorToken cfg auth row.id c).tokenHash := by
    intro u hu
    obtain ⟨v, hv, rfl⟩ := TokenStore.mem_revoke.mp hu
    rw [TokenStore.revoked_id, TokenStore.revoked_tokenHash]
    exact hnew v hv
  have hwrite : AuthService.writeRotation (s.authEnv auth c.now) (cfg.sha256 c.raw) record row.id c.newId
      (cfg.sha256 c.newRaw) s.tokens = .ok (s.tokens.succeeded record (successorToken cfg auth row.id c)
        c.now (cfg.sha256 c.raw)) := by
    unfold AuthService.writeRotation
    have hinsert := insert_of_fresh hfresh
    unfold successorToken at hinsert
    rw [show (s.authEnv auth c.now).now = c.now from rfl,
      show (s.authEnv auth c.now).lifetime = days auth.refreshTokenExpireDays from rfl, hinsert]
    rfl
  unfold rotateToken
  simp only [if_neg hraw, hrecord, if_neg (not_not.mpr hlive), husable, hwrite,
    if_neg (Int.not_le.mpr htime : ¬ record.expiresAt ≤ (s.authEnv auth c.now).now)]

/-- **No call takes an account out of use.** -/
theorem AuthOp.keeps_usable (auth : AuthSettings) (o : AuthOp)
    (hlower : ∀ t, cfg.sqlLower (cfg.lower t) = cfg.lower t) (hs : s.Sound cfg) :
    (o.apply cfg auth s).Sound cfg ∧
      ∀ id row, s.usable id = some row → ∃ row', (o.apply cfg auth s).usable id = some row' := by
  have hcall : Path (Accounts.Step cfg auth) s [o] (o.apply cfg auth s) := .single rfl
  have hsound := (Accounts.sound hlower hs hcall).1
  refine ⟨hsound, fun id row h => ?_⟩
  obtain ⟨hmem, hid, husable⟩ := AccountStore.usable_some h
  obtain ⟨row', hrow', hsame⟩ := Accounts.kept hlower hs hcall hmem
  have hid' : row'.id = id := (identity_column hsame (fun u => u.id) fun _ => rfl).trans hid
  have husable' : row'.isActive = true ∧ row'.deletedAt = none :=
    AccountRow.Usable.identified husable hsame
  refine ⟨row', ?_⟩
  unfold AccountStore.usable
  rw [← hid', hsound.find hrow', Option.filter_some, if_pos (decide_eq_true husable')]

/-- A registration opens no session. -/
theorem register_tokens (newId : Uuid) (salt : Text) (data : UserRegisterRequest) :
    ((AuthOp.register newId salt data).apply cfg auth s).tokens = s.tokens := by
  unfold AuthOp.apply
  simp only
  split
  · rename_i row s' h
    obtain ⟨_, _, _, hr⟩ := registerUser_accepts.mp h
    rw [(Prod.mk.inj hr).2]
  · rfl

/-- The refresh token of a login is the one it drew. -/
theorem loginUser_raw {c : LoginCall} {session : Session}
    (h : (loginUser cfg auth s c).answer = .ok session) :
    session.rawRefreshToken = c.rawRefreshToken := by
  unfold loginUser at h
  split at h
  · cases h
  · cases h
  · simp only [authenticateUser] at h
    split at h
    · cases h
    split at h
    · cases h
    split at h
    · cases h
    split at h
    · split at h <;> cases h
    · split at h
      · cases h
      · cases h
        rfl

/-- **An accepted login**: its token, and the account, which stays in use. -/
theorem loginUser_opens {c : LoginCall} {session : Session}
    (hlower : ∀ t, cfg.sqlLower (cfg.lower t) = cfg.lower t) (hs : s.Sound cfg)
    (h : (loginUser cfg auth s c).answer = .ok session) :
    (loginUser cfg auth s c).state.tokens =
        { s.tokens with tokens := s.tokens.tokens ++ [loginToken cfg auth session.user.id c] } ∧
      ∃ row, (loginUser cfg auth s c).state.usable session.user.id = some row := by
  obtain ⟨row, hselect, husable, huser, _, hinsert⟩ := loginUser_session h
  have hid : session.user.id = row.id := by
    rw [huser]
    rfl
  have hused : s.usable row.id = some row := by
    unfold AccountStore.usable
    have hboth : row.isActive = true ∧ row.deletedAt = none := husable
    rw [hs.find (mem_select hselect).1, Option.filter_some, if_pos (decide_eq_true hboth)]
  refine ⟨?_, ?_⟩
  · rw [hid, ← (TokenStore.insert_accepts.mp hinsert).2]
  · rw [hid]
    exact (AuthOp.keeps_usable auth (.login c) hlower hs).2 row.id row hused

end Calls

/-! ## 2. The invariant -/

section Invariant

variable {β : Type} (cfg : Config) (auth : AuthSettings)

/-- **Who sits at the browser**: nobody, and it has no cookie; or somebody, and its cookie is a live refresh
    token of his, which lasts as long as his session, and his account is in use. -/
inductive Web.Seated (w : Web β) (b : β) : Option Sitting → Prop where
  | vacant (hjar : w.jar b = none) : Web.Seated w b none
  | taken (s : Sitting) (raw : Text) (r : RefreshToken) (row : AccountRow)
      (hjar : w.jar b = some ⟨raw, s.renewed + days auth.refreshTokenExpireDays⟩) (hraw : raw ≠ [])
      (hrecord : w.accounts.tokens.record (cfg.sha256 raw) = some r) (hlive : r.revokedAt = none)
      (huser : r.userId = s.user) (hexpires : r.expiresAt = s.renewed + days auth.refreshTokenExpireDays)
      (husable : w.accounts.usable s.user = some row) : Web.Seated w b (some s)

/-- **The invariant of the web**, with who sits where: no reuse was detected, everybody sits where he sits,
    and no two browsers have one token. -/
structure Web.Kept (w : Web β) (seats : β → Option Sitting) : Prop where
  accounts : w.accounts.Sound cfg
  quiet : w.accounts.tokens.detections = []
  ids : (w.accounts.tokens.tokens.map RefreshToken.id).Nodup
  seated : ∀ b, w.Seated cfg auth b (seats b)
  apart : ∀ b b' k k', w.jar b = some k → w.jar b' = some k' →
    cfg.sha256 k.value = cfg.sha256 k'.value → b = b'

end Invariant

section Kept

variable {β : Type} {cfg : Config} {auth : AuthSettings} {w w' : Web β} {b b' : β}
  {seat : Option Sitting} {seats : β → Option Sitting}

/-- **The frame of a browser**: its cookie, the live record of it and the accounts in use. -/
theorem Web.Seated.frame (h : w.Seated cfg auth b seat) (hjar : w'.jar b = w.jar b)
    (hrecord : ∀ k r, w.jar b = some k → w.accounts.tokens.record (cfg.sha256 k.value) = some r →
      w'.accounts.tokens.record (cfg.sha256 k.value) = some r)
    (husable : ∀ id row, w.accounts.usable id = some row → ∃ row', w'.accounts.usable id = some row') :
    w'.Seated cfg auth b seat := by
  cases h with
  | vacant hnone => exact .vacant (hjar.trans hnone)
  | taken s raw r row hsome hraw hfound hlive huser hexpires huse =>
      obtain ⟨row', hrow'⟩ := husable s.user row huse
      exact .taken s raw r row' (hjar.trans hsome) hraw (hrecord _ r hsome hfound) hlive huser hexpires
        hrow'

/-- The records of two browsers are two rows. -/
theorem Web.Kept.other_record (h : w.Kept cfg auth seats) (hne : b' ≠ b) {k k' : Cookie}
    {r r' : RefreshToken} (hk : w.jar b = some k) (hk' : w.jar b' = some k')
    (hr : w.accounts.tokens.record (cfg.sha256 k.value) = some r)
    (hr' : w.accounts.tokens.record (cfg.sha256 k'.value) = some r') : r'.id ∉ [r.id] := by
  intro hid
  have hsame : r' = r := List.inj_on_of_nodup_map h.ids (List.mem_of_find?_eq_some hr')
    (List.mem_of_find?_eq_some hr) (List.mem_singleton.mp hid)
  have hhash := List.find?_some hr
  have hhash' := List.find?_some hr'
  rw [decide_eq_true_eq] at hhash hhash'
  exact hne (h.apart b' b k' k hk' hk (by rw [← hhash', hsame, hhash]))

/-- A browser sends the cookie of a sitting that lasts, and no other. -/
theorem Web.sent_taken {s : Sitting} {raw : Text}
    (hjar : w.jar b = some ⟨raw, s.renewed + days auth.refreshTokenExpireDays⟩)
    (hraw : raw ≠ []) (now : Moment) : w.sent b now = if s.Lasts auth now then some raw else none := by
  unfold Web.sent
  rw [hjar, Option.filter_some]
  by_cases htime : s.Lasts auth now
  · have hsends : now < s.renewed + days auth.refreshTokenExpireDays ∧ raw ≠ [] := ⟨htime, hraw⟩
    rw [if_pos (decide_eq_true hsends), if_pos htime]
    rfl
  · have hkeeps : ¬ (now < s.renewed + days auth.refreshTokenExpireDays ∧ raw ≠ []) :=
      fun h => htime h.1
    rw [if_neg (by simpa using hkeeps), if_neg htime]
    rfl

theorem Web.sent_vacant (hjar : w.jar b = none) (now : Moment) : w.sent b now = none := by
  unfold Web.sent
  rw [hjar]
  rfl

/-- The browser has nothing to send. -/
theorem Web.Seated.sent_none {now : Moment} (h : w.Seated cfg auth b seat)
    (hnone : ∀ s, seat = some s → ¬ s.Lasts auth now) : w.sent b now = none := by
  cases h with
  | vacant hjar => exact Web.sent_vacant hjar now
  | taken s raw r row hjar hraw hrecord hlive huser hexpires husable =>
      rw [Web.sent_taken hjar hraw, if_neg (hnone s rfl)]

/-- The cookie of a browser is on record. -/
theorem Web.Kept.cookie_record (h : w.Kept cfg auth seats) {k : Cookie} (hk : w.jar b = some k) :
    ∃ r ∈ w.accounts.tokens.tokens, r.tokenHash = cfg.sha256 k.value := by
  have hseat := h.seated b
  cases hs : seats b with
  | none =>
      rw [hs] at hseat
      cases hseat with
      | vacant hjar =>
          rw [hjar] at hk
          cases hk
  | some s =>
      rw [hs] at hseat
      cases hseat with
      | taken _ raw r row hjar hraw hrecord hlive huser hexpires husable =>
          rw [hjar] at hk
          cases hk
          have hhash := List.find?_some hrecord
          rw [decide_eq_true_eq] at hhash
          exact ⟨r, List.mem_of_find?_eq_some hrecord, hhash⟩

/-- A call that writes no token and no cookie. -/
theorem Web.Kept.same (h : w.Kept cfg auth seats) (hsound : w'.accounts.Sound cfg)
    (htokens : w'.accounts.tokens = w.accounts.tokens) (hjar : w'.jar = w.jar)
    (husable : ∀ id row, w.accounts.usable id = some row → ∃ row', w'.accounts.usable id = some row') :
    w'.Kept cfg auth seats := by
  refine ⟨hsound, ?_, ?_, fun b => ?_, ?_⟩
  · rw [htokens]
    exact h.quiet
  · rw [htokens]
    exact h.ids
  · refine (h.seated b).frame (by rw [hjar]) (fun k r _ hr => ?_) husable
    rw [htokens]
    exact hr
  · rw [hjar]
    exact h.apart

end Kept

section Renewals

variable {β : Type} [DecidableEq β] {cfg : Config} {auth : AuthSettings} {w w' : Web β} {b : β}
  {seats : β → Option Sitting}

/-- A logout, which revokes the record of the browser at most. -/
theorem Web.Kept.leave (ids : List Uuid) (now : Moment) (h : w.Kept cfg auth seats)
    (husers : w'.accounts.users = w.accounts.users)
    (htokens : w'.accounts.tokens = w.accounts.tokens.revoke ids now)
    (hids : ∀ b' k' r', b' ≠ b → w.jar b' = some k' →
      w.accounts.tokens.record (cfg.sha256 k'.value) = some r' → r'.id ∉ ids)
    (hjar : w'.jar = Function.update w.jar b none) :
    w'.Kept cfg auth (Function.update seats b none) := by
  refine ⟨?_, ?_, ?_, fun b' => ?_, ?_⟩
  · obtain ⟨hkeys, hemails, hlowered⟩ := h.accounts
    exact ⟨husers ▸ hkeys, husers ▸ hemails, husers ▸ hlowered⟩
  · rw [htokens]
    exact h.quiet
  · rw [htokens, ids_revoke]
    exact h.ids
  · by_cases hb : b' = b
    · rw [hb, Function.update_self]
      refine .vacant ?_
      rw [hjar, Function.update_self]
    · rw [Function.update_of_ne hb]
      refine (h.seated b').frame ?_ ?_ ?_
      · rw [hjar, Function.update_of_ne hb]
      · intro k r hk hr
        rw [htokens]
        exact record_revoke_other hr (hids b' k r hb hk hr)
      · intro id row hrow
        unfold AccountStore.usable
        rw [husers]
        exact ⟨row, hrow⟩
  · have hold : ∀ x k, w'.jar x = some k → w.jar x = some k := by
      intro x k hk
      by_cases hx : x = b
      · rw [hjar, hx, Function.update_self] at hk
        cases hk
      · rwa [hjar, Function.update_of_ne hx] at hk
    exact fun x y k k' hk hk' => h.apart x y k k' (hold x k hk) (hold y k' hk')

/-- A new token at the browser, whose old record is revoked at most. -/
theorem Web.Kept.renew (ids : List Uuid) (now : Moment) {s : Sitting} {raw : Text} {r : RefreshToken}
    {row : AccountRow}
    (h : w.Kept cfg auth seats) (hsound : w'.accounts.Sound cfg)
    (husable : ∀ id row, w.accounts.usable id = some row → ∃ row', w'.accounts.usable id = some row')
    (hquiet : w'.accounts.tokens.detections = w.accounts.tokens.detections)
    (htokens : w'.accounts.tokens.tokens = (w.accounts.tokens.revoke ids now).tokens ++ [r])
    (hids : ∀ b' k' r', b' ≠ b → w.jar b' = some k' →
      w.accounts.tokens.record (cfg.sha256 k'.value) = some r' → r'.id ∉ ids)
    (hnew : ∀ t ∈ w.accounts.tokens.tokens, t.id ≠ r.id ∧ t.tokenHash ≠ r.tokenHash)
    (hjar : w'.jar =
      Function.update w.jar b (some ⟨raw, s.renewed + days auth.refreshTokenExpireDays⟩))
    (hraw : raw ≠ [])
    (hhash : r.tokenHash = cfg.sha256 raw) (hlive : r.revokedAt = none) (huser : r.userId = s.user)
    (hexpires : r.expiresAt = s.renewed + days auth.refreshTokenExpireDays)
    (huse : w'.accounts.usable s.user = some row) :
    w'.Kept cfg auth (Function.update seats b (some s)) := by
  have hrecord : ∀ hash, w'.accounts.tokens.record hash =
      ({ w.accounts.tokens.revoke ids now with
        tokens := (w.accounts.tokens.revoke ids now).tokens ++ [r] } : TokenStore).record hash := by
    intro hash
    unfold TokenStore.record
    rw [htokens]
  have hnew' : ∀ u ∈ (w.accounts.tokens.revoke ids now).tokens, u.tokenHash ≠ r.tokenHash := by
    intro u hu
    obtain ⟨v, hv, rfl⟩ := TokenStore.mem_revoke.mp hu
    rw [TokenStore.revoked_tokenHash]
    exact (hnew v hv).2
  refine ⟨hsound, hquiet.trans h.quiet, ?_, fun b' => ?_, ?_⟩
  · rw [htokens, List.map_append, List.map_singleton, ids_revoke]
    refine nodup_concat h.ids fun hin => ?_
    obtain ⟨t, ht, hid⟩ := List.mem_map.mp hin
    exact (hnew t ht).1 hid
  · by_cases hb : b' = b
    · rw [hb, Function.update_self]
      refine .taken s raw r row ?_ hraw ?_ hlive huser hexpires huse
      · rw [hjar, Function.update_self]
      · rw [hrecord, ← hhash]
        exact record_append_new hnew'
    · rw [Function.update_of_ne hb]
      refine (h.seated b').frame ?_ ?_ husable
      · rw [hjar, Function.update_of_ne hb]
      · intro k q hk hq
        rw [hrecord]
        exact TokenStore.record_append (record_revoke_other hq (hids b' k q hb hk hq))
  · -- the new token is no other browser's
    have hother : ∀ x k, x ≠ b → w.jar x = some k → cfg.sha256 k.value ≠ cfg.sha256 raw := by
      intro x k hx hk hsame
      obtain ⟨q, hq, hqhash⟩ := h.cookie_record hk
      exact (hnew q hq).2 (hqhash.trans (hsame.trans hhash.symm))
    intro x y k k' hk hk' hsame
    rw [hjar] at hk hk'
    by_cases hx : x = b
    · by_cases hy : y = b
      · rw [hx, hy]
      · rw [hx, Function.update_self] at hk
        rw [Function.update_of_ne hy] at hk'
        cases hk
        exact (hother y k' hy hk' hsame.symm).elim
    · rw [Function.update_of_ne hx] at hk
      by_cases hy : y = b
      · rw [hy, Function.update_self] at hk'
        cases hk'
        exact (hother x k hx hk hsame).elim
      · rw [Function.update_of_ne hy] at hk'
        exact h.apart x y k k' hk hk' hsame

end Renewals

/-! ## 3. The step -/

section Steps

variable {β : Type} [DecidableEq β] {cfg : Config} {auth : AuthSettings} {w w' : Web β} {b : β}
  {seats : β → Option Sitting} {op : WebOp β}

theorem revoke_nil (t : TokenStore) (now : Moment) : t.revoke [] now = t := by
  unfold TokenStore.revoke
  have hsame : t.tokens.map (TokenStore.revoked [] now) = t.tokens :=
    (List.map_congr_left fun u _ => if_neg List.not_mem_nil).trans (List.map_id _)
  rw [hsame]

/-- What becomes of one browser. -/
theorem update_seat {f : β → Option Sitting} {seat : Option Sitting} (hb : f b = seat)
    (hother : ∀ x, x ≠ b → f x = seats x) : f = Function.update seats b seat := by
  funext x
  by_cases hx : x = b
  · rw [hx, Function.update_self, hb]
  · rw [Function.update_of_ne hx, hother x hx]

theorem Web.login_refused {c : LoginCall} {e : AuthFailure}
    (h : (loginUser cfg auth w.accounts c).answer = .error e) :
    w.login cfg auth b c =
    (.error e, { w with accounts := (loginUser cfg auth w.accounts c).state }) := by
  unfold Web.login
  simp only [h]

theorem Web.login_opened {c : LoginCall} {session : Session}
    (h : (loginUser cfg auth w.accounts c).answer = .ok session) :
    w.login cfg auth b c = (.ok session.response,
      { accounts := (loginUser cfg auth w.accounts c).state
        jar := Function.update w.jar b (some (setCookie auth c.now session.rawRefreshToken)) }) := by
  unfold Web.login
  simp only [h]
  rfl

theorem Web.Kept.login (hlower : ∀ t, cfg.sqlLower (cfg.lower t) = cfg.lower t)
    (h : w.Kept cfg auth seats) (c : LoginCall) (hdraws : w.Draws cfg (.login b c)) :
    (w.login cfg auth b c).2.Kept cfg auth fun x => (WebOp.login b c).seat cfg auth w x (seats x) := by
  obtain ⟨hsound, husable⟩ := AuthOp.keeps_usable auth (.login c) hlower h.accounts
  cases hanswer : (loginUser cfg auth w.accounts c).answer with
  | error e =>
      have hsame : (fun x => (WebOp.login b c).seat cfg auth w x (seats x)) = seats := by
        funext x
        unfold WebOp.seat
        simp only [hanswer, ite_self]
      rw [hsame, Web.login_refused hanswer]
      refine h.same hsound ?_ rfl husable
      exact loginUser_refused fun session hs => by rw [hanswer] at hs; cases hs
  | ok session =>
      have hseat : (fun x => (WebOp.login b c).seat cfg auth w x (seats x)) =
          Function.update seats b (some ⟨session.user.id, c.now⟩) := by
        refine update_seat ?_ fun x hx => ?_
        · unfold WebOp.seat
          simp only [hanswer, if_true]
        · exact if_neg fun he => hx he.symm
      obtain ⟨htokens, row, hrow⟩ := loginUser_opens hlower h.accounts hanswer
      rw [hseat, Web.login_opened hanswer, loginUser_raw hanswer]
      refine Web.Kept.renew [] 0 (r := loginToken cfg auth session.user.id c) h hsound husable ?_ ?_
        (fun _ _ _ _ _ _ => List.not_mem_nil) hdraws.2 ?_ hdraws.1 rfl rfl rfl rfl hrow
      · rw [htokens]
      · rw [revoke_nil, htokens]
      · rw [setCookie_eq]

theorem WebOp.seat_refresh (b' : β) (c : RotateCall) (seat : Option Sitting) :
    (WebOp.refresh b' c).seat cfg auth w b seat = if b' = b then
      seat.map fun s => if s.Lasts auth c.now then { s with renewed := c.now } else s
    else seat := rfl

/-- What `refresh_token` answers without a cookie. -/
def cookieMissing : AuthFailure := ⟨.unauthorized, "Refresh token cookie is missing", []⟩

theorem Web.refresh_missing {c : RotateCall} (h : w.sent b c.now = none) :
    w.refresh cfg auth b c = (.error cookieMissing, w) := by
  unfold Web.refresh
  simp only [h]
  rfl

/-- **The refresh of a sitting that lasts**: it is accepted, for the user who sits there. -/
theorem Web.Kept.refreshed (h : w.Kept cfg auth seats) {s : Sitting} (hs : seats b = some s)
    {c : RotateCall} (htime : s.Lasts auth c.now) (hdraws : w.Draws cfg (.refresh b c)) :
    ∃ k r row, w.jar b = some k ∧ w.accounts.tokens.record (cfg.sha256 k.value) = some r ∧
      w.accounts.usable s.user = some row ∧
      w.refresh cfg auth b c =
        (.ok
          { accessToken := refreshedAccessToken auth row.toLoginUser c
            expiresIn := auth.accessTokenExpireMinutes * 60 },
          { accounts :=
              { w.accounts with
                tokens := w.accounts.tokens.succeeded r (successorToken cfg auth row.id c)
                  c.now (cfg.sha256 k.value) }
            jar := Function.update w.jar b (some (setCookie auth c.now c.newRaw)) }) := by
  have hseat := h.seated b
  rw [hs] at hseat
  cases hseat with
  | taken _ raw r row hjar hraw hrecord hlive huser hexpires husable =>
      refine ⟨_, r, row, hjar, hrecord, husable, ?_⟩
      have hsent := Web.sent_taken hjar hraw c.now
      rw [if_pos htime] at hsent
      have hrotate : rotateToken cfg auth w.accounts { c with raw := raw } = _ :=
        rotateToken_live hraw hrecord hlive (by rw [hexpires]; exact htime)
          (by rw [huser]; exact husable) hdraws.2
      unfold Web.refresh
      simp only [hsent, hrotate]
      rfl

theorem Web.Kept.refresh (h : w.Kept cfg auth seats) (c : RotateCall)
    (hdraws : w.Draws cfg (.refresh b c)) :
    (w.refresh cfg auth b c).2.Kept cfg auth fun x =>
      (WebOp.refresh b c).seat cfg auth w x (seats x) := by
  by_cases hlasts : ∃ s, seats b = some s ∧ s.Lasts auth c.now
  · obtain ⟨s, hs, htime⟩ := hlasts
    obtain ⟨k, r, row, hjar, hrecord, husable, hrefresh⟩ := h.refreshed hs htime hdraws
    have hseat : (fun x => (WebOp.refresh b c).seat cfg auth w x (seats x)) =
        Function.update seats b (some { s with renewed := c.now }) := by
      refine update_seat ?_ fun x hx => if_neg fun he => hx he.symm
      rw [WebOp.seat_refresh, if_pos rfl, hs, Option.map_some, if_pos htime]
    rw [hseat, hrefresh]
    refine Web.Kept.renew [r.id] c.now (r := successorToken cfg auth row.id c) h ?_
      (fun id row hrow => ⟨row, hrow⟩) rfl rfl ?_ hdraws.2 ?_ hdraws.1 rfl rfl ?_ rfl husable
    · exact ⟨h.accounts.ids, h.accounts.emails, h.accounts.lowered⟩
    · intro b' k' r' hne hk' hr'
      exact h.other_record hne hjar hk' hrecord hr'
    · rw [setCookie_eq]
    · exact (AccountStore.usable_some husable).2.1
  · have hnone : ∀ s, seats b = some s → ¬ s.Lasts auth c.now := fun s hs htime => hlasts ⟨s, hs, htime⟩
    have hsame : (fun x => (WebOp.refresh b c).seat cfg auth w x (seats x)) = seats := by
      funext x
      rw [WebOp.seat_refresh]
      by_cases hx : b = x
      · rw [if_pos hx, ← hx]
        cases hs : seats b with
        | none => rfl
        | some s => rw [Option.map_some, if_neg (hnone s hs)]
      · rw [if_neg hx]
    rw [hsame, Web.refresh_missing ((h.seated b).sent_none hnone)]
    exact h

theorem Web.Kept.logout (h : w.Kept cfg auth seats) (now : Moment) :
    (w.logout cfg b now).Kept cfg auth fun x => (WebOp.logout b now).seat cfg auth w x (seats x) := by
  have hseat : (fun x => (WebOp.logout b now).seat cfg auth w x (seats x)) =
      Function.update seats b none := update_seat (if_pos rfl) fun x hx => if_neg fun he => hx he.symm
  have hnothing : w.sent b now = none →
      (w.logout cfg b now).Kept cfg auth (Function.update seats b none) := by
    intro hsent
    unfold Web.logout
    simp only [hsent]
    exact h.leave [] 0 rfl (revoke_nil _ _).symm (fun _ _ _ _ _ _ => List.not_mem_nil) rfl
  rw [hseat]
  have hat := h.seated b
  generalize seats b = seat at hat
  cases hat with
  | vacant hjar => exact hnothing (Web.sent_vacant hjar now)
  | taken s raw r row hjar hraw hrecord hlive huser hexpires husable =>
      have hsent := Web.sent_taken hjar hraw now
      by_cases htime : s.Lasts auth now
      · rw [if_pos htime] at hsent
        have hrevoke : (revokeToken cfg w.accounts raw now).2 =
            { w.accounts with tokens := w.accounts.tokens.revoke [r.id] now } := by
          unfold revokeToken
          simp only [if_neg hraw, hrecord, if_neg (not_not.mpr hlive)]
        unfold Web.logout
        simp only [hsent, hrevoke]
        refine h.leave [r.id] now rfl rfl ?_ rfl
        intro b' k' r' hne hk' hr'
        exact h.other_record hne hjar hk' hrecord hr'
      · rw [if_neg htime] at hsent
        exact hnothing hsent

/-- **The step lemma.** -/
theorem Web.Kept.step (hlower : ∀ t, cfg.sqlLower (cfg.lower t) = cfg.lower t)
    (h : w.Kept cfg auth seats) (hs : restrict (Web.Step cfg auth) (Web.Draws cfg) w op w') :
    w'.Kept cfg auth fun b => op.seat cfg auth w b (seats b) := by
  obtain ⟨rfl, hdraws⟩ := hs
  cases op with
  | register newId salt data =>
      obtain ⟨hsound, husable⟩ := AuthOp.keeps_usable auth (.register newId salt data) hlower h.accounts
      exact h.same hsound (register_tokens newId salt data) rfl husable
  | login b c => exact h.login hlower c hdraws
  | refresh b c => exact h.refresh c hdraws
  | logout b now => exact h.logout now

end Steps

/-! ## 4. The law -/

section Law

variable {β : Type} [DecidableEq β] {cfg : Config} {auth : AuthSettings} {start w w' : Web β} {b : β}
  {seats : β → Option Sitting} {ops : List (WebOp β)}

omit [DecidableEq β] in
theorem Web.Opening.kept (h : Web.Opening cfg start) : start.Kept cfg auth fun _ => none := by
  refine ⟨h.accounts, ?_, ?_, fun b => .vacant (h.jar b), fun b b' k k' hk => ?_⟩
  · rw [h.tokens]
  · rw [h.tokens]
    exact List.nodup_nil
  · rw [h.jar b] at hk
    cases hk

/-- **The run lemma.** -/
theorem Web.Kept.run (hlower : ∀ t, cfg.sqlLower (cfg.lower t) = cfg.lower t)
    (h : w.Kept cfg auth seats)
    (hp : Path (restrict (Web.Step cfg auth) (Web.Draws cfg)) w ops w') :
    w'.Kept cfg auth fun b => seatOf cfg auth b w ops (seats b) := by
  induction hp generalizing seats with
  | nil w => exact h
  | @cons w v w' op ops hs _ ih =>
      have hstep := ih (h.step hlower hs)
      obtain ⟨rfl, _⟩ := hs
      exact hstep

/-- **SESSIONS STAND ALONE**: in every run of any number of browsers, in whatever order they ask, a refresh
    is accepted at a browser exactly when somebody sits there whose session lasts, and for his account as
    it is then; else it is refused for want of a cookie; and no reuse is ever detected. -/
theorem sessions_stand_alone (hlower : ∀ t, cfg.sqlLower (cfg.lower t) = cfg.lower t)
    (hopen : Web.Opening cfg start)
    (hp : Path (restrict (Web.Step cfg auth) (Web.Draws cfg)) start ops w) (b : β) (c : RotateCall)
    (hdraws : w.Draws cfg (.refresh b c)) :
    w.accounts.tokens.detections = [] ∧
      (∀ s, seatOf cfg auth b start ops none = some s → s.Lasts auth c.now →
        ∃ row ∈ w.accounts.users, row.id = s.user ∧ row.Usable ∧
          (w.refresh cfg auth b c).1 = .ok
            { accessToken := refreshedAccessToken auth row.toLoginUser c
              expiresIn := auth.accessTokenExpireMinutes * 60 }) ∧
      ((∀ s, seatOf cfg auth b start ops none = some s → ¬ s.Lasts auth c.now) →
        (w.refresh cfg auth b c).1 = .error cookieMissing) := by
  have hkept : w.Kept cfg auth fun b => seatOf cfg auth b start ops none := hopen.kept.run hlower hp
  refine ⟨hkept.quiet, fun s hs htime => ?_, fun hnone => ?_⟩
  · obtain ⟨_, _, row, _, _, husable, hrefresh⟩ := hkept.refreshed hs htime hdraws
    obtain ⟨hmem, hid, hactive⟩ := AccountStore.usable_some husable
    exact ⟨row, hmem, hid, hactive, by rw [hrefresh]⟩
  · rw [Web.refresh_missing ((hkept.seated b).sent_none hnone)]

end Law

namespace Sample

/-- The sample account at no browser. -/
def emptyWeb : Web Nat := ⟨⟨oneAccount.users, ⟨[], [], []⟩⟩, fun _ => none⟩

/-- The secretary logs in at two browsers, refreshes at the first and leaves the second. -/
def twoBrowsers : List (WebOp Nat) :=
  [.login 0 (signIn ['m'] "secret".toList 1 0), .login 1 (signIn ['m'] "secret".toList 2 10),
    .refresh 0 (refresh 1 3 20), .logout 1 30000000]

end Sample

/-- The session of the first browser goes on. -/
theorem sessions_stand_alone_sample : ∃ answer,
    ((Sample.emptyWeb.after (Sample.config .sqlite) Sample.accountAuth Sample.twoBrowsers).refresh
      (Sample.config .sqlite) Sample.accountAuth 0 (Sample.refresh 3 4 40)).1 = .ok answer := by
  have hopen : Web.Opening (Sample.config .sqlite) Sample.emptyWeb :=
    ⟨⟨by decide, by decide, fun _ _ => rfl⟩, rfl, fun _ => rfl⟩
  have hp : Path (restrict (Web.Step (Sample.config .sqlite) Sample.accountAuth)
      (Web.Draws (Sample.config .sqlite))) Sample.emptyWeb Sample.twoBrowsers
      (Sample.emptyWeb.after (Sample.config .sqlite) Sample.accountAuth Sample.twoBrowsers) :=
    .cons ⟨rfl, by decide⟩ (.cons ⟨rfl, by decide⟩ (.cons ⟨rfl, by decide⟩ (.cons ⟨rfl, by decide⟩
      (.nil _))))
  obtain ⟨row, _, _, _, hanswer⟩ := (sessions_stand_alone (fun _ => rfl) hopen hp 0
    (Sample.refresh 3 4 40) (by decide)).2.1 ⟨Sample.uid 1, 20000000⟩ (by decide) (by decide)
  exact ⟨_, hanswer⟩

end CampusConnect
