/-
  File:      CampusConnect/Guarantees/Endpoints.lean
  Subject:   What passes the endpoints: whose a request is.

  * `getCurrentUser_accepts`, `Server.request_accepts`: what an accepted request went through;
  * `LoggedIn`, `Server.Traced`: every refresh token and every answered session goes back to an accepted
    login of its user;
  * `requests_are_users`: over whole runs.
-/
import CampusConnect.Api

namespace CampusConnect

open Guarded Runs Transactions

/-! ## 1. An accepted request -/

section Requests

variable {cfg : Config} {auth : AuthSettings} {jwtDecode : JwtDecode} {nfkd : Text → Text}
  {files : FileSettings} {s s' : Server} {c : ApiCall} {row : AccountRow}

theorem mapError_accepts {α ε δ : Type} {f : ε → δ} {e : Except ε α} {a : α} :
    e.mapError f = .ok a ↔ e = .ok a := by
  cases e with
  | error e =>
      constructor
      · intro h
        cases h
      · intro h
        cases h
  | ok b =>
      show Except.ok b = Except.ok a ↔ Except.ok b = Except.ok a
      rw [Except.ok.injEq, Except.ok.injEq]

theorem decodeAccessToken_accepts {token : Text} {now : Moment} {payload : JwtPayload}
    (h : decodeAccessToken jwtDecode token now = .ok payload) :
    jwtDecode token (Moment.instant now) = .payload payload := by
  unfold decodeAccessToken at h
  simp only [bind_accepts, exists_unit] at h
  obtain ⟨_, h⟩ := h
  split at h
  · rename_i p hp
    simp only [bind_accepts, exists_unit, pure_accepts] at h
    obtain ⟨q, hq, _, _, rfl⟩ := h
    cases hq
    exact hp
  · cases h
  · cases h

/-- **An open guard**: the token decodes, and its subject is the key of a usable account. -/
theorem getCurrentUser_accepts {accounts : AccountStore} {credentials : Option Text} {now : Moment}
    (h : getCurrentUser jwtDecode accounts credentials now = .ok row) :
    ∃ token, credentials = some token ∧
      ∃ payload, jwtDecode token (Moment.instant now) = .payload payload ∧
        ∃ sub, payload.sub = some sub ∧ Uuid.parse sub = some row.id ∧ row ∈ accounts.users ∧
          row.Usable := by
  simp only [getCurrentUser, bind_accepts, refuse_accepts, exists_unit, fetch_accepts, pure_accepts] at h
  obtain ⟨token, hcredentials, payload, hpayload, sub, hsub, userId, hparse, user, huser, hactive,
    rfl⟩ := h
  obtain ⟨hfind, hdeleted⟩ := Option.filter_eq_some_iff.mp huser
  have hid := List.find?_some hfind
  rw [decide_eq_true_eq] at hid hdeleted
  refine ⟨token, (Option.filter_eq_some_iff.mp hcredentials).1, payload,
    decodeAccessToken_accepts hpayload, sub, hsub, ?_, List.mem_of_find?_eq_some hfind, ?_, hdeleted⟩
  · rw [hid]
    exact hparse
  · rwa [Bool.not_eq_false] at hactive

theorem requireAnyRole_accepts {roles : List UserRole} {user : AccountRow} :
    requireAnyRole roles user = .ok row ↔ user.role ∈ roles ∧ user = row := by
  simp only [requireAnyRole, bind_accepts, refuse_accepts, exists_unit, pure_accepts, not_not]

theorem Gate.check_accepts {gate : Gate} {user : AccountRow} :
    gate.check user = .ok row ↔ gate.Admits user.role ∧ user = row := by
  cases gate with
  | currentUser =>
      refine ⟨fun h => ⟨trivial, Except.ok.inj h⟩, ?_⟩
      rintro ⟨_, rfl⟩
      rfl
  | requirePermission permission => exact requireAnyRole_accepts
  | requireAnyRole roles => exact requireAnyRole_accepts

/-- **What an accepted request went through.** -/
theorem Server.request_accepts :
    Server.request cfg jwtDecode nfkd files c s = .ok s' ↔
      ∃ gate user campus, c.op.gate = some gate ∧
        getCurrentUser jwtDecode s.accounts c.credentials c.now = .ok user ∧ gate.Admits user.role ∧
        Campus.Step cfg nfkd files s.campus (c.op.withUser s.accounts user.toUser) campus ∧
        { s with campus := campus } = s' := by
  simp only [Server.request, bind_accepts, fetch_accepts, mapError_accepts, Gate.check_accepts,
    pure_accepts, Campus.Step]
  constructor
  · rintro ⟨gate, hgate, user, huser, _, ⟨hrole, rfl⟩, campus, hcampus, rfl⟩
    exact ⟨gate, user, campus, hgate, huser, hrole, hcampus, rfl⟩
  · rintro ⟨gate, user, campus, hgate, huser, hrole, hcampus, rfl⟩
    exact ⟨gate, hgate, user, huser, _, ⟨hrole, rfl⟩, campus, hcampus, rfl⟩

end Requests

/-! ## 2. Where a session comes from -/

section Sessions

variable (cfg : Config) (auth : AuthSettings) (jwtDecode : JwtDecode) (nfkd : Text → Text)
  (files : FileSettings)

/-- The user has logged in: a login of the run was answered with a session of his. -/
def LoggedIn (start : Server) (ops : List ApiOp) (userId : Uuid) : Prop :=
  ∃ before l after s session, ops = before ++ .auth (.login l) :: after ∧
    Path (Server.Step cfg auth jwtDecode nfkd files) start before s ∧
    (loginUser cfg auth s.accounts l).answer = .ok session ∧ session.user.id = userId

/-- An answered access token, of its user and until its second. -/
def Session.Lasts (session : Session) (expiry : Instant) : Prop :=
  ∃ claims, session.accessToken = auth.jwtEncode claims ∧ claims.sub = session.user.id.str ∧
    claims.tokenType = "access" ∧ claims.exp = expiry

/-- **Every session goes back to a login**: the refresh tokens and the answers are of users who have logged
    in. -/
structure Server.Traced (start : Server) (ops : List ApiOp) (s : Server) : Prop where
  path : Path (Server.Step cfg auth jwtDecode nfkd files) start ops s
  tokens : ∀ r ∈ s.accounts.tokens.tokens,
    LoggedIn cfg auth jwtDecode nfkd files start ops r.userId
  answered : ∀ a ∈ s.answered,
    LoggedIn cfg auth jwtDecode nfkd files start ops a.1.user.id ∧ a.1.Lasts auth a.2

end Sessions

section Traces

variable {cfg : Config} {auth : AuthSettings} {jwtDecode : JwtDecode} {nfkd : Text → Text}
  {files : FileSettings} {start s s' : Server} {ops : List ApiOp} {op : ApiOp} {userId : Uuid}

theorem LoggedIn.later (h : LoggedIn cfg auth jwtDecode nfkd files start ops userId)
    (more : List ApiOp) :
    LoggedIn cfg auth jwtDecode nfkd files start (ops ++ more) userId := by
  obtain ⟨before, l, after, t, session, rfl, hp, hanswer, huser⟩ := h
  exact ⟨before, l, after ++ more, t, session, by simp, hp, hanswer, huser⟩

/-- The users of the refresh tokens after a call of the service. -/
theorem TokensEffect.user {accounts : AccountStore} {o : AuthOp} {tokens : TokenStore}
    (h : TokensEffect cfg auth accounts o tokens) {r : RefreshToken} (hr : r ∈ tokens.tokens) :
    (∃ old ∈ accounts.tokens.tokens, old.userId = r.userId) ∨
      ∃ c session, o = .login c ∧ (loginUser cfg auth accounts c).answer = .ok session ∧
        session.user.id = r.userId := by
  have hrevoked : ∀ ids now, r ∈ (accounts.tokens.revoke ids now).tokens →
      ∃ old ∈ accounts.tokens.tokens, old.userId = r.userId := by
    intro ids now hmem
    obtain ⟨old, hold, rfl⟩ := List.mem_map.mp hmem
    exact ⟨old, hold, (TokenStore.revoked_userId old).symm⟩
  cases h with
  | kept op => exact .inl ⟨r, hr, rfl⟩
  | issued c session hsession =>
      rcases List.mem_append.mp hr with hold | hnew
      · exact .inl ⟨r, hold, rfl⟩
      · refine .inr ⟨c, session, rfl, hsession, ?_⟩
        rw [List.mem_singleton.mp hnew]
        rfl
  | rotated c record row now hrecord hlive huser =>
      rcases List.mem_append.mp hr with hold | hnew
      · exact .inl (hrevoked _ _ hold)
      · rw [List.mem_singleton.mp hnew]
        exact .inl ⟨record, List.mem_of_find?_eq_some hrecord, huser.symm⟩
  | ended op record now => exact .inl (hrevoked _ _ hr)
  | wiped op userId now detections => exact .inl (hrevoked _ _ hr)

/-- The session of an answer is of a user who logs in with it, or who has a refresh token. -/
theorem AuthOp.session_user {accounts : AccountStore} {o : AuthOp} {session : Session}
    (h : o.session cfg auth accounts = some session) :
    (∃ old ∈ accounts.tokens.tokens, old.userId = session.user.id) ∨
      ∃ c, o = .login c ∧ (loginUser cfg auth accounts c).answer = .ok session := by
  cases o with
  | login c => exact .inr ⟨c, rfl, toOption_some.mp h⟩
  | rotate c =>
      obtain ⟨record, row, hrecord, _, husable, huser, _⟩ := rotateToken_session (toOption_some.mp h)
      obtain ⟨_, hid, _⟩ := AccountStore.usable_some husable
      refine .inl ⟨record, List.mem_of_find?_eq_some hrecord, ?_⟩
      rw [huser]
      exact hid.symm
  | register newId salt data => cases h
  | revoke raw now => cases h
  | revokeAll id now => cases h

/-- **The step lemma.** -/
theorem Server.Traced.step (h : Server.Traced cfg auth jwtDecode nfkd files start ops s)
    (hs : Server.Step cfg auth jwtDecode nfkd files s op s') :
    Server.Traced cfg auth jwtDecode nfkd files start (ops ++ [op]) s' := by
  have hpath := h.path.append (.single hs)
  cases op with
  | call c =>
      obtain ⟨_, _, _, _, _, _, _, rfl⟩ := Server.request_accepts.mp hs
      exact ⟨hpath, fun r hr => (h.tokens r hr).later _,
        fun a ha => ⟨(h.answered a ha).1.later _, (h.answered a ha).2⟩⟩
  | auth o =>
      -- a login of this call is the one
      have hnow : ∀ c session, o = .login c → (loginUser cfg auth s.accounts c).answer = .ok session →
          LoggedIn cfg auth jwtDecode nfkd files start (ops ++ [.auth o]) session.user.id := by
        rintro c session rfl hanswer
        exact ⟨ops, c, [], s, session, rfl, h.path, hanswer, rfl⟩
      cases hs
      have heffect : TokensEffect cfg auth s.accounts o (o.apply cfg auth s.accounts).tokens :=
        AuthOp.writesTokens o
      refine ⟨hpath, fun r hr => ?_, fun a ha => ?_⟩
      · rcases heffect.user hr with ⟨old, hold, huser⟩ | ⟨c, session, ho, hanswer, huser⟩
        · rw [← huser]
          exact (h.tokens old hold).later _
        · rw [← huser]
          exact hnow c session ho hanswer
      · rcases List.mem_append.mp ha with hold | hnew
        · exact ⟨(h.answered a hold).1.later _, (h.answered a hold).2⟩
        · obtain ⟨session, hsession, rfl⟩ := List.mem_map.mp hnew
          have hsome := Option.mem_toList.mp hsession
          refine ⟨?_, ?_⟩
          · rcases AuthOp.session_user hsome with ⟨old, hold, huser⟩ | ⟨c, ho, hanswer⟩
            · show LoggedIn cfg auth jwtDecode nfkd files start _ session.user.id
              rw [← huser]
              exact (h.tokens old hold).later _
            · exact hnow c session ho hanswer
          · obtain ⟨row, _, _, hid, _, _, claims, htoken, hsub, htype, hexp⟩ := AuthOp.issued hsome
            exact ⟨claims, htoken, by rw [hsub, ← hid], htype, hexp⟩

theorem Server.traced (hopen : Server.Opening cfg start)
    (h : Path (Server.Step cfg auth jwtDecode nfkd files) start ops s) :
    Server.Traced cfg auth jwtDecode nfkd files start ops s := by
  refine h.history (P := fun s taken => Server.Traced cfg auth jwtDecode nfkd files start taken s)
    (fun s taken op s' ht hs => ht.step hs) ⟨.nil start, fun r hr => ?_, fun a ha => ?_⟩
  · rw [hopen.tokens] at hr
    cases hr
  · rw [hopen.answered] at ha
    cases ha

/-- **Every request is its user's.** In every run of the server, where nobody forges a token: an accepted
    request is carried out for one account, which is active then, whose role the endpoint admits, and
    which the service has logged in before in the run; it was sent before the token expired; and it does to
    the campus what the service does for that user, and nothing to the accounts. -/
theorem requests_are_users (hj : JwtCodec auth jwtDecode) (hopen : Server.Opening cfg start)
    (h : Path (restrict (Server.Step cfg auth jwtDecode nfkd files) (Server.Unforged jwtDecode))
      start ops s) {c : ApiCall}
    (hs : restrict (Server.Step cfg auth jwtDecode nfkd files) (Server.Unforged jwtDecode) s (.call c)
      s') :
    s'.accounts = s.accounts ∧ ∃ user ∈ s.accounts.users, user.Usable ∧
      (∃ gate, c.op.gate = some gate ∧ gate.Admits user.role) ∧
      Campus.Step cfg nfkd files s.campus (c.op.withUser s.accounts user.toUser) s'.campus ∧
      LoggedIn cfg auth jwtDecode nfkd files start ops user.id ∧
      ∃ a ∈ s.answered, c.credentials = some a.1.accessToken ∧ a.1.user.id = user.id ∧
        Moment.instant c.now ≤ a.2 := by
  obtain ⟨hstep, hunforged⟩ := hs
  have htraced := Server.traced hopen h.of_restrict
  obtain ⟨gate, user, campus, hgate, huser, hrole, hcampus, rfl⟩ := Server.request_accepts.mp hstep
  obtain ⟨token, hcredentials, payload, hpayload, sub, hsub, hparse, hmem, husable⟩ :=
    getCurrentUser_accepts huser
  obtain ⟨a, ha, htoken⟩ := hunforged token hcredentials ⟨payload, hpayload⟩
  obtain ⟨hlogged, claims, hencode, hclaims, htype, hexp⟩ := htraced.answered a ha
  -- the token is one of the service, which has not expired
  have hlive : Moment.instant c.now ≤ claims.exp := by
    by_contra hover
    obtain ⟨error, hexpired⟩ := hj.expired claims (Moment.instant c.now) htype (Int.not_le.mp hover)
    rw [← hencode, htoken, hpayload] at hexpired
    cases hexpired
  have hid : user.id = a.1.user.id := by
    have hdecoded := hj.live claims (Moment.instant c.now) htype hlive
    rw [← hencode, htoken, hpayload] at hdecoded
    cases hdecoded
    cases hsub
    rw [hclaims, Uuid.parse_str] at hparse
    exact (Option.some.inj hparse).symm
  refine ⟨rfl, user, hmem, husable, ⟨gate, hgate, hrole⟩, hcampus, hid ▸ hlogged, a, ha, ?_, hid.symm, ?_⟩
  · rw [htoken]
    exact hcredentials
  · rw [← hexp]
    exact hlive

end Traces

namespace Sample

/-- The sample campus, with the account of its secretary. -/
def server : Server := ⟨campus, oneAccount, []⟩

/-- The secretary logs in. -/
def loggedIn : List ApiOp := [.auth (.login (signIn ['m'] "secret".toList 1 0))]

/-- He drafts a proposal, half a minute later. -/
def draftCall : ApiCall where
  credentials := some (tally 60 ++ '.' :: (uid 1).str)
  now := 30000000
  op := .visit (.draft env secretary (uid 500)
    { clubId := uid 13
      title := "event".toList
      eventType := .workshop
      academicYear := "2025".toList })

/-- The server then. -/
def serverAfter : Server where
  campus := campus
  accounts := afterCalls (config .sqlite) accountAuth oneAccount
    [.login (signIn ['m'] "secret".toList 1 0)]
  answered := ((AuthOp.login (signIn ['m'] "secret".toList 1 0)).session (config .sqlite) accountAuth
    oneAccount).toList.map fun session => (session, 60)

theorem server_opening : Server.Opening (config .sqlite) server :=
  ⟨campus_opening, ⟨by decide, by decide, fun _ _ => rfl⟩, rfl, rfl⟩

end Sample

/-- The draft of the secretary is the draft of who logged in. -/
theorem requests_are_users_sample : ∃ s',
    Server.Step (Sample.config .sqlite) Sample.accountAuth Sample.decodeToken id Sample.files
      Sample.serverAfter (.call Sample.draftCall) s' ∧
    ∃ user ∈ Sample.serverAfter.accounts.users, user.role = .clubSecretary ∧
      LoggedIn (Sample.config .sqlite) Sample.accountAuth Sample.decodeToken id Sample.files Sample.server
        Sample.loggedIn user.id := by
  have hlogin : restrict (Server.Step (Sample.config .sqlite) Sample.accountAuth Sample.decodeToken id
      Sample.files) (Server.Unforged Sample.decodeToken) Sample.server
      (.auth (.login (Sample.signIn ['m'] "secret".toList 1 0))) Sample.serverAfter := ⟨rfl, trivial⟩
  have hcall : Ends (Server.exec (Sample.config .sqlite) Sample.accountAuth Sample.decodeToken id
      Sample.files (.call Sample.draftCall) Sample.serverAfter) fun _ => True := by
    decide +kernel
  obtain ⟨s', hstep, _⟩ := hcall
  have hunforged : Server.Unforged Sample.decodeToken Sample.serverAfter (.call Sample.draftCall) := by
    intro token htoken _
    cases htoken
    exact ⟨_, List.mem_singleton_self _, rfl⟩
  obtain ⟨_, user, hmem, _, ⟨gate, hgate, hrole⟩, _, hlogged, _⟩ :=
    requests_are_users Sample.codec Sample.server_opening (.single hlogin) ⟨hstep, hunforged⟩
  cases hgate
  exact ⟨s', hstep, user, hmem, List.mem_singleton.mp hrole, hlogged⟩

end CampusConnect
