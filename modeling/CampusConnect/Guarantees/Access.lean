/-
  File:      CampusConnect/Guarantees/Access.lean
  Subject:   What a session is worth: the access token of an answer, and the refresh token after it.

  * `Uuid.parse_str`: the subject of a token is read back;
  * `JwtCodec`, `getCurrentUser_issued`, `access_exact`: an access token opens the guard until it expires,
    and nothing that happens in between ends it;
  * `TokensEffect`: what a call does to the refresh tokens;
  * `TokenStore.active_revoke`, `sessions_bounded`: the sessions of a user are never more than his logins;
  * `TokenStore.Spent`, `spent_for_good`: a refresh token presented once is spent, and to present it again
    ends every session of its user until his next login;
  * `AuthOp.serial`: the calls on the refresh tokens are the transactions of the rotation, one at a time.
-/
import CampusConnect.Guarantees.Credentials

namespace CampusConnect

open Guarded Runs Transactions

/-! ## 1. The spelling of a key -/

theorem hexNumber_append (acc : Nat) (s t : Text) :
    hexNumber acc (s ++ t) = (hexNumber acc s).bind fun n => hexNumber n t := by
  induction s generalizing acc with
  | nil => rfl
  | cons c s ih =>
      rw [List.cons_append, hexNumber, hexNumber]
      cases hexValue c with
      | none => rfl
      | some n => exact ih _

theorem hexValue_hexDigit {n : Nat} (h : n < 16) : hexValue (hexDigit n) = some n := by
  have key : ∀ i : Fin 16, hexValue (hexDigit i) = some i.1 := by decide
  exact key ⟨n, h⟩

/-- The digits of a number are read back. -/
theorem hexNumber_hexDigits {k n : Nat} (acc : Nat) (h : n < 16 ^ k) :
    hexNumber acc (hexDigits k n) = some (acc * 16 ^ k + n) := by
  induction k generalizing n with
  | zero =>
      have hn : n = 0 := by omega
      rw [hn, Nat.pow_zero, Nat.mul_one, Nat.add_zero]
      rfl
  | succ k ih =>
      have hinit : n / 16 < 16 ^ k := by
        rw [Nat.div_lt_iff_lt_mul (by omega)]
        rwa [Nat.pow_succ] at h
      rw [hexDigits, hexNumber_append, ih hinit, Option.bind_some, hexNumber,
        hexValue_hexDigit (Nat.mod_lt _ (by omega)), Option.bind_some, hexNumber, Nat.pow_succ,
        ← Nat.mul_assoc]
      congr 1
      omega

theorem hexDigits_hyphen (k n : Nat) : ∀ c ∈ hexDigits k n, c ≠ '-' := by
  have key : ∀ i : Fin 16, hexDigit i ≠ '-' := by decide
  induction k generalizing n with
  | zero =>
      intro c hc
      cases hc
  | succ k ih =>
      intro c hc
      rcases List.mem_append.mp hc with hold | hlast
      · exact ih _ c hold
      · rw [List.mem_singleton.mp hlast]
        exact key ⟨n % 16, Nat.mod_lt _ (by omega)⟩

/-- Without its hyphens, the one spelling of a key is the other. -/
theorem Uuid.filter_str (u : Uuid) : u.str.filter (fun c => c ≠ '-') = u.hex := by
  have hkeep : ∀ t : Text, t.Sublist u.hex → t.filter (fun c => decide (c ≠ '-')) = t := by
    intro t ht
    refine List.filter_eq_self.mpr fun c hc => decide_eq_true ?_
    exact hexDigits_hyphen 32 u.bits.toNat c (ht.subset hc)
  have hdrop : ∀ n, (u.hex.drop n).Sublist u.hex := fun n => List.drop_sublist n u.hex
  have htake : ∀ k n, ((u.hex.drop n).take k).Sublist u.hex := fun k n =>
    (List.take_sublist k _).trans (hdrop n)
  have hskip : ∀ t : Text, ('-' :: t).filter (fun c => decide (c ≠ '-')) =
      t.filter (fun c => decide (c ≠ '-')) := fun _ => rfl
  unfold Uuid.str
  simp only [List.filter_append, hskip]
  rw [hkeep _ (List.take_sublist 8 u.hex), hkeep _ (htake 4 8), hkeep _ (htake 4 12),
    hkeep _ (htake 4 16), hkeep _ (hdrop 20)]
  have e1 := List.take_append_drop 8 u.hex
  have e2 := List.take_append_drop 4 (u.hex.drop 8)
  have e3 := List.take_append_drop 4 (u.hex.drop 12)
  have e4 := List.take_append_drop 4 (u.hex.drop 16)
  simp only [List.drop_drop, Nat.reduceAdd] at e2 e3 e4
  rw [List.append_assoc, List.append_assoc, List.append_assoc, e4, e3, e2, e1]

/-- **A key is read back from its spelling.** -/
theorem Uuid.parse_str (u : Uuid) : Uuid.parse u.str = some u := by
  unfold Uuid.parse
  simp only [Uuid.filter_str, Uuid.length_hex, if_true]
  have hlt : u.bits.toNat < 16 ^ 32 := u.bits.isLt
  rw [Uuid.hex, hexNumber_hexDigits 0 hlt, Nat.zero_mul, Nat.zero_add, Option.map_some,
    BitVec.ofNat_toNat, BitVec.setWidth_eq]

/-! ## 2. Access tokens -/

/-- What `jose` promises of an access token: `decode` gives its claims back until it has expired. -/
structure JwtCodec (auth : AuthSettings) (jwtDecode : JwtDecode) : Prop where
  nonempty : ∀ claims, auth.jwtEncode claims ≠ []
  live : ∀ claims now, claims.tokenType = "access" → now ≤ claims.exp →
    jwtDecode (auth.jwtEncode claims) now = .payload ⟨some claims.sub, some claims.tokenType⟩
  expired : ∀ claims now, claims.tokenType = "access" → claims.exp < now →
    ∃ error, jwtDecode (auth.jwtEncode claims) now = .expired error

/-- The session a call answers with. -/
def AuthOp.session (cfg : Config) (auth : AuthSettings) (s : AccountStore) : AuthOp → Option Session
  | .login c => (loginUser cfg auth s c).answer.toOption
  | .rotate c => (rotateToken cfg auth s c).answer.toOption
  | _ => none

/-- The second after which the access token of a call has expired. -/
def AuthOp.expiry (auth : AuthSettings) : AuthOp → Instant
  | .login c => Moment.instant (c.issuedAt + minutes auth.accessTokenExpireMinutes)
  | .rotate c => Moment.instant (c.issuedAt + minutes auth.accessTokenExpireMinutes)
  | _ => 0

/-- The account may use the program. -/
def AccountRow.Usable (u : AccountRow) : Prop := u.isActive = true ∧ u.deletedAt = none

/-- A usable account stays so while its identity does. -/
theorem AccountRow.Usable.identified {row u : AccountRow} (h : row.Usable)
    (hident : u.identity = row.identity) : u.Usable :=
  ⟨(identity_column hident (fun u => u.isActive) fun _ => rfl).trans h.1,
    (identity_column hident (fun u => u.deletedAt) fun _ => rfl).trans h.2⟩

section Tokens

variable {cfg : Config} {auth : AuthSettings} {s s' : AccountStore} {session : Session}
  {row u : AccountRow} {op : AuthOp} {ops : List AuthOp}

theorem toOption_some {α ε : Type} {e : Except ε α} {a : α} : e.toOption = some a ↔ e = .ok a := by
  cases e with
  | error e =>
      constructor
      · intro h
        cases h
      · intro h
        cases h
  | ok b =>
      constructor
      · intro h
        rw [Option.some.inj h]
      · intro h
        rw [Except.ok.inj h]
        rfl

/-- **An accepted login**: of the one account of the address, which is active. -/
theorem loginUser_session {c : LoginCall} (h : (loginUser cfg auth s c).answer = .ok session) :
    ∃ row, s.select cfg c.email = [row] ∧ row.Usable ∧
      session.user = row.toLoginUser.loggedIn auth c ∧
      session.accessToken = createAccessToken auth (row.toLoginUser.loggedIn auth c) c ∧
      s.tokens.insert (loginToken cfg auth row.id c) = .ok (loginUser cfg auth s c).state.tokens := by
  unfold loginUser at h ⊢
  split at h
  · cases h
  · cases h
  · rename_i row hone
    have hselect := scalarOneOrNone_some hone
    refine ⟨row, hselect, ?_⟩
    simp only [authenticateUser] at h ⊢
    split at h
    · cases h
    split at h
    · cases h
    rename_i hfound hactive
    split at h
    · cases h
    rename_i hopen
    split at h
    · split at h <;> cases h
    · rename_i hverify
      rw [if_neg hfound, if_neg hactive, if_neg hopen, if_neg hverify]
      split at h
      · cases h
      · rename_i tokens hinsert
        cases h
        rw [Bool.not_eq_false] at hactive
        exact ⟨⟨hactive, (not_not.mp hfound).2⟩, rfl, rfl, hinsert⟩

/-- **An accepted refresh**: of a live token that has not expired, for its user, who is active. -/
theorem rotateToken_session {c : RotateCall} (h : (rotateToken cfg auth s c).answer = .ok session) :
    ∃ record row, s.tokens.record (cfg.sha256 c.raw) = some record ∧ record.revokedAt = none ∧
      s.usable record.userId = some row ∧ session.user = row.toLoginUser ∧
      session.accessToken = refreshedAccessToken auth row.toLoginUser c ∧
      AuthService.writeRotation (s.authEnv auth c.now) (cfg.sha256 c.raw) record row.id c.newId
        (cfg.sha256 c.newRaw) s.tokens = .ok (rotateToken cfg auth s c).state.tokens := by
  unfold rotateToken at h ⊢
  simp only at h ⊢
  split at h
  · cases h
  rename_i hraw
  rw [if_neg hraw]
  split at h
  · cases h
  · rename_i record hrecord
    rw [hrecord]
    split at h
    · cases h
    rename_i hlive
    rw [if_neg hlive]
    split at h
    · cases h
    rename_i hexpiry
    rw [if_neg hexpiry]
    split at h
    · cases h
    · rename_i row hrow
      split at h
      · cases h
      · rename_i tokens hwrite
        cases h
        exact ⟨record, row, rfl, not_not.mp hlive, hrow, rfl, rfl, hwrite⟩

theorem AccountStore.usable_some {id : Uuid} (h : s.usable id = some row) :
    row ∈ s.users ∧ row.id = id ∧ row.Usable := by
  obtain ⟨hfind, husable⟩ := Option.filter_eq_some_iff.mp h
  have hid := List.find?_some hfind
  rw [decide_eq_true_eq] at hid husable
  exact ⟨List.mem_of_find?_eq_some hfind, hid, husable⟩

/-- The account of a session, and the claims of its token. -/
theorem AuthOp.issued (h : op.session cfg auth s = some session) :
    ∃ row ∈ s.users, row.Usable ∧ session.user.id = row.id ∧ session.user.role = row.role ∧
      session.user.email = row.email ∧ ∃ claims, session.accessToken = auth.jwtEncode claims ∧
        claims.sub = row.id.str ∧ claims.tokenType = "access" ∧ claims.exp = op.expiry auth := by
  cases op with
  | login c =>
      obtain ⟨row, hselect, husable, huser, htoken, _⟩ := loginUser_session (toOption_some.mp h)
      refine ⟨row, (mem_select hselect).1, husable, ?_, ?_, ?_, _, htoken, rfl, rfl, rfl⟩
      all_goals rw [huser]; rfl
  | rotate c =>
      obtain ⟨record, row, _, _, husable, huser, htoken, _⟩ :=
        rotateToken_session (toOption_some.mp h)
      obtain ⟨hrow, _, hactive⟩ := AccountStore.usable_some husable
      refine ⟨row, hrow, hactive, ?_, ?_, ?_, _, htoken, rfl, rfl, rfl⟩
      all_goals rw [huser]
  | register newId salt data => cases h
  | revoke raw now => cases h
  | revokeAll userId now => cases h

/-- The account with a key. -/
theorem AccountStore.Sound.find (hs : s.Sound cfg) (hu : u ∈ s.users) :
    s.users.find? (fun v => v.id = u.id) = some u := by
  cases hf : s.users.find? (fun v => v.id = u.id) with
  | none => exact (List.find?_eq_none.mp hf u hu (decide_eq_true rfl)).elim
  | some v =>
      have hid := List.find?_some hf
      rw [decide_eq_true_eq] at hid
      rw [List.inj_on_of_nodup_map hs.ids (List.mem_of_find?_eq_some hf) hu hid]

/-- What the guard answers for the token of an active account. -/
theorem getCurrentUser_issued {jwtDecode : JwtDecode} (hj : JwtCodec auth jwtDecode) (hs : s.Sound cfg)
    (hu : u ∈ s.users) (husable : u.Usable) {claims : AccessClaims} (hsub : claims.sub = u.id.str)
    (htype : claims.tokenType = "access") (t : Moment) :
    (Moment.instant t ≤ claims.exp →
        getCurrentUser jwtDecode s (some (auth.jwtEncode claims)) t = .ok u) ∧
      (claims.exp < Moment.instant t → ∃ error,
        getCurrentUser jwtDecode s (some (auth.jwtEncode claims)) t =
          .error ⟨.tokenExpired, "Access token has expired", [.text error]⟩) := by
  have htoken : (some (auth.jwtEncode claims)).filter (fun t => decide (t ≠ [])) =
      some (auth.jwtEncode claims) := by
    rw [Option.filter_some, if_pos (decide_eq_true (hj.nonempty claims))]
  have hstr : u.id.str ≠ [] := by
    intro hnil
    have hlength := Uuid.length_str u.id
    rw [hnil] at hlength
    cases hlength
  constructor
  · intro hlive
    have hanswer := hj.live claims _ htype hlive
    rw [hsub, htype] at hanswer
    have hpayload : decodeAccessToken jwtDecode (auth.jwtEncode claims) t =
        .ok ⟨some u.id.str, some "access"⟩ := by
      unfold decodeAccessToken
      simp [hanswer, refuse, hj.nonempty claims, hstr, bind, Except.bind, pure, Except.pure]
    unfold getCurrentUser
    rw [htoken]
    simp [hpayload, fetch, Uuid.parse_str, hs.find hu, Option.filter, husable.2, husable.1, refuse, bind,
      Except.bind, pure, Except.pure]
  · intro hover
    obtain ⟨error, hanswer⟩ := hj.expired claims _ htype hover
    refine ⟨error, ?_⟩
    unfold getCurrentUser decodeAccessToken
    rw [htoken]
    simp [hanswer, fetch, hj.nonempty claims, refuse, bind, Except.bind]

/-- **AN ACCESS TOKEN LASTS ITS MINUTES**: whatever calls follow the one that issued it (a logout, a
    detected reuse, the end of all sessions, a lock of the account), the guard opens for it until it
    expires, and not after; it answers with the account as it is then, whose key, role and address are
    those of the session, so that a role check decides by the role of the session. -/
theorem access_exact {jwtDecode : JwtDecode} (hj : JwtCodec auth jwtDecode)
    (hlower : ∀ t, cfg.sqlLower (cfg.lower t) = cfg.lower t) (hs : s.Sound cfg)
    (hsession : op.session cfg auth s = some session)
    (hp : Path (Accounts.Step cfg auth) (op.apply cfg auth s) ops s') :
    ∃ u ∈ s'.users, u.id = session.user.id ∧ u.role = session.user.role ∧
      u.email = session.user.email ∧
      (∀ t : Moment, Moment.instant t ≤ op.expiry auth →
        getCurrentUser jwtDecode s' (some session.accessToken) t = .ok u) ∧
      (∀ t : Moment, op.expiry auth < Moment.instant t → ∃ error,
        getCurrentUser jwtDecode s' (some session.accessToken) t =
          .error ⟨.tokenExpired, "Access token has expired", [.text error]⟩) ∧
      ∀ allowed, requireAnyRole allowed u = .ok u ↔ session.user.role ∈ allowed := by
  obtain ⟨row, hrow, husable, hid, hrole, hemail, claims, htoken, hsub, htype, hexp⟩ :=
    AuthOp.issued hsession
  have hpath : Path (Accounts.Step cfg auth) s (op :: ops) s' := .cons rfl hp
  obtain ⟨u, hu, hident⟩ := Accounts.kept hlower hs hpath hrow
  have hsound := (Accounts.sound hlower hs hpath).1
  have hid' : u.id = row.id := identity_column hident (fun u => u.id) fun _ => rfl
  have hrole' : u.role = row.role := identity_column hident (fun u => u.role) fun _ => rfl
  have hemail' : u.email = row.email := identity_column hident (fun u => u.email) fun _ => rfl
  have husable' : u.Usable := husable.identified hident
  rw [← hid'] at hsub
  refine ⟨u, hu, hid'.trans hid.symm, hrole'.trans hrole.symm, hemail'.trans hemail.symm, fun t ht => ?_,
    fun t ht => ?_, fun allowed => ?_⟩
  · rw [htoken]
    exact (getCurrentUser_issued hj hsound hu husable' hsub htype t).1 (hexp ▸ ht)
  · rw [htoken]
    exact (getCurrentUser_issued hj hsound hu husable' hsub htype t).2 (hexp ▸ ht)
  · unfold requireAnyRole
    rw [hrole, ← hrole']
    simp only [bind_accepts, refuse_accepts, exists_unit, pure_accepts, and_true, not_not]

end Tokens

namespace Sample

/-- What the tally before the point reads as. -/
def untally (t : Text) : Int :=
  if t.head? = some '0' then -t.length else t.length

/-- The tokens of `accountAuth`, read back. -/
def decodeToken : JwtDecode := fun token now =>
  let exp := untally (token.takeWhile fun c => c ≠ '.')
  if exp < now then .expired "Signature has expired.".toList
  else .payload ⟨some ((token.dropWhile fun c => c ≠ '.').drop 1), some "access"⟩

theorem tally_point (exp : Int) : ∀ c ∈ tally exp, decide (c ≠ '.') = true := by
  intro c hc
  unfold tally at hc
  split at hc
  · rw [List.eq_of_mem_replicate hc]
    decide
  · rw [List.eq_of_mem_replicate hc]
    decide

theorem untally_tally (exp : Int) : untally (tally exp) = exp := by
  unfold tally
  split
  · rename_i hneg
    have hlength : (exp.natAbs : Int) = -exp := by omega
    obtain ⟨n, hn⟩ : ∃ n, exp.natAbs = n + 1 := ⟨exp.natAbs - 1, by omega⟩
    unfold untally
    rw [List.length_replicate, hlength, hn, List.replicate_succ, List.head?_cons, if_pos rfl,
      Int.neg_neg]
  · rename_i hpos
    have hlength : (exp.natAbs : Int) = exp := by omega
    unfold untally
    rw [List.length_replicate, hlength, if_neg]
    intro hhead
    have hmem := List.mem_of_mem_head? hhead
    have hzero := List.eq_of_mem_replicate hmem
    cases hzero

theorem codec : JwtCodec accountAuth decodeToken := by
  have hexp : ∀ claims : AccessClaims, untally ((tally claims.exp ++ '.' :: claims.sub).takeWhile
      fun c => decide (c ≠ '.')) = claims.exp := by
    intro claims
    rw [List.takeWhile_append_of_pos (tally_point claims.exp), List.takeWhile_cons_of_neg (by decide),
      List.append_nil, untally_tally]
  have hsub : ∀ claims : AccessClaims, ((tally claims.exp ++ '.' :: claims.sub).dropWhile
      fun c => decide (c ≠ '.')).drop 1 = claims.sub := by
    intro claims
    rw [List.dropWhile_append_of_pos (tally_point claims.exp), List.dropWhile_cons_of_neg (by decide)]
    rfl
  constructor
  · intro claims hnil
    cases (List.append_eq_nil_iff.mp hnil).2
  · intro claims now htype hlive
    unfold decodeToken accountAuth
    simp only [hexp, hsub, htype]
    rw [if_neg (Int.not_lt.mpr hlive)]
  · intro claims now _ hover
    unfold decodeToken accountAuth
    simp only [hexp]
    exact ⟨_, if_pos hover⟩

end Sample

/-- The account logs in and logs out: its access token still opens the guard. -/
theorem access_exact_sample : ∃ u : AccountRow, u.id = Sample.uid 1 ∧
    getCurrentUser Sample.decodeToken
      (afterCalls (Sample.config .sqlite) Sample.accountAuth Sample.oneAccount
        [.login (Sample.signIn ['m'] "secret".toList 1 0), .revoke ['t'] 1000000])
      (some (Sample.tally 60 ++ '.' :: (Sample.uid 1).str)) 60000000 = .ok u := by
  have hs : Sample.oneAccount.Sound (Sample.config .sqlite) := ⟨by decide, by decide, fun _ _ => rfl⟩
  have hsession : (AuthOp.login (Sample.signIn ['m'] "secret".toList 1 0)).session
      (Sample.config .sqlite) Sample.accountAuth Sample.oneAccount = some _ := rfl
  obtain ⟨u, _, hid, _, _, hguard, _⟩ := access_exact Sample.codec (fun _ => rfl) hs hsession
    (path_afterCalls (Sample.config .sqlite) Sample.accountAuth _ [.revoke ['t'] 1000000])
  exact ⟨u, hid, hguard 60000000 (by decide)⟩

/-! ## 3. What a call does to the refresh tokens -/

/-- The rows after an accepted refresh. -/
def TokenStore.succeeded (s : TokenStore) (record row : RefreshToken) (now : Moment)
    (hash : Text) : TokenStore :=
  { s.revoke [record.id] now with
    tokens := (s.revoke [record.id] now).tokens ++ [row]
    rotations := s.rotations ++ [⟨hash, row.id⟩] }

/-- **What a call does to `refresh_tokens`.** -/
inductive TokensEffect (cfg : Config) (auth : AuthSettings) (s : AccountStore) :
    AuthOp → TokenStore → Prop where
  | kept (op : AuthOp) : TokensEffect cfg auth s op s.tokens
  | issued (c : LoginCall) (session : Session)
      (hsession : (loginUser cfg auth s c).answer = .ok session) :
      TokensEffect cfg auth s (.login c)
        { s.tokens with tokens := s.tokens.tokens ++ [loginToken cfg auth session.user.id c] }
  | rotated (c : RotateCall) (record row : RefreshToken) (now : Moment)
      (hrecord : s.tokens.record (cfg.sha256 c.raw) = some record) (hlive : record.revokedAt = none)
      (huser : row.userId = record.userId) :
      TokensEffect cfg auth s (.rotate c) (s.tokens.succeeded record row now (cfg.sha256 c.raw))
  | ended (op : AuthOp) (record : RefreshToken) (now : Moment) :
      TokensEffect cfg auth s op (s.tokens.revoke [record.id] now)
  | wiped (op : AuthOp) (userId : Uuid) (now : Moment) (detections : List Text) :
      TokensEffect cfg auth s op
        { s.tokens.revoke (s.tokens.active userId) now with detections := detections }

/-- The records of the first rows are there in the others: of the same user, and revoked if they
    were. -/
def TokenStore.Remembered (s t : TokenStore) : Prop :=
  ∀ hash r, s.record hash = some r → ∃ r', t.record hash = some r' ∧ r'.userId = r.userId ∧
    (r.revokedAt ≠ none → r'.revokedAt ≠ none)

section Effects

variable {cfg : Config} {auth : AuthSettings} {s s' : AccountStore} {op : AuthOp}
  {tokens t u : TokenStore} {userId : Uuid} {ids : List Uuid} {now : Moment} {row : RefreshToken}

theorem TokenStore.insert_accepts : t.insert row = .ok u ↔
    (∀ v ∈ t.tokens, v.id ≠ row.id ∧ v.tokenHash ≠ row.tokenHash) ∧
      { t with tokens := t.tokens ++ [row] } = u := by
  simp only [TokenStore.insert, bind_accepts, refuse_accepts, exists_unit, pure_accepts]
  refine and_congr_left' ?_
  simp only [not_exists, not_and, not_or]

/-- What a refresh writes. -/
theorem writeRotation_accepts {env : AuthEnv} {hash newHash : Text} {record : RefreshToken}
    {newId : Uuid} (h : AuthService.writeRotation env hash record userId newId newHash t = .ok u) :
    ∃ row : RefreshToken, row.userId = userId ∧ u = t.succeeded record row env.now hash := by
  simp only [AuthService.writeRotation, bind_accepts, pure_accepts] at h
  obtain ⟨v, hinsert, rfl⟩ := h
  obtain ⟨_, rfl⟩ := TokenStore.insert_accepts.mp hinsert
  exact ⟨_, rfl, rfl⟩

theorem loginUser_refused {c : LoginCall}
    (h : ∀ session, (loginUser cfg auth s c).answer ≠ .ok session) :
    (loginUser cfg auth s c).state.tokens = s.tokens := by
  unfold loginUser at h ⊢
  split
  · rfl
  · rfl
  · simp only [authenticateUser] at h ⊢
    split
    · rfl
    split
    · rfl
    split
    · rfl
    split
    · split <;> rfl
    · rename_i row hone hfound hactive hopen hverify
      rw [hone] at h
      simp only [if_neg hfound, if_neg hactive, if_neg hopen, if_neg hverify] at h
      split
      · rfl
      · rename_i tokens hinsert
        rw [hinsert] at h
        exact (h _ rfl).elim

/-- **The step lemma** of the refresh tokens. -/
theorem AuthOp.writesTokens (op : AuthOp) :
    TokensEffect cfg auth s op (op.apply cfg auth s).tokens := by
  cases op with
  | register newId salt data =>
      unfold AuthOp.apply
      simp only
      split
      · rename_i row s' h
        obtain ⟨_, _, _, hr⟩ := registerUser_accepts.mp h
        rw [(Prod.mk.inj hr).2]
        exact .kept _
      · exact .kept _
  | login c =>
      change TokensEffect cfg auth s _ (loginUser cfg auth s c).state.tokens
      by_cases hok : ∃ session, (loginUser cfg auth s c).answer = .ok session
      · obtain ⟨session, hsession⟩ := hok
        obtain ⟨row, _, _, huser, _, hinsert⟩ := loginUser_session hsession
        have hid : session.user.id = row.id := by
          rw [huser]
          rfl
        have heffect := TokensEffect.issued c session hsession
        rw [hid, (TokenStore.insert_accepts.mp hinsert).2] at heffect
        exact heffect
      · rw [loginUser_refused fun session h => hok ⟨session, h⟩]
        exact .kept _
  | rotate c =>
      unfold AuthOp.apply rotateToken
      simp only
      split
      · exact .kept _
      split
      · exact .kept _
      rename_i record hrecord
      split
      · exact .wiped _ record.userId _ _
      rename_i hlive
      split
      · exact .ended _ record _
      split
      · exact .ended _ record _
      rename_i user huser
      split
      · exact .kept _
      rename_i tokens hwrite
      obtain ⟨row, hrow, rfl⟩ := writeRotation_accepts hwrite
      refine .rotated c record row _ hrecord (not_not.mp hlive) ?_
      exact hrow.trans (AccountStore.usable_some huser).2.1
  | revoke raw now =>
      unfold AuthOp.apply revokeToken
      simp only
      split
      · exact .kept _
      split
      · exact .kept _
      rename_i record _
      split
      · exact .kept _
      · exact .ended _ record _
  | revokeAll userId now => exact .wiped _ userId _ s.tokens.detections

theorem TokenStore.Remembered.refl (t : TokenStore) : t.Remembered t :=
  fun _ r hr => ⟨r, hr, rfl, id⟩

theorem TokenStore.Remembered.trans {v : TokenStore} (h : t.Remembered u) (h' : u.Remembered v) :
    t.Remembered v := by
  intro hash r hr
  obtain ⟨r', hr', huser, hrev⟩ := h hash r hr
  obtain ⟨q, hq, huser', hrev'⟩ := h' hash r' hr'
  exact ⟨q, hq, huser'.trans huser, fun hn => hrev' (hrev hn)⟩

theorem TokenStore.Remembered.revoke (t : TokenStore) (ids : List Uuid) (now : Moment) :
    t.Remembered (t.revoke ids now) := by
  intro hash r hr
  refine ⟨revoked ids now r, ?_, revoked_userId r, revoked_of_revoked⟩
  rw [record_revoke, hr]
  rfl

/-- Every row that is not revoked any more was live before. -/
theorem TokensEffect.remembered (h : TokensEffect cfg auth s op tokens) :
    s.tokens.Remembered tokens := by
  cases h with
  | kept op => exact .refl _
  | issued c session hsession => exact fun hash r hr => ⟨r, TokenStore.record_append hr, rfl, id⟩
  | rotated c record row now hrecord hlive huser =>
      refine (TokenStore.Remembered.revoke s.tokens [record.id] now).trans fun hash r hr => ?_
      exact ⟨r, TokenStore.record_append hr, rfl, id⟩
  | ended op record now => exact .revoke _ _ _
  | wiped op userId now detections => exact TokenStore.Remembered.revoke s.tokens _ now

theorem afterCalls_remembered (ops : List AuthOp) :
    s.tokens.Remembered (afterCalls cfg auth s ops).tokens := by
  induction ops generalizing s with
  | nil => exact .refl _
  | cons op ops ih => exact (AuthOp.writesTokens op).remembered.trans ih

end Effects

/-! ## 4. Sessions -/

section Sessions

variable {cfg : Config} {auth : AuthSettings} {s : AccountStore} {op : AuthOp} {t : TokenStore}
  {tokens : TokenStore} {userId : Uuid} {ids : List Uuid} {now : Moment}

/-- The sessions of a user after an update: those whose token is not among the revoked. -/
theorem TokenStore.active_revoke :
    (t.revoke ids now).active userId = (t.active userId).filter fun id => id ∉ ids := by
  unfold active revoke
  simp only
  induction t.tokens with
  | nil => rfl
  | cons r rest ih =>
      rw [List.map_cons]
      by_cases hid : r.id ∈ ids
      · have hgone : ¬ ((revoked ids now r).userId = userId ∧ (revoked ids now r).revokedAt = none) :=
          fun h => revoked_of_mem hid h.2
        rw [List.filter_cons_of_neg (by simpa using hgone), ih]
        by_cases hlive : r.userId = userId ∧ r.revokedAt = none
        · rw [List.filter_cons_of_pos (by simpa using hlive), List.map_cons,
            List.filter_cons_of_neg (by simpa using hid)]
        · rw [List.filter_cons_of_neg (by simpa using hlive)]
      · have hsame : revoked ids now r = r := if_neg hid
        rw [hsame]
        by_cases hlive : r.userId = userId ∧ r.revokedAt = none
        · rw [List.filter_cons_of_pos (by simpa using hlive), List.map_cons, ih,
            List.filter_cons_of_pos (by simpa using hlive), List.map_cons,
            List.filter_cons_of_pos (by simpa using hid)]
        · rw [List.filter_cons_of_neg (by simpa using hlive), ih,
            List.filter_cons_of_neg (by simpa using hlive)]

theorem TokenStore.active_append {row : RefreshToken} :
    ({ t with tokens := t.tokens ++ [row] } : TokenStore).active userId =
      t.active userId ++ if row.userId = userId ∧ row.revokedAt = none then [row.id] else [] := by
  unfold active
  rw [List.filter_append, List.map_append, List.filter_singleton]
  by_cases hlive : row.userId = userId ∧ row.revokedAt = none
  · rw [if_pos hlive, decide_eq_true hlive]
    rfl
  · rw [if_neg hlive, decide_eq_false hlive]
    rfl

/-- The end of all sessions of a user leaves none. -/
theorem TokenStore.active_wiped : (t.revoke (t.active userId) now).active userId = [] := by
  rw [active_revoke, List.filter_eq_nil_iff]
  intro id hid hnot
  exact of_decide_eq_true hnot hid

/-- The call is an accepted login of the user. -/
def AuthOp.LogsIn (cfg : Config) (auth : AuthSettings) (s : AccountStore) (userId : Uuid) :
    AuthOp → Prop
  | .login c => ∃ session ∈ (loginUser cfg auth s c).answer.toOption, session.user.id = userId
  | _ => False

instance (cfg : Config) (auth : AuthSettings) (s : AccountStore) (userId : Uuid) :
    (op : AuthOp) → Decidable (op.LogsIn cfg auth s userId)
  | .login _ => inferInstanceAs (Decidable (∃ _ ∈ _, _))
  | .register .. | .rotate _ | .revoke .. | .revokeAll .. => .isFalse id

/-- The accepted logins of the user in a run. -/
def loginsOf (cfg : Config) (auth : AuthSettings) (userId : Uuid) : AccountStore → List AuthOp → Nat
  | _, [] => 0
  | s, op :: ops =>
      (if op.LogsIn cfg auth s userId then 1 else 0) +
        loginsOf cfg auth userId (op.apply cfg auth s) ops

/-- **A call opens a session only by a login.** -/
theorem TokensEffect.sessions (h : TokensEffect cfg auth s op tokens) :
    (tokens.active userId).length ≤
      (s.tokens.active userId).length + if op.LogsIn cfg auth s userId then 1 else 0 := by
  have hshrinks : ∀ ids now, ((s.tokens.revoke ids now).active userId).length ≤
      (s.tokens.active userId).length := by
    intro ids now
    rw [TokenStore.active_revoke]
    exact List.length_filter_le _ _
  cases h with
  | kept op => exact Nat.le_add_right _ _
  | issued c session hsession =>
      rw [TokenStore.active_append, List.length_append]
      refine Nat.add_le_add_left ?_ _
      by_cases huser : session.user.id = userId
      · have hlogin : (AuthOp.login c).LogsIn cfg auth s userId :=
          ⟨session, toOption_some.mpr hsession, huser⟩
        rw [if_pos ⟨huser, rfl⟩, if_pos hlogin]
        exact Nat.le_refl 1
      · rw [if_neg fun hboth => huser hboth.1]
        exact Nat.zero_le _
  | rotated c record row now hrecord hlive huser =>
      have happend : (s.tokens.succeeded record row now (cfg.sha256 c.raw)).active userId =
          ({ s.tokens.revoke [record.id] now with
            tokens := (s.tokens.revoke [record.id] now).tokens ++ [row] } : TokenStore).active userId :=
        rfl
      refine Nat.le_trans ?_ (Nat.le_add_right _ _)
      rw [happend, TokenStore.active_append, List.length_append]
      by_cases hmine : row.userId = userId ∧ row.revokedAt = none
      · -- the session of the record has made room
        have hin : record.id ∈ s.tokens.active userId :=
          TokenStore.mem_active.mpr ⟨record, List.mem_of_find?_eq_some hrecord,
            huser.symm.trans hmine.1, hlive, rfl⟩
        have hlt : ((s.tokens.revoke [record.id] now).active userId).length <
            (s.tokens.active userId).length := by
          rw [TokenStore.active_revoke, List.length_filter_lt_length_iff_exists]
          refine ⟨record.id, hin, ?_⟩
          simp
        rw [if_pos hmine]
        exact hlt
      · rw [if_neg hmine]
        exact hshrinks _ _
  | ended op record now => exact Nat.le_trans (hshrinks _ _) (Nat.le_add_right _ _)
  | wiped op user now detections => exact Nat.le_trans (hshrinks _ _) (Nat.le_add_right _ _)

/-- **NO MORE SESSIONS THAN LOGINS**: in every run, the live refresh tokens of a user are at most those at
    its start and one more for each of his accepted logins in it. -/
theorem sessions_bounded (cfg : Config) (auth : AuthSettings) (userId : Uuid) (s : AccountStore)
    (ops : List AuthOp) :
    ((afterCalls cfg auth s ops).tokens.active userId).length ≤
      (s.tokens.active userId).length + loginsOf cfg auth userId s ops := by
  induction ops generalizing s with
  | nil => exact Nat.le_refl _
  | cons op ops ih =>
      have hstep : ((op.apply cfg auth s).tokens.active userId).length ≤
          (s.tokens.active userId).length + if op.LogsIn cfg auth s userId then 1 else 0 :=
        (AuthOp.writesTokens op).sessions
      have hrest := ih (op.apply cfg auth s)
      change ((afterCalls cfg auth (op.apply cfg auth s) ops).tokens.active userId).length ≤ _
      unfold loginsOf
      omega

end Sessions

/-! ## 5. Spent tokens -/

/-- The refresh token is on record for the user, and revoked. -/
def TokenStore.Spent (cfg : Config) (t : TokenStore) (raw : Text) (userId : Uuid) : Prop :=
  ∃ r, t.record (cfg.sha256 raw) = some r ∧ r.userId = userId ∧ r.revokedAt ≠ none

/-- The call presents the refresh token, to refresh the session or to end it. -/
def AuthOp.Presents (raw : Text) : AuthOp → Prop
  | .rotate c => c.raw = raw
  | .revoke given _ => given = raw
  | _ => False

/-- What a refresh draws is new: `uuid4` and `secrets.token_urlsafe` repeat nothing stored. -/
def AuthOp.Draws (cfg : Config) (s : AccountStore) : AuthOp → Prop
  | .rotate c => ∀ t ∈ s.tokens.tokens, t.id ≠ c.newId ∧ t.tokenHash ≠ cfg.sha256 c.newRaw
  | _ => True

/-- `InvalidTokenError`, for a token presented again. -/
def reuseDetected : AuthFailure :=
  ⟨.raised .invalidToken,
    "Refresh token has already been revoked. Potential token reuse detected. " ++
      "All sessions have been invalidated for security.", []⟩

section Spending

variable {cfg : Config} {auth : AuthSettings} {s t v : AccountStore} {op : AuthOp} {raw : Text}
  {record : RefreshToken} {userId : Uuid} {tokens tokens' : TokenStore} {c : RotateCall}

theorem TokenStore.Spent.later (h : tokens.Spent cfg raw userId) (hr : tokens.Remembered tokens') :
    tokens'.Spent cfg raw userId := by
  obtain ⟨r, hr', huser, hrev⟩ := h
  obtain ⟨q, hq, huser', hrev'⟩ := hr _ r hr'
  exact ⟨q, hq, huser'.trans huser, hrev' hrev⟩

/-- The update of its row spends a token. -/
theorem TokenStore.spent_of_revoke {now : Moment}
    (hrecord : tokens.record (cfg.sha256 raw) = some record) :
    (tokens.revoke [record.id] now).Spent cfg raw record.userId := by
  refine ⟨revoked [record.id] now record, ?_, revoked_userId record,
    revoked_of_mem (List.mem_singleton_self _)⟩
  rw [record_revoke, hrecord]
  rfl

/-- **A token is spent by the first call that presents it**, whatever that call answers. -/
theorem AuthOp.spends (hraw : raw ≠ []) (hrecord : s.tokens.record (cfg.sha256 raw) = some record)
    (hop : op.Presents raw) (hdraws : op.Draws cfg s) :
    (op.apply cfg auth s).tokens.Spent cfg raw record.userId := by
  cases op with
  | register newId salt data => exact hop.elim
  | login c => exact hop.elim
  | revokeAll userId now => exact hop.elim
  | revoke given now =>
      subst hop
      unfold AuthOp.apply revokeToken
      simp only [if_neg hraw, hrecord]
      by_cases hlive : record.revokedAt = none
      · rw [if_neg (not_not.mpr hlive)]
        exact TokenStore.spent_of_revoke hrecord
      · rw [if_pos hlive]
        exact ⟨record, hrecord, rfl, hlive⟩
  | rotate c =>
      subst hop
      unfold AuthOp.apply rotateToken
      simp only [if_neg hraw, hrecord]
      by_cases hlive : record.revokedAt = none
      · rw [if_neg (not_not.mpr hlive)]
        split
        · exact TokenStore.spent_of_revoke hrecord
        split
        · exact TokenStore.spent_of_revoke hrecord
        rename_i user huser
        split
        · -- the row of the successor does not clash
          rename_i e hwrite
          have hnew : ∀ w ∈ (s.tokens.revoke [record.id] (s.authEnv auth c.now).now).tokens,
              w.id ≠ c.newId ∧ w.tokenHash ≠ cfg.sha256 c.newRaw := by
            intro w hw
            obtain ⟨r, hr, rfl⟩ := TokenStore.mem_revoke.mp hw
            rw [TokenStore.revoked_id, TokenStore.revoked_tokenHash]
            exact hdraws r hr
          unfold AuthService.writeRotation at hwrite
          rw [insert_of_fresh hnew] at hwrite
          cases hwrite
        · rename_i written hwrite
          obtain ⟨row, _, rfl⟩ := writeRotation_accepts hwrite
          have hspent : (s.tokens.revoke [record.id] (s.authEnv auth c.now).now).Spent cfg c.raw
              record.userId := TokenStore.spent_of_revoke hrecord
          exact hspent.later fun hash r hr => ⟨r, TokenStore.record_append hr, rfl, id⟩
      · rw [if_pos hlive]
        have hspent : s.tokens.Spent cfg c.raw record.userId := ⟨record, hrecord, rfl, hlive⟩
        exact hspent.later (TokenStore.Remembered.revoke s.tokens _ _)

/-- A spent token is refused, and ends every session of its user. -/
theorem rotateToken_spent (auth : AuthSettings) (hraw : c.raw ≠ [])
    (h : s.tokens.Spent cfg c.raw userId) :
    (rotateToken cfg auth s c).answer = .error reuseDetected ∧
      (rotateToken cfg auth s c).state.tokens.active userId = [] := by
  obtain ⟨r, hr, rfl, hrev⟩ := h
  unfold rotateToken
  simp only [if_neg hraw, hr, if_pos hrev]
  exact ⟨rfl, TokenStore.active_wiped⟩

/-- A refresh needs a session of the user. -/
theorem rotateToken_active {session : Session} (h : (rotateToken cfg auth s c).answer = .ok session) :
    s.tokens.active session.user.id ≠ [] := by
  obtain ⟨r, row, hrecord, hlive, husable, huser, _⟩ := rotateToken_session h
  have hid : session.user.id = r.userId := by
    rw [huser]
    exact (AccountStore.usable_some husable).2.1
  refine List.ne_nil_of_mem (a := r.id) (TokenStore.mem_active.mpr ?_)
  exact ⟨r, List.mem_of_find?_eq_some hrecord, hid.symm, hlive, rfl⟩

/-- **A REFRESH TOKEN IS SPENT FOR GOOD**: once some call presented it, to refresh the session or to end
    it, every later refresh with it is refused and ends all sessions of its user, whoever holds them;
    and after that no refresh of that user is accepted, whatever is called, until he logs in again. -/
theorem spent_for_good (hraw : raw ≠ []) (hrecord : s.tokens.record (cfg.sha256 raw) = some record)
    (hop : op.Presents raw) (hdraws : op.Draws cfg s) (before after : List AuthOp)
    (ht : afterCalls cfg auth (op.apply cfg auth s) before = t) (hc : c.raw = raw)
    (hv : afterCalls cfg auth (rotateToken cfg auth t c).state after = v)
    (hno : loginsOf cfg auth record.userId (rotateToken cfg auth t c).state after = 0) :
    (rotateToken cfg auth t c).answer = .error reuseDetected ∧
      v.tokens.active record.userId = [] ∧
      ∀ (next : RotateCall) (session : Session), (rotateToken cfg auth v next).answer = .ok session →
        session.user.id ≠ record.userId := by
  subst hc
  have hspent : t.tokens.Spent cfg c.raw record.userId := by
    rw [← ht]
    exact (AuthOp.spends hraw hrecord hop hdraws).later (afterCalls_remembered before)
  obtain ⟨hanswer, hwiped⟩ := rotateToken_spent auth hraw hspent
  have hnone : v.tokens.active record.userId = [] := by
    have hbound := sessions_bounded cfg auth record.userId (rotateToken cfg auth t c).state after
    rw [hwiped, hno, hv] at hbound
    exact List.eq_nil_of_length_eq_zero (Nat.le_zero.mp hbound)
  refine ⟨hanswer, hnone, fun next session hnext huser => rotateToken_active hnext ?_⟩
  rw [huser]
  exact hnone

end Spending

/-- A session is refreshed; the old token, presented again, ends the new session as well. -/
theorem spent_for_good_sample :
    (rotateToken (Sample.config .sqlite) Sample.accountAuth
      (afterCalls (Sample.config .sqlite) Sample.accountAuth Sample.oneAccount
        [.login (Sample.signIn ['m'] "secret".toList 1 0), .rotate (Sample.refresh 1 2 10),
          .rotate (Sample.refresh 2 3 20)])
      (Sample.refresh 1 4 30)).answer = .error reuseDetected := by
  have hrecord : (afterCalls (Sample.config .sqlite) Sample.accountAuth Sample.oneAccount
      [.login (Sample.signIn ['m'] "secret".toList 1 0)]).tokens.record
        ((Sample.config .sqlite).sha256 ['t']) = some _ := rfl
  have hop : (AuthOp.rotate (Sample.refresh 1 2 10)).Presents ['t'] := rfl
  exact (spent_for_good (by decide) hrecord hop (by unfold AuthOp.Draws; decide)
    [.rotate (Sample.refresh 2 3 20)] [] rfl rfl rfl rfl).1

/-! ## 6. The calls as transactions -/

/-- The request of a call on the refresh tokens. -/
def AuthOp.request (auth : AuthSettings) (s : AccountStore) : AuthOp → Option TokenRequest
  | .rotate c => some (.rotate (s.authEnv auth c.now) c.raw c.newId c.newRaw)
  | .revoke raw now => some (.revoke (s.authEnv auth now) raw)
  | .revokeAll userId now => some (.revokeAll (s.authEnv auth now) userId)
  | _ => none

section Transactions

variable {cfg : Config} {auth : AuthSettings} {s : AccountStore} {op : AuthOp} {r : TokenRequest}

/-- The user a transaction finds is the usable account. -/
theorem AccountStore.account_eq (id : Uuid) (now : Moment) :
    (s.authEnv auth now).account id =
      (s.usable id).map fun u => ⟨u.id, u.isActive, u.deletedAt⟩ := by
  unfold AuthEnv.account AccountStore.authEnv AccountStore.usable
  simp only
  induction s.users with
  | nil => rfl
  | cons u users ih =>
      rw [List.map_cons, List.find?_cons, List.find?_cons]
      by_cases hid : u.id = id
      · simp only [hid, decide_true]
        by_cases hactive : u.isActive = true ∧ u.deletedAt = none
        · simp [Option.filter, hactive, hid]
        · simp [Option.filter, hactive]
      · simp only [hid, decide_false]
        exact ih

/-- Its snapshot finds what it locks. -/
theorem revokeActive_serial {now : Moment} {userId : Uuid} {after : TokenStore → TokenStore}
    {tokens : TokenStore} : (AuthService.revokeActive now userId after).serial tokens =
      .ok (after (tokens.revoke (tokens.active userId) now)) := by
  unfold AuthService.revokeActive
  rw [Prog.serial_view, Prog.serial_hold, Prog.serial_done]
  have hall : (tokens.active userId).filter (fun id => decide (id ∈ tokens.active userId)) =
      tokens.active userId := List.filter_eq_self.mpr fun id hid => decide_eq_true hid
  rw [hall]

/-- **The transaction of a refresh, run alone, leaves the rows the call leaves.** -/
theorem rotateToken_serial (c : RotateCall) :
    (((AuthService.rotateRefreshToken cfg (s.authEnv auth c.now) c.raw c.newId c.newRaw).serial
      s.tokens).toOption).getD s.tokens = (rotateToken cfg auth s c).state.tokens := by
  unfold AuthService.rotateRefreshToken rotateToken
  simp only
  by_cases hraw : c.raw = []
  · rw [if_pos hraw, refuse, if_pos hraw]
    rfl
  rw [if_neg hraw, Prog.serial_decision (b := ()) (refuse_accepts.mpr hraw), Prog.serial_view]
  cases hrecord : s.tokens.record (cfg.sha256 c.raw) with
  | none => rfl
  | some record =>
      rw [Prog.serial_decision (b := record) (fetch_accepts.mpr rfl)]
      by_cases hlive : record.revokedAt = none
      · rw [if_neg (not_not.mpr hlive)]
        simp only [if_neg (not_not.mpr hlive)]
        by_cases hexpiry : record.expiresAt ≤ (s.authEnv auth c.now).now
        · simp only [if_pos hexpiry]
          rfl
        · simp only [if_neg hexpiry]
          rw [AccountStore.account_eq]
          cases s.usable record.userId with
          | none => rfl
          | some user =>
              rw [Option.map_some]
              simp only [Prog.serial_hold, Prog.serial_done]
              split
              · rename_i e hwrite
                rw [hwrite]
                rfl
              · rename_i tokens hwrite
                rw [hwrite]
                rfl
      · simp only [if_pos hlive]
        rw [revokeActive_serial]
        rfl

/-- **The transaction of a call, run alone, leaves the rows the call leaves.** -/
theorem AuthOp.serial (h : op.request auth s = some r) :
    (((r.script cfg).serial s.tokens).toOption).getD s.tokens = (op.apply cfg auth s).tokens := by
  cases op with
  | register newId salt data => cases h
  | login c => cases h
  | rotate c =>
      cases h
      exact rotateToken_serial c
  | revoke raw now =>
      cases h
      unfold TokenRequest.script AuthService.revokeRefreshToken AuthOp.apply revokeToken
      by_cases hraw : raw = []
      · simp only [if_pos hraw]
        rfl
      · simp only [if_neg hraw, Prog.serial_view]
        cases hrecord : s.tokens.record (cfg.sha256 raw) with
        | none => rfl
        | some record =>
            by_cases hlive : record.revokedAt = none
            · simp only [Option.filter, hlive, decide_true, if_true, ne_eq, not_true_eq_false, if_false]
              rfl
            · simp only [Option.filter, hlive, decide_false, ne_eq, not_false_eq_true, if_true]
              rfl
  | revokeAll userId now =>
      cases h
      unfold TokenRequest.script
      rw [revokeActive_serial]
      rfl

end Transactions

end CampusConnect
