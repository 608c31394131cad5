/-
  File:      CampusConnect/Services/Login.lean
  Subject:   `authenticate_user` of the authentication service: login and lockout of one account.

  * `AuthSettings`: the settings and the library functions a login uses;
  * `LoginUser`, `LoginState`: the row of the account with its counter and its lock, and the tokens;
  * `authenticateUser`: one call, with the password comparison it makes;
  * `Attempt`, `Login.Step`, `logins`, `LoginEffect`: the calls of a run, and what a call can do.
-/
import CampusConnect.Base.Runs
import CampusConnect.Services.Tokens

namespace CampusConnect

open Guarded

/-! ## 1. Settings, rows and calls -/

/-- The payload of an access token. -/
structure AccessClaims where
  sub : Text
  role : String
  email : Text
  tokenType : String
  jti : Text
  iat : Instant
  exp : Instant
  deriving DecidableEq, Repr

/-- The settings a login reads, and the functions of `argon2` and `jwt` it calls. -/
structure AuthSettings where
  maxLoginAttempts : Nat
  accountLockoutMinutes : Nat
  accessTokenExpireMinutes : Nat
  refreshTokenExpireDays : Nat
  /-- `hasher.verify(hashed_password, plain_password)`, `False` where it raises. -/
  hasherVerify : Text → Text → Bool
  /-- `hasher.check_needs_rehash(hashed_password)`, `True` where it raises. -/
  checkNeedsRehash : Text → Bool
  /-- `hasher.hash(password)` under the salt it draws. -/
  hasherHash : Text → Text → Text
  /-- `jwt.encode` under the key and the algorithm of the settings. -/
  jwtEncode : AccessClaims → Text

/-- `verify_password`. -/
def verifyPassword (auth : AuthSettings) (plainPassword hashedPassword : Text) : Bool :=
  if plainPassword = [] ∨ hashedPassword = [] then false
  else auth.hasherVerify hashedPassword plainPassword

/-- `password_needs_rehash`. -/
def passwordNeedsRehash (auth : AuthSettings) (hashedPassword : Text) : Bool :=
  if hashedPassword = [] then true else auth.checkNeedsRehash hashedPassword

/-- What a login reads and writes of `users`. -/
structure LoginUser where
  id : Uuid
  email : Text
  role : UserRole
  passwordHash : Text
  isActive : Bool
  deletedAt : Option Instant
  failedLoginAttempts : Nat
  lockedUntil : Option Moment
  lastLoginAt : Option Moment
  deriving DecidableEq, Repr

/-- The account, and the refresh tokens of all accounts. -/
structure LoginState where
  user : LoginUser
  tokens : TokenStore
  deriving DecidableEq, Repr

/-- A call of `authenticate_user`: the credentials, the clock, and what it draws. -/
structure LoginCall where
  email : Text
  password : Text
  now : Moment
  /-- The clock as `create_access_token` reads it. -/
  issuedAt : Moment
  salt : Text
  jti : Uuid
  newId : Uuid
  /-- `generate_secure_random_token(48)`. -/
  rawRefreshToken : Text
  deriving DecidableEq, Repr

/-- What a successful login returns. -/
structure Session where
  user : LoginUser
  accessToken : Text
  rawRefreshToken : Text
  expiresIn : Nat
  deriving DecidableEq, Repr

/-- The call of `verify_password` that a login makes: against the dummy hash, or against the hash of
    the account. -/
inductive Comparison where
  | dummy
  | stored
  deriving DecidableEq, Repr

/-- One login: the comparison it made, what it returned or raised, and what it left. -/
structure LoginOutcome where
  comparison : Option Comparison
  answer : Result Session
  state : LoginState

/-! ## 2. The login -/

/-- `select(User)`: the account has the email and is not deleted. -/
def LoginUser.Found (cfg : Config) (user : LoginUser) (email : Text) : Prop :=
  cfg.sqlLower user.email = cfg.lower (strip email) ∧ user.deletedAt = none

instance (cfg : Config) (user : LoginUser) (email : Text) : Decidable (user.Found cfg email) :=
  inferInstanceAs (Decidable (_ ∧ _))

/-- `locked_until_utc is not None and locked_until_utc > now`. -/
def LoginUser.Locked (user : LoginUser) (now : Moment) : Prop :=
  ∃ l ∈ user.lockedUntil, now < l

instance (user : LoginUser) (now : Moment) : Decidable (user.Locked now) :=
  inferInstanceAs (Decidable (∃ l ∈ user.lockedUntil, now < l))

/-- The minutes left of a lock, rounded up, and at least one. -/
def LoginUser.remainingMinutes (user : LoginUser) (now : Moment) : Int :=
  let remainingSeconds := (user.lockedUntil.getD now - now) / 1000000
  max 1 ((remainingSeconds + 59) / 60)

/-- `create_access_token`. -/
def createAccessToken (auth : AuthSettings) (user : LoginUser) (c : LoginCall) : Text :=
  auth.jwtEncode
    { sub := user.id.str
      role := user.role.value
      email := user.email
      tokenType := "access"
      jti := c.jti.str
      iat := Moment.instant c.issuedAt
      exp := Moment.instant (c.issuedAt + minutes auth.accessTokenExpireMinutes) }

/-- The account after a failed comparison, before a lock. -/
def LoginUser.failed (user : LoginUser) : LoginUser :=
  { user with failedLoginAttempts := user.failedLoginAttempts + 1 }

/-- The account after a successful comparison. -/
def LoginUser.loggedIn (auth : AuthSettings) (user : LoginUser) (c : LoginCall) : LoginUser :=
  { user with
    failedLoginAttempts := 0
    lockedUntil := none
    lastLoginAt := some c.now
    passwordHash :=
      if passwordNeedsRehash auth user.passwordHash then auth.hasherHash c.salt c.password
      else user.passwordHash }

/-- `authenticate_user`. -/
def authenticateUser (cfg : Config) (auth : AuthSettings) (s : LoginState) (c : LoginCall) :
    LoginOutcome :=
  let user := s.user
  if ¬ user.Found cfg c.email then
    ⟨some .dummy, .error ⟨.invalidCredentials, "Invalid email or password", []⟩, s⟩
  else if user.isActive = false then
    ⟨none, .error ⟨.accountInactive,
      "Account is deactivated. Please contact an administrator.", []⟩, s⟩
  else if user.Locked c.now then
    ⟨none, .error ⟨.accountLocked,
      "Account is temporarily locked due to repeated failed login attempts. " ++
        "Please try again in %s minute(s).",
      [.number (user.remainingMinutes c.now).toNat]⟩, s⟩
  else if verifyPassword auth c.password user.passwordHash = false then
    let user := user.failed
    if auth.maxLoginAttempts ≤ user.failedLoginAttempts then
      let user := { user with lockedUntil := some (c.now + minutes auth.accountLockoutMinutes) }
      ⟨some .stored, .error ⟨.accountLocked,
        "Account has been locked for %s minutes due to %s consecutive failed login attempts.",
        [.number auth.accountLockoutMinutes, .number auth.maxLoginAttempts]⟩, { s with user := user }⟩
    else
      ⟨some .stored, .error ⟨.invalidCredentials, "Invalid email or password", []⟩,
        { s with user := user }⟩
  else
    let user := user.loggedIn auth c
    let refreshRecord : RefreshToken :=
      { id := c.newId
        userId := user.id
        tokenHash := cfg.sha256 c.rawRefreshToken
        expiresAt := c.now + days auth.refreshTokenExpireDays
        revokedAt := none }
    match s.tokens.insert refreshRecord with
    -- the commit failed, and the session rolls back
    | .error e => ⟨some .stored, .error e, s⟩
    | .ok tokens =>
        ⟨some .stored, .ok
          { user := user
            accessToken := createAccessToken auth user c
            rawRefreshToken := c.rawRefreshToken
            expiresIn := auth.accessTokenExpireMinutes * 60 },
          { user := user, tokens := tokens }⟩

/-! ## 3. Runs -/

/-- A call, the comparison it made and what it returned. -/
structure Attempt extends LoginCall where
  comparison : Option Comparison
  answer : Result Session

/-- The call compared the password with the hash of the account. -/
def Attempt.Compared (a : Attempt) : Prop := a.comparison = some .stored

instance (a : Attempt) : Decidable a.Compared := inferInstanceAs (Decidable (_ = _))

/-- The call logged in. -/
def Attempt.succeeded (a : Attempt) : Bool :=
  match a.answer with
  | .ok _ => true
  | .error _ => false

/-- The drawn key and token are new: `uuid4` and `secrets.token_urlsafe` repeat nothing stored. -/
def DrawsFresh (cfg : Config) (s : LoginState) (c : LoginCall) : Prop :=
  ∀ t ∈ s.tokens.tokens, t.id ≠ c.newId ∧ t.tokenHash ≠ cfg.sha256 c.rawRefreshToken

instance (cfg : Config) (s : LoginState) (c : LoginCall) : Decidable (DrawsFresh cfg s c) :=
  inferInstanceAs (Decidable (∀ t ∈ s.tokens.tokens, _))

/-- One call of `authenticate_user` on the account. -/
def Login.Step (cfg : Config) (auth : AuthSettings) (s : LoginState) (a : Attempt)
    (s' : LoginState) : Prop :=
  authenticateUser cfg auth s a.toLoginCall = ⟨a.comparison, a.answer, s'⟩

/-- The calls, one after another. -/
def logins (cfg : Config) (auth : AuthSettings) (s : LoginState) :
    List LoginCall → List Attempt × LoginState
  | [] => ([], s)
  | c :: calls =>
      let outcome := authenticateUser cfg auth s c
      let (attempts, s) := logins cfg auth outcome.state calls
      (⟨c, outcome.comparison, outcome.answer⟩ :: attempts, s)

/-- Each of the calls draws fresh in its turn. -/
def FreshLogins (cfg : Config) (auth : AuthSettings) (s : LoginState) : List LoginCall → Prop
  | [] => True
  | c :: calls =>
      DrawsFresh cfg s c ∧ FreshLogins cfg auth (authenticateUser cfg auth s c).state calls

instance FreshLogins.decidable (cfg : Config) (auth : AuthSettings) (s : LoginState) :
    (calls : List LoginCall) → Decidable (FreshLogins cfg auth s calls)
  | [] => inferInstanceAs (Decidable True)
  | c :: calls =>
      let _ := FreshLogins.decidable cfg auth (authenticateUser cfg auth s c).state calls
      inferInstanceAs (Decidable (_ ∧ _))

theorem path_of_logins {cfg : Config} {auth : AuthSettings} {s : LoginState}
    {calls : List LoginCall} (h : FreshLogins cfg auth s calls) :
    Runs.Path (Runs.restrict (Login.Step cfg auth) fun s a => DrawsFresh cfg s a.toLoginCall) s
      (logins cfg auth s calls).1 (logins cfg auth s calls).2 := by
  induction calls generalizing s with
  | nil => exact .nil s
  | cons c calls ih => exact .cons ⟨rfl, h.1⟩ (ih h.2)

/-- **What a call can do to the account**: nothing, without a comparison; count a failure; count it
    and lock; log in; or lose its commit to a clash of what it drew. -/
inductive LoginEffect (cfg : Config) (auth : AuthSettings) (s : LoginState) (a : Attempt) :
    LoginState → Prop where
  | refused (hcompared : ¬ a.Compared) (hanswer : a.succeeded = false) :
      LoginEffect cfg auth s a s
  | failed (hopen : ¬ s.user.Locked a.now) (hanswer : a.succeeded = false)
      (hbelow : s.user.failedLoginAttempts + 1 < auth.maxLoginAttempts) :
      LoginEffect cfg auth s a { s with user := s.user.failed }
  | locked (hopen : ¬ s.user.Locked a.now) (hanswer : a.succeeded = false)
      (hreached : auth.maxLoginAttempts ≤ s.user.failedLoginAttempts + 1) :
      LoginEffect cfg auth s a { s with
        user := { s.user.failed with
          lockedUntil := some (a.now + minutes auth.accountLockoutMinutes) } }
  | loggedIn (hopen : ¬ s.user.Locked a.now) (hanswer : a.succeeded = true) (tokens : TokenStore) :
      LoginEffect cfg auth s a ⟨s.user.loggedIn auth a.toLoginCall, tokens⟩
  | lost (hopen : ¬ s.user.Locked a.now) (hanswer : a.succeeded = false)
      (hclash : ¬ DrawsFresh cfg s a.toLoginCall) : LoginEffect cfg auth s a s

variable {cfg : Config} {auth : AuthSettings} {s s' : LoginState} {a : Attempt}

theorem Attempt.succeeded_of_error {e : Failure} (h : .error e = a.answer) :
    a.succeeded = false := by
  unfold Attempt.succeeded
  rw [← h]

theorem Attempt.succeeded_of_ok {session : Session} (h : .ok session = a.answer) :
    a.succeeded = true := by
  unfold Attempt.succeeded
  rw [← h]

/-- A row whose key and hash are new goes in. -/
theorem insert_of_fresh {tokens : TokenStore} {t : RefreshToken}
    (h : ∀ u ∈ tokens.tokens, u.id ≠ t.id ∧ u.tokenHash ≠ t.tokenHash) :
    tokens.insert t = .ok { tokens with tokens := tokens.tokens ++ [t] } := by
  have hnew : ¬ ∃ u ∈ tokens.tokens, u.id = t.id ∨ u.tokenHash = t.tokenHash := by
    intro hclash
    obtain ⟨u, hu, hid | hhash⟩ := hclash
    · exact (h u hu).1 hid
    · exact (h u hu).2 hhash
  unfold TokenStore.insert refuse
  rw [if_neg hnew]
  rfl

theorem Login.Step.effect (h : Login.Step cfg auth s a s') : LoginEffect cfg auth s a s' := by
  unfold Login.Step authenticateUser at h
  simp only at h
  split at h
  · -- no such account
    obtain ⟨hcomparison, hanswer, rfl⟩ := LoginOutcome.mk.inj h
    refine .refused ?_ (Attempt.succeeded_of_error hanswer)
    simp [Attempt.Compared, ← hcomparison]
  split at h
  · -- a deactivated account
    obtain ⟨hcomparison, hanswer, rfl⟩ := LoginOutcome.mk.inj h
    refine .refused ?_ (Attempt.succeeded_of_error hanswer)
    simp [Attempt.Compared, ← hcomparison]
  split at h
  · -- a locked account
    obtain ⟨hcomparison, hanswer, rfl⟩ := LoginOutcome.mk.inj h
    refine .refused ?_ (Attempt.succeeded_of_error hanswer)
    simp [Attempt.Compared, ← hcomparison]
  rename_i hopen
  split at h
  · split at h
    · rename_i hreached
      obtain ⟨_, hanswer, rfl⟩ := LoginOutcome.mk.inj h
      exact .locked hopen (Attempt.succeeded_of_error hanswer) hreached
    · rename_i hbelow
      obtain ⟨_, hanswer, rfl⟩ := LoginOutcome.mk.inj h
      exact .failed hopen (Attempt.succeeded_of_error hanswer) (not_le.mp hbelow)
  · split at h
    · rename_i hinsert
      obtain ⟨_, hanswer, rfl⟩ := LoginOutcome.mk.inj h
      refine .lost hopen (Attempt.succeeded_of_error hanswer) fun hfresh => ?_
      have hok := hinsert.symm.trans (insert_of_fresh hfresh)
      cases hok
    · obtain ⟨_, hanswer, rfl⟩ := LoginOutcome.mk.inj h
      exact .loggedIn hopen (Attempt.succeeded_of_ok hanswer) _

end CampusConnect
