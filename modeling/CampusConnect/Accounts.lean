/-
  File:      CampusConnect/Accounts.lean
  Subject:   The authentication service over all accounts (`auth_service.py`, `security.py`, `deps.py`):
             registration, login, the refresh of a session, its end, and the guard of every endpoint.

  * `AuthFailure`, `AccountRow`, `AccountStore`: what is raised, the rows of `users` and the tokens;
  * `registerUser`, `loginUser`, `rotateToken`, `revokeToken`, `revokeAllTokens`: the calls, each with
    its answer and the rows it leaves, also where it raises after a commit;
  * `Uuid.parse`, `decodeAccessToken`, `getCurrentUser`, `requireAnyRole`: the guard;
  * `AuthOp`, `AuthOp.apply`: a call of a run.
-/
import CampusConnect.Concurrency.Rotation
import CampusConnect.Services.Login
import CampusConnect.System

namespace CampusConnect

open Guarded

/-! ## 1. Failures and rows -/

/-- The exception classes of authentication, and what a library below it raises. -/
inductive AuthFailureKind where
  | raised (kind : FailureKind)
  | emailAlreadyExists
  | tokenExpired
  | unauthorized
  | insufficientRole
  | multipleResultsFound
  | valueError
  deriving DecidableEq, Repr

structure AuthFailure where
  kind : AuthFailureKind
  message : String
  args : List Value := []
  deriving DecidableEq, Repr

abbrev AuthResult (α : Type) := Except AuthFailure α

def Failure.ofService (e : Failure) : AuthFailure := ⟨.raised e.kind, e.message, e.args⟩

/-- A row of `users`. -/
structure AccountRow extends LoginUser where
  emailVerified : Bool
  fullName : Text
  department : Option Text
  designation : Option Text
  phone : Option Text
  deriving DecidableEq, Repr

/-- The row of the key gets the columns of a login. -/
def AccountRow.withLogin (user : LoginUser) (row : AccountRow) : AccountRow :=
  if row.id = user.id then { row with toLoginUser := user } else row

structure AccountStore where
  users : List AccountRow
  tokens : TokenStore
  deriving DecidableEq, Repr

/-- What a call answers, and the rows it leaves: some raise after a commit. -/
structure AuthOutcome (α : Type) where
  answer : AuthResult α
  state : AccountStore

/-- `UserRegisterRequest`. -/
structure UserRegisterRequest where
  email : Text
  password : Text
  fullName : Text
  role : UserRole
  department : Option Text := none
  designation : Option Text := none
  phone : Option Text := none
  deriving DecidableEq, Repr

namespace AccountStore

/-- `select(User).where(func.lower(User.email) == …, User.deleted_at.is_(None))`. -/
def select (cfg : Config) (s : AccountStore) (email : Text) : List AccountRow :=
  s.users.filter fun u => u.toLoginUser.Found cfg email

/-- What the refresh of a session reads. -/
def authEnv (auth : AuthSettings) (s : AccountStore) (now : Moment) : AuthEnv where
  now := now
  users := s.users.map fun u => ⟨u.id, u.isActive, u.deletedAt⟩
  lifetime := days auth.refreshTokenExpireDays

end AccountStore

/-- `scalar_one_or_none()`. -/
def scalarOneOrNone {α : Type} : List α → AuthResult (Option α)
  | [] => .ok none
  | [a] => .ok (some a)
  | _ => .error ⟨.multipleResultsFound, "Multiple rows were found when one or none was required", []⟩

/-! ## 2. Calls -/

/-- `EmailAlreadyExistsError`. -/
def emailTaken : AuthFailure :=
  ⟨.emailAlreadyExists, "An account with this email address already exists", []⟩

/-- The row of a registration. -/
def newAccount (cfg : Config) (auth : AuthSettings) (newId : Uuid) (salt : Text)
    (data : UserRegisterRequest) : AccountRow where
  id := newId
  email := cfg.lower (strip data.email)
  role := data.role
  passwordHash := auth.hasherHash salt data.password
  isActive := true
  deletedAt := none
  failedLoginAttempts := 0
  lockedUntil := none
  lastLoginAt := none
  emailVerified := false
  fullName := data.fullName
  department := data.department
  designation := data.designation
  phone := data.phone

/-- The constraints of `users`: the key and the e-mail are unique among all rows, deleted or not. -/
def AccountRow.Clashes (row : AccountRow) (users : List AccountRow) : Prop :=
  (∃ u ∈ users, u.id = row.id ∨ u.email = row.email) ∨ row.email = [] ∨ row.fullName = []

instance (row : AccountRow) (users : List AccountRow) : Decidable (row.Clashes users) :=
  inferInstanceAs (Decidable ((∃ u ∈ users, _) ∨ _ ∨ _))

/-- `register_user`. -/
def registerUser (cfg : Config) (auth : AuthSettings) (newId : Uuid) (salt : Text)
    (data : UserRegisterRequest) (s : AccountStore) : AuthResult (AccountRow × AccountStore) := do
  let existing ← scalarOneOrNone (s.select cfg data.email)
  refuse (existing ≠ none) emailTaken
  refuse (data.password = []) ⟨.valueError, "Password cannot be empty", []⟩
  let row := newAccount cfg auth newId salt data
  refuse (row.Clashes s.users) emailTaken
  return (row, { s with users := s.users ++ [row] })

/-- `authenticate_user`, on the account the e-mail finds. -/
def loginUser (cfg : Config) (auth : AuthSettings) (s : AccountStore) (c : LoginCall) :
    AuthOutcome Session :=
  match scalarOneOrNone (s.select cfg c.email) with
  | .error e => ⟨.error e, s⟩
  | .ok none => ⟨.error ⟨.raised .invalidCredentials, "Invalid email or password", []⟩, s⟩
  | .ok (some row) =>
      let outcome := authenticateUser cfg auth ⟨row.toLoginUser, s.tokens⟩ c
      ⟨outcome.answer.mapError Failure.ofService,
        { users := s.users.map (AccountRow.withLogin outcome.state.user)
          tokens := outcome.state.tokens }⟩

/-- A call of `rotate_refresh_token`, with what it draws. -/
structure RotateCall where
  raw : Text
  now : Moment
  issuedAt : Moment
  jti : Uuid
  newId : Uuid
  newRaw : Text
  deriving DecidableEq, Repr

/-- `create_access_token` for the refresh of a session. -/
def refreshedAccessToken (auth : AuthSettings) (user : LoginUser) (c : RotateCall) : Text :=
  auth.jwtEncode
    { sub := user.id.str
      role := user.role.value
      email := user.email
      tokenType := "access"
      jti := c.jti.str
      iat := Moment.instant c.issuedAt
      exp := Moment.instant (c.issuedAt + minutes auth.accessTokenExpireMinutes) }

/-- `await db.get(User, record.user_id)`, when the account is usable. -/
def AccountStore.usable (s : AccountStore) (id : Uuid) : Option AccountRow :=
  (s.users.find? fun u => u.id = id).filter fun u => u.isActive ∧ u.deletedAt = none

/-- `rotate_refresh_token`. The reused, the expired and the inactive token raise after a commit. -/
def rotateToken (cfg : Config) (auth : AuthSettings) (s : AccountStore) (c : RotateCall) :
    AuthOutcome Session :=
  let env := s.authEnv auth c.now
  if c.raw = [] then
    ⟨.error ⟨.raised .invalidToken, "Refresh token must be a non-empty string", []⟩, s⟩
  else match s.tokens.record (cfg.sha256 c.raw) with
    | none => ⟨.error ⟨.raised .invalidToken, "Invalid or unknown refresh token", []⟩, s⟩
    | some record =>
        if record.revokedAt ≠ none then
          let tokens := s.tokens.revoke (s.tokens.active record.userId) env.now
          ⟨.error ⟨.raised .invalidToken,
              "Refresh token has already been revoked. Potential token reuse detected. " ++
                "All sessions have been invalidated for security.", []⟩,
            { s with tokens := { tokens with detections := tokens.detections ++ [cfg.sha256 c.raw] } }⟩
        else if record.expiresAt ≤ env.now then
          ⟨.error ⟨.tokenExpired, "Refresh token has expired. Please log in again.", []⟩,
            { s with tokens := s.tokens.revoke [record.id] env.now }⟩
        else match s.usable record.userId with
          | none =>
              ⟨.error ⟨.raised .accountInactive, "User account is inactive or not found", []⟩,
                { s with tokens := s.tokens.revoke [record.id] env.now }⟩
          | some user =>
              match AuthService.writeRotation env (cfg.sha256 c.raw) record user.id c.newId
                (cfg.sha256 c.newRaw) s.tokens with
              -- the commit failed, and the session rolls back
              | .error e => ⟨.error e.ofService, s⟩
              | .ok tokens =>
                  ⟨.ok
                    { user := user.toLoginUser
                      accessToken := refreshedAccessToken auth user.toLoginUser c
                      rawRefreshToken := c.newRaw
                      expiresIn := auth.accessTokenExpireMinutes * 60 },
                    { s with tokens := tokens }⟩

/-- `revoke_refresh_token`: whether there was something to revoke. -/
def revokeToken (cfg : Config) (s : AccountStore) (raw : Text) (now : Moment) : Bool × AccountStore :=
  if raw = [] then (false, s)
  else match s.tokens.record (cfg.sha256 raw) with
    | none => (false, s)
    | some record =>
        if record.revokedAt ≠ none then (false, s)
        else (true, { s with tokens := s.tokens.revoke [record.id] now })

/-- `revoke_all_user_tokens`: how many there were. -/
def revokeAllTokens (s : AccountStore) (userId : Uuid) (now : Moment) : Nat × AccountStore :=
  ((s.tokens.active userId).length,
    { s with tokens := s.tokens.revoke (s.tokens.active userId) now })

/-! ## 3. The guard -/

/-- The value of a lower- or upper-case hexadecimal digit. -/
def hexValue (c : Char) : Option Nat :=
  if '0' ≤ c ∧ c ≤ '9' then some (c.toNat - 48)
  else if 'a' ≤ c ∧ c ≤ 'f' then some (c.toNat - 87)
  else if 'A' ≤ c ∧ c ≤ 'F' then some (c.toNat - 55)
  else none

/-- The number that hexadecimal digits write, after the ones read so far. -/
def hexNumber : Nat → Text → Option Nat
  | acc, [] => some acc
  | acc, c :: t => (hexValue c).bind fun n => hexNumber (acc * 16 + n) t

/-- `uuid.UUID(text)`: 32 digits with hyphens anywhere. The spellings that `str` never writes (in
    braces, after `urn:uuid:`, with what else `int` skips) are refused here. -/
def Uuid.parse (t : Text) : Option Uuid :=
  let digits := t.filter fun c => c ≠ '-'
  if digits.length = 32 then (hexNumber 0 digits).map fun n => ⟨BitVec.ofNat 128 n⟩ else none

/-- What `jwt.decode` returns of the payload: the claims the guard reads. -/
structure JwtPayload where
  sub : Option Text
  tokenType : Option String
  deriving DecidableEq, Repr

/-- How `jwt.decode` ends. -/
inductive JwtAnswer where
  | payload (p : JwtPayload)
  | expired (error : Text)
  | invalid (error : Text)
  deriving DecidableEq, Repr

/-- `jwt.decode` under the key and the algorithm of the settings, at the second of the clock. -/
abbrev JwtDecode := Text → Instant → JwtAnswer

/-- `decode_access_token`. -/
def decodeAccessToken (jwtDecode : JwtDecode) (token : Text) (now : Moment) :
    AuthResult JwtPayload := do
  refuse (token = [])
    ⟨.raised .invalidToken, "Invalid token: token must be a non-empty string", []⟩
  let payload ← match jwtDecode token (Moment.instant now) with
    | .payload p => .ok p
    | .expired error => .error ⟨.tokenExpired, "Access token has expired", [.text error]⟩
    | .invalid error => .error ⟨.raised .invalidToken, "Invalid token or signature", [.text error]⟩
  refuse (payload.tokenType ≠ some "access")
    ⟨.raised .invalidToken, "Invalid token type: expected 'access', got '%s'",
      [payload.tokenType.elim .null .name]⟩
  refuse (payload.sub = none ∨ payload.sub = some [])
    ⟨.raised .invalidToken, "Token missing subject (sub) claim", []⟩
  return payload

/-- `get_current_user`. -/
def getCurrentUser (jwtDecode : JwtDecode) (s : AccountStore) (credentials : Option Text)
    (now : Moment) : AuthResult AccountRow := do
  let token ← fetch (credentials.filter fun t => t ≠ [])
    ⟨.unauthorized, "Authentication credentials were not provided", []⟩
  let payload ← decodeAccessToken jwtDecode token now
  let sub ← fetch payload.sub ⟨.raised .invalidToken, "Token missing subject claim", []⟩
  let userId ← fetch (Uuid.parse sub) ⟨.raised .invalidToken, "Invalid user ID in token", []⟩
  let user ← fetch ((s.users.find? fun u => u.id = userId).filter fun u => u.deletedAt = none)
    ⟨.unauthorized, "User associated with this token was not found", []⟩
  refuse (user.isActive = false) ⟨.raised .accountInactive, "User account is deactivated", []⟩
  return user

/-- `RoleChecker`: the role of the row decides, whatever the token claims. -/
def requireAnyRole (allowedRoles : List UserRole) (currentUser : AccountRow) :
    AuthResult AccountRow := do
  refuse (currentUser.role ∉ allowedRoles)
    ⟨.insufficientRole, "Role '%s' is not authorized to access this resource. Required: %s",
      [.name currentUser.role.value,
        .names ((allowedRoles.map UserRole.value).mergeSort fun a b => a ≤ b)]⟩
  return currentUser

/-! ## 4. Runs -/

/-- A call of the service. -/
inductive AuthOp where
  | register (newId : Uuid) (salt : Text) (data : UserRegisterRequest)
  | login (c : LoginCall)
  | rotate (c : RotateCall)
  | revoke (raw : Text) (now : Moment)
  | revokeAll (userId : Uuid) (now : Moment)
  deriving DecidableEq, Repr

/-- The rows after a call, whether it answers or raises. -/
def AuthOp.apply (cfg : Config) (auth : AuthSettings) (op : AuthOp) (s : AccountStore) :
    AccountStore :=
  match op with
  | .register newId salt data =>
      match registerUser cfg auth newId salt data s with
      | .ok (_, s') => s'
      | .error _ => s
  | .login c => (loginUser cfg auth s c).state
  | .rotate c => (rotateToken cfg auth s c).state
  | .revoke raw now => (revokeToken cfg s raw now).2
  | .revokeAll userId now => (revokeAllTokens s userId now).2

/-- One call. -/
def Accounts.Step (cfg : Config) (auth : AuthSettings) (s : AccountStore) (op : AuthOp)
    (s' : AccountStore) : Prop :=
  op.apply cfg auth s = s'

/-- The rows after the calls. -/
def afterCalls (cfg : Config) (auth : AuthSettings) (s : AccountStore) (ops : List AuthOp) :
    AccountStore :=
  ops.foldl (fun s op => op.apply cfg auth s) s

theorem path_afterCalls (cfg : Config) (auth : AuthSettings) (s : AccountStore)
    (ops : List AuthOp) :
    Runs.Path (Accounts.Step cfg auth) s ops (afterCalls cfg auth s ops) := by
  induction ops generalizing s with
  | nil => exact .nil s
  | cons op ops ih => exact .cons rfl (ih _)

namespace Sample

/-- What `exp` is in a token: its seconds, tallied. -/
def tally (exp : Int) : Text :=
  if exp < 0 then List.replicate exp.natAbs '0' else List.replicate exp.natAbs '1'

/-- Two attempts and a lock of a quarter of an hour; a hash marks its password, and a token lists its
    expiry and its subject. -/
def accountAuth : AuthSettings where
  maxLoginAttempts := 2
  accountLockoutMinutes := 15
  accessTokenExpireMinutes := 1
  refreshTokenExpireDays := 7
  hasherVerify hashed plain := decide (hashed = '$' :: plain)
  checkNeedsRehash _ := false
  hasherHash _ plain := '$' :: plain
  jwtEncode claims := tally claims.exp ++ '.' :: claims.sub

/-- A registration of the address. -/
def signUp (email : Text) : UserRegisterRequest where
  email := email
  password := "secret".toList
  fullName := "name".toList
  role := .clubSecretary

/-- A login with the address and the password at the second; it draws the key and the token `n`. -/
def signIn (email password : Text) (n : Nat) (second : Int) : LoginCall where
  email := email
  password := password
  now := second * 1000000
  issuedAt := second * 1000000
  salt := []
  jti := uid (200 + n)
  newId := uid (100 + n)
  rawRefreshToken := List.replicate n 't'

/-- The refresh of the token `n` by the token `m`. -/
def refresh (n m : Nat) (second : Int) : RotateCall where
  raw := List.replicate n 't'
  now := second * 1000000
  issuedAt := second * 1000000
  jti := uid (200 + m)
  newId := uid (100 + m)
  newRaw := List.replicate m 't'

/-- No account. -/
def noAccounts : AccountStore := ⟨[], ⟨[], [], []⟩⟩

/-- The address, registered under the key. -/
def signed (n : Nat) (email : Text) : AuthOp := .register (uid n) [] (signUp email)

/-- One account, with the address `m`. -/
def oneAccount : AccountStore :=
  afterCalls (config .sqlite) accountAuth noAccounts [signed 1 ['m']]

end Sample

end CampusConnect
