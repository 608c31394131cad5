/-
  File:      CampusConnect/Browsers.lean
  Subject:   The authentication endpoints (`api/v1/endpoints/auth.py`) and the browsers that call them. The
             refresh token travels in a cookie, which the browser keeps and no script reads.

  * `Cookie`, `Web`, `Web.sent`: the accounts, and the cookie of each browser;
  * `Web.login`, `Web.refresh`, `Web.logout`: the endpoints, each with its answer and what it leaves;
  * `WebOp`, `WebOp.apply`, `Web.Step`: the runs, of any number of browsers;
  * `Sitting`, `WebOp.seat`, `seatOf`: ABSTRACTLY, who is signed in at one browser, and since when his
    session is as new.
-/
import CampusConnect.Guarantees.Access
import Mathlib.Logic.Function.Basic

namespace CampusConnect

open Guarded

/-! ## 1. Cookies -/

/-- The cookie `REFRESH_COOKIE_NAME`, until its `max_age` is over. -/
structure Cookie where
  value : Text
  expires : Moment
  deriving DecidableEq, Repr

/-- The accounts, and the cookies of the browsers. -/
structure Web (β : Type) where
  accounts : AccountStore
  jar : β → Option Cookie

/-- `TokenResponse`. -/
structure TokenResponse where
  accessToken : Text
  tokenType : Text := "bearer".toList
  expiresIn : Nat
  refreshToken : Option Text := none
  deriving DecidableEq, Repr

/-- `REFRESH_TOKEN_EXPIRE_DAYS * 86400`. -/
def maxAge (auth : AuthSettings) : Nat := auth.refreshTokenExpireDays * 86400

/-- `response.set_cookie(…)`: the browser counts its age from the time of the call. -/
def setCookie (auth : AuthSettings) (now : Moment) (raw : Text) : Cookie :=
  ⟨raw, now + seconds (maxAge auth)⟩

/-- `request.cookies.get(…)`, when it is not empty: a browser sends no cookie whose time is over. -/
def Web.sent {β : Type} (w : Web β) (b : β) (now : Moment) : Option Text :=
  ((w.jar b).filter fun k => now < k.expires ∧ k.value ≠ []).map Cookie.value

/-! ## 2. The endpoints -/

/-- The refresh token stays out of the answer. -/
def Session.response (session : Session) : TokenResponse where
  accessToken := session.accessToken
  expiresIn := session.expiresIn

namespace Web

variable {β : Type} [DecidableEq β] (cfg : Config) (auth : AuthSettings)

/-- The cookie of one browser. -/
def keep (w : Web β) (b : β) (cookie : Option Cookie) : Web β :=
  { w with jar := Function.update w.jar b cookie }

/-- `login`. -/
def login (b : β) (c : LoginCall) (w : Web β) : AuthResult TokenResponse × Web β :=
  let outcome := loginUser cfg auth w.accounts c
  let w := { w with accounts := outcome.state }
  match outcome.answer with
  | .error e => (.error e, w)
  | .ok session => (.ok session.response, w.keep b (some (setCookie auth c.now session.rawRefreshToken)))

/-- `refresh_token`, with the token of the cookie. -/
def refresh (b : β) (c : RotateCall) (w : Web β) : AuthResult TokenResponse × Web β :=
  match w.sent b c.now with
  | none => (.error ⟨.unauthorized, "Refresh token cookie is missing", []⟩, w)
  | some raw =>
      let outcome := rotateToken cfg auth w.accounts { c with raw := raw }
      let w := { w with accounts := outcome.state }
      match outcome.answer with
      | .error e => (.error e, w)
      | .ok session =>
          (.ok session.response, w.keep b (some (setCookie auth c.now session.rawRefreshToken)))

/-- `logout`: the cookie goes, whether there was something to revoke or not. -/
def logout (b : β) (now : Moment) (w : Web β) : Web β :=
  match w.sent b now with
  | none => w.keep b none
  | some raw => { w with accounts := (revokeToken cfg w.accounts raw now).2 }.keep b none

end Web

/-! ## 3. Runs -/

/-- What a browser asks. The raw token of a refresh is the cookie's. -/
inductive WebOp (β : Type) where
  | register (newId : Uuid) (salt : Text) (data : UserRegisterRequest)
  | login (b : β) (c : LoginCall)
  | refresh (b : β) (c : RotateCall)
  | logout (b : β) (now : Moment)

section Runs

variable {β : Type} [DecidableEq β] (cfg : Config) (auth : AuthSettings)

/-- The web after a request. -/
def WebOp.apply (op : WebOp β) (w : Web β) : Web β :=
  match op with
  | .register newId salt data =>
      { w with accounts := (AuthOp.register newId salt data).apply cfg auth w.accounts }
  | .login b c => (w.login cfg auth b c).2
  | .refresh b c => (w.refresh cfg auth b c).2
  | .logout b now => w.logout cfg b now

/-- One request. -/
def Web.Step (w : Web β) (op : WebOp β) (w' : Web β) : Prop := op.apply cfg auth w = w'

/-- The web after the requests. -/
def Web.after (w : Web β) (ops : List (WebOp β)) : Web β :=
  ops.foldl (fun w op => op.apply cfg auth w) w

/-- What a login and a refresh draw is new. -/
def Web.Draws (w : Web β) : WebOp β → Prop
  | .login _ c => c.rawRefreshToken ≠ [] ∧ ∀ t ∈ w.accounts.tokens.tokens,
      t.id ≠ c.newId ∧ t.tokenHash ≠ cfg.sha256 c.rawRefreshToken
  | .refresh _ c => c.newRaw ≠ [] ∧ ∀ t ∈ w.accounts.tokens.tokens,
      t.id ≠ c.newId ∧ t.tokenHash ≠ cfg.sha256 c.newRaw
  | _ => True

instance (w : Web β) : (op : WebOp β) → Decidable (w.Draws cfg op)
  | .login _ _ => inferInstanceAs (Decidable (_ ∧ ∀ t ∈ _, _))
  | .refresh _ _ => inferInstanceAs (Decidable (_ ∧ ∀ t ∈ _, _))
  | .logout _ _ => isTrue trivial
  | .register _ _ _ => isTrue trivial

/-- **The states a run starts from**: accounts that are told apart, no session and no cookie. -/
structure Web.Opening (w : Web β) : Prop where
  accounts : w.accounts.Sound cfg
  tokens : w.accounts.tokens = ⟨[], [], []⟩
  jar : ∀ b, w.jar b = none

/-! ## 4. The session of one browser -/

/-- Somebody at a browser, and when his session was opened or renewed. -/
structure Sitting where
  user : Uuid
  renewed : Moment
  deriving DecidableEq, Repr

/-- He can renew it. -/
def Sitting.Lasts (s : Sitting) (now : Moment) : Prop :=
  now < s.renewed + days auth.refreshTokenExpireDays

instance (s : Sitting) (now : Moment) : Decidable (s.Lasts auth now) :=
  inferInstanceAs (Decidable (_ < _))

/-- **The session of a browser, by itself**: an accepted login opens it, a refresh in time renews it, a
    logout ends it; what the other browsers ask does not count. -/
def WebOp.seat (w : Web β) (b : β) (op : WebOp β) (seat : Option Sitting) : Option Sitting :=
  match op with
  | .login b' c =>
      if b' = b then
        match (loginUser cfg auth w.accounts c).answer with
        | .ok session => some ⟨session.user.id, c.now⟩
        | .error _ => seat
      else seat
  | .refresh b' c =>
      if b' = b then
        seat.map fun s => if s.Lasts auth c.now then { s with renewed := c.now } else s
      else seat
  | .logout b' _ => if b' = b then none else seat
  | .register _ _ _ => seat

/-- Who sits at the browser after the requests. -/
def seatOf (b : β) : Web β → List (WebOp β) → Option Sitting → Option Sitting
  | _, [], seat => seat
  | w, op :: ops, seat => seatOf b (op.apply cfg auth w) ops (op.seat cfg auth w b seat)

end Runs

end CampusConnect
