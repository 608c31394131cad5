/-
  File:      CampusConnect/Services/Tokens.lean
  Subject:   The refresh tokens of the authentication service, and what its statements do to them.

  * `Moment`: the times of authentication, which keep their microseconds;
  * `RefreshToken`, `TokenStore`: the rows, with the history of rotations and detected reuses;
  * `TokenStore.record`, `active`, `revoke`, `insert`: the select, the two updates and the insert;
  * `Gone`: a row that is there, and revoked for good.
-/
import CampusConnect.Services.Common

namespace CampusConnect

open Guarded

/-- A `datetime`, counted in microseconds. -/
abbrev Moment := Int

/-- The second a moment lies in: `int(moment.timestamp())`. -/
def Moment.instant (m : Moment) : Instant := m / 1000000

/-- `timedelta(seconds=n)`. -/
def seconds (n : Nat) : Int := n * 1000000

/-- `timedelta(minutes=n)`. -/
def minutes (n : Nat) : Int := n * 60000000

/-- `timedelta(days=n)`. -/
def days (n : Nat) : Int := n * 86400000000

/-- A row of `refresh_tokens`. -/
structure RefreshToken where
  id : Uuid
  userId : Uuid
  tokenHash : Text
  expiresAt : Moment
  revokedAt : Option Moment
  deriving DecidableEq, Repr

/-- What a rotation reads of its user. -/
structure Account where
  id : Uuid
  isActive : Bool
  deletedAt : Option Instant
  deriving DecidableEq, Repr

/-- A rotation that issued a token: the hash of the token presented, and the row of its successor. -/
structure Rotation where
  presented : Text
  issued : Uuid
  deriving DecidableEq, Repr

/-- The rows of `refresh_tokens`. The rotations and the reuses detected so far are HISTORY: no column
    holds them and no operation reads them. -/
structure TokenStore where
  tokens : List RefreshToken
  rotations : List Rotation
  detections : List Text
  deriving DecidableEq, Repr

namespace TokenStore

/-! ## 1. Statements -/

/-- `select(RefreshToken).where(RefreshToken.token_hash == token_hash)`. -/
def record (s : TokenStore) (hash : Text) : Option RefreshToken :=
  s.tokens.find? fun t => t.tokenHash = hash

/-- The rows of the user that are not revoked. -/
def active (s : TokenStore) (userId : Uuid) : List Uuid :=
  (s.tokens.filter fun t => t.userId = userId ∧ t.revokedAt = none).map RefreshToken.id

/-- A row after `UPDATE refresh_tokens SET revoked_at = now` on the rows with the keys. -/
def revoked (ids : List Uuid) (now : Moment) (t : RefreshToken) : RefreshToken :=
  if t.id ∈ ids then { t with revokedAt := some now } else t

def revoke (s : TokenStore) (ids : List Uuid) (now : Moment) : TokenStore :=
  { s with tokens := s.tokens.map (revoked ids now) }

/-- `INSERT INTO refresh_tokens`: the key and the hash are unique. -/
def insert (s : TokenStore) (t : RefreshToken) : Result TokenStore := do
  refuse (∃ u ∈ s.tokens, u.id = t.id ∨ u.tokenHash = t.tokenHash) integrityError
  return { s with tokens := s.tokens ++ [t] }

/-- The successors that rotations of the token with the hash have issued. -/
def successors (s : TokenStore) (hash : Text) : List Uuid :=
  (s.rotations.filter fun r => r.presented = hash).map Rotation.issued

/-- The row is there, and revoked. -/
def Gone (s : TokenStore) (id : Uuid) : Prop :=
  (∃ t ∈ s.tokens, t.id = id) ∧ ∀ t ∈ s.tokens, t.id = id → t.revokedAt ≠ none

/-! ## 2. What the statements leave -/

variable {s : TokenStore} {ids : List Uuid} {now : Moment} {hash : Text} {id : Uuid}

@[simp] theorem revoked_id (t : RefreshToken) : (revoked ids now t).id = t.id := by
  unfold revoked
  split <;> rfl

@[simp] theorem revoked_userId (t : RefreshToken) : (revoked ids now t).userId = t.userId := by
  unfold revoked
  split <;> rfl

@[simp] theorem revoked_tokenHash (t : RefreshToken) :
    (revoked ids now t).tokenHash = t.tokenHash := by
  unfold revoked
  split <;> rfl

/-- What is revoked stays revoked. -/
theorem revoked_of_revoked {t : RefreshToken} (h : t.revokedAt ≠ none) :
    (revoked ids now t).revokedAt ≠ none := by
  unfold revoked
  by_cases hid : t.id ∈ ids
  · rw [if_pos hid]
    exact nofun
  · rw [if_neg hid]
    exact h

theorem revoked_of_mem {t : RefreshToken} (h : t.id ∈ ids) :
    (revoked ids now t).revokedAt ≠ none := by
  unfold revoked
  rw [if_pos h]
  exact nofun

theorem mem_revoke {u : RefreshToken} :
    u ∈ (s.revoke ids now).tokens ↔ ∃ t ∈ s.tokens, revoked ids now t = u := List.mem_map

theorem record_revoke :
    (s.revoke ids now).record hash = (s.record hash).map (revoked ids now) := by
  unfold record revoke
  rw [List.find?_map]
  congr 2
  funext t
  rw [Function.comp_apply, revoked_tokenHash]

/-- A new row hides none. -/
theorem record_append {t r : RefreshToken} (h : s.record hash = some r) :
    ({ s with tokens := s.tokens ++ [t] } : TokenStore).record hash = some r := by
  unfold record at h ⊢
  rw [List.find?_append, h]
  rfl

theorem mem_active {userId : Uuid} :
    id ∈ s.active userId ↔ ∃ t ∈ s.tokens, t.userId = userId ∧ t.revokedAt = none ∧ t.id = id := by
  unfold active
  constructor
  · intro h
    obtain ⟨t, ht, hid⟩ := List.mem_map.mp h
    rw [List.mem_filter, decide_eq_true_eq] at ht
    exact ⟨t, ht.1, ht.2.1, ht.2.2, hid⟩
  · intro hex
    obtain ⟨t, ht, huser, hlive, hid⟩ := hex
    refine List.mem_map.mpr ⟨t, ?_, hid⟩
    rw [List.mem_filter, decide_eq_true_eq]
    exact ⟨ht, huser, hlive⟩

/-- A row with the key is there, and not all of them are revoked. -/
theorem live_of_not_gone (h : ¬ s.Gone id) (hrow : ∃ t ∈ s.tokens, t.id = id) :
    ∃ t ∈ s.tokens, t.id = id ∧ t.revokedAt = none := by
  by_contra hnone
  refine h ⟨hrow, fun t ht hid hlive => ?_⟩
  exact hnone ⟨t, ht, hid, hlive⟩

end TokenStore

end CampusConnect
