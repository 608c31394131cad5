/-
  File:      CampusConnect/Guarantees/Lockout.lean
  Subject:   The LOCKOUT of an account bounds the guesses at its password.

  * `locked_refuses`: while the lock lies in the future no call compares, whatever the password;
  * `Allowance I max user n`: the account has at most `n` comparisons left in the times `I`: it is
    locked for all of them, or `n` failures bring the counter to the limit. The counter is NOT reset
    when a lock expires, so that one more failure locks again;
  * `Allowance.run`: the allowance bounds the comparisons of a run without a success;
  * **`lockout_bound`**: no half-open interval as long as a lock, without a success in it, holds more
    comparisons than attempts are allowed.
-/
import CampusConnect.Services.Login
import CampusConnect.System
import Mathlib.Data.Int.ConditionallyCompleteOrder
import Mathlib.Order.ConditionallyCompleteLattice.Basic
import Mathlib.Order.Interval.Set.OrdConnected

namespace CampusConnect

open Guarded Runs

/-! ## 1. The lock -/

section Lock

variable {cfg : Config} {auth : AuthSettings} {s s' : LoginState} {a : Attempt}

/-- **No comparison under a lock**: the call is refused and nothing changes. -/
theorem locked_refuses (hs : Login.Step cfg auth s a s') (hlocked : s.user.Locked a.now) :
    ¬ a.Compared ∧ a.succeeded = false ∧ s' = s := by
  cases hs.effect with
  | refused hcompared hanswer => exact ⟨hcompared, hanswer, rfl⟩
  | failed hopen => exact absurd hlocked hopen
  | locked hopen => exact absurd hlocked hopen
  | loggedIn hopen => exact absurd hlocked hopen
  | lost hopen => exact absurd hlocked hopen

end Lock

/-! ## 2. Comparisons in an interval -/

/-- The calls come at nondecreasing times. -/
def LoginsInOrder (attempts : List Attempt) : Prop :=
  attempts.Pairwise fun a b => a.now ≤ b.now

/-- How many comparisons with the hash of the account fall into the times `I`. -/
def comparisonsIn (I : Set Moment) [DecidablePred (· ∈ I)] (attempts : List Attempt) : Nat :=
  (attempts.filter fun a => a.now ∈ I ∧ a.Compared).length

/-- No call in the times `I` logs in. -/
def NoLoginIn (I : Set Moment) (attempts : List Attempt) : Prop :=
  ∀ a ∈ attempts, a.now ∈ I → a.succeeded = false

section Counting

variable {I : Set Moment} [DecidablePred (· ∈ I)] {a : Attempt} {attempts : List Attempt}

theorem comparisonsIn_cons_le : comparisonsIn I (a :: attempts) ≤ comparisonsIn I attempts + 1 := by
  unfold comparisonsIn
  rw [List.filter_cons]
  split
  · simp
  · omega

theorem comparisonsIn_cons_of_not (h : ¬ (a.now ∈ I ∧ a.Compared)) :
    comparisonsIn I (a :: attempts) = comparisonsIn I attempts := by
  unfold comparisonsIn
  rw [List.filter_cons_of_neg (by simpa using h)]

/-- Calls outside the interval make no comparison in it. -/
theorem comparisonsIn_eq_zero (h : ∀ a ∈ attempts, a.now ∉ I) : comparisonsIn I attempts = 0 := by
  unfold comparisonsIn
  rw [List.length_eq_zero_iff, List.filter_eq_nil_iff]
  intro a ha
  simp [h a ha]

end Counting

/-! ## 3. The allowance -/

/-- The account is locked for all the times `I`, or `n` failures bring its counter to the limit. -/
def Allowance (I : Set Moment) (maxAttempts : Nat) (user : LoginUser) (n : Nat) : Prop :=
  (∃ l ∈ user.lockedUntil, ∀ t ∈ I, t < l) ∨
    (1 ≤ n ∧ maxAttempts ≤ user.failedLoginAttempts + n)

section Allowances

variable {cfg : Config} {auth : AuthSettings} {s s' : LoginState} {a : Attempt}
  {attempts : List Attempt} {I : Set Moment} {n : Nat}

/-- One call in the times `I` that does not log in. -/
theorem Allowance.step (h : Allowance I auth.maxLoginAttempts s.user n)
    (hspan : ∀ t ∈ I, ∀ u ∈ I, u < t + minutes auth.accountLockoutMinutes)
    (hs : Login.Step cfg auth s a s') (hfresh : DrawsFresh cfg s a.toLoginCall) (hin : a.now ∈ I)
    (hanswer : a.succeeded = false) :
    (¬ a.Compared ∧ Allowance I auth.maxLoginAttempts s'.user n) ∨
      ∃ k, n = k + 1 ∧ Allowance I auth.maxLoginAttempts s'.user k := by
  -- an open account is not locked for all of `I`
  have hleft : ¬ s.user.Locked a.now →
      1 ≤ n ∧ auth.maxLoginAttempts ≤ s.user.failedLoginAttempts + n := by
    intro hopen
    rcases h with ⟨l, hl, hall⟩ | hcount
    · exact absurd ⟨l, hl, hall a.now hin⟩ hopen
    · exact hcount
  cases hs.effect with
  | refused hcompared => exact .inl ⟨hcompared, h⟩
  | failed hopen _ hbelow =>
      obtain ⟨hone, hcount⟩ := hleft hopen
      refine .inr ⟨n - 1, by omega, .inr ⟨by omega, ?_⟩⟩
      have hfailed : s.user.failed.failedLoginAttempts = s.user.failedLoginAttempts + 1 := rfl
      simp only [hfailed]
      omega
  | locked hopen _ _ =>
      obtain ⟨hone, _⟩ := hleft hopen
      exact .inr ⟨n - 1, by omega, .inl ⟨_, rfl, hspan a.now hin⟩⟩
  | loggedIn _ hsucceeded =>
      rw [hsucceeded] at hanswer
      cases hanswer
  | lost _ _ hclash => exact absurd hfresh hclash

variable [DecidablePred (· ∈ I)]

/-- **The allowance bounds a run** whose calls come in `I` or after it, and do not log in in `I`. -/
theorem Allowance.run (hspan : ∀ t ∈ I, ∀ u ∈ I, u < t + minutes auth.accountLockoutMinutes)
    (h : Path (restrict (Login.Step cfg auth) fun s a => DrawsFresh cfg s a.toLoginCall)
      s attempts s')
    (horder : LoginsInOrder attempts) (hnot : NoLoginIn I attempts)
    (hafter : ∀ a ∈ attempts, a.now ∈ I ∨ ∀ t ∈ I, t < a.now)
    (hn : Allowance I auth.maxLoginAttempts s.user n) : comparisonsIn I attempts ≤ n := by
  induction h generalizing n with
  | nil s => exact Nat.zero_le n
  | @cons s t s' a attempts hs _ ih =>
      obtain ⟨hfirst, horder⟩ := List.pairwise_cons.mp horder
      have hnot' : NoLoginIn I attempts := fun b hb => hnot b (List.mem_cons_of_mem _ hb)
      have hafter' : ∀ b ∈ attempts, b.now ∈ I ∨ ∀ t ∈ I, t < b.now :=
        fun b hb => hafter b (List.mem_cons_of_mem _ hb)
      rcases hafter a List.mem_cons_self with hin | hpast
      · have hanswer : a.succeeded = false := hnot a List.mem_cons_self hin
        rcases hn.step hspan hs.1 hs.2 hin hanswer with ⟨hcompared, hkept⟩ | ⟨k, rfl, hless⟩
        · rw [comparisonsIn_cons_of_not fun hc => hcompared hc.2]
          exact ih horder hnot' hafter' hkept
        · exact comparisonsIn_cons_le.trans (Nat.succ_le_succ (ih horder hnot' hafter' hless))
      · -- from a call after `I` on, no call is in it
        have hout : ∀ b ∈ a :: attempts, b.now ∉ I := by
          intro b hb hbin
          have hle : a.now ≤ b.now := by
            rcases List.mem_cons.mp hb with rfl | hb
            · exact le_rfl
            · exact hfirst b hb
          exact absurd (hpast b.now hbin) (not_lt.mpr hle)
        rw [comparisonsIn_eq_zero hout]
        exact Nat.zero_le n

/-- **The bound** for any stretch of time shorter than a lock. -/
theorem comparisonsIn_le (hmax : 1 ≤ auth.maxLoginAttempts) (hconnected : I.OrdConnected)
    (hspan : ∀ t ∈ I, ∀ u ∈ I, u < t + minutes auth.accountLockoutMinutes)
    (h : Path (restrict (Login.Step cfg auth) fun s a => DrawsFresh cfg s a.toLoginCall)
      s attempts s')
    (horder : LoginsInOrder attempts) (hnot : NoLoginIn I attempts) :
    comparisonsIn I attempts ≤ auth.maxLoginAttempts := by
  induction h with
  | nil s => exact Nat.zero_le _
  | @cons s t s' a attempts hs h ih =>
      obtain ⟨hfirst, horder'⟩ := List.pairwise_cons.mp horder
      have hnot' : NoLoginIn I attempts := fun b hb => hnot b (List.mem_cons_of_mem _ hb)
      by_cases hin : a.now ∈ I
      · -- the first call in `I`: the whole allowance is left
        have hafter : ∀ b ∈ a :: attempts, b.now ∈ I ∨ ∀ t ∈ I, t < b.now := by
          intro b hb
          have hle : a.now ≤ b.now := by
            rcases List.mem_cons.mp hb with rfl | hb
            · exact le_rfl
            · exact hfirst b hb
          by_cases hbin : b.now ∈ I
          · exact .inl hbin
          · refine .inr fun t ht => ?_
            by_contra hge
            exact hbin (hconnected.out hin ht ⟨hle, not_lt.mp hge⟩)
        exact Allowance.run hspan (.cons hs h) horder hnot hafter (.inr ⟨hmax, by omega⟩)
      · rw [comparisonsIn_cons_of_not fun hc => hin hc.1]
        exact ih horder' hnot'

end Allowances

/-! ## 4. The guarantee -/

/-- **The lockout**: in a run of logins at nondecreasing times, no call made under a lock compares
    the password, succeeds or changes anything; and a half-open interval as long as a lock, in which
    no call logs in, holds at most as many comparisons as attempts are allowed. -/
theorem lockout_bound {cfg : Config} {auth : AuthSettings} (hmax : 1 ≤ auth.maxLoginAttempts)
    {s s' : LoginState} {attempts : List Attempt}
    (h : Path (restrict (Login.Step cfg auth) fun s a => DrawsFresh cfg s a.toLoginCall)
      s attempts s')
    (horder : LoginsInOrder attempts) :
    Every (Login.Step cfg auth) (fun _ t a u => t.user.Locked a.now →
      ¬ a.Compared ∧ a.succeeded = false ∧ u = t) s attempts ∧
    ∀ start : Moment,
      (NoLoginIn (Set.Ico start (start + minutes auth.accountLockoutMinutes)) attempts →
        comparisonsIn (Set.Ico start (start + minutes auth.accountLockoutMinutes)) attempts
          ≤ auth.maxLoginAttempts) ∧
      (NoLoginIn (Set.Ioc start (start + minutes auth.accountLockoutMinutes)) attempts →
        comparisonsIn (Set.Ioc start (start + minutes auth.accountLockoutMinutes)) attempts
          ≤ auth.maxLoginAttempts) := by
  refine ⟨?_, fun start => ⟨fun hnot => ?_, fun hnot => ?_⟩⟩
  · intro before a after t u _ _ hs hlocked
    exact locked_refuses hs hlocked
  · refine comparisonsIn_le hmax Set.ordConnected_Ico ?_ h horder hnot
    intro t ht u hu
    have hearly : start + minutes auth.accountLockoutMinutes ≤
        t + minutes auth.accountLockoutMinutes := Int.add_le_add_right ht.1 _
    exact lt_of_lt_of_le hu.2 hearly
  · refine comparisonsIn_le hmax Set.ordConnected_Ioc ?_ h horder hnot
    intro t ht u hu
    have hearly : start + minutes auth.accountLockoutMinutes <
        t + minutes auth.accountLockoutMinutes := Int.add_lt_add_right ht.1 _
    exact lt_of_le_of_lt hu.2 hearly

/-- Two attempts, and a lock of a quarter of an hour. -/
def sampleAuth : AuthSettings where
  maxLoginAttempts := 2
  accountLockoutMinutes := 15
  accessTokenExpireMinutes := 30
  refreshTokenExpireDays := 7
  hasherVerify hashed plain := decide (hashed = plain)
  checkNeedsRehash _ := false
  hasherHash _ plain := plain
  jwtEncode claims := claims.sub

def sampleAccount : LoginState where
  user := ⟨⟨1⟩, ['m'], .clubSecretary, ['r'], true, none, 0, none, none⟩
  tokens := ⟨[], [], []⟩

/-- A login with the password at the minute. -/
def sampleLogin (password : Text) (minute : Nat) : LoginCall where
  email := ['m']
  password := password
  now := minutes minute
  issuedAt := minutes minute
  salt := []
  jti := ⟨2⟩
  newId := ⟨3⟩
  rawRefreshToken := ['t']

/-- Two wrong passwords, the right one under the lock, and a wrong one when the lock is over. -/
def sampleLogins : List LoginCall :=
  [sampleLogin ['x'] 0, sampleLogin ['y'] 1, sampleLogin ['r'] 2, sampleLogin ['z'] 16]

theorem lockout_bound_sample :
    comparisonsIn (Set.Ico 0 (0 + minutes 15))
      (logins (Sample.config .sqlite) sampleAuth sampleAccount sampleLogins).1 ≤ 2 := by
  have hfresh : FreshLogins (Sample.config .sqlite) sampleAuth sampleAccount sampleLogins := by
    decide
  have h := lockout_bound (by decide) (path_of_logins hfresh) (by unfold LoginsInOrder; decide)
  exact (h.2 0).1 (by unfold NoLoginIn; decide)

example : comparisonsIn (Set.Ico 0 (0 + minutes 15))
    (logins (Sample.config .sqlite) sampleAuth sampleAccount sampleLogins).1 = 2 := by decide

end CampusConnect
