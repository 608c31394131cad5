/-
  File:      CampusConnect/Services/RateLimiter.lean
  Subject:   `core/rate_limiter.py`: the in-memory sliding-window limiter of the login endpoint.

  * `InMemoryRateLimiter`, `checkRateLimit`: the records per key, and the check;
  * `RateCheck`, `ServedCheck`, `Step`, `serve`: the calls of a run, each with the answer it got.

  `time.time()` is a float and is read here as an element of an ordered ring with a floor: the reals
  for the statements, the rationals for what is computed. The lock makes each call one step.
-/
import CampusConnect.Base.Runs
import CampusConnect.Base.SlidingWindow
import CampusConnect.Model.Failures
import Mathlib.Algebra.Order.Floor.Ring
import Mathlib.Data.Int.Cast.Basic

namespace CampusConnect

universe u

/-! ## 1. The limiter -/

/-- `self._records`. A key that the `defaultdict` lacks reads as the empty list. -/
structure InMemoryRateLimiter (K : Type u) where
  records : Text → List K

section Limiter

variable {K : Type u} [Ring K] [LinearOrder K] [FloorRing K]

/-- `int(x)`: towards zero. -/
def truncate (x : K) : Int := if 0 ≤ x then ⌊x⌋ else ⌈x⌉

namespace InMemoryRateLimiter

/-- `InMemoryRateLimiter()`. -/
def init : InMemoryRateLimiter K := ⟨fun _ => []⟩

/-- `self._records[key] = timestamps`. -/
def put (s : InMemoryRateLimiter K) (key : Text) (timestamps : List K) : InMemoryRateLimiter K :=
  ⟨fun k => if k = key then timestamps else s.records k⟩

/-- `check_rate_limit`, with what it leaves in the records. -/
def checkRateLimit (s : InMemoryRateLimiter K) (key : Text) (maxRequests windowSeconds : Int)
    (now : K) : Result (Bool × Int) × InMemoryRateLimiter K :=
  let windowStart := now - windowSeconds
  let timestamps := (s.records key).filter fun t => decide (windowStart < t)
  if maxRequests ≤ timestamps.length then
    match timestamps with
    -- `timestamps[0]` of an empty list, under a limit that is not positive
    | [] => (.error ⟨.indexError, "list index out of range", []⟩, s.put key timestamps)
    | oldest :: _ =>
        let retryAfter := max 1 (truncate (oldest + windowSeconds - now))
        (.ok (false, retryAfter), s.put key timestamps)
  else
    (.ok (true, 0), s.put key (timestamps ++ [now]))

end InMemoryRateLimiter

end Limiter

/-! ## 2. Calls and runs -/

/-- A call of `check_rate_limit`, with the time it reads. -/
structure RateCheck (K : Type u) where
  key : Text
  maxRequests : Int
  windowSeconds : Int
  now : K
  deriving DecidableEq, Repr

/-- A call and what it returned. -/
structure ServedCheck (K : Type u) extends RateCheck K where
  answer : Result (Bool × Int)

/-- `is_allowed`. -/
def ServedCheck.allowed {K : Type u} (a : ServedCheck K) : Bool :=
  match a.answer with
  | .ok (isAllowed, _) => isAllowed
  | .error _ => false

/-- The times of the calls on the key that were allowed. -/
def allowedTimes {K : Type u} (key : Text) (served : List (ServedCheck K)) : List K :=
  (served.filter fun a => a.key = key ∧ a.allowed = true).map fun a => a.now

/-- The calls come at nondecreasing times. -/
def Timely {K : Type u} [LinearOrder K] (served : List (ServedCheck K)) : Prop :=
  served.Pairwise fun a b => a.now ≤ b.now

/-- The calls on the key use the limit `m` and the window `W`. -/
def Uses {K : Type u} (key : Text) (m W : Int) (served : List (ServedCheck K)) : Prop :=
  ∀ a ∈ served, a.key = key → a.maxRequests = m ∧ a.windowSeconds = W

/-! ## 3. What a call does -/

section Records

variable {K : Type u} {s : InMemoryRateLimiter K} {key : Text} {timestamps : List K}

@[simp] theorem InMemoryRateLimiter.records_put :
    (s.put key timestamps).records key = timestamps := by
  simp [InMemoryRateLimiter.put]

theorem InMemoryRateLimiter.records_put_of_ne {key' : Text} (h : key' ≠ key) :
    (s.put key timestamps).records key' = s.records key' := by
  simp [InMemoryRateLimiter.put, h]

variable [Ring K] [LinearOrder K] {m W : Int} {now : K}

/-- Without room under a positive limit some time is kept. -/
theorem InMemoryRateLimiter.exists_oldest (hm : 1 ≤ m)
    (hfull : ¬ ((SlidingWindow.prune (W : K) now (s.records key)).length : Int) < m) :
    ∃ oldest rest, SlidingWindow.prune (W : K) now (s.records key) = oldest :: rest ∧
      m ≤ ((oldest :: rest).length : Int) := by
  cases hkept : SlidingWindow.prune (W : K) now (s.records key) with
  | nil =>
      rw [hkept, List.length_nil] at hfull
      omega
  | cons oldest rest =>
      rw [hkept] at hfull
      exact ⟨oldest, rest, rfl, not_lt.mp hfull⟩

end Records

section Steps

variable {K : Type u} [Ring K] [LinearOrder K] [FloorRing K]

/-- One call. -/
def InMemoryRateLimiter.Step (s : InMemoryRateLimiter K) (a : ServedCheck K)
    (s' : InMemoryRateLimiter K) : Prop :=
  s.checkRateLimit a.key a.maxRequests a.windowSeconds a.now = (a.answer, s')

/-- The calls, one after another. -/
def InMemoryRateLimiter.serve (s : InMemoryRateLimiter K) :
    List (RateCheck K) → List (ServedCheck K) × InMemoryRateLimiter K
  | [] => ([], s)
  | c :: calls =>
      let (answer, s) := s.checkRateLimit c.key c.maxRequests c.windowSeconds c.now
      let (served, s) := s.serve calls
      (⟨c, answer⟩ :: served, s)

theorem InMemoryRateLimiter.path_of_serve (s : InMemoryRateLimiter K) (calls : List (RateCheck K)) :
    Runs.Path Step s (s.serve calls).1 (s.serve calls).2 := by
  induction calls generalizing s with
  | nil => exact .nil s
  | cons c calls ih => exact .cons rfl (ih _)

namespace InMemoryRateLimiter

variable {s : InMemoryRateLimiter K} {key : Text} {m W : Int} {now : K}

/-- **Records of other keys stay.** -/
theorem checkRateLimit_of_ne {key' : Text} (h : key' ≠ key) :
    (s.checkRateLimit key m W now).2.records key' = s.records key' := by
  unfold checkRateLimit
  simp only
  split
  · split
    · exact records_put_of_ne h
    · exact records_put_of_ne h
  · exact records_put_of_ne h

/-- The answer and the record of the key depend on the record of the key alone. -/
theorem checkRateLimit_congr {u : InMemoryRateLimiter K} (m W : Int) (now : K)
    (h : s.records key = u.records key) :
    (s.checkRateLimit key m W now).1 = (u.checkRateLimit key m W now).1 ∧
      (s.checkRateLimit key m W now).2.records key =
        (u.checkRateLimit key m W now).2.records key := by
  unfold checkRateLimit
  simp only [h]
  split
  · split
    · simp
    · simp
  · simp

/-- A call with room under the limit. -/
theorem checkRateLimit_of_lt
    (h : ((SlidingWindow.prune (W : K) now (s.records key)).length : Int) < m) :
    s.checkRateLimit key m W now =
      (.ok (true, 0), s.put key (SlidingWindow.prune (W : K) now (s.records key) ++ [now])) := by
  unfold checkRateLimit
  exact if_neg (not_le.mpr h)

/-- A call under a positive limit without room. -/
theorem checkRateLimit_of_le {oldest : K} {rest : List K}
    (hkept : SlidingWindow.prune (W : K) now (s.records key) = oldest :: rest)
    (h : m ≤ ((oldest :: rest).length : Int)) :
    s.checkRateLimit key m W now =
      (.ok (false, max 1 (truncate (oldest + W - now))), s.put key (oldest :: rest)) := by
  unfold checkRateLimit
  simp only [SlidingWindow.prune] at hkept
  simp only [hkept]
  exact if_pos h

/-- A call under a positive limit is allowed exactly when there is room. -/
theorem checkRateLimit_allows_iff (hm : 1 ≤ m) :
    (s.checkRateLimit key m W now).1 = .ok (true, 0) ↔
      ((SlidingWindow.prune (W : K) now (s.records key)).length : Int) < m := by
  by_cases hroom : ((SlidingWindow.prune (W : K) now (s.records key)).length : Int) < m
  · rw [checkRateLimit_of_lt hroom]
    exact iff_of_true rfl hroom
  · obtain ⟨oldest, rest, hkept, hfull⟩ := exists_oldest hm hroom
    refine iff_of_false (fun h => ?_) hroom
    rw [checkRateLimit_of_le hkept hfull] at h
    cases h

/-- **What a call under a positive limit does**: it is allowed and recorded, or denied with the wait
    computed from the oldest time kept. -/
theorem Step.cases {a : ServedCheck K} {s' : InMemoryRateLimiter K} (h : Step s a s')
    (hm : 1 ≤ a.maxRequests) :
    (((SlidingWindow.prune (a.windowSeconds : K) a.now (s.records a.key)).length : Int)
        < a.maxRequests ∧ a.answer = .ok (true, 0) ∧
      s' = s.put a.key (SlidingWindow.prune (a.windowSeconds : K) a.now (s.records a.key) ++
        [a.now])) ∨
    (∃ oldest rest,
      SlidingWindow.prune (a.windowSeconds : K) a.now (s.records a.key) = oldest :: rest ∧
      a.maxRequests ≤ ((oldest :: rest).length : Int) ∧
      a.answer = .ok (false, max 1 (truncate (oldest + a.windowSeconds - a.now))) ∧
      s' = s.put a.key (oldest :: rest)) := by
  unfold Step at h
  by_cases hroom : ((SlidingWindow.prune (a.windowSeconds : K) a.now (s.records a.key)).length : Int)
      < a.maxRequests
  · rw [checkRateLimit_of_lt hroom] at h
    obtain ⟨hanswer, hstate⟩ := Prod.mk.inj h
    exact .inl ⟨hroom, hanswer.symm, hstate.symm⟩
  · obtain ⟨oldest, rest, hkept, hfull⟩ := exists_oldest hm hroom
    rw [checkRateLimit_of_le hkept hfull] at h
    obtain ⟨hanswer, hstate⟩ := Prod.mk.inj h
    exact .inr ⟨oldest, rest, hkept, hfull, hanswer.symm, hstate.symm⟩

end InMemoryRateLimiter

end Steps

end CampusConnect
