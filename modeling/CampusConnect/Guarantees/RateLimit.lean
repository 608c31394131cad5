/-
  File:      CampusConnect/Guarantees/RateLimit.lean
  Subject:   What the limiter promises over a whole run of calls.

  * `Tracks`: the INVARIANT of a key: from the last call on, pruning the record gives what pruning
    the times of ALL allowed calls gives, and these are paced; `Tracks.step`, `Tracks.run`;
  * `path_alone`: the calls on one key, by themselves, get the answers they get in the run;
  * **`sliding_window_exact`**: a call is allowed exactly when fewer than `m` allowed calls on its
    key lie in `(t - W, t]`, whatever the other keys do;
  * **`retry_after_sufficient_iff`**: `int()` rounds the wait DOWN, so it is long enough exactly when
    the oldest call leaves the window within a second or after a whole number of seconds
    (`retry_after_falls_short` is a wait that is not).
-/
import CampusConnect.Services.RateLimiter
import Mathlib.Algebra.Order.Floor.Ring
import Mathlib.Data.Rat.Floor

namespace CampusConnect

open Runs SlidingWindow InMemoryRateLimiter

universe u

/-! ## 1. The times of allowed calls -/

section Times

variable {K : Type u} {key : Text} {m W : Int} {a : ServedCheck K} {served : List (ServedCheck K)}

theorem mem_allowedTimes {t : K} :
    t ∈ allowedTimes key served ↔ ∃ a ∈ served, a.key = key ∧ a.allowed = true ∧ a.now = t := by
  unfold allowedTimes
  simp only [List.mem_map, List.mem_filter, decide_eq_true_eq, and_assoc]

theorem allowedTimes_snoc :
    allowedTimes key (served ++ [a]) =
      allowedTimes key served ++ if a.key = key ∧ a.allowed = true then [a.now] else [] := by
  unfold allowedTimes
  rw [List.filter_append, List.map_append]
  by_cases h : a.key = key ∧ a.allowed = true
  · simp [h]
  · simp [h]

theorem Uses.init (h : Uses key m W (served ++ [a])) : Uses key m W served :=
  fun b hb => h b (List.mem_append_left _ hb)

theorem Uses.last (h : Uses key m W (served ++ [a])) (hk : a.key = key) :
    a.maxRequests = m ∧ a.windowSeconds = W :=
  h a (List.mem_append_right _ (List.mem_singleton.mpr rfl)) hk

variable [LinearOrder K]

theorem Timely.init (h : Timely (served ++ [a])) : Timely served :=
  (List.pairwise_append.mp h).1

theorem Timely.last (h : Timely (served ++ [a])) : ∀ b ∈ served, b.now ≤ a.now :=
  fun b hb => (List.pairwise_append.mp h).2.2 b hb a (List.mem_singleton.mpr rfl)

/-- The times of allowed calls are in order. -/
theorem Timely.sorted (h : Timely served) : (allowedTimes key served).Pairwise (· ≤ ·) := by
  unfold allowedTimes
  rw [List.pairwise_map]
  exact h.filter _

/-- What bounds the times of the calls bounds those of the allowed ones. -/
theorem allowedTimes_le {t : K} (h : ∀ a ∈ served, a.now ≤ t) :
    ∀ b ∈ allowedTimes key served, b ≤ t := by
  intro b hb
  obtain ⟨a, ha, _, _, rfl⟩ := mem_allowedTimes.mp hb
  exact h a ha

end Times

/-! ## 2. The invariant of a key -/

section Tracking

variable {K : Type u} [Ring K] [LinearOrder K] {key : Text} {m W : Int}
  {s : InMemoryRateLimiter K} {served : List (ServedCheck K)}

/-- How many allowed calls on the key lie in the window that ends at `t`. -/
def recentlyAllowed (key : Text) (W : Int) (t : K) (served : List (ServedCheck K)) : Nat :=
  (within (W : K) t (allowedTimes key served)).length

/-- After the calls, the record of the key stands for the times of all allowed calls on it, and no
    window holds more than `m` of these. -/
structure Tracks (key : Text) (m W : Int) (served : List (ServedCheck K))
    (s : InMemoryRateLimiter K) : Prop where
  kept : ∀ t, (∀ a ∈ served, a.now ≤ t) →
    prune (W : K) t (s.records key) = prune (W : K) t (allowedTimes key served)
  paced : Paced m.toNat (W : K) (allowedTimes key served)

theorem Tracks.init : Tracks key m W [] (.init : InMemoryRateLimiter K) :=
  ⟨fun _ _ => rfl, paced_nil _⟩

/-- What the limiter counts is what the policy counts. -/
theorem Tracks.length_kept (h : Tracks key m W served s) {t : K} (ht : ∀ a ∈ served, a.now ≤ t) :
    (prune (W : K) t (s.records key)).length = recentlyAllowed key W t served := by
  unfold recentlyAllowed
  rw [h.kept t ht, within_eq_prune (allowedTimes_le ht)]

/-- No window of a run holds more than `m` allowed calls. -/
theorem Tracks.recentlyAllowed_le (h : Tracks key m W served s) (hm : 1 ≤ m) (t : K) :
    (recentlyAllowed key W t served : Int) ≤ m := by
  have hle : recentlyAllowed key W t served ≤ m.toNat := h.paced t
  omega

end Tracking

section Invariant

variable {K : Type u} [Ring K] [LinearOrder K] [FloorRing K] {key : Text} {m W : Int}
  {s s' : InMemoryRateLimiter K} {a : ServedCheck K} {served : List (ServedCheck K)}

/-- The policy, one call. -/
theorem Tracks.allowed_iff (h : Tracks key m W served s) (hm : 1 ≤ m) (hs : Step s a s')
    (hk : a.key = key) (huse : a.maxRequests = m ∧ a.windowSeconds = W)
    (ht : ∀ b ∈ served, b.now ≤ a.now) :
    a.allowed = true ↔ (recentlyAllowed key W a.now served : Int) < m := by
  have hlen := h.length_kept ht
  have hlimit : 1 ≤ a.maxRequests := by omega
  rcases hs.cases hlimit with ⟨hroom, hanswer, _⟩ | ⟨oldest, rest, hkept, hfull, hanswer, _⟩
  · rw [hk, huse.1, huse.2, hlen] at hroom
    simp [ServedCheck.allowed, hanswer, hroom]
  · rw [← hkept, hk, huse.1, huse.2, hlen] at hfull
    simp [ServedCheck.allowed, hanswer, hfull]

theorem InMemoryRateLimiter.Step.keeps (hs : Step s a s') (hk : a.key ≠ key) :
    s'.records key = s.records key := by
  have hstate : (s.checkRateLimit a.key a.maxRequests a.windowSeconds a.now).2 = s' := by
    rw [hs]
  rw [← hstate]
  exact checkRateLimit_of_ne (Ne.symm hk)

variable [IsStrictOrderedRing K]

/-- One call on any key. -/
theorem Tracks.step (h : Tracks key m W served s) (hm : 1 ≤ m) (hs : Step s a s')
    (huse : Uses key m W (served ++ [a])) (ht : Timely (served ++ [a])) :
    Tracks key m W (served ++ [a]) s' := by
  have hlast := ht.last
  by_cases hk : a.key = key
  · obtain ⟨hlimit, hwindow⟩ := huse.last hk
    have hiff := h.allowed_iff hm hs hk ⟨hlimit, hwindow⟩ hlast
    have hpos : 1 ≤ a.maxRequests := by omega
    rcases hs.cases hpos with ⟨_, hanswer, hstate⟩ | ⟨oldest, rest, hkept, _, hanswer, hstate⟩
    · -- allowed: the pruned record, and now
      have hallowed : a.allowed = true := by simp [ServedCheck.allowed, hanswer]
      have htimes : allowedTimes key (served ++ [a]) = allowedTimes key served ++ [a.now] := by
        rw [allowedTimes_snoc, if_pos ⟨hk, hallowed⟩]
      refine ⟨fun t hle => ?_, ?_⟩
      · have hnow : a.now ≤ t := hle a (List.mem_append_right _ (List.mem_singleton.mpr rfl))
        have hbefore : ∀ b ∈ served, b.now ≤ t := fun b hb => hle b (List.mem_append_left _ hb)
        rw [hstate, htimes, hk, hwindow, records_put, prune_append, prune_append, prune_prune hnow,
          h.kept t hbefore]
      · rw [htimes]
        refine h.paced.append (allowedTimes_le hlast) ?_
        have hroom := hiff.mp hallowed
        unfold recentlyAllowed at hroom
        omega
    · -- denied: the pruned record
      have hdenied : ¬ a.allowed = true := by simp [ServedCheck.allowed, hanswer]
      have htimes : allowedTimes key (served ++ [a]) = allowedTimes key served := by
        rw [allowedTimes_snoc, if_neg (fun hc => hdenied hc.2), List.append_nil]
      refine ⟨fun t hle => ?_, ?_⟩
      · have hnow : a.now ≤ t := hle a (List.mem_append_right _ (List.mem_singleton.mpr rfl))
        have hbefore : ∀ b ∈ served, b.now ≤ t := fun b hb => hle b (List.mem_append_left _ hb)
        rw [hstate, htimes, hk, records_put, ← hkept, hk, hwindow, prune_prune hnow,
          h.kept t hbefore]
      · rw [htimes]
        exact h.paced
  · have htimes : allowedTimes key (served ++ [a]) = allowedTimes key served := by
      rw [allowedTimes_snoc, if_neg (fun hc => hk hc.1), List.append_nil]
    have hrecord : s'.records key = s.records key := hs.keeps hk
    refine ⟨fun t hle => ?_, ?_⟩
    · rw [hrecord, htimes]
      exact h.kept t fun b hb => hle b (List.mem_append_left _ hb)
    · rw [htimes]
      exact h.paced

/-- **The invariant along a run.** -/
theorem Tracks.run (hm : 1 ≤ m) (h : Path Step InMemoryRateLimiter.init served s)
    (huse : Uses key m W served) (ht : Timely served) : Tracks key m W served s := by
  refine Path.history
    (P := fun s served => Uses key m W served → Timely served → Tracks key m W served s)
    (fun s served a s' ih hs huse ht => ?_) h (fun _ _ => Tracks.init) huse ht
  exact (ih huse.init ht.init).step hm hs huse ht

end Invariant

/-! ## 3. Other keys -/

section Alone

variable {K : Type u} [Ring K] [LinearOrder K] [FloorRing K] {key : Text}
  {s s' u u' : InMemoryRateLimiter K} {a : ServedCheck K} {served : List (ServedCheck K)}

/-- Calls on other keys leave the record of the key. -/
theorem InMemoryRateLimiter.path_keeps (h : Path Step s served s') (hk : ∀ a ∈ served, a.key ≠ key) :
    s'.records key = s.records key := by
  induction h with
  | nil s => rfl
  | cons hs _ ih =>
      rw [ih fun b hb => hk b (List.mem_cons_of_mem _ hb)]
      exact hs.keeps (hk _ List.mem_cons_self)

/-- Where the record of the key is the same, so are the answer and the record after it. -/
theorem InMemoryRateLimiter.Step.mirror (hs : Step s a s') (hk : a.key = key)
    (hu : u.records key = s.records key) :
    ∃ u', Step u a u' ∧ u'.records key = s'.records key := by
  rw [← hk] at hu ⊢
  obtain ⟨hanswer, hrecord⟩ := checkRateLimit_congr a.maxRequests a.windowSeconds a.now hu
  have hcall : s.checkRateLimit a.key a.maxRequests a.windowSeconds a.now = (a.answer, s') := hs
  rw [hcall] at hanswer hrecord
  refine ⟨(u.checkRateLimit a.key a.maxRequests a.windowSeconds a.now).2, ?_, hrecord⟩
  unfold Step
  exact Prod.ext hanswer rfl

/-- **The calls on one key, by themselves, get the answers they get in the run.** -/
theorem InMemoryRateLimiter.path_alone (key : Text) (h : Path Step s served s')
    (hu : u.records key = s.records key) :
    ∃ u', Path Step u (served.filter fun a => a.key = key) u' ∧
      u'.records key = s'.records key := by
  induction h generalizing u with
  | nil s => exact ⟨u, .nil u, hu⟩
  | @cons s t s' a served hs _ ih =>
      by_cases hk : a.key = key
      · obtain ⟨v, hv, hrecord⟩ := hs.mirror hk hu
        obtain ⟨u', hpath, hend⟩ := ih hrecord
        refine ⟨u', ?_, hend⟩
        rw [List.filter_cons_of_pos (by simpa using hk)]
        exact .cons hv hpath
      · have hrecord : u.records key = t.records key := by rw [hu, hs.keeps hk]
        obtain ⟨u', hpath, hend⟩ := ih hrecord
        refine ⟨u', ?_, hend⟩
        rw [List.filter_cons_of_neg (by simpa using hk)]
        exact hpath

end Alone

/-! ## 4. The policy -/

section Policy

variable {K : Type u} [Ring K] [LinearOrder K] [IsStrictOrderedRing K] [FloorRing K]

/-- **The limiter is exact**: along a run, a call on the key is allowed exactly when fewer than `m`
    earlier allowed calls on the key lie in `(t - W, t]`; no such interval holds more than `m`; and
    the calls on the key get the answers they would get without the calls on other keys. -/
theorem sliding_window_exact {key : Text} {m W : Int} (hm : 1 ≤ m)
    {served : List (ServedCheck K)} {s : InMemoryRateLimiter K}
    (h : Path Step InMemoryRateLimiter.init served s) (huse : Uses key m W served)
    (ht : Timely served) :
    (∀ before a after, served = before ++ a :: after → a.key = key →
      (a.allowed = true ↔ (recentlyAllowed key W a.now before : Int) < m)) ∧
    (∀ t, (recentlyAllowed key W t served : Int) ≤ m) ∧
    ∃ u, Path Step InMemoryRateLimiter.init (served.filter fun a => a.key = key) u := by
  refine ⟨fun before a after hserved hk => ?_, (Tracks.run hm h huse ht).recentlyAllowed_le hm, ?_⟩
  · have hserved' : served = (before ++ [a]) ++ after := by
      rw [hserved, List.append_assoc, List.singleton_append]
    rw [hserved'] at h huse ht
    have huse' : Uses key m W (before ++ [a]) := fun b hb => huse b (List.mem_append_left _ hb)
    have ht' : Timely (before ++ [a]) := (List.pairwise_append.mp ht).1
    obtain ⟨v, hv, _⟩ := h.split
    obtain ⟨t, hbefore, hlast⟩ := hv.split
    cases hlast with
    | @cons _ w _ _ _ hs _ =>
        have htracks := Tracks.run hm hbefore huse'.init ht'.init
        exact htracks.allowed_iff hm hs hk (huse'.last hk) ht'.last
  · obtain ⟨u, hu, _⟩ := path_alone key h rfl
    exact ⟨u, hu⟩

end Policy

/-- Three calls under a limit of one a minute. -/
def sampleChecks : List (RateCheck ℚ) :=
  [⟨['k'], 1, 60, 0⟩, ⟨['l'], 1, 60, 5⟩, ⟨['k'], 1, 60, 10⟩]

theorem sliding_window_exact_sample :
    (recentlyAllowed ['k'] 60 40 (InMemoryRateLimiter.init.serve sampleChecks).1 : Int) ≤ 1 :=
  (sliding_window_exact (m := 1) (by decide) (path_of_serve _ sampleChecks)
    (by unfold Uses; decide +kernel) (by unfold Timely; decide +kernel)).2.1 40

/-! ## 5. The wait -/

section Wait

variable {K : Type u} [Ring K] [LinearOrder K] [IsStrictOrderedRing K] [FloorRing K]

/-- The oldest allowed call on the key in the window at `t` leaves it within a second, or after a
    whole number of seconds. -/
def LeavesOnTheSecond (key : Text) (W : Int) (t : K) (served : List (ServedCheck K)) : Prop :=
  ∃ oldest, IsLeast {b | b ∈ allowedTimes key served ∧ t - W < b} oldest ∧
    (oldest + W - t ≤ 1 ∨ ∃ n : Int, oldest + W - t = n)

/-- A wait cut down to whole seconds covers what is left of the window exactly when nothing was cut
    off, or the least wait of a second is enough. -/
theorem le_retryAfter_iff {x : K} (hx : 0 < x) :
    x ≤ ((max 1 (truncate x) : Int) : K) ↔ x ≤ 1 ∨ ∃ n : Int, x = n := by
  have htrunc : truncate x = ⌊x⌋ := if_pos hx.le
  rw [htrunc]
  constructor
  · intro h
    rcases le_total ⌊x⌋ 1 with hsmall | hlarge
    · rw [max_eq_left hsmall, Int.cast_one] at h
      exact .inl h
    · rw [max_eq_right hlarge] at h
      exact .inr ⟨⌊x⌋, le_antisymm h (Int.floor_le x)⟩
  · intro h
    rcases h with hone | ⟨n, rfl⟩
    · have hcast : ((1 : Int) : K) ≤ ((max 1 ⌊x⌋ : Int) : K) := Int.cast_le.mpr (le_max_left ..)
      rw [Int.cast_one] at hcast
      exact hone.trans hcast
    · rw [Int.floor_intCast]
      exact Int.cast_le.mpr (le_max_right ..)

/-- **When the wait is long enough**: after a denial at `t` with the wait `r` and no other call on the
    key, the call at `t + r` is allowed exactly when the oldest call kept leaves the window within a
    second or after a whole number of seconds. -/
theorem retry_after_sufficient_iff {key : Text} {m W : Int} (hm : 1 ≤ m)
    {served others : List (ServedCheck K)} {s s' u : InMemoryRateLimiter K}
    (h : Path Step InMemoryRateLimiter.init served s) (huse : Uses key m W served)
    (ht : Timely served) {t : K} (hlast : ∀ a ∈ served, a.now ≤ t) {r : Int}
    (hdenied : s.checkRateLimit key m W t = (.ok (false, r), s'))
    (hothers : Path Step s' others u) (hkeys : ∀ a ∈ others, a.key ≠ key) :
    (u.checkRateLimit key m W (t + r)).1 = .ok (true, 0) ↔ LeavesOnTheSecond key W t served := by
  have htracks := Tracks.run hm h huse ht
  have hkept := htracks.kept t hlast
  -- the denied call as a step, with what it kept
  have hstep : Step s ⟨⟨key, m, W, t⟩, .ok (false, r)⟩ s' := hdenied
  rcases hstep.cases hm with ⟨_, hanswer, _⟩ | ⟨oldest, rest, hrecord, hfull, hanswer, hstate⟩
  · cases hanswer
  have hr : r = max 1 (truncate (oldest + W - t)) := (Prod.mk.inj (Except.ok.inj hanswer)).2
  have hwindow : prune (W : K) t (allowedTimes key served) = oldest :: rest := hkept.symm.trans hrecord
  have hleast : IsLeast {b | b ∈ allowedTimes key served ∧ t - W < b} oldest :=
    isLeast_of_prune ht.sorted hwindow
  have hlength : (prune (W : K) t (allowedTimes key served)).length = m.toNat := by
    have hmost : recentlyAllowed key W t served ≤ m := htracks.recentlyAllowed_le hm t
    have hleast' : m ≤ ((oldest :: rest).length : Int) := hfull
    rw [← htracks.length_kept hlast, hkept, hwindow] at hmost
    rw [hwindow]
    omega
  have hlater : t ≤ t + r := by
    have hone : (1 : Int) ≤ r := hr ▸ le_max_left ..
    exact le_add_of_nonneg_right (Int.cast_nonneg (by omega))
  have hrecords : u.records key = oldest :: rest := by
    rw [path_keeps hothers hkeys, hstate, records_put]
  have hpruned : prune (W : K) (t + r) (u.records key) =
      prune (W : K) (t + r) (allowedTimes key served) := by
    rw [hrecords, ← hwindow, prune_prune hlater]
  have hroom : ((prune (W : K) (t + r) (u.records key)).length : Int) < m ↔ oldest ≤ t + r - W := by
    rw [← length_prune_lt_iff hlater hleast hlength, hpruned]
    omega
  have hpos : 0 < oldest + W - t := by
    have hin : t - W < oldest := hleast.1.2
    rw [sub_lt_iff_lt_add] at hin
    exact sub_pos.mpr hin
  have hwait : oldest ≤ t + r - W ↔ oldest + W - t ≤ (r : K) := by
    rw [le_sub_iff_add_le, sub_le_iff_le_add, add_comm (r : K) t]
  rw [checkRateLimit_allows_iff hm, hroom, hwait, hr, le_retryAfter_iff hpos]
  constructor
  · intro hwhen
    exact ⟨oldest, hleast, hwhen⟩
  · intro hwhen
    obtain ⟨oldest', hleast', hwhen⟩ := hwhen
    rw [hleast.unique hleast']
    exact hwhen

end Wait

/-- The wait of 50 seconds: with a call on another key meanwhile, the call after it is allowed. -/
theorem retry_after_sufficient_iff_sample :
    let s := (InMemoryRateLimiter.init.serve (sampleChecks.take 2)).2
    let s' := (s.checkRateLimit ['k'] 1 60 (10 : ℚ)).2
    let u := (s'.serve [⟨['l'], 1, 60, 20⟩]).2
    (u.checkRateLimit ['k'] 1 60 (10 + (50 : Int))).1 = .ok (true, 0) := by
  intro s s' u
  refine (retry_after_sufficient_iff (m := 1) (by decide) (path_of_serve _ (sampleChecks.take 2))
    (by unfold Uses; decide +kernel) (by unfold Timely; decide +kernel) (by decide +kernel)
    (Prod.ext (by decide +kernel) rfl) (path_of_serve s' [⟨['l'], 1, 60, 20⟩])
    (by decide +kernel)).mpr ⟨0, ?_, .inr ⟨50, by norm_num⟩⟩
  have hkept : prune ((60 : Int) : ℚ) 10 (allowedTimes ['k']
      (InMemoryRateLimiter.init.serve (sampleChecks.take 2)).1) = 0 :: [] := by
    decide +kernel
  exact isLeast_of_prune (by decide +kernel) hkept

/-- **A wait that is too short**: of a call at 0 and one at 1/2, both under a limit of one a minute,
    the second is denied with a wait of 59 seconds, and denied again when it comes back after them. -/
theorem retry_after_falls_short :
    ¬ ∀ (key : Text) (m W : Int), 1 ≤ m → 1 ≤ W →
      ∀ (served : List (ServedCheck ℚ)) (s s' : InMemoryRateLimiter ℚ) (t : ℚ) (r : Int),
        Path Step InMemoryRateLimiter.init served s → Uses key m W served → Timely served →
        (∀ a ∈ served, a.now ≤ t) → s.checkRateLimit key m W t = (.ok (false, r), s') →
        (s'.checkRateLimit key m W (t + r)).1 = .ok (true, 0) := by
  intro hclaim
  have hallowed := hclaim ['k'] 1 60 (by decide) (by decide) _ _ _ (1 / 2) 59
    (path_of_serve _ (sampleChecks.take 1)) (by unfold Uses; decide +kernel)
    (by unfold Timely; decide +kernel) (by decide +kernel) (Prod.ext (by decide +kernel) rfl)
  revert hallowed
  decide +kernel

end CampusConnect
