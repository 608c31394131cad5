/-
  File:      CampusConnect/Base/FirstFree.lean
  Subject:   The search for the first free member of a sequence, and why it ends.

  * `search taken f fuel n`: from `n` on, the first `f k` that is not taken, within `fuel` tries;
  * `search_spec`: what it finds is free, and all before it are taken;
  * `search_isSome`: an injective sequence outruns every finite table, so that one try more than the
    table has rows is enough (the PIGEONHOLE argument);
  * `search_mono`: more tries find the same.
-/
import Mathlib.Data.List.Nodup
import Mathlib.Data.List.Perm.Subperm

namespace FirstFree

universe u

variable {α : Type u}

/-- The first member from the `n`th on that is not taken, within `fuel` tries. -/
def search (taken : α → Bool) (f : Nat → α) : Nat → Nat → Option α
  | 0, _ => none
  | fuel + 1, n => if taken (f n) then search taken f fuel (n + 1) else some (f n)

variable {taken : α → Bool} {f : Nat → α} {fuel n : Nat} {a : α}

theorem search_spec (h : search taken f fuel n = some a) :
    ∃ k, n ≤ k ∧ a = f k ∧ taken (f k) = false ∧ ∀ j, n ≤ j → j < k → taken (f j) = true := by
  induction fuel generalizing n with
  | zero => cases h
  | succ fuel ih =>
      unfold search at h
      by_cases ht : taken (f n) = true
      · rw [if_pos ht] at h
        obtain ⟨k, hk, ha, hfree, hbefore⟩ := ih h
        refine ⟨k, by omega, ha, hfree, fun j hj hjk => ?_⟩
        by_cases hjn : j = n
        · rw [hjn]
          exact ht
        · exact hbefore j (by omega) hjk
      · rw [if_neg ht] at h
        have hfree : taken (f n) = false := by simpa using ht
        refine ⟨n, Nat.le_refl n, (Option.some.inj h).symm, hfree, fun j hj hjn => ?_⟩
        omega

theorem search_mono {more : Nat} (h : search taken f fuel n = some a) (hle : fuel ≤ more) :
    search taken f more n = some a := by
  induction fuel generalizing n more with
  | zero => cases h
  | succ fuel ih =>
      obtain ⟨m, rfl⟩ : ∃ m, more = m + 1 := ⟨more - 1, by omega⟩
      unfold search at h ⊢
      by_cases ht : taken (f n) = true
      · rw [if_pos ht] at h ⊢
        exact ih h (by omega)
      · rw [if_neg ht] at h ⊢
        exact h

/-- A search that finds nothing met taken members only. -/
theorem taken_of_search_none (h : search taken f fuel n = none) :
    ∀ k, n ≤ k → k < n + fuel → taken (f k) = true := by
  induction fuel generalizing n with
  | zero =>
      intro k hk hlt
      omega
  | succ fuel ih =>
      unfold search at h
      by_cases ht : taken (f n) = true
      · rw [if_pos ht] at h
        intro k hk hlt
        by_cases hkn : k = n
        · rw [hkn]
          exact ht
        · exact ih h k (by omega) (by omega)
      · rw [if_neg ht] at h
        cases h

/-- **The search ends**: of an injective sequence a table of `l.length` rows takes at most so many. -/
theorem search_isSome (hinj : ∀ i j, n ≤ i → n ≤ j → f i = f j → i = j) (l : List α)
    (htaken : ∀ a, taken a = true → a ∈ l) (hfuel : l.length < fuel) :
    (search taken f fuel n).isSome := by
  by_contra hnone
  rw [Bool.not_eq_true, Option.isSome_eq_false_iff, Option.isNone_iff_eq_none] at hnone
  have hall := taken_of_search_none hnone
  have hnodup : ((List.range' n fuel).map f).Nodup := by
    refine List.Nodup.map_on (fun i hi j hj hij => ?_) List.nodup_range'
    exact hinj i j (List.mem_range'_1.mp hi).1 (List.mem_range'_1.mp hj).1 hij
  have hsubset : (List.range' n fuel).map f ⊆ l := by
    intro a ha
    obtain ⟨k, hk, rfl⟩ := List.mem_map.mp ha
    obtain ⟨hlow, hhigh⟩ := List.mem_range'_1.mp hk
    exact htaken (f k) (hall k hlow hhigh)
  have hlength := (List.subperm_of_subset hnodup hsubset).length_le
  rw [List.length_map, List.length_range'] at hlength
  omega

end FirstFree
