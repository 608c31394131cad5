/-
  File:      CampusConnect/Model/Values.lean
  Subject:   The primitive values the services compute with: text, identifiers, money, time.

  * `Text`, `strip`, `isBlank`, `upper`: Python strings as far as the services look at them;
  * `Uuid` with its two spellings: `Uuid.str` (`str(u)`, 36 characters with hyphens) and
    `Uuid.hex` (`u.hex`, 32 hexadecimal digits), `Uuid.str_injective` and `Uuid.hex_ne_str`;
  * amounts of `Numeric(12, 2)` columns are `Int`, counted in hundredths; `Instant` and `Date`
    count seconds and days.
-/
import Mathlib.Data.BitVec
import Mathlib.Data.List.DropRight
import Mathlib.Data.List.TakeWhile

namespace CampusConnect

/-! ## 1. Text -/

/-- A Python `str`. -/
abbrev Text := List Char

/-- Membership of a text is decided by its characters. -/
instance : LawfulBEq Text := inferInstanceAs (LawfulBEq (List Char))

/-- `str.isspace` on one character. -/
def isSpace (c : Char) : Bool :=
  let n := c.toNat
  (9 ≤ n ∧ n ≤ 13) || (28 ≤ n ∧ n ≤ 32) || n = 0x85 || n = 0xA0 || n = 0x1680 ||
    (0x2000 ≤ n ∧ n ≤ 0x200A) || n = 0x2028 || n = 0x2029 || n = 0x202F || n = 0x205F ||
    n = 0x3000

/-- `str.strip()`. -/
def strip (t : Text) : Text :=
  ((t.dropWhile isSpace).reverse.dropWhile isSpace).reverse

/-- `not t or not t.strip()`. -/
def isBlank (t : Text) : Prop := strip t = []

instance (t : Text) : Decidable (isBlank t) := inferInstanceAs (Decidable (strip t = []))

/-- `t.strip() if t else None`. -/
def stripped : Option Text → Option Text
  | none => none
  | some t => if t = [] then none else some (strip t)

/-- `str.upper()` on the ASCII letters; no other character has an upper case made of the letters
    of `APPROVE` and `QUERY`, which is all it is compared with. -/
def upper (t : Text) : Text :=
  t.map fun c => if 'a' ≤ c ∧ c ≤ 'z' then Char.ofNat (c.toNat - 32) else c

/-- Stripping takes only white space away. -/
theorem mem_strip {t : Text} {c : Char} (hc : c ∈ t) (hs : ¬ isSpace c) : c ∈ strip t := by
  have hd : c ∈ t.dropWhile isSpace := by
    rw [← List.takeWhile_append_dropWhile (p := isSpace) (l := t)] at hc
    exact (List.mem_append.mp hc).resolve_left fun h => hs (List.mem_takeWhile_imp h)
  have hr : c ∈ (t.dropWhile isSpace).reverse := List.mem_reverse.mpr hd
  rw [← List.takeWhile_append_dropWhile (p := isSpace)
    (l := (t.dropWhile isSpace).reverse)] at hr
  exact List.mem_reverse.mpr
    ((List.mem_append.mp hr).resolve_left fun h => hs (List.mem_takeWhile_imp h))

theorem isBlank_iff {t : Text} : isBlank t ↔ ∀ c ∈ t, isSpace c := by
  constructor
  · intro h c hc
    by_contra hs
    have hm := mem_strip hc hs
    rw [h] at hm
    exact List.not_mem_nil hm
  · intro h
    have hnil : t.dropWhile isSpace = [] := List.dropWhile_eq_nil_iff.mpr h
    unfold isBlank strip
    rw [hnil]
    rfl

/-- A stripped nonblank text is nonblank. -/
theorem not_isBlank_strip {t : Text} (h : ¬ isBlank t) : ¬ isBlank (strip t) := by
  intro hs
  refine h (isBlank_iff.mpr fun c hc => ?_)
  by_contra hns
  exact hns (isBlank_iff.mp hs c (mem_strip hc hns))

/-- Nothing is left to strip. -/
theorem strip_strip (t : Text) : strip (strip t) = strip t := by
  have hstrip : ∀ u : Text, strip u = (u.dropWhile isSpace).rdropWhile isSpace := fun _ => rfl
  have hhead : (strip t).dropWhile isSpace = strip t := by
    rw [List.dropWhile_eq_self_iff, hstrip]
    intro hl
    have hpre : (t.dropWhile isSpace).rdropWhile isSpace <+: t.dropWhile isSpace :=
      List.rdropWhile_prefix isSpace _
    rw [hpre.getElem hl]
    exact List.dropWhile_get_zero_not isSpace t _
  rw [hstrip (strip t), hhead, hstrip t, List.rdropWhile_idempotent]

/-- `str(n)` tells numbers apart. -/
theorem toDigits_injective {a b : Nat} (h : Nat.toDigits 10 a = Nat.toDigits 10 b) : a = b := by
  rw [← Nat.ofDigitChars_ten_toDigits (n := a), h, Nat.ofDigitChars_ten_toDigits]

/-! ## 2. Identifiers -/

/-- A `uuid.UUID`. -/
structure Uuid where
  bits : BitVec 128
  deriving DecidableEq, Repr

/-- One lower-case hexadecimal digit. -/
def hexDigit (n : Nat) : Char :=
  ['0', '1', '2', '3', '4', '5', '6', '7', '8', '9', 'a', 'b', 'c', 'd', 'e', 'f'].getD n '0'

/-- The last `k` hexadecimal digits of `n`, most significant first. -/
def hexDigits : Nat → Nat → Text
  | 0, _ => []
  | k + 1, n => hexDigits k (n / 16) ++ [hexDigit (n % 16)]

/-- `u.hex`: 32 digits, how a dialect without a UUID type binds a `UUID` parameter. -/
def Uuid.hex (u : Uuid) : Text := hexDigits 32 u.bits.toNat

/-- `str(u)`: the digits in groups of 8, 4, 4, 4 and 12. -/
def Uuid.str (u : Uuid) : Text :=
  u.hex.take 8 ++ '-' :: (u.hex.drop 8).take 4 ++ '-' :: (u.hex.drop 12).take 4 ++
    '-' :: (u.hex.drop 16).take 4 ++ '-' :: u.hex.drop 20

theorem hexDigit_injective {a b : Nat} (ha : a < 16) (hb : b < 16)
    (h : hexDigit a = hexDigit b) : a = b := by
  have key : ∀ i : Fin 16, ∀ j : Fin 16, hexDigit i = hexDigit j → i = j := by decide
  exact congrArg Fin.val (key ⟨a, ha⟩ ⟨b, hb⟩ h)

@[simp] theorem length_hexDigits (k n : Nat) : (hexDigits k n).length = k := by
  induction k generalizing n with
  | zero => rfl
  | succ k ih => simp [hexDigits, ih]

theorem hexDigits_injective {k a b : Nat} (ha : a < 16 ^ k) (hb : b < 16 ^ k)
    (h : hexDigits k a = hexDigits k b) : a = b := by
  induction k generalizing a b with
  | zero => omega
  | succ k ih =>
      obtain ⟨hinit, hlast⟩ := List.append_inj h (by simp)
      have hd : a % 16 = b % 16 :=
        hexDigit_injective (Nat.mod_lt _ (by omega)) (Nat.mod_lt _ (by omega))
          (List.singleton_inj.mp hlast)
      have hq : a / 16 = b / 16 := by
        refine ih ?_ ?_ hinit
        · rw [Nat.div_lt_iff_lt_mul (by omega)]; rwa [Nat.pow_succ] at ha
        · rw [Nat.div_lt_iff_lt_mul (by omega)]; rwa [Nat.pow_succ] at hb
      omega

theorem Uuid.hex_injective {u v : Uuid} (h : u.hex = v.hex) : u = v := by
  have hu : u.bits.toNat < 16 ^ 32 := u.bits.isLt
  have hv : v.bits.toNat < 16 ^ 32 := v.bits.isLt
  have e := hexDigits_injective hu hv h
  cases u
  cases v
  exact congrArg Uuid.mk (BitVec.eq_of_toNat_eq e)

@[simp] theorem Uuid.length_hex (u : Uuid) : u.hex.length = 32 := length_hexDigits 32 _

@[simp] theorem Uuid.length_str (u : Uuid) : u.str.length = 36 := by
  simp [Uuid.str]

/-- The two spellings never agree: one is 32 characters long, the other 36. -/
theorem Uuid.hex_ne_str (u v : Uuid) : u.hex ≠ v.str := by
  intro h
  have hl := congrArg List.length h
  simp at hl

theorem Uuid.str_injective {u v : Uuid} (h : u.str = v.str) : u = v := by
  -- cut the five groups apart again: each has the same length on both sides
  simp only [Uuid.str, List.append_assoc, List.cons_append] at h
  obtain ⟨h1, h⟩ := List.append_inj h (by simp)
  obtain ⟨h2, h⟩ := List.append_inj (List.cons.inj h).2 (by simp)
  obtain ⟨h3, h⟩ := List.append_inj (List.cons.inj h).2 (by simp)
  obtain ⟨h4, h⟩ := List.append_inj (List.cons.inj h).2 (by simp)
  have h5 := (List.cons.inj h).2
  refine Uuid.hex_injective ?_
  have cut : ∀ w : Text, w = w.take 8 ++ ((w.drop 8).take 4 ++ ((w.drop 12).take 4 ++
      ((w.drop 16).take 4 ++ w.drop 20))) := by
    intro w
    have e1 := List.take_append_drop 8 w
    have e2 := List.take_append_drop 4 (w.drop 8)
    have e3 := List.take_append_drop 4 (w.drop 12)
    have e4 := List.take_append_drop 4 (w.drop 16)
    simp only [List.drop_drop, Nat.reduceAdd] at e2 e3 e4
    rw [e4, e3, e2, e1]
  rw [cut u.hex, cut v.hex, h1, h2, h3, h4, h5]

/-! ## 3. Time -/

/-- A timezone-aware instant, in seconds. -/
abbrev Instant := Int

/-- A calendar date, as its ordinal. -/
abbrev Date := Int

end CampusConnect
