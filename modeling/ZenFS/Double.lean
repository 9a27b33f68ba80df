import Mathlib.Algebra.Order.Field.Power
import Mathlib.Data.Rat.Cast.Order
import Mathlib.Tactic.NormNum.Pow
import Mathlib.Tactic.NormNum.Inv
import Mathlib.Tactic.NormNum.Ineq
import Mathlib.Tactic.Linarith
import Mathlib.Tactic.Positivity
import Mathlib.Tactic.Ring
import Mathlib.Tactic.FieldSimp

set_option autoImplicit false

/- The IEEE 754 binary64 arithmetic of the `double` values in `fs/zbd_zenfs.cc`: the
wear-leveling trigger of `Zone::Reset` and its damping, `GetResetCountStdDev` and the garbage
histogram of `LogGarbageInfo`. Every operation takes the exact result of its finite operands,
as a fraction times a power of two, and rounds it once: to 53 significant bits and no bit below
`2 ^ -1074`, to the nearest, ties to even, and to an infinity from `2 ^ 1024` up. The values
that are not finite follow the standard: NaN in, NaN out; `x / 0` is an infinity, `0 / 0` and
`∞ - ∞` are NaN. The arithmetic is on `Nat` and `Int`, so that `decide` evaluates it. -/
namespace ZenFS

/-- A `double`: a finite value `mantissa * 2 ^ exponent`, an infinity, or NaN. Zeros carry no
sign: every zero the modelled code computes is `+0.0`. -/
inductive Double where
  | finite (mantissa exponent : Int)
  | inf (negative : Bool)
  | nan
  deriving DecidableEq, Repr

namespace Double

/-! ### Rounding -/

/-- `Nat.log2` by halving the width, exact below `2 ^ 2 ^ fuel`; structural, so that `decide`
evaluates it. -/
def log2Halving : Nat → Nat → Nat
  | 0, _ => 0
  | fuel + 1, n =>
    if n < 2 ^ 2 ^ fuel then log2Halving fuel n
    else 2 ^ fuel + log2Halving fuel (n / 2 ^ 2 ^ fuel)

/-- `⌊log₂ n⌋`, and 0 for 0. -/
def log2 (n : Nat) : Nat := if n < 2 ^ 2 ^ 8 then log2Halving 8 n else n.log2

/-- `num / den` rounded to the nearest natural number, a tie to the even one. -/
def rneDiv (num den : Nat) : Nat :=
  if den < 2 * (num % den) ∨ 2 * (num % den) = den ∧ num / den % 2 = 1 then num / den + 1
  else num / den

/-- Whether `num / den` is under `2 ^ d`, decided on naturals. -/
def fracBelow (num den : Nat) (d : Int) : Prop :=
  if 0 ≤ d then num < den * 2 ^ d.toNat else num * 2 ^ (-d).toNat < den

instance (num den : Nat) (d : Int) : Decidable (fracBelow num den d) :=
  inferInstanceAs (Decidable (if _ then _ else _))

/-- The binary exponent `⌊log₂ (num / den * 2 ^ scale)⌋` of a positive value: the difference
of the two `log2` is the exponent or one above it. -/
def binaryExponent (num den : Nat) (scale : Int) : Int :=
  let d : Int := (log2 num : Int) - log2 den
  scale + if fracBelow num den d then d - 1 else d

/-- The weight of the last of the 53 significant bits at binary exponent `e`, and never below
the least subnormal `2 ^ -1074`. -/
def quantum (e : Int) : Int := max (e - 52) (-1074)

/-- `num / den * 2 ^ scale` as a fraction of multiples of `2 ^ k`. -/
def scaledFrac (num den : Nat) (scale k : Int) : Nat × Nat :=
  if k ≤ scale then (num * 2 ^ (scale - k).toNat, den) else (num, den * 2 ^ (k - scale).toNat)

/-- `num / den * 2 ^ scale` rounded to the nearest multiple of its quantum, ties to even: the
mantissa and the quantum's exponent. -/
def roundPos (num den : Nat) (scale : Int) : Nat × Int :=
  let k := quantum (binaryExponent num den scale)
  (rneDiv (scaledFrac num den scale k).1 (scaledFrac num den scale k).2, k)

/-- The `double` nearest to `± num / den * 2 ^ scale`: the rounded value, or an infinity where
it reaches `2 ^ 1024`. -/
def ofFrac (negative : Bool) (num den : Nat) (scale : Int) : Double :=
  if num = 0 then finite 0 0
  else
    let r := roundPos num den scale
    if 971 ≤ r.2 ∧ 2 ^ (1024 - r.2).toNat ≤ r.1 then inf negative
    else finite (if negative then -(r.1 : Int) else r.1) r.2

/-! ### Operations -/

/-- An integer converted to `double`. -/
def ofNat (n : Nat) : Double := ofFrac false n 1 0

/-- The literal `0.1`. -/
def tenth : Double := ofFrac false 1 10 0

/-- The literal `1.5`. -/
def oneAndAHalf : Double := finite 3 (-1)

def neg : Double → Double
  | finite m e => finite (-m) e
  | inf negative => inf (!negative)
  | nan => nan

/-- `a + b`; `∞ + -∞` is NaN. -/
def add : Double → Double → Double
  | nan, _ | _, nan => nan
  | inf s, inf t => if s = t then inf s else nan
  | inf s, finite _ _ | finite _ _, inf s => inf s
  | finite m₁ e₁, finite m₂ e₂ =>
    let m := m₁ * (2 ^ (e₁ - min e₁ e₂).toNat : Nat) + m₂ * (2 ^ (e₂ - min e₁ e₂).toNat : Nat)
    ofFrac (decide (m < 0)) m.natAbs 1 (min e₁ e₂)

def sub (a b : Double) : Double := a.add b.neg

/-- `a * b`; `0 * ∞` is NaN. -/
def mul : Double → Double → Double
  | nan, _ | _, nan => nan
  | inf s, inf t => inf (s != t)
  | inf s, finite m _ | finite m _, inf s => if m = 0 then nan else inf (s != decide (m < 0))
  | finite m₁ e₁, finite m₂ e₂ => ofFrac (decide (m₁ * m₂ < 0)) (m₁ * m₂).natAbs 1 (e₁ + e₂)

/-- `a / b`; a nonzero value over `+0.0` is an infinity, `0 / 0` and `∞ / ∞` are NaN. -/
def div : Double → Double → Double
  | nan, _ | _, nan => nan
  | inf _, inf _ => nan
  | inf s, finite m _ => inf (s != decide (m < 0))
  | finite _ _, inf _ => finite 0 0
  | finite m₁ e₁, finite m₂ e₂ =>
    if m₂ = 0 then (if m₁ = 0 then nan else inf (decide (m₁ < 0)))
    else ofFrac (decide (m₁ < 0) != decide (m₂ < 0)) m₁.natAbs m₂.natAbs (e₁ - e₂)

/-- `⌊√n⌋` with the bits below `2 ^ (b + 1)` still to find on top of `r`. -/
def isqrtFrom (n : Nat) : Nat → Nat → Nat
  | 0, r => if (r + 1) * (r + 1) ≤ n then r + 1 else r
  | b + 1, r =>
    if (r + 2 ^ (b + 1)) * (r + 2 ^ (b + 1)) ≤ n then isqrtFrom n b (r + 2 ^ (b + 1))
    else isqrtFrom n b r

/-- `⌊√n⌋`. -/
def isqrt (n : Nat) : Nat := isqrtFrom n (log2 n / 2 + 1) 0

/-- The square root of `m * 2 ^ e`, `m` positive: with `m * 2 ^ e = m₁ * 4 ^ h`, the root is
`√m₁ * 2 ^ h`, whose binary exponent is `⌊log₂ m₁ / 2⌋ + h`; it is rounded to a multiple of that
exponent's quantum `2 ^ k`, from `√(m₁ * 4 ^ (h - k))`. -/
def sqrtPos (m : Nat) (e : Int) : Double :=
  let m₁ := if e % 2 = 0 then m else 2 * m
  let h := (e - e % 2) / 2
  let k := quantum ((log2 m₁ / 2 : Nat) + h)
  let num := if k ≤ h then m₁ * 4 ^ (h - k).toNat else m₁
  let den := if k ≤ h then 1 else 4 ^ (k - h).toNat
  let r := isqrt (num / den)
  finite (if den * ((2 * r + 1) * (2 * r + 1)) < 4 * num ∨
      den * ((2 * r + 1) * (2 * r + 1)) = 4 * num ∧ r % 2 = 1 then r + 1 else r) k

/-- `sqrt(x)`; NaN below zero. -/
def sqrt : Double → Double
  | finite m e => if m < 0 then nan else if m = 0 then finite 0 0 else sqrtPos m.toNat e
  | inf false => inf false
  | inf true => nan
  | nan => nan

/-- Rounded twice, `sqrt(2) * sqrt(2)` is one unit in the last place above 2. -/
example : (ofNat 2).sqrt.mul (ofNat 2).sqrt = finite 4503599627370497 (-51) := by decide

/-- `a < b`; false when either is NaN. -/
def lt : Double → Double → Bool
  | nan, _ | _, nan => false
  | inf s, inf t => s && !t
  | inf s, finite _ _ => s
  | finite _ _, inf t => !t
  | finite m₁ e₁, finite m₂ e₂ =>
    decide (m₁ * (2 ^ (e₁ - min e₁ e₂).toNat : Nat) < m₂ * (2 ^ (e₂ - min e₁ e₂).toNat : Nat))

/-- `int(x)`: the value truncated toward zero. Out of `int`'s range, NaN included, the
conversion is undefined in C++; the model gives `INT_MIN`, what x86-64's `cvttsd2si` gives. -/
def toInt : Double → Int
  | finite m e =>
    let t : Int :=
      if 0 ≤ e then m * (2 ^ e.toNat : Nat)
      else if m < 0 then -(m.natAbs / 2 ^ (-e).toNat : Nat) else (m.natAbs / 2 ^ (-e).toNat : Nat)
    if -2 ^ 31 ≤ t ∧ t < 2 ^ 31 then t else -2 ^ 31
  | _ => -2 ^ 31

/-- The value of a finite `double`; the model reads none from an infinity or NaN. -/
def toRat : Double → ℚ
  | finite m e => m * 2 ^ e
  | _ => 0

/-- A finite `double` that is not negative. -/
def NonNeg : Double → Prop
  | finite m _ => 0 ≤ m
  | _ => False

/-! ### `log2` -/

theorem log2_eq_of_bounds {n r : Nat} (lower : 2 ^ r ≤ n) (upper : n < 2 ^ (r + 1)) :
    n.log2 = r := by
  have nonzero : n ≠ 0 := by have := Nat.one_le_two_pow (n := r); omega
  exact le_antisymm (Nat.lt_succ_iff.mp ((Nat.log2_lt nonzero).mpr upper))
    ((Nat.le_log2 nonzero).mpr lower)

theorem log2Halving_eq : ∀ (fuel n : Nat), n < 2 ^ 2 ^ fuel → log2Halving fuel n = n.log2
  | 0, n, small => by
    rw [log2Halving]
    rcases (by simp at small; omega : n = 0 ∨ n = 1) with rfl | rfl
    · exact Nat.log2_zero.symm
    · exact (log2_eq_of_bounds (r := 0) (by norm_num) (by norm_num)).symm
  | fuel + 1, n, small => by
    rw [log2Halving]
    split
    · exact log2Halving_eq fuel n ‹_›
    · rename_i big
      have width : 0 < 2 ^ 2 ^ fuel := Nat.two_pow_pos _
      have square : 2 ^ 2 ^ (fuel + 1) = 2 ^ 2 ^ fuel * 2 ^ 2 ^ fuel := by
        rw [pow_succ, pow_mul, sq]
      have below : n / 2 ^ 2 ^ fuel < 2 ^ 2 ^ fuel :=
        Nat.div_lt_of_lt_mul (by rwa [← square])
      have positive : 0 < n / 2 ^ 2 ^ fuel := Nat.div_pos (Nat.le_of_not_lt big) width
      rw [log2Halving_eq fuel _ below]
      refine (log2_eq_of_bounds ?_ ?_).symm
      · calc 2 ^ (2 ^ fuel + (n / 2 ^ 2 ^ fuel).log2)
            = 2 ^ 2 ^ fuel * 2 ^ (n / 2 ^ 2 ^ fuel).log2 := pow_add _ _ _
          _ ≤ 2 ^ 2 ^ fuel * (n / 2 ^ 2 ^ fuel) :=
            Nat.mul_le_mul_left _ (Nat.log2_self_le positive.ne')
          _ ≤ n := Nat.mul_div_le n _
      · have upper : n < 2 ^ 2 ^ fuel * 2 ^ ((n / 2 ^ 2 ^ fuel).log2 + 1) :=
          (Nat.lt_mul_div_succ n width).trans_le (Nat.mul_le_mul_left _ Nat.lt_log2_self)
        rwa [← pow_add, ← Nat.add_assoc] at upper

@[simp] theorem log2_eq (n : Nat) : log2 n = n.log2 := by
  unfold log2
  split
  · exact log2Halving_eq 8 n ‹_›
  · rfl

/-! ### Rounding a fraction -/

theorem div_le_rneDiv (num den : Nat) : num / den ≤ rneDiv num den := by
  unfold rneDiv; split <;> omega

theorem rneDiv_le_succ (num den : Nat) : rneDiv num den ≤ num / den + 1 := by
  unfold rneDiv; split <;> omega

@[simp] theorem rneDiv_one (n : Nat) : rneDiv n 1 = n := by simp [rneDiv, Nat.mod_one]

@[simp] theorem rneDiv_zero_left (den : Nat) : rneDiv 0 den = 0 := by simp [rneDiv]

/-- Rounding to the nearest is monotone: a fraction no larger never rounds higher. Past equal
quotients, the remainders compare as the fractions do, and a remainder that rounds up makes a
larger one round up. -/
theorem rneDiv_mono {num₁ den₁ num₂ den₂ : Nat} (pos₁ : 0 < den₁) (pos₂ : 0 < den₂)
    (le : (num₁ : ℚ) / den₁ ≤ num₂ / den₂) : rneDiv num₁ den₁ ≤ rneDiv num₂ den₂ := by
  have cross : num₁ * den₂ ≤ num₂ * den₁ := by
    rw [div_le_div_iff₀ (by exact_mod_cast pos₁) (by exact_mod_cast pos₂)] at le
    exact_mod_cast le
  have quot : num₁ / den₁ ≤ num₂ / den₂ := by
    refine (Nat.le_div_iff_mul_le pos₂).mpr (Nat.le_of_mul_le_mul_right ?_ pos₁)
    calc num₁ / den₁ * den₂ * den₁ = num₁ / den₁ * den₁ * den₂ := by ring
      _ ≤ num₁ * den₂ := Nat.mul_le_mul_right _ (Nat.div_mul_le_self _ _)
      _ ≤ num₂ * den₁ := cross
  rcases Nat.lt_or_eq_of_le quot with lt | same
  · calc rneDiv num₁ den₁ ≤ num₁ / den₁ + 1 := rneDiv_le_succ _ _
      _ ≤ num₂ / den₂ := lt
      _ ≤ rneDiv num₂ den₂ := div_le_rneDiv _ _
  · have rem : num₁ % den₁ * den₂ ≤ num₂ % den₂ * den₁ := by
      have split₁ := Nat.div_add_mod num₁ den₁
      have split₂ := Nat.div_add_mod num₂ den₂
      rw [same] at split₁
      generalize num₂ / den₂ = q at split₁ split₂
      generalize num₁ % den₁ = r₁ at split₁ ⊢
      generalize num₂ % den₂ = r₂ at split₂ ⊢
      subst split₁ split₂
      linarith
    have up : den₁ < 2 * (num₁ % den₁) ∨ 2 * (num₁ % den₁) = den₁ ∧ num₁ / den₁ % 2 = 1 →
        den₂ < 2 * (num₂ % den₂) ∨ 2 * (num₂ % den₂) = den₂ ∧ num₂ / den₂ % 2 = 1 := by
      rintro (more | ⟨half, odd⟩)
      · left; nlinarith
      · have : den₂ ≤ 2 * (num₂ % den₂) := by nlinarith
        rw [← same]; omega
    unfold rneDiv
    split_ifs with first second second
    · omega
    · exact absurd (up first) second
    · omega
    · omega

theorem rneDiv_le_of_le {num den M : Nat} (pos : 0 < den) (le : (num : ℚ) / den ≤ M) :
    rneDiv num den ≤ M := by
  simpa using @rneDiv_mono num den M 1 pos one_pos (by simpa using le)

theorem le_rneDiv_of_le {num den M : Nat} (pos : 0 < den) (le : (M : ℚ) ≤ num / den) :
    M ≤ rneDiv num den := by
  simpa using @rneDiv_mono M 1 num den one_pos pos (by simpa using le)

/-! ### The rounded value -/

/-- The exact value `num / den * 2 ^ scale` that an operation rounds. -/
def fracValue (num den : Nat) (scale : Int) : ℚ := num / den * 2 ^ scale

/-- The value of the rounded mantissa. -/
def roundValue (num den : Nat) (scale : Int) : ℚ :=
  (roundPos num den scale).1 * 2 ^ (roundPos num den scale).2

theorem two_zpow_toNat {e : Int} (nonneg : 0 ≤ e) : ((2 ^ e.toNat : Nat) : ℚ) = 2 ^ e := by
  rw [Nat.cast_pow, Nat.cast_ofNat, ← zpow_natCast, Int.toNat_of_nonneg nonneg]

theorem roundValue_nonneg (num den : Nat) (scale : Int) : 0 ≤ roundValue num den scale :=
  mul_nonneg (Nat.cast_nonneg _) (zpow_nonneg (by norm_num) _)

theorem fracBelow_iff {num den : Nat} (posDen : 0 < den) (d : Int) :
    fracBelow num den d ↔ (num : ℚ) / den < 2 ^ d := by
  have denQ : (0 : ℚ) < den := by exact_mod_cast posDen
  rw [div_lt_iff₀ denQ, fracBelow]
  split
  · rw [mul_comm, ← two_zpow_toNat ‹_›]; exact_mod_cast Iff.rfl
  · obtain ⟨n, rfl⟩ : ∃ n : Nat, d = -n := ⟨(-d).toNat, by omega⟩
    rw [neg_neg, Int.toNat_natCast, zpow_neg, zpow_natCast, ← div_eq_inv_mul,
      lt_div_iff₀ (by positivity)]
    exact_mod_cast Iff.rfl

/-- The binary exponent brackets the value between two powers of two. -/
theorem binaryExponent_bounds {num den : Nat} (scale : Int) (posNum : 0 < num) (posDen : 0 < den) :
    2 ^ binaryExponent num den scale ≤ fracValue num den scale ∧
      fracValue num den scale < 2 ^ (binaryExponent num den scale + 1) := by
  have num_lower := Nat.log2_self_le posNum.ne'
  have num_upper := Nat.lt_log2_self (n := num)
  have den_lower := Nat.log2_self_le posDen.ne'
  have den_upper := Nat.lt_log2_self (n := den)
  have denQ : (0 : ℚ) < den := by exact_mod_cast posDen
  -- the fraction lies strictly between `2 ^ (d - 1)` and `2 ^ (d + 1)`, `d` the difference of
  -- the two `log2`
  have lower : (2 : ℚ) ^ ((num.log2 : Int) - den.log2 - 1) ≤ num / den := by
    rw [le_div_iff₀ denQ, show (num.log2 : Int) - den.log2 - 1 = num.log2 - (den.log2 + 1 : Nat) by
      push_cast; ring, zpow_sub₀ (by norm_num), zpow_natCast, zpow_natCast, div_mul_eq_mul_div,
      div_le_iff₀ (by positivity)]
    exact_mod_cast Nat.mul_le_mul num_lower den_upper.le
  have upper : (num : ℚ) / den < 2 ^ ((num.log2 : Int) - den.log2 + 1) := by
    rw [div_lt_iff₀ denQ, show (num.log2 : Int) - den.log2 + 1 = (num.log2 + 1 : Nat) - den.log2 by
      push_cast; ring, zpow_sub₀ (by norm_num), zpow_natCast, zpow_natCast, div_mul_eq_mul_div,
      lt_div_iff₀ (by positivity)]
    exact_mod_cast Nat.mul_lt_mul_of_lt_of_le num_upper den_lower posDen
  have scalePos : (0 : ℚ) < 2 ^ scale := zpow_pos (by norm_num) _
  have shift : ∀ e : Int, (2 : ℚ) ^ (scale + e) = 2 ^ e * 2 ^ scale := fun e => by
    rw [zpow_add₀ two_ne_zero, mul_comm]
  unfold binaryExponent fracValue
  simp only [log2_eq]
  split
  · rename_i under
    have under := (fracBelow_iff posDen _).mp under
    rw [add_assoc, sub_add_cancel, shift, shift]
    exact ⟨mul_le_mul_of_nonneg_right lower scalePos.le, mul_lt_mul_of_pos_right under scalePos⟩
  · rename_i above
    have above := le_of_not_lt ((fracBelow_iff posDen _).not.mp above)
    rw [add_assoc, shift, shift]
    exact ⟨mul_le_mul_of_nonneg_right above scalePos.le, mul_lt_mul_of_pos_right upper scalePos⟩

/-- `scaledFrac` counts the value in units of `2 ^ k`. -/
theorem scaledFrac_value {den : Nat} (num : Nat) (scale k : Int) (posDen : 0 < den) :
    0 < (scaledFrac num den scale k).2 ∧
      ((scaledFrac num den scale k).1 : ℚ) / (scaledFrac num den scale k).2 =
        fracValue num den scale / 2 ^ k := by
  unfold scaledFrac fracValue
  split
  · refine ⟨posDen, ?_⟩
    rw [Nat.cast_mul, two_zpow_toNat (by omega), zpow_sub₀ two_ne_zero]
    ring
  · refine ⟨Nat.mul_pos posDen (Nat.two_pow_pos _), ?_⟩
    rw [Nat.cast_mul, two_zpow_toNat (by omega), zpow_sub₀ two_ne_zero]
    field_simp

theorem roundPos_fst (num den : Nat) (scale : Int) :
    (roundPos num den scale).1 = rneDiv (scaledFrac num den scale (roundPos num den scale).2).1
      (scaledFrac num den scale (roundPos num den scale).2).2 := rfl

@[simp] theorem roundValue_zero (den : Nat) (scale : Int) : roundValue 0 den scale = 0 := by
  simp only [roundValue, roundPos, scaledFrac, Nat.zero_mul]
  split <;> simp

/-- A multiple of the quantum at or above the value bounds the rounding from above. -/
theorem roundValue_le_of_le {num den : Nat} {scale : Int} (posDen : 0 < den) {M : Nat}
    (le : fracValue num den scale ≤ M * 2 ^ (roundPos num den scale).2) :
    roundValue num den scale ≤ M * 2 ^ (roundPos num den scale).2 := by
  obtain ⟨pos, value⟩ := scaledFrac_value num scale (roundPos num den scale).2 posDen
  have unit : (0 : ℚ) < 2 ^ (roundPos num den scale).2 := zpow_pos (by norm_num) _
  refine mul_le_mul_of_nonneg_right ?_ unit.le
  rw [roundPos_fst]
  exact_mod_cast rneDiv_le_of_le pos (by rwa [value, div_le_iff₀ unit])

/-- A multiple of the quantum at or below the value bounds the rounding from below. -/
theorem le_roundValue_of_le {num den : Nat} {scale : Int} (posDen : 0 < den) {M : Nat}
    (le : M * 2 ^ (roundPos num den scale).2 ≤ fracValue num den scale) :
    M * 2 ^ (roundPos num den scale).2 ≤ roundValue num den scale := by
  obtain ⟨pos, value⟩ := scaledFrac_value num scale (roundPos num den scale).2 posDen
  have unit : (0 : ℚ) < 2 ^ (roundPos num den scale).2 := zpow_pos (by norm_num) _
  refine mul_le_mul_of_nonneg_right ?_ unit.le
  rw [roundPos_fst]
  exact_mod_cast le_rneDiv_of_le pos (by rwa [value, le_div_iff₀ unit])

/-- A power of two at or above the quantum is a multiple of it. -/
theorem two_zpow_eq_mul {k j : Int} (grid : k ≤ j) :
    (2 : ℚ) ^ j = ((2 ^ (j - k).toNat : Nat) : ℚ) * 2 ^ k := by
  rw [two_zpow_toNat (by omega), ← zpow_add₀ two_ne_zero, sub_add_cancel]

/-- Rounding is monotone: a value no larger never rounds higher. Where both values share the
quantum, the fractions compare as the values do. Where the second value's quantum is coarser,
its exponent is above the first value's: the first rounds to at most the power of two above it,
and the second to at least the power of two below it. -/
theorem roundValue_mono {num₁ den₁ num₂ den₂ : Nat} {scale₁ scale₂ : Int} (posDen₁ : 0 < den₁)
    (posDen₂ : 0 < den₂) (le : fracValue num₁ den₁ scale₁ ≤ fracValue num₂ den₂ scale₂) :
    roundValue num₁ den₁ scale₁ ≤ roundValue num₂ den₂ scale₂ := by
  rcases Nat.eq_zero_or_pos num₁ with rfl | posNum₁
  · rw [roundValue_zero]; exact roundValue_nonneg _ _ _
  have posNum₂ : 0 < num₂ := by
    rcases Nat.eq_zero_or_pos num₂ with rfl | pos
    · have : 0 < fracValue num₁ den₁ scale₁ := by unfold fracValue; positivity
      rw [show fracValue 0 den₂ scale₂ = 0 by simp [fracValue]] at le
      linarith
    · exact pos
  obtain ⟨lower₁, upper₁⟩ := binaryExponent_bounds scale₁ posNum₁ posDen₁
  obtain ⟨lower₂, upper₂⟩ := binaryExponent_bounds scale₂ posNum₂ posDen₂
  have exps : binaryExponent num₁ den₁ scale₁ ≤ binaryExponent num₂ den₂ scale₂ := by
    have := (zpow_lt_zpow_iff_right₀ (by norm_num : (1 : ℚ) < 2)).mp (lower₁.trans_lt (le.trans_lt upper₂))
    omega
  have k₁ : (roundPos num₁ den₁ scale₁).2 = quantum (binaryExponent num₁ den₁ scale₁) := rfl
  have k₂ : (roundPos num₂ den₂ scale₂).2 = quantum (binaryExponent num₂ den₂ scale₂) := rfl
  rcases lt_or_eq_of_le (show (roundPos num₁ den₁ scale₁).2 ≤ (roundPos num₂ den₂ scale₂).2 by
      rw [k₁, k₂]; unfold quantum; omega) with coarser | same
  · obtain ⟨j, above₁, grid₁, below₂⟩ : ∃ j, binaryExponent num₁ den₁ scale₁ + 1 ≤ j ∧
        (roundPos num₁ den₁ scale₁).2 ≤ j ∧ j ≤ binaryExponent num₂ den₂ scale₂ := by
      rw [k₁, k₂] at coarser
      refine ⟨max (binaryExponent num₁ den₁ scale₁ + 1) (roundPos num₁ den₁ scale₁).2,
        le_max_left _ _, le_max_right _ _, ?_⟩
      rw [k₁]; unfold quantum at coarser ⊢; omega
    have grid₂ : (roundPos num₂ den₂ scale₂).2 ≤ binaryExponent num₂ den₂ scale₂ := by
      rw [k₁, k₂] at coarser; rw [k₂]; unfold quantum at coarser ⊢; omega
    have below : roundValue num₁ den₁ scale₁ ≤ 2 ^ j := by
      rw [two_zpow_eq_mul grid₁]
      refine roundValue_le_of_le posDen₁ ?_
      rw [← two_zpow_eq_mul grid₁]
      exact upper₁.le.trans (zpow_le_zpow_right₀ (by norm_num) above₁)
    have above : (2 : ℚ) ^ binaryExponent num₂ den₂ scale₂ ≤ roundValue num₂ den₂ scale₂ := by
      rw [two_zpow_eq_mul grid₂] at lower₂ ⊢
      exact le_roundValue_of_le posDen₂ lower₂
    exact below.trans ((zpow_le_zpow_right₀ (by norm_num) below₂).trans above)
  · obtain ⟨pos₁, value₁⟩ := scaledFrac_value num₁ scale₁ (roundPos num₁ den₁ scale₁).2 posDen₁
    obtain ⟨pos₂, value₂⟩ := scaledFrac_value num₂ scale₂ (roundPos num₂ den₂ scale₂).2 posDen₂
    have unit : (0 : ℚ) < 2 ^ (roundPos num₂ den₂ scale₂).2 := zpow_pos (by norm_num) _
    unfold roundValue
    rw [same]
    refine mul_le_mul_of_nonneg_right ?_ unit.le
    rw [roundPos_fst num₁, roundPos_fst num₂]
    refine Nat.cast_le.mpr (rneDiv_mono pos₁ pos₂ ?_)
    rw [value₁, value₂, same]
    exact div_le_div_of_nonneg_right le unit.le

/-! ### Non-negative finite operands -/

/-- Below `2 ^ 1023` a rounding does not overflow: its exponent is under 1023, so its quantum is
under `2 ^ 971`. -/
theorem ofFrac_of_pos {num den : Nat} {scale : Int} (posNum : 0 < num) (posDen : 0 < den)
    (small : fracValue num den scale < 2 ^ (1023 : Int)) :
    ofFrac false num den scale = finite (roundPos num den scale).1 (roundPos num den scale).2 := by
  have exponent : binaryExponent num den scale < 1023 :=
    (zpow_lt_zpow_iff_right₀ (by norm_num : (1 : ℚ) < 2)).mp
      ((binaryExponent_bounds scale posNum posDen).1.trans_lt small)
  have fine : ¬ 971 ≤ (roundPos num den scale).2 := by
    show ¬ 971 ≤ quantum _; unfold quantum; omega
  simp [ofFrac, posNum.ne', fine]

theorem ofFrac_nonNeg {num den : Nat} {scale : Int} (posDen : 0 < den)
    (small : fracValue num den scale < 2 ^ (1023 : Int)) :
    (ofFrac false num den scale).NonNeg ∧ (ofFrac false num den scale).toRat = roundValue num den scale := by
  rcases Nat.eq_zero_or_pos num with rfl | posNum
  · simp [ofFrac, NonNeg, toRat]
  · rw [ofFrac_of_pos posNum posDen small]
    exact ⟨Int.natCast_nonneg _, by simp [toRat, roundValue]⟩

/-- A mantissa brought to a lower exponent keeps its value. -/
theorem shifted_value (m : Int) {e e' : Int} (lower : e' ≤ e) :
    ((m * (2 ^ (e - e').toNat : Nat) : Int) : ℚ) * 2 ^ e' = m * 2 ^ e := by
  rw [Int.cast_mul, Int.cast_natCast, two_zpow_toNat (by omega), mul_assoc,
    ← zpow_add₀ two_ne_zero, sub_add_cancel]

theorem natAbs_cast_of_nonneg {m : Int} (nonneg : 0 ≤ m) : ((m.natAbs : Nat) : ℚ) = m := by
  rw [Nat.cast_natAbs, Int.cast_abs, abs_of_nonneg (Int.cast_nonneg.mpr nonneg)]

/-- The sum of two non-negative finite values is their exact sum, rounded. -/
theorem add_of_nonNeg {a b : Double} (ha : a.NonNeg) (hb : b.NonNeg) :
    ∃ num scale, a.add b = ofFrac false num 1 scale ∧ fracValue num 1 scale = a.toRat + b.toRat := by
  cases a with
  | inf => exact absurd ha id
  | nan => exact absurd ha id
  | finite m₁ e₁ =>
  cases b with
  | inf => exact absurd hb id
  | nan => exact absurd hb id
  | finite m₂ e₂ =>
  simp only [NonNeg] at ha hb
  have nonneg : 0 ≤ m₁ * (2 ^ (e₁ - min e₁ e₂).toNat : Nat) + m₂ * (2 ^ (e₂ - min e₁ e₂).toNat : Nat) := by
    positivity
  refine ⟨(m₁ * (2 ^ (e₁ - min e₁ e₂).toNat : Nat) + m₂ * (2 ^ (e₂ - min e₁ e₂).toNat : Nat)).natAbs,
    min e₁ e₂, by simp only [add, decide_eq_false (not_lt.mpr nonneg)], ?_⟩
  rw [fracValue, natAbs_cast_of_nonneg nonneg, Nat.cast_one, div_one, Int.cast_add, add_mul,
    shifted_value _ (min_le_left _ _), shifted_value _ (min_le_right _ _)]
  rfl

/-- The product of two non-negative finite values is their exact product, rounded. -/
theorem mul_of_nonNeg {a b : Double} (ha : a.NonNeg) (hb : b.NonNeg) :
    ∃ num scale, a.mul b = ofFrac false num 1 scale ∧ fracValue num 1 scale = a.toRat * b.toRat := by
  cases a with
  | inf => exact absurd ha id
  | nan => exact absurd ha id
  | finite m₁ e₁ =>
  cases b with
  | inf => exact absurd hb id
  | nan => exact absurd hb id
  | finite m₂ e₂ =>
  simp only [NonNeg] at ha hb
  have nonneg : 0 ≤ m₁ * m₂ := mul_nonneg ha hb
  refine ⟨(m₁ * m₂).natAbs, e₁ + e₂, by simp only [mul, decide_eq_false (not_lt.mpr nonneg)], ?_⟩
  rw [fracValue, natAbs_cast_of_nonneg nonneg, Nat.cast_one, div_one, zpow_add₀ two_ne_zero]
  simp only [toRat]
  push_cast
  ring

/-- The quotient of a non-negative finite value by a positive one is their exact quotient,
rounded. -/
theorem div_of_nonNeg {a b : Double} (ha : a.NonNeg) (hb : b.NonNeg) (positive : 0 < b.toRat) :
    ∃ num den scale, 0 < den ∧ a.div b = ofFrac false num den scale ∧
      fracValue num den scale = a.toRat / b.toRat := by
  cases a with
  | inf => exact absurd ha id
  | nan => exact absurd ha id
  | finite m₁ e₁ =>
  cases b with
  | inf => exact absurd hb id
  | nan => exact absurd hb id
  | finite m₂ e₂ =>
  simp only [NonNeg, toRat] at ha hb positive
  have nonzero : m₂ ≠ 0 := by rintro rfl; simp at positive
  refine ⟨m₁.natAbs, m₂.natAbs, e₁ - e₂, Int.natAbs_pos.mpr nonzero, ?_, ?_⟩
  · simp only [div, nonzero, if_false, decide_eq_false (not_lt.mpr ha),
      decide_eq_false (not_lt.mpr hb), bne_self_eq_false]
  · rw [fracValue, natAbs_cast_of_nonneg ha, natAbs_cast_of_nonneg hb, zpow_sub₀ two_ne_zero]
    simp only [toRat]
    field_simp

/-- `int(x)` of a non-negative finite value below `2 ^ 31` is its integer part. -/
theorem toInt_of_nonNeg {x : Double} (nonneg : x.NonNeg) (small : x.toRat < 2 ^ 31) :
    0 ≤ x.toInt ∧ (x.toInt : ℚ) ≤ x.toRat := by
  cases x with
  | inf => exact absurd nonneg id
  | nan => exact absurd nonneg id
  | finite m e =>
  simp only [NonNeg, toRat] at nonneg small ⊢
  -- the truncated value, before the range check
  obtain ⟨t, value, nonneg_t, le⟩ : ∃ t : Int, (if 0 ≤ e then m * (2 ^ e.toNat : Nat)
      else if m < 0 then -(m.natAbs / 2 ^ (-e).toNat : Nat) else (m.natAbs / 2 ^ (-e).toNat : Nat)) = t ∧
      0 ≤ t ∧ (t : ℚ) ≤ m * 2 ^ e := by
    split
    · refine ⟨_, rfl, by positivity, ?_⟩
      rw [Int.cast_mul, Int.cast_natCast, two_zpow_toNat ‹_›]
    · rw [if_neg (not_lt.mpr nonneg)]
      refine ⟨_, rfl, by positivity, ?_⟩
      obtain ⟨n, rfl⟩ : ∃ n : Nat, e = -n := ⟨(-e).toNat, by omega⟩
      rw [neg_neg, Int.toNat_natCast, Int.cast_natCast, zpow_neg, zpow_natCast, ← div_eq_mul_inv,
        le_div_iff₀ (by positivity), ← natAbs_cast_of_nonneg nonneg]
      exact_mod_cast Nat.div_mul_le_self _ _
  have below : (t : ℚ) < 2 ^ 31 := le.trans_lt small
  have range : -2 ^ 31 ≤ t ∧ t < 2 ^ 31 := ⟨by omega, by exact_mod_cast below⟩
  simp only [toInt, value, if_pos range]
  exact ⟨nonneg_t, le⟩

@[simp] theorem fracValue_natCast (n : Nat) : fracValue n 1 0 = n := by simp [fracValue]

/-- A positive integer below `2 ^ 1023` converts to a positive finite value. -/
theorem ofNat_pos {n : Nat} (pos : 0 < n) (small : n < 2 ^ 1023) :
    ∃ m e, ofNat n = finite m e ∧ 0 < m := by
  have below : fracValue n 1 0 < 2 ^ (1023 : Int) := by rw [fracValue_natCast]; exact_mod_cast small
  refine ⟨_, _, ofFrac_of_pos pos one_pos below, ?_⟩
  have exponent := (binaryExponent_bounds 0 pos one_pos).1
  have grid : (roundPos n 1 0).2 ≤ binaryExponent n 1 0 := by
    have : (0 : Int) ≤ binaryExponent n 1 0 := by
      have := (binaryExponent_bounds 0 pos one_pos).2
      rw [fracValue_natCast] at this
      have := (zpow_lt_zpow_iff_right₀ (by norm_num : (1 : ℚ) < 2)).mp
        ((show (2 : ℚ) ^ (0 : Int) ≤ n by simpa using (Nat.one_le_cast.mpr pos)).trans_lt this)
      omega
    show quantum _ ≤ _; unfold quantum; omega
  rw [two_zpow_eq_mul grid] at exponent
  have positive := (le_roundValue_of_le one_pos exponent)
  have : (0 : ℚ) < (roundPos n 1 0).1 := by
    unfold roundValue at positive
    exact (mul_le_mul_right (zpow_pos (by norm_num) _)).mp positive |>.trans_lt' (by positivity)
  exact_mod_cast this

theorem roundValue_of_roundPos {num den n : Nat} {scale k : Int}
    (rounded : roundPos num den scale = (n, k)) : roundValue num den scale = n * 2 ^ k := by
  rw [roundValue, rounded]

/-- A rounding from an exact value no larger than a bound's is finite, not negative, and no
larger than the bound's rounding. -/
theorem ofFrac_le {num den num' den' : Nat} {scale scale' : Int} (posDen : 0 < den)
    (posDen' : 0 < den') (le : fracValue num den scale ≤ fracValue num' den' scale')
    (small : fracValue num' den' scale' < 2 ^ (1023 : Int)) :
    (ofFrac false num den scale).NonNeg ∧
      (ofFrac false num den scale).toRat ≤ roundValue num' den' scale' := by
  obtain ⟨nonneg, value⟩ := ofFrac_nonNeg posDen (le.trans_lt small)
  exact ⟨nonneg, value ▸ roundValue_mono posDen posDen' le⟩

/-- `0 * x` for a finite `x` is below every positive integer below `2 ^ 1023`. -/
theorem zero_mul_lt_ofNat {x : Double} (finiteX : ∃ m e, x = finite m e) {n : Nat} (pos : 0 < n)
    (small : n < 2 ^ 1023) : ((ofNat 0).mul x).lt (ofNat n) = true := by
  obtain ⟨m, e, rfl⟩ := finiteX
  obtain ⟨m', e', converted, positive⟩ := ofNat_pos pos small
  have zero : (ofNat 0).mul (finite m e) = finite 0 0 := by simp [ofNat, ofFrac, mul]
  rw [converted, zero]
  simp only [lt, zero_mul, decide_eq_true_eq]
  positivity

/-! ### Zeros and infinities -/

@[simp] theorem ofNat_zero : ofNat 0 = finite 0 0 := rfl

theorem sub_self_of_finite (m e : Int) : (finite m e).sub (finite m e) = finite 0 0 := by
  simp [sub, neg, add, ofFrac]

@[simp] theorem zero_add_zero : (finite 0 0).add (finite 0 0) = finite 0 0 := by
  simp [add, ofFrac]

@[simp] theorem zero_mul_zero : (finite 0 0).mul (finite 0 0) = finite 0 0 := by
  simp [mul, ofFrac]

@[simp] theorem sqrt_zero : (finite 0 0).sqrt = finite 0 0 := by simp [sqrt]

theorem zero_div_of_pos {m e : Int} (positive : 0 < m) : (finite 0 0).div (finite m e) = finite 0 0 := by
  simp [div, positive.ne', ofFrac]

/-- `+∞` times any integer is no `double` below anything: NaN for 0, `+∞` otherwise. -/
theorem ofNat_mul_inf_lt (n : Nat) (y : Double) : ((ofNat n).mul (inf false)).lt y = false := by
  have never : ∀ x : Double, x = nan ∨ x = inf false → x.lt y = false := by
    rintro x (rfl | rfl) <;> cases y <;> rfl
  apply never
  simp only [ofNat, ofFrac, Bool.false_eq_true, if_false]
  split_ifs <;> by_cases nonzero : (roundPos n 1 0).1 = 0 <;> simp [mul, nonzero]

end Double
end ZenFS
