import Mathlib.Data.Int.Log
import Mathlib.Data.Rat.Floor
import Mathlib.Tactic.Linarith
import Mathlib.Tactic.NormNum

/-!
Python's `float`, an IEEE 754 binary64 double. A double is kept as the rational it denotes, and
each arithmetic operation rounds its exact result to the nearest double, ties to even: to 53
significant bits, and to a multiple of `2 ^ -1074` below the normal range. The scripts' clock
readings, timeouts and intervals stay far below `2 ^ 1024`, so infinities and NaN are left out.
-/

namespace ParacordFederation

namespace Double

def roundHalfEven (t : ℚ) : ℤ :=
  if 1 < 2 * (t - ⌊t⌋) ∨ (2 * (t - ⌊t⌋) = 1 ∧ ⌊t⌋ % 2 = 1) then ⌊t⌋ + 1 else ⌊t⌋

/-- The exponent of the last bit a double of magnitude `|x|` keeps: 52 bits below its leading
bit, and never below the subnormal unit `2 ^ -1074`. -/
def ulpExponent (x : ℚ) : ℤ := max (Int.log 2 |x| - 52) (-1074)

def roundAt (e : ℤ) (x : ℚ) : ℚ := roundHalfEven (x / 2 ^ e) * 2 ^ e

/-- The double nearest `x`, ties to even: the value of a float literal, and the result of a
float operation whose exact result is `x`. -/
def round (x : ℚ) : ℚ := roundAt (ulpExponent x) x

def add (a b : ℚ) : ℚ := round (a + b)

def sub (a b : ℚ) : ℚ := round (a - b)

def mul (a b : ℚ) : ℚ := round (a * b)

def div (a b : ℚ) : ℚ := round (a / b)

/-! ## The nearest integer -/

theorem roundHalfEven_cases (t : ℚ) :
    (roundHalfEven t = ⌊t⌋ + 1 ∧ (1 < 2 * (t - ⌊t⌋) ∨ (2 * (t - ⌊t⌋) = 1 ∧ ⌊t⌋ % 2 = 1))) ∨
      (roundHalfEven t = ⌊t⌋ ∧ ¬(1 < 2 * (t - ⌊t⌋) ∨ (2 * (t - ⌊t⌋) = 1 ∧ ⌊t⌋ % 2 = 1))) := by
  unfold roundHalfEven
  split_ifs with up
  exacts [.inl ⟨rfl, up⟩, .inr ⟨rfl, up⟩]

theorem roundHalfEven_le_of_le {t : ℚ} {n : ℤ} (le : t ≤ n) : roundHalfEven t ≤ n := by
  have floor := Int.floor_le t
  rcases roundHalfEven_cases t with ⟨rounded, up⟩ | ⟨rounded, -⟩ <;> rw [rounded]
  · have : (⌊t⌋ : ℚ) < n := by rcases up with up | ⟨tie, -⟩ <;> linarith
    exact Int.cast_lt.mp this
  · exact Int.floor_le_iff.mpr (by linarith)

theorem le_roundHalfEven_of_le {t : ℚ} {n : ℤ} (le : (n : ℚ) ≤ t) : n ≤ roundHalfEven t := by
  have : n ≤ ⌊t⌋ := Int.le_floor.mpr le
  rcases roundHalfEven_cases t with ⟨rounded, -⟩ | ⟨rounded, -⟩ <;> omega

@[simp] theorem roundHalfEven_intCast (k : ℤ) : roundHalfEven k = k :=
  le_antisymm (roundHalfEven_le_of_le le_rfl) (le_roundHalfEven_of_le le_rfl)

@[simp] theorem roundHalfEven_zero : roundHalfEven 0 = 0 := by
  simpa using roundHalfEven_intCast 0

theorem roundHalfEven_mono {t u : ℚ} (le : t ≤ u) : roundHalfEven t ≤ roundHalfEven u := by
  rcases (Int.floor_mono le).lt_or_eq with below | same
  · calc roundHalfEven t ≤ ⌊t⌋ + 1 := by
          rcases roundHalfEven_cases t with ⟨rounded, -⟩ | ⟨rounded, -⟩ <;> omega
      _ ≤ ⌊u⌋ := below
      _ ≤ roundHalfEven u := le_roundHalfEven_of_le (Int.floor_le u)
  · rcases roundHalfEven_cases t with ⟨rounded, up⟩ | ⟨rounded, -⟩
    · rcases roundHalfEven_cases u with ⟨roundedU, -⟩ | ⟨-, stays⟩
      · omega
      · -- `u` is at least as far past the floor they share, so it rounds up too
        refine absurd ?_ stays
        rw [← same]
        rcases up with up | ⟨tie, odd⟩
        · exact .inl (by linarith)
        · rcases (show (1 : ℚ) ≤ 2 * (u - ⌊t⌋) by linarith).lt_or_eq with past | half
          exacts [.inl past, .inr ⟨half.symm, odd⟩]
    · rw [rounded, same]
      exact le_roundHalfEven_of_le (Int.floor_le u)

theorem roundHalfEven_eq_of_near {t : ℚ} {k : ℤ} (near : 2 * |t - k| < 1) :
    roundHalfEven t = k := by
  obtain ⟨above, below⟩ := abs_lt.mp (show |t - k| < 1 / 2 by linarith)
  rcases lt_or_le t k with under | over
  · have floor : ⌊t⌋ = k - 1 := Int.floor_eq_iff.mpr (by push_cast; constructor <;> linarith)
    rcases roundHalfEven_cases t with ⟨rounded, -⟩ | ⟨-, stays⟩
    · omega
    · exact absurd (.inl (by rw [floor]; push_cast; linarith)) stays
  · have floor : ⌊t⌋ = k := Int.floor_eq_iff.mpr ⟨over, by linarith⟩
    rcases roundHalfEven_cases t with ⟨-, up⟩ | ⟨rounded, -⟩
    · rw [floor] at up
      rcases up with up | ⟨tie, -⟩ <;> linarith
    · exact rounded.trans floor

/-! ## Rounding to a grid -/

theorem two_zpow_pos (e : ℤ) : (0 : ℚ) < 2 ^ e := zpow_pos two_pos e

theorem two_zpow_grid {e n : ℤ} (le : e ≤ n) : ∃ k : ℤ, (2 : ℚ) ^ n = k * 2 ^ e := by
  refine ⟨2 ^ (n - e).toNat, ?_⟩
  rw [Int.cast_pow, Int.cast_ofNat, ← zpow_natCast, Int.toNat_of_nonneg (by omega),
    ← zpow_add₀ two_ne_zero, sub_add_cancel]

theorem roundAt_mono (e : ℤ) {x y : ℚ} (le : x ≤ y) : roundAt e x ≤ roundAt e y :=
  mul_le_mul_of_nonneg_right
    (Int.cast_le.mpr (roundHalfEven_mono (div_le_div_of_nonneg_right le (two_zpow_pos e).le)))
    (two_zpow_pos e).le

@[simp] theorem roundAt_intCast_mul (e k : ℤ) : roundAt e (k * 2 ^ e) = k * 2 ^ e := by
  simp [roundAt, (two_zpow_pos e).ne']

theorem roundAt_le_of_le {e k : ℤ} {x : ℚ} (le : x ≤ k * 2 ^ e) : roundAt e x ≤ k * 2 ^ e :=
  roundAt_intCast_mul e k ▸ roundAt_mono e le

theorem le_roundAt_of_le {e k : ℤ} {x : ℚ} (le : k * 2 ^ e ≤ x) : k * 2 ^ e ≤ roundAt e x :=
  roundAt_intCast_mul e k ▸ roundAt_mono e le

/-! ## Rounding to a double -/

theorem two_zpow_le_iff {x : ℚ} (pos : 0 < x) (n : ℤ) : (2 : ℚ) ^ n ≤ x ↔ n ≤ Int.log 2 x := by
  simpa using @Int.zpow_le_iff_le_log ℚ _ _ 2 (by norm_num) n x pos

theorem lt_two_zpow_iff {x : ℚ} (pos : 0 < x) (n : ℤ) : x < (2 : ℚ) ^ n ↔ Int.log 2 x < n := by
  simpa using @Int.lt_zpow_iff_log_lt ℚ _ _ 2 (by norm_num) n x pos

theorem log_two_zpow (n : ℤ) : Int.log 2 ((2 : ℚ) ^ n) = n := by
  simpa using @Int.log_zpow ℚ _ _ 2 (by norm_num) n

theorem ulpExponent_mono {x y : ℚ} (pos : 0 < x) (le : x ≤ y) : ulpExponent x ≤ ulpExponent y := by
  have logs : Int.log 2 |x| ≤ Int.log 2 |y| :=
    Int.log_mono_right (abs_pos.mpr pos.ne') (abs_le_abs_of_nonneg pos.le le)
  unfold ulpExponent
  omega

@[simp] theorem round_zero : round 0 = 0 := by
  simpa [round] using roundAt_intCast_mul (ulpExponent 0) 0

theorem round_nonneg {x : ℚ} (nonneg : 0 ≤ x) : 0 ≤ round x := by
  simpa using le_roundAt_of_le (show ((0 : ℤ) : ℚ) * 2 ^ ulpExponent x ≤ x by simpa using nonneg)

theorem round_mono {x y : ℚ} (nonneg : 0 ≤ x) (le : x ≤ y) : round x ≤ round y := by
  rcases nonneg.eq_or_lt with rfl | pos
  · rw [round_zero]
    exact round_nonneg le
  have posY := pos.trans_le le
  rcases (ulpExponent_mono pos le).eq_or_lt with same | coarser
  · unfold round
    rw [same]
    exact roundAt_mono _ le
  -- the leading bit `2 ^ L` of `y` lies between `x` and `y`, on the grids of both
  simp only [round, ulpExponent, abs_of_pos pos, abs_of_pos posY] at coarser ⊢
  have below : x < 2 ^ Int.log 2 y := (lt_two_zpow_iff pos _).mpr (by omega)
  obtain ⟨k, onX⟩ := two_zpow_grid (show max (Int.log 2 x - 52) (-1074) ≤ Int.log 2 y by omega)
  obtain ⟨j, onY⟩ := two_zpow_grid (show max (Int.log 2 y - 52) (-1074) ≤ Int.log 2 y by omega)
  calc roundAt _ x ≤ 2 ^ Int.log 2 y := onX ▸ roundAt_le_of_le (onX ▸ below.le)
    _ ≤ roundAt _ y := onY ▸ le_roundAt_of_le (onY ▸ (two_zpow_le_iff posY _).mpr le_rfl)

theorem round_of_grid {x : ℚ} {e k : ℤ} (normal : -1074 ≤ e) (grid : x = k * 2 ^ e)
    (small : |x| < 2 ^ (e + 53)) : round x = x := by
  rcases (abs_nonneg x).eq_or_lt with zero | pos
  · rw [abs_eq_zero.mp zero.symm, round_zero]
  have exponent : ulpExponent x ≤ e := by
    have := (lt_two_zpow_iff pos _).mp small
    unfold ulpExponent
    omega
  obtain ⟨m, coarse⟩ := two_zpow_grid exponent
  show roundAt (ulpExponent x) x = x
  generalize ulpExponent x = e' at coarse
  rw [grid, coarse, ← mul_assoc, ← Int.cast_mul, roundAt_intCast_mul]

theorem round_round {x : ℚ} (nonneg : 0 ≤ x) : round (round x) = round x := by
  rcases nonneg.eq_or_lt with rfl | pos
  · simp
  have normal : -1074 ≤ ulpExponent x := le_max_right _ _
  -- the significand is at most `2 ^ 53`
  have small : |round x| ≤ 2 ^ (ulpExponent x + 53) := by
    obtain ⟨k, wide⟩ := two_zpow_grid (show ulpExponent x ≤ ulpExponent x + 53 by omega)
    rw [abs_of_nonneg (round_nonneg nonneg), wide]
    refine roundAt_le_of_le (wide ▸ ((lt_two_zpow_iff pos _).mpr ?_).le)
    simp only [ulpExponent, abs_of_pos pos]; omega
  rcases small.lt_or_eq with inside | carried
  · exact round_of_grid normal rfl inside
  · -- a significand of `2 ^ 53` carries into the next binade, where it is `2 ^ 52`
    refine @round_of_grid _ (ulpExponent x + 1) (2 ^ 52) (by omega) ?_ ?_
    · rw [← abs_of_nonneg (round_nonneg nonneg), carried,
        show ulpExponent x + 53 = 52 + (ulpExponent x + 1) by ring, zpow_add₀ two_ne_zero]
      norm_num
    · rw [carried, lt_two_zpow_iff (two_zpow_pos _), log_two_zpow]
      omega

/-- Where a value lies fixes the double it rounds to: `2 ^ (e + 52) ≤ |x| < 2 ^ (e + 53)`, or
`x` below the normal range and `e = -1074`, and `x / 2 ^ e` within a half of `k`. -/
theorem round_eq {x : ℚ} {e k : ℤ} (normal : -1074 ≤ e) (lo : 2 ^ (e + 52) ≤ |x| ∨ e = -1074)
    (hi : |x| < 2 ^ (e + 53)) (near : 2 * |x / 2 ^ e - k| < 1) : round x = k * 2 ^ e := by
  rcases (abs_nonneg x).eq_or_lt with zero | pos
  · obtain rfl : x = 0 := abs_eq_zero.mp zero.symm
    obtain rfl : k = 0 := by simpa using (roundHalfEven_eq_of_near near).symm
    simp
  · have exponent : ulpExponent x = e := by
      have below := (lt_two_zpow_iff pos _).mp hi
      unfold ulpExponent
      rcases lo with lo | subnormal
      · have := (two_zpow_le_iff pos _).mp lo
        omega
      · omega
    rw [round, exponent, roundAt, roundHalfEven_eq_of_near near]

theorem round_intCast (k : ℤ) (small : |k| < 2 ^ 53) : round k = k := by
  refine round_of_grid (by norm_num : (-1074 : ℤ) ≤ 0) (show (k : ℚ) = k * 2 ^ (0 : ℤ) by simp) ?_
  norm_num
  exact_mod_cast small

theorem le_round_of_le {d x : ℚ} (nonneg : 0 ≤ d) (exact : round d = d) (le : d ≤ x) :
    d ≤ round x :=
  exact ▸ round_mono nonneg le

theorem lt_of_round_lt {d x : ℚ} (nonneg : 0 ≤ d) (exact : round d = d) (below : round x < d) :
    x < d :=
  lt_of_not_le fun le => absurd (le_round_of_le nonneg exact le) (not_le.mpr below)

end Double

end ParacordFederation
