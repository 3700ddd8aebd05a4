import SchemaCompiler.Decimal
import SchemaCompiler.Proofs.Decimal.Rounding

/-!
# Shortest decimals read back

A float is written as a decimal that is read back as the float, on as coarse a power of ten as there
is one; of two such decimals the nearer one is written. This is said without a search
(`Decimal.IsShortest`).

The search goes through the powers of ten one by one. Of the multiples of one of them, two can be
the nearest to a float: the one below it and the next one. If neither is read back, no multiple is
(`onGrid_cases`). The first power of ten lies above the interval of the float (`highEnd_lt_start`),
and the last one is so fine that a multiple lies inside (`last_le_quarter`). So the search ends at
the coarsest power of ten, and what it finds has no zeros to be trimmed.
-/

namespace SchemaCompiler

/-- A tie between two digits is settled in favour of the first ones. -/
def Tie.Settles (tie : Tie) (taken other : ℕ) : Prop :=
  match tie with
  | .even => taken % 2 = 0
  | .larger => other < taken

namespace Tie

theorem settles_of_takesSmaller {tie : Tie} {smaller : ℕ} (takes : tie.takesSmaller smaller) :
    tie.Settles smaller (smaller + 1) := by
  cases tie with
  | even => simpa [takesSmaller, Settles] using takes
  | larger => cases takes

theorem settles_of_not_takesSmaller {tie : Tie} {smaller : ℕ}
    (passes : ¬tie.takesSmaller smaller) : tie.Settles (smaller + 1) smaller := by
  cases tie with
  | even =>
      have odd : smaller % 2 ≠ 0 := by simpa [takesSmaller] using passes
      change (smaller + 1) % 2 = 0
      omega
  | larger => exact Nat.lt_succ_self smaller

end Tie

namespace Decimal

/-- The number that a decimal stands for. -/
def value (decimal : Decimal) : ℚ :=
  decimal.digits * 10 ^ decimal.exponent

/-- A multiple of a power of ten is nearer to a number than another one, or as near and preferred in
a tie. -/
def Prefers (tie : Tie) (number : ℚ) (exponent : ℤ) (taken other : ℕ) : Prop :=
  |value ⟨taken, exponent⟩ - number| < |value ⟨other, exponent⟩ - number| ∨
    |value ⟨taken, exponent⟩ - number| = |value ⟨other, exponent⟩ - number| ∧
      tie.Settles taken other

/-- The decimal that stands for `mantissa * 2 ^ scale` in text. It is read back as this number, and
so is no multiple of a higher power of ten. Of the multiples of its own power of ten that are read
back, it is the nearest. -/
structure IsShortest (tie : Tie) (mantissa : ℕ) (scale : ℤ) (decimal : Decimal) : Prop where
  rounds : RoundsTo decimal.value mantissa scale
  coarsest : ∀ other : Decimal, RoundsTo other.value mantissa scale →
    other.exponent ≤ decimal.exponent
  nearest : ∀ digits ≠ decimal.digits,
    RoundsTo (value ⟨digits, decimal.exponent⟩) mantissa scale →
      Prefers tie (mantissa * 2 ^ scale) decimal.exponent decimal.digits digits

/-! ## Neighbours on a grid -/

variable {tie : Tie} {mantissa : ℕ} {scale grid : ℤ} {below multiple other : ℕ}

theorem value_lt_value (multiple_lt : multiple < other) :
    value ⟨multiple, grid⟩ < value ⟨other, grid⟩ := by
  simp only [value]
  gcongr

theorem value_le_value (multiple_le : multiple ≤ other) :
    value ⟨multiple, grid⟩ ≤ value ⟨other, grid⟩ := by
  simp only [value]
  gcongr

/-- A multiple and the next one have a number between them. -/
structure IsBelow (number : ℚ) (grid : ℤ) (below : ℕ) : Prop where
  below_le : value ⟨below, grid⟩ ≤ number
  lt_above : number < value ⟨below + 1, grid⟩

/-- Of the multiples of a power of ten in the interval of a float, one is preferred. -/
structure IsNearest (tie : Tie) (mantissa : ℕ) (scale grid : ℤ) (multiple : ℕ) : Prop where
  range : InRange mantissa scale (value ⟨multiple, grid⟩)
  nearest : ∀ other ≠ multiple, InRange mantissa scale (value ⟨other, grid⟩) →
    Prefers tie (mantissa * 2 ^ scale) grid multiple other

namespace IsBelow

variable {number : ℚ}

theorem distance_of_le (isBelow : IsBelow number grid below) (le_below : multiple ≤ below) :
    |value ⟨multiple, grid⟩ - number| = number - value ⟨multiple, grid⟩ := by
  have multiple_le := (value_le_value le_below).trans isBelow.below_le
  rw [abs_sub_comm, abs_of_nonneg (sub_nonneg.mpr multiple_le)]

theorem distance_of_lt (isBelow : IsBelow number grid below) (below_lt : below < multiple) :
    |value ⟨multiple, grid⟩ - number| = value ⟨multiple, grid⟩ - number := by
  have le_multiple := isBelow.lt_above.le.trans (value_le_value below_lt)
  rw [abs_of_nonneg (sub_nonneg.mpr le_multiple)]

/-- Among the multiples on one side of a number, the first one is the nearest. -/
theorem prefers_below (isBelow : IsBelow number grid below) (other_lt : other < below) :
    |value ⟨below, grid⟩ - number| < |value ⟨other, grid⟩ - number| := by
  have farther : value ⟨other, grid⟩ < value ⟨below, grid⟩ := value_lt_value other_lt
  rw [isBelow.distance_of_le le_rfl, isBelow.distance_of_le other_lt.le]
  linarith

theorem prefers_above (isBelow : IsBelow number grid below) (above_lt : below + 1 < other) :
    |value ⟨below + 1, grid⟩ - number| < |value ⟨other, grid⟩ - number| := by
  have farther : value ⟨below + 1, grid⟩ < value ⟨other, grid⟩ := value_lt_value above_lt
  rw [isBelow.distance_of_lt (Nat.lt_succ_self below),
    isBelow.distance_of_lt ((Nat.lt_succ_self below).trans above_lt)]
  linarith

end IsBelow

section

variable (normalized : IsNormalized mantissa scale)
  (isBelow : IsBelow (mantissa * 2 ^ scale) grid below)
include normalized isBelow

/-- If a multiple below a float is read back, so is the one next to the float. -/
theorem inRange_below (le_below : multiple ≤ below)
    (range : InRange mantissa scale (value ⟨multiple, grid⟩)) :
    InRange mantissa scale (value ⟨below, grid⟩) :=
  range.between normalized.inRange_value (value_le_value le_below) isBelow.below_le

theorem inRange_above (below_lt : below < multiple)
    (range : InRange mantissa scale (value ⟨multiple, grid⟩)) :
    InRange mantissa scale (value ⟨below + 1, grid⟩) :=
  normalized.inRange_value.between range isBelow.lt_above.le (value_le_value below_lt)

theorem isNearest_below (range : InRange mantissa scale (value ⟨below, grid⟩))
    (prefers : InRange mantissa scale (value ⟨below + 1, grid⟩) →
      Prefers tie (mantissa * 2 ^ scale) grid below (below + 1)) :
    IsNearest tie mantissa scale grid below := by
  refine ⟨range, fun other other_ne other_range => ?_⟩
  rcases Nat.lt_or_gt_of_ne other_ne with lower | higher
  · exact .inl (isBelow.prefers_below lower)
  · have prefers := prefers (inRange_above normalized isBelow higher other_range)
    rcases Nat.eq_or_lt_of_le higher with rfl | beyond
    · exact prefers
    · have farther := isBelow.prefers_above beyond
      exact .inl (prefers.elim (·.trans farther) fun tie => tie.1.trans_lt farther)

theorem isNearest_above (range : InRange mantissa scale (value ⟨below + 1, grid⟩))
    (prefers : InRange mantissa scale (value ⟨below, grid⟩) →
      Prefers tie (mantissa * 2 ^ scale) grid (below + 1) below) :
    IsNearest tie mantissa scale grid (below + 1) := by
  refine ⟨range, fun other other_ne other_range => ?_⟩
  rcases Nat.lt_or_gt_of_ne other_ne with lower | higher
  · have le_below := Nat.le_of_lt_succ lower
    have prefers := prefers (inRange_below normalized isBelow le_below other_range)
    rcases Nat.eq_or_lt_of_le le_below with rfl | beyond
    · exact prefers
    · have farther := isBelow.prefers_below beyond
      exact .inl (prefers.elim (·.trans farther) fun tie => tie.1.trans_lt farther)
  · exact .inl (isBelow.prefers_above higher)

end

/-! ## Powers of two and of ten -/

section Units

/-- A quarter of the scale, in units in which the power of ten is whole as well. -/
def quarterUnits (scale grid : ℤ) : ℕ :=
  2 ^ (scale - 2).toNat * 10 ^ (-grid).toNat

/-- The power of ten in the same units. -/
def gridUnits (scale grid : ℤ) : ℕ :=
  10 ^ grid.toNat * 2 ^ (2 - scale).toNat

variable {scale grid : ℤ} {quarters multiple : ℕ}

theorem zpow_mul_pow_toNat_neg {base : ℚ} (base_ne : base ≠ 0) (exponent : ℤ) :
    base ^ exponent * base ^ (-exponent).toNat = base ^ exponent.toNat := by
  rw [← zpow_natCast, ← zpow_natCast, ← zpow_add₀ base_ne]
  congr 1
  omega

theorem gridUnits_pos (scale grid : ℤ) : 0 < gridUnits scale grid := by
  rw [gridUnits]
  positivity

/-- The size of a unit. -/
def unitSize (scale grid : ℤ) : ℚ :=
  10 ^ grid / gridUnits scale grid

theorem unitSize_pos (scale grid : ℤ) : 0 < unitSize scale grid :=
  div_pos (by positivity) (Nat.cast_pos.mpr (gridUnits_pos scale grid))

theorem gridUnits_mul_unitSize (scale grid : ℤ) :
    gridUnits scale grid * unitSize scale grid = 10 ^ grid :=
  mul_div_cancel₀ _ (Nat.cast_ne_zero.mpr (gridUnits_pos scale grid).ne')

theorem quarterUnits_mul_unitSize (scale grid : ℤ) :
    quarterUnits scale grid * unitSize scale grid = 2 ^ (scale - 2) := by
  have twos := zpow_mul_pow_toNat_neg (show (2 : ℚ) ≠ 0 by norm_num) (scale - 2)
  have tens := zpow_mul_pow_toNat_neg (show (10 : ℚ) ≠ 0 by norm_num) grid
  rw [neg_sub] at twos
  rw [unitSize, mul_div_assoc', div_eq_iff (Nat.cast_ne_zero.mpr (gridUnits_pos scale grid).ne'),
    gridUnits, quarterUnits]
  push_cast
  rw [← twos, ← tens]
  ring

theorem quarters_le_multiple_iff :
    quarters * quarterUnits scale grid ≤ multiple * gridUnits scale grid ↔
      (quarters : ℚ) * 2 ^ (scale - 2) ≤ value ⟨multiple, grid⟩ := by
  rw [value, ← quarterUnits_mul_unitSize scale grid, ← gridUnits_mul_unitSize scale grid,
    ← mul_assoc, ← mul_assoc, mul_le_mul_iff_left₀ (unitSize_pos scale grid)]
  exact_mod_cast Iff.rfl

theorem multiple_le_quarters_iff :
    multiple * gridUnits scale grid ≤ quarters * quarterUnits scale grid ↔
      value ⟨multiple, grid⟩ ≤ (quarters : ℚ) * 2 ^ (scale - 2) := by
  rw [value, ← quarterUnits_mul_unitSize scale grid, ← gridUnits_mul_unitSize scale grid,
    ← mul_assoc, ← mul_assoc, mul_le_mul_iff_left₀ (unitSize_pos scale grid)]
  exact_mod_cast Iff.rfl

/-- The neighbour below a float is found by a division. -/
theorem isBelow_div (mantissa : ℕ) (scale grid : ℤ) :
    IsBelow (mantissa * 2 ^ scale) grid
      (4 * mantissa * quarterUnits scale grid / gridUnits scale grid) := by
  rw [value_eq_quarters]
  refine ⟨multiple_le_quarters_iff.mp (Nat.div_mul_le_self _ _), ?_⟩
  rw [← not_le, ← multiple_le_quarters_iff, not_le]
  exact (Nat.div_lt_iff_lt_mul (gridUnits_pos scale grid)).mp (Nat.lt_succ_self _)

/-- The comparisons in units tell whether a multiple is read back. -/
theorem inside_iff {mantissa : ℕ} : (if mantissa % 2 = 0 then
      decide (lowQuarters mantissa scale * quarterUnits scale grid ≤
          multiple * gridUnits scale grid) &&
        decide (multiple * gridUnits scale grid ≤ (4 * mantissa + 2) * quarterUnits scale grid)
    else
      decide (lowQuarters mantissa scale * quarterUnits scale grid <
          multiple * gridUnits scale grid) &&
        decide (multiple * gridUnits scale grid < (4 * mantissa + 2) * quarterUnits scale grid)) ↔
      InRange mantissa scale (value ⟨multiple, grid⟩) := by
  rw [InRange, lowEnd, highEnd]
  split
  · rw [Bool.and_eq_true, decide_eq_true_eq, decide_eq_true_eq, quarters_le_multiple_iff,
      multiple_le_quarters_iff]
  · rw [Bool.and_eq_true, decide_eq_true_eq, decide_eq_true_eq, ← not_le, ← not_le,
      quarters_le_multiple_iff, multiple_le_quarters_iff, not_le, not_le]

end Units

/-! ## One grid -/

section Distances

variable (isBelow : IsBelow (mantissa * 2 ^ scale) grid below)
include isBelow

/-- The distance to the neighbour below, in units. -/
theorem downward_mul_unitSize :
    (4 * mantissa * quarterUnits scale grid - below * gridUnits scale grid : ℕ) *
        unitSize scale grid = |value ⟨below, grid⟩ - mantissa * 2 ^ scale| := by
  have below_le : below * gridUnits scale grid ≤ 4 * mantissa * quarterUnits scale grid :=
    multiple_le_quarters_iff.mpr (value_eq_quarters mantissa scale ▸ isBelow.below_le)
  rw [isBelow.distance_of_le le_rfl, Nat.cast_sub below_le, sub_mul, value,
    value_eq_quarters mantissa scale, ← quarterUnits_mul_unitSize scale grid,
    ← gridUnits_mul_unitSize scale grid]
  push_cast
  ring

/-- The distance to the neighbour above, in units. -/
theorem upward_mul_unitSize :
    ((below + 1) * gridUnits scale grid - 4 * mantissa * quarterUnits scale grid : ℕ) *
        unitSize scale grid = |value ⟨below + 1, grid⟩ - mantissa * 2 ^ scale| := by
  have le_above : 4 * mantissa * quarterUnits scale grid ≤ (below + 1) * gridUnits scale grid :=
    quarters_le_multiple_iff.mpr (value_eq_quarters mantissa scale ▸ isBelow.lt_above.le)
  rw [isBelow.distance_of_lt (Nat.lt_succ_self below), Nat.cast_sub le_above, sub_mul, value,
    value_eq_quarters mantissa scale, ← quarterUnits_mul_unitSize scale grid,
    ← gridUnits_mul_unitSize scale grid]
  push_cast
  ring

theorem nearer_below_iff :
    4 * mantissa * quarterUnits scale grid - below * gridUnits scale grid <
        (below + 1) * gridUnits scale grid - 4 * mantissa * quarterUnits scale grid ↔
      |value ⟨below, grid⟩ - mantissa * 2 ^ scale| <
        |value ⟨below + 1, grid⟩ - mantissa * 2 ^ scale| := by
  rw [← downward_mul_unitSize isBelow, ← upward_mul_unitSize isBelow,
    mul_lt_mul_iff_left₀ (unitSize_pos scale grid), Nat.cast_lt]

theorem equally_near_iff :
    4 * mantissa * quarterUnits scale grid - below * gridUnits scale grid =
        (below + 1) * gridUnits scale grid - 4 * mantissa * quarterUnits scale grid ↔
      |value ⟨below, grid⟩ - mantissa * 2 ^ scale| =
        |value ⟨below + 1, grid⟩ - mantissa * 2 ^ scale| := by
  rw [← downward_mul_unitSize isBelow, ← upward_mul_unitSize isBelow,
    mul_left_inj' (unitSize_pos scale grid).ne', Nat.cast_inj]

end Distances

/-- No float but zero is read from zero. -/
theorem digits_pos_of_inRange (normalized : IsNormalized mantissa scale) {decimal : Decimal}
    (range : InRange mantissa scale decimal.value) : 0 < decimal.digits := by
  have value_pos := normalized.lowEnd_pos.trans_le range.bounds.1
  by_contra zero
  rw [value, Nat.eq_zero_of_not_pos zero] at value_pos
  simp at value_pos

/-- On each power of ten, the nearest multiple that is read back is found, if there is one. -/
theorem onGrid_cases (normalized : IsNormalized mantissa scale) (tie : Tie) (grid : ℤ) :
    (onGrid tie mantissa scale grid = none ∧
        ∀ multiple : ℕ, ¬InRange mantissa scale (value ⟨multiple, grid⟩)) ∨
      ∃ multiple, onGrid tie mantissa scale grid = some multiple ∧
        IsNearest tie mantissa scale grid multiple := by
  unfold onGrid
  extract_lets narrow factor unit middle low high inside below above belowFits downward upward
  have isBelow : IsBelow (mantissa * 2 ^ scale) grid below := isBelow_div mantissa scale grid
  have inside_iff (multiple : ℕ) :
      inside multiple ↔ InRange mantissa scale (value ⟨multiple, grid⟩) := inside_iff
  have fits_iff : belowFits ↔ InRange mantissa scale (value ⟨below, grid⟩) := by
    simp only [belowFits, Bool.and_eq_true, decide_eq_true_eq, inside_iff]
    exact ⟨And.right, fun range => ⟨digits_pos_of_inRange normalized range, range⟩⟩
  have nearer_iff : downward < upward ↔
      |value ⟨below, grid⟩ - mantissa * 2 ^ scale| <
        |value ⟨above, grid⟩ - mantissa * 2 ^ scale| := nearer_below_iff isBelow
  have tied_iff : downward = upward ↔
      |value ⟨below, grid⟩ - mantissa * 2 ^ scale| =
        |value ⟨above, grid⟩ - mantissa * 2 ^ scale| := equally_near_iff isBelow
  clear_value belowFits inside downward upward
  have inside_above := inside_iff above
  split
  · -- Both neighbours are read back, so their distances decide, and then the tie.
    rename_i both
    rw [Bool.and_eq_true, fits_iff, inside_above] at both
    right
    split
    · rename_i smaller
      refine ⟨below, rfl, isNearest_below normalized isBelow both.1 fun _ => ?_⟩
      rw [Bool.or_eq_true, Bool.and_eq_true, decide_eq_true_eq, decide_eq_true_eq] at smaller
      exact smaller.imp nearer_iff.mp fun tie =>
        ⟨tied_iff.mp tie.1, Tie.settles_of_takesSmaller tie.2⟩
    · rename_i larger
      refine ⟨above, rfl, isNearest_above normalized isBelow both.2 fun _ => ?_⟩
      rw [Bool.or_eq_true, Bool.and_eq_true, decide_eq_true_eq, decide_eq_true_eq, not_or,
        nearer_iff, tied_iff, not_lt] at larger
      rcases larger.1.lt_or_eq with nearer | tied
      · exact .inl nearer
      · exact .inr ⟨tied, Tie.settles_of_not_takesSmaller fun takes =>
          larger.2 ⟨tied.symm, takes⟩⟩
  · -- One neighbour at most is read back, and nothing else is if neither of them is.
    rename_i notBoth
    rw [Bool.and_eq_true, fits_iff, inside_above, not_and] at notBoth
    split
    · rename_i fits
      have below_range := fits_iff.mp fits
      exact .inr ⟨below, rfl, isNearest_below normalized isBelow below_range
        fun above_range => absurd above_range (notBoth below_range)⟩
    · rename_i notBelow
      rw [fits_iff] at notBelow
      split
      · rename_i fits
        exact .inr ⟨above, rfl, isNearest_above normalized isBelow (inside_above.mp fits)
          fun below_range => absurd below_range notBelow⟩
      · rename_i notAbove
        rw [inside_above] at notAbove
        refine .inl ⟨rfl, fun multiple range => ?_⟩
        rcases Nat.lt_or_ge below multiple with higher | lower
        · exact notAbove (inRange_above normalized isBelow higher range)
        · exact notBelow (inRange_below normalized isBelow lower range)

/-! ## Logarithms -/

theorem pow_le_pow_of_ratio {first second p q m n : ℕ} (p_ne : p ≠ 0) (second_pos : 0 < second)
    (base : first ^ p ≤ second ^ q) (ratio : q * m ≤ p * n) : first ^ m ≤ second ^ n := by
  have powers : (first ^ m) ^ p ≤ (second ^ n) ^ p := by
    calc (first ^ m) ^ p = (first ^ p) ^ m := pow_right_comm first m p
      _ ≤ (second ^ q) ^ m := Nat.pow_le_pow_left base m
      _ = second ^ (q * m) := (pow_mul second q m).symm
      _ ≤ second ^ (p * n) := Nat.pow_le_pow_right second_pos ratio
      _ = (second ^ n) ^ p := by rw [mul_comm, pow_mul]
  exact (Nat.pow_le_pow_iff_left p_ne).mp powers

-- The exponents are written as products, as the powers themselves are too large to be evaluated.
theorem two_pow_le_ten_pow {twos tens : ℕ} (ratio : 146 * twos ≤ 485 * tens) :
    2 ^ twos ≤ 10 ^ tens := by
  have base : 2 ^ (97 * 5) ≤ 10 ^ (73 * 2) := by
    rw [pow_mul, pow_mul]
    decide +kernel
  exact pow_le_pow_of_ratio (by decide) (by decide) base (by omega)

theorem ten_pow_le_two_pow {twos tens : ℕ} (ratio : 2136 * tens ≤ 643 * twos) :
    10 ^ tens ≤ 2 ^ twos := by
  have base : 10 ^ (3 + 160 * 4) ≤ 2 ^ (178 * 12) := by
    rw [pow_add, pow_mul, pow_mul]
    decide +kernel
  exact pow_le_pow_of_ratio (by decide) (by decide) base (by omega)

theorem two_zpow_le_ten_zpow {twos tens : ℤ} (upward : 0 ≤ twos → 146 * twos ≤ 485 * tens)
    (downward : twos < 0 → 643 * twos ≤ 2136 * tens) : (2 : ℚ) ^ twos ≤ 10 ^ tens := by
  rcases le_or_gt 0 twos with nonneg | neg
  · have := upward nonneg
    lift twos to ℕ using nonneg
    lift tens to ℕ using (by omega)
    exact_mod_cast two_pow_le_ten_pow (by omega)
  · have := downward neg
    rcases le_or_gt 0 tens with tens_nonneg | tens_neg
    · exact (zpow_le_one_of_nonpos₀ (by norm_num) neg.le).trans
        (one_le_zpow₀ (by norm_num) tens_nonneg)
    · obtain ⟨twos, rfl⟩ := Int.exists_eq_neg_ofNat neg.le
      obtain ⟨tens, rfl⟩ := Int.exists_eq_neg_ofNat tens_neg.le
      rw [zpow_neg, zpow_neg, inv_le_inv₀ (by positivity) (by positivity)]
      exact_mod_cast ten_pow_le_two_pow (by omega)

theorem ten_zpow_le_two_zpow {twos tens : ℤ} (upward : 0 ≤ twos → 2136 * tens ≤ 643 * twos)
    (downward : twos < 0 → 485 * tens ≤ 146 * twos) : (10 : ℚ) ^ tens ≤ 2 ^ twos := by
  rcases le_or_gt 0 twos with nonneg | neg
  · have := upward nonneg
    rcases le_or_gt 0 tens with tens_nonneg | tens_neg
    · lift twos to ℕ using nonneg
      lift tens to ℕ using tens_nonneg
      exact_mod_cast ten_pow_le_two_pow (by omega)
    · exact (zpow_le_one_of_nonpos₀ (by norm_num) tens_neg.le).trans
        (one_le_zpow₀ (by norm_num) nonneg)
  · have := downward neg
    obtain ⟨twos, rfl⟩ := Int.exists_eq_neg_ofNat neg.le
    obtain ⟨tens, rfl⟩ := Int.exists_eq_neg_ofNat (show tens ≤ 0 by omega)
    rw [zpow_neg, zpow_neg, inv_le_inv₀ (by positivity) (by positivity)]
    exact_mod_cast two_pow_le_ten_pow (by omega)

/-! ## The search -/

/-- The power of ten at which the search starts. -/
def start (mantissa : ℕ) (scale : ℤ) : ℤ :=
  ((mantissa.log2 : ℤ) + 1 + scale) * 30103 / 100000 + 1

theorem log2_lt (normalized : IsNormalized mantissa scale) : mantissa.log2 < 53 :=
  (Nat.log2_lt normalized.mantissa_pos.ne').mpr normalized.mantissa_lt

/-- The interval of a float lies below the power of ten at which the search starts. -/
theorem highEnd_lt_start (normalized : IsNormalized mantissa scale) :
    highEnd mantissa scale < 10 ^ start mantissa scale := by
  have length_lt := log2_lt normalized
  have := normalized.scale_ge
  have := normalized.scale_le
  calc highEnd mantissa scale < (mantissa + 1 : ℕ) * 2 ^ scale := by
        rw [highEnd, value_eq_quarters (mantissa + 1) scale]
        gcongr
        omega
    _ ≤ (2 ^ (mantissa.log2 + 1) : ℕ) * 2 ^ scale := by
        gcongr
        exact Nat.lt_log2_self
    _ = 2 ^ ((mantissa.log2 : ℤ) + 1 + scale) := by
        rw [zpow_add₀ (by norm_num)]
        norm_cast
    _ ≤ 10 ^ start mantissa scale := by
        apply two_zpow_le_ten_zpow
        · rw [start]
          omega
        · rw [start]
          omega

/-- The search ends at a power of ten that is not above a quarter of the scale. -/
theorem last_le_quarter (normalized : IsNormalized mantissa scale) :
    (10 : ℚ) ^ (start mantissa scale - 23) ≤ 2 ^ (scale - 2) := by
  have length_lt := log2_lt normalized
  have := normalized.scale_ge
  have := normalized.scale_le
  apply ten_zpow_le_two_zpow
  · rw [start]
    omega
  · rw [start]
    omega

theorem exists_onGrid_at_end (normalized : IsNormalized mantissa scale) (tie : Tie) :
    ∃ multiple, onGrid tie mantissa scale (start mantissa scale - 23) = some multiple := by
  have isBelow := isBelow_div mantissa scale (start mantissa scale - 23)
  generalize 4 * mantissa * _ / _ = below at isBelow
  have quarter_le := last_le_quarter normalized
  have above_eq : value ⟨below + 1, start mantissa scale - 23⟩ =
      value ⟨below, start mantissa scale - 23⟩ + 10 ^ (start mantissa scale - 23) := by
    simp only [value]
    push_cast
    ring
  have low_le : lowEnd mantissa scale + 2 ^ (scale - 2) ≤ mantissa * 2 ^ scale := by
    have low_lt := normalized.lowQuarters_bounds.2
    rw [lowEnd, ← add_one_mul, value_eq_quarters mantissa scale]
    gcongr
    exact_mod_cast low_lt
  have range : InRange mantissa scale (value ⟨below, start mantissa scale - 23⟩) := by
    apply IsNormalized.inRange_of_lt
    · linarith [isBelow.lt_above]
    · linarith [isBelow.below_le, IsNormalized.lt_highEnd mantissa scale]
  rcases onGrid_cases normalized tie (start mantissa scale - 23) with
    ⟨-, outside⟩ | ⟨multiple, found, -⟩
  · exact absurd range (outside below)
  · exact ⟨multiple, found⟩

theorem trimmed_of_mod_ne_zero {decimal : Decimal} (last_ne : decimal.digits % 10 ≠ 0)
    (fuel : ℕ) : trimmed fuel decimal = decimal := by
  cases fuel with
  | zero => rfl
  | succ fuel => rw [trimmed, if_neg fun zero => last_ne zero.2]

theorem exists_of_findSome?_range {α : Type} {f : ℕ → Option α} {count : ℕ} {result : α}
    (found : (List.range count).findSome? f = some result) :
    ∃ step, f step = some result ∧ ∀ earlier < step, f earlier = none := by
  obtain ⟨before, step, after, range_eq, at_step, none_before⟩ :=
    List.findSome?_eq_some_iff.mp found
  rw [List.range_eq_range', List.range'_eq_append_iff] at range_eq
  obtain ⟨step, -, rfl, from_step⟩ := range_eq
  obtain ⟨rfl, -⟩ := List.range'_eq_cons_iff.mp from_step.symm
  exact ⟨_, at_step, fun earlier earlier_lt => none_before earlier (by simpa using earlier_lt)⟩

/-- The search finds the first power of ten with a multiple that is read back. -/
theorem exists_shortest (normalized : IsNormalized mantissa scale) (tie : Tie) :
    ∃ step digits : ℕ, shortest tie mantissa scale =
        trimmed 24 ⟨digits, start mantissa scale - step⟩ ∧
      onGrid tie mantissa scale (start mantissa scale - step) = some digits ∧
      ∀ earlier : ℕ, earlier < step →
        onGrid tie mantissa scale (start mantissa scale - earlier) = none := by
  unfold shortest
  rw [if_neg normalized.mantissa_pos.ne']
  extract_lets first grids found
  have first_eq : first = start mantissa scale := rfl
  have found_eq : found = (List.range 24).findSome? fun step : ℕ =>
      (onGrid tie mantissa scale (first - step)).map fun multiple => ⟨multiple, first - step⟩ :=
    List.findSome?_map
  clear_value found
  cases result : found with
  | none =>
      obtain ⟨multiple, at_end⟩ := exists_onGrid_at_end normalized tie
      rw [found_eq, List.findSome?_eq_none_iff] at result
      simpa [first_eq, at_end] using result 23 (by simp)
  | some decimal =>
      rw [found_eq] at result
      obtain ⟨step, at_step, none_before⟩ := exists_of_findSome?_range result
      obtain ⟨digits, found_digits, rfl⟩ := Option.map_eq_some_iff.mp at_step
      exact ⟨step, digits, rfl, found_digits, fun earlier earlier_lt =>
        Option.map_eq_none_iff.mp (none_before earlier earlier_lt)⟩

/-! ## The decimal that is found -/

theorem value_ten_mul (digits : ℕ) (exponent : ℤ) :
    value ⟨10 * digits, exponent⟩ = value ⟨digits, exponent + 1⟩ := by
  simp only [value]
  rw [zpow_add_one₀ (by norm_num)]
  push_cast
  ring

/-- A last digit of zero would put the decimal on a coarser grid. -/
theorem IsShortest.last_ne {decimal : Decimal} (shortest : IsShortest tie mantissa scale decimal) :
    decimal.digits % 10 ≠ 0 := by
  intro last
  obtain ⟨multiple, digits_eq⟩ := Nat.dvd_of_mod_eq_zero last
  have value_eq : decimal.value = value ⟨multiple, decimal.exponent + 1⟩ := by
    rw [← value_ten_mul, ← digits_eq]
  have exponent_le : decimal.exponent + 1 ≤ decimal.exponent :=
    shortest.coarsest _ (value_eq ▸ shortest.rounds)
  omega

/-- No multiple of a power of ten above the start is read back. -/
theorem exponent_le_start (normalized : IsNormalized mantissa scale) {decimal : Decimal}
    (range : InRange mantissa scale decimal.value) : decimal.exponent ≤ start mantissa scale := by
  by_contra beyond
  have digits_pos := digits_pos_of_inRange normalized range
  have start_le : (10 : ℚ) ^ start mantissa scale ≤ decimal.value := by
    calc (10 : ℚ) ^ start mantissa scale ≤ 10 ^ decimal.exponent :=
          zpow_le_zpow_right₀ (by norm_num) (by omega)
      _ ≤ decimal.value := le_mul_of_one_le_left (by positivity) (by exact_mod_cast digits_pos)
  linarith [highEnd_lt_start normalized, range.bounds.2]

/-- The search finds the shortest decimal. -/
theorem isShortest_shortest (normalized : IsNormalized mantissa scale) (tie : Tie) :
    IsShortest tie mantissa scale (shortest tie mantissa scale) := by
  obtain ⟨step, digits, shortest_eq, at_step, none_before⟩ := exists_shortest normalized tie
  have nearest : IsNearest tie mantissa scale (start mantissa scale - step) digits := by
    rcases onGrid_cases normalized tie (start mantissa scale - step) with
      ⟨none_at, -⟩ | ⟨multiple, some_at, nearest⟩
    · simp [none_at] at at_step
    · obtain rfl : multiple = digits := Option.some.inj (some_at.symm.trans at_step)
      exact nearest
  have coarsest (other : Decimal) (range : InRange mantissa scale other.value) :
      other.exponent ≤ start mantissa scale - step := by
    by_contra coarser
    have le_start := exponent_le_start normalized range
    obtain ⟨earlier, exponent_eq⟩ := Int.le.dest le_start
    have none_at := none_before earlier (by omega)
    rcases onGrid_cases normalized tie (start mantissa scale - earlier) with
      ⟨-, outside⟩ | ⟨multiple, some_at, -⟩
    · apply outside other.digits
      rw [← exponent_eq, add_sub_cancel_right]
      exact range
    · simp [none_at] at some_at
  have found : IsShortest tie mantissa scale ⟨digits, start mantissa scale - step⟩ := by
    refine ⟨normalized.roundsTo_iff.mpr nearest.range, fun other rounds => ?_, ?_⟩
    · exact coarsest other (normalized.roundsTo_iff.mp rounds)
    · intro other other_ne rounds
      exact nearest.nearest other other_ne (normalized.roundsTo_iff.mp rounds)
  rw [shortest_eq, trimmed_of_mod_ne_zero found.last_ne]
  exact found

end Decimal

end SchemaCompiler
