import Mathlib.Algebra.Order.Field.Power
import Mathlib.Tactic.GCongr
import Mathlib.Tactic.Linarith
import Mathlib.Tactic.Positivity
import Mathlib.Tactic.Ring

/-!
# Reading a number back as a float

A number is read as the nearest float, and as the one with the even mantissa if two are equally
near. This is said without an algorithm, over the numbers between which a float is chosen
(`RoundsTo`).

The numbers that are read as one float make up an interval. It reaches halfway to the neighbours of
the float, and its ends belong to it if the mantissa is even (`roundsTo_iff`). Its ends are counted
in quarters of the scale, since the neighbour below the first float of a binade is only half a step
away.
-/

namespace SchemaCompiler

/-- A number with at most 53 binary digits, the last of which counts `2 ^ -1074` or more. Apart from
the sign, every finite float is one; those beyond the largest float stand for infinity. -/
def IsBinary (number : ℚ) : Prop :=
  ∃ (mantissa : ℕ) (scale : ℤ), mantissa < 2 ^ 53 ∧ -1074 ≤ scale ∧ number = mantissa * 2 ^ scale

/-- A number is read as `mantissa * 2 ^ scale`: every other binary number is farther away from it,
or as far, in which case the mantissa is even. -/
def RoundsTo (number : ℚ) (mantissa : ℕ) (scale : ℤ) : Prop :=
  ∀ other, IsBinary other → other ≠ mantissa * 2 ^ scale →
    |number - mantissa * 2 ^ scale| < |number - other| ∨
      |number - mantissa * 2 ^ scale| = |number - other| ∧ mantissa % 2 = 0

/-- The mantissa and the scale of a finite float other than zero. The mantissa has all of its 53
digits unless the scale is the least one. -/
structure IsNormalized (mantissa : ℕ) (scale : ℤ) : Prop where
  mantissa_pos : 0 < mantissa
  mantissa_lt : mantissa < 2 ^ 53
  scale_ge : -1074 ≤ scale
  scale_le : scale ≤ 971
  full : 2 ^ 52 ≤ mantissa ∨ scale = -1074

/-! ## Distances -/

section Distances

variable {number value middle : ℚ}

theorem sq_sub_sq_reflected : (number - (2 * middle - value)) ^ 2 - (number - value) ^ 2 =
    4 * ((middle - value) * (middle - number)) := by
  ring

theorem abs_sub_lt_reflected_iff : |number - value| < |number - (2 * middle - value)| ↔
    0 < (middle - value) * (middle - number) := by
  rw [← sq_lt_sq, ← sub_pos, sq_sub_sq_reflected]
  exact mul_pos_iff_of_pos_left (by norm_num)

theorem abs_sub_eq_reflected_iff (middle_ne : middle ≠ value) :
    |number - value| = |number - (2 * middle - value)| ↔ number = middle := by
  rw [← sq_eq_sq_iff_abs_eq_abs, eq_comm, ← sub_eq_zero, sq_sub_sq_reflected]
  simp [sub_eq_zero, middle_ne, eq_comm]

/-- Below the middle between two numbers, the smaller one is nearer. -/
theorem nearer_below_middle_iff (above : value < middle) :
    |number - value| < |number - (2 * middle - value)| ↔ number < middle := by
  rw [abs_sub_lt_reflected_iff, mul_pos_iff_of_pos_left (sub_pos.mpr above), sub_pos]

/-- Above the middle between two numbers, the larger one is nearer. -/
theorem nearer_above_middle_iff (below : middle < value) :
    |number - value| < |number - (2 * middle - value)| ↔ middle < number := by
  rw [abs_sub_lt_reflected_iff, ← neg_mul_neg, neg_sub, neg_sub,
    mul_pos_iff_of_pos_left (sub_pos.mpr below), sub_pos]

end Distances

/-! ## The interval of a float -/

/-- The quarters of the scale up to the lower end of the interval. -/
def lowQuarters (mantissa : ℕ) (scale : ℤ) : ℕ :=
  if mantissa = 2 ^ 52 ∧ -1074 < scale then 4 * mantissa - 1 else 4 * mantissa - 2

/-- The lower end of the interval, halfway to the neighbour below. -/
def lowEnd (mantissa : ℕ) (scale : ℤ) : ℚ :=
  lowQuarters mantissa scale * 2 ^ (scale - 2)

/-- The upper end of the interval, halfway to the neighbour above. -/
def highEnd (mantissa : ℕ) (scale : ℤ) : ℚ :=
  (4 * mantissa + 2 : ℕ) * 2 ^ (scale - 2)

/-- A number lies in the interval of `mantissa * 2 ^ scale`. -/
def InRange (mantissa : ℕ) (scale : ℤ) (number : ℚ) : Prop :=
  if mantissa % 2 = 0 then
    lowEnd mantissa scale ≤ number ∧ number ≤ highEnd mantissa scale
  else
    lowEnd mantissa scale < number ∧ number < highEnd mantissa scale

variable {mantissa : ℕ} {scale : ℤ} {number : ℚ}

theorem two_zpow_eq_quarters (scale : ℤ) : (2 : ℚ) ^ scale = 4 * 2 ^ (scale - 2) := by
  rw [zpow_sub₀ (by norm_num)]
  norm_num
  ring

theorem value_eq_quarters (mantissa : ℕ) (scale : ℤ) :
    (mantissa : ℚ) * 2 ^ scale = (4 * mantissa : ℕ) * 2 ^ (scale - 2) := by
  rw [two_zpow_eq_quarters scale]
  push_cast
  ring

theorem reflected_highEnd (mantissa : ℕ) (scale : ℤ) :
    2 * highEnd mantissa scale - mantissa * 2 ^ scale =
      (4 * mantissa + 4 : ℕ) * 2 ^ (scale - 2) := by
  rw [highEnd, value_eq_quarters mantissa scale]
  push_cast
  ring

theorem InRange.bounds (range : InRange mantissa scale number) :
    lowEnd mantissa scale ≤ number ∧ number ≤ highEnd mantissa scale := by
  rw [InRange] at range
  split at range
  · exact range
  · exact ⟨range.1.le, range.2.le⟩

/-- The interval has no gaps. -/
theorem InRange.between {smaller larger : ℚ} (smaller_range : InRange mantissa scale smaller)
    (larger_range : InRange mantissa scale larger) (smaller_le : smaller ≤ number)
    (le_larger : number ≤ larger) : InRange mantissa scale number := by
  rw [InRange] at smaller_range larger_range ⊢
  split_ifs at *
  · exact ⟨smaller_range.1.trans smaller_le, le_larger.trans larger_range.2⟩
  · exact ⟨smaller_range.1.trans_le smaller_le, le_larger.trans_lt larger_range.2⟩

namespace IsNormalized

theorem lowQuarters_bounds (normalized : IsNormalized mantissa scale) :
    4 * mantissa - 2 ≤ lowQuarters mantissa scale ∧ lowQuarters mantissa scale < 4 * mantissa := by
  have := normalized.mantissa_pos
  rw [lowQuarters]
  split <;> omega

theorem lowEnd_pos (normalized : IsNormalized mantissa scale) : 0 < lowEnd mantissa scale := by
  have := normalized.mantissa_pos
  have := normalized.lowQuarters_bounds.1
  have low_pos : 0 < lowQuarters mantissa scale := by omega
  rw [lowEnd]
  positivity

theorem lowEnd_lt (normalized : IsNormalized mantissa scale) :
    lowEnd mantissa scale < mantissa * 2 ^ scale := by
  rw [lowEnd, value_eq_quarters mantissa scale]
  have := normalized.lowQuarters_bounds.2
  gcongr

theorem lt_highEnd (mantissa : ℕ) (scale : ℤ) :
    (mantissa : ℚ) * 2 ^ scale < highEnd mantissa scale := by
  rw [highEnd, value_eq_quarters mantissa scale]
  gcongr
  omega

theorem inRange_of_lt (low_lt : lowEnd mantissa scale < number)
    (lt_high : number < highEnd mantissa scale) : InRange mantissa scale number := by
  rw [InRange]
  split
  · exact ⟨low_lt.le, lt_high.le⟩
  · exact ⟨low_lt, lt_high⟩

theorem inRange_value (normalized : IsNormalized mantissa scale) :
    InRange mantissa scale (mantissa * 2 ^ scale) :=
  inRange_of_lt normalized.lowEnd_lt (lt_highEnd mantissa scale)

/-! ## Neighbours -/

theorem reflected_lowEnd (normalized : IsNormalized mantissa scale) :
    2 * lowEnd mantissa scale - mantissa * 2 ^ scale =
      (2 * lowQuarters mantissa scale - 4 * mantissa : ℕ) * 2 ^ (scale - 2) := by
  have := normalized.mantissa_pos
  have := normalized.lowQuarters_bounds.1
  rw [lowEnd, value_eq_quarters mantissa scale, Nat.cast_sub (by omega)]
  push_cast
  ring

theorem isBinary_above (normalized : IsNormalized mantissa scale) :
    IsBinary (2 * highEnd mantissa scale - mantissa * 2 ^ scale) := by
  rw [reflected_highEnd]
  by_cases last : mantissa + 1 = 2 ^ 53
  · -- The neighbour is the first float of the next binade.
    refine ⟨2 ^ 52, scale + 1, by norm_num, by linarith [normalized.scale_ge], ?_⟩
    have quarters_eq : 4 * mantissa + 4 = 2 ^ 52 * 8 := by omega
    rw [quarters_eq, zpow_add_one₀ (by norm_num),
      two_zpow_eq_quarters scale]
    push_cast
    ring
  · have := normalized.mantissa_lt
    refine ⟨mantissa + 1, scale, by omega, normalized.scale_ge, ?_⟩
    rw [two_zpow_eq_quarters scale]
    push_cast
    ring

theorem isBinary_below (normalized : IsNormalized mantissa scale) :
    IsBinary (2 * lowEnd mantissa scale - mantissa * 2 ^ scale) := by
  have := normalized.mantissa_pos
  have := normalized.mantissa_lt
  rw [normalized.reflected_lowEnd, lowQuarters]
  split
  · -- The neighbour is the last float of the binade below.
    rename_i narrow
    refine ⟨2 ^ 53 - 1, scale - 1, by norm_num, by linarith [narrow.2], ?_⟩
    have quarters_eq : 2 * (4 * mantissa - 1) - 4 * mantissa = (2 ^ 53 - 1) * 2 := by omega
    rw [quarters_eq, show scale - 1 = (scale - 2) + 1 by ring, zpow_add_one₀ (by norm_num)]
    push_cast
    ring
  · refine ⟨mantissa - 1, scale, by omega, normalized.scale_ge, ?_⟩
    have quarters_eq : 2 * (4 * mantissa - 2) - 4 * mantissa = (mantissa - 1) * 4 := by omega
    rw [quarters_eq, two_zpow_eq_quarters scale]
    push_cast
    ring

/-- No binary number lies between a float and its neighbours. -/
theorem le_or_le_of_isBinary (normalized : IsNormalized mantissa scale)
    (binary : IsBinary number) (number_ne : number ≠ mantissa * 2 ^ scale) :
    number ≤ 2 * lowEnd mantissa scale - mantissa * 2 ^ scale ∨
      2 * highEnd mantissa scale - mantissa * 2 ^ scale ≤ number := by
  obtain ⟨digits, place, digits_lt, place_ge, rfl⟩ := binary
  rw [normalized.reflected_lowEnd, reflected_highEnd]
  have quarter_pos : (0 : ℚ) < 2 ^ (scale - 2) := by positivity
  by_cases coarse : scale ≤ place
  · -- A multiple of the scale differs from the float by the scale at least.
    obtain ⟨steps, rfl⟩ := Int.le.dest coarse
    have multiple_eq : (digits : ℚ) * 2 ^ (scale + (steps : ℤ)) =
        (digits * 2 ^ steps : ℕ) * 2 ^ scale := by
      rw [zpow_add₀ (by norm_num), zpow_natCast]
      push_cast
      ring
    rw [multiple_eq, value_eq_quarters]
    have multiple_ne : digits * 2 ^ steps ≠ mantissa := by
      rintro rfl
      exact number_ne multiple_eq
    rcases Nat.lt_or_gt_of_ne multiple_ne with below | above
    · left
      have := normalized.lowQuarters_bounds.1
      apply mul_le_mul_of_nonneg_right (Nat.cast_le.mpr _) quarter_pos.le
      omega
    · right
      apply mul_le_mul_of_nonneg_right (Nat.cast_le.mpr _) quarter_pos.le
      omega
  · -- A finer number lies below the binade of the float.
    left
    have full : 2 ^ 52 ≤ mantissa := by
      have := normalized.full
      omega
    have fine : (2 : ℚ) ^ place ≤ 2 * 2 ^ (scale - 2) := by
      rw [mul_comm, ← zpow_add_one₀ (by norm_num)]
      exact zpow_le_zpow_right₀ (by norm_num) (by omega)
    calc (digits : ℚ) * 2 ^ place
        ≤ (2 ^ 53 - 1 : ℕ) * (2 * 2 ^ (scale - 2)) := by
          gcongr
          omega
      _ = (2 ^ 54 - 2 : ℕ) * 2 ^ (scale - 2) := by
          norm_num
          ring
      _ ≤ (2 * lowQuarters mantissa scale - 4 * mantissa : ℕ) * 2 ^ (scale - 2) := by
          apply mul_le_mul_of_nonneg_right (Nat.cast_le.mpr _) quarter_pos.le
          rw [lowQuarters]
          split <;> omega

/-! ## Reading back -/

theorem inRange_of_roundsTo (normalized : IsNormalized mantissa scale)
    (rounds : RoundsTo number mantissa scale) : InRange mantissa scale number := by
  have low_lt := normalized.lowEnd_lt
  have lt_high := lt_highEnd mantissa scale
  -- It is enough to compare the float with its two neighbours.
  have from_below := rounds _ normalized.isBinary_below (by linarith)
  have from_above := rounds _ normalized.isBinary_above (by linarith)
  rw [nearer_above_middle_iff low_lt, abs_sub_eq_reflected_iff low_lt.ne] at from_below
  rw [nearer_below_middle_iff lt_high, abs_sub_eq_reflected_iff lt_high.ne'] at from_above
  rw [InRange]
  split
  · exact ⟨from_below.elim le_of_lt fun tie => tie.1.ge,
      from_above.elim le_of_lt fun tie => tie.1.le⟩
  · rename_i odd
    exact ⟨from_below.resolve_right fun tie => odd tie.2,
      from_above.resolve_right fun tie => odd tie.2⟩

theorem roundsTo_of_inRange (normalized : IsNormalized mantissa scale)
    (range : InRange mantissa scale number) : RoundsTo number mantissa scale := by
  intro other binary other_ne
  have low_lt := normalized.lowEnd_lt
  have lt_high := lt_highEnd mantissa scale
  have apart := normalized.le_or_le_of_isBinary binary other_ne
  have middle_eq : other = 2 * ((other + mantissa * 2 ^ scale) / 2) - mantissa * 2 ^ scale := by
    ring
  generalize (other + mantissa * 2 ^ scale) / 2 = middle at middle_eq
  rw [middle_eq]
  -- The middle is not inside of the interval, only perhaps at an end that belongs to it.
  rcases apart with below | above
  · have middle_le : middle ≤ lowEnd mantissa scale := by linarith
    have middle_lt := middle_le.trans_lt low_lt
    rw [nearer_above_middle_iff middle_lt, abs_sub_eq_reflected_iff middle_lt.ne]
    rcases (middle_le.trans range.bounds.1).lt_or_eq with nearer | tie
    · exact .inl nearer
    · refine .inr ⟨tie.symm, ?_⟩
      by_contra odd
      rw [InRange, if_neg odd] at range
      linarith [range.1]
  · have le_middle : highEnd mantissa scale ≤ middle := by linarith
    have lt_middle := lt_high.trans_le le_middle
    rw [nearer_below_middle_iff lt_middle, abs_sub_eq_reflected_iff lt_middle.ne']
    rcases (range.bounds.2.trans le_middle).lt_or_eq with nearer | tie
    · exact .inl nearer
    · refine .inr ⟨tie, ?_⟩
      by_contra odd
      rw [InRange, if_neg odd] at range
      linarith [range.2]

/-- A number is read as a float exactly if it lies in the interval of the float. -/
theorem roundsTo_iff (normalized : IsNormalized mantissa scale) :
    RoundsTo number mantissa scale ↔ InRange mantissa scale number :=
  ⟨normalized.inRange_of_roundsTo, normalized.roundsTo_of_inRange⟩

end IsNormalized

end SchemaCompiler
