/-!
# Shortest decimals

Every finite float is a fraction `mantissa * 2 ^ scale`, and a whole interval of reals rounds to it.
`Decimal.shortest` finds the decimal that stands for the float in text: a multiple of the coarsest
power of ten that has a multiple inside that interval, and of two such multiples the nearer one.
Where both are equally near, the notation says which one it takes. All comparisons are made between
natural numbers.
-/

namespace SchemaCompiler

/-- The number `digits * 10 ^ exponent`. -/
structure Decimal where
  /-- The significant digits, as one number. -/
  digits : Nat
  /-- The power of ten of the last digit. -/
  exponent : Int
  deriving DecidableEq, Repr

/-- What a float stands for. -/
inductive FloatValue
  | notANumber
  | infinite (negative : Bool)
  /-- The number `mantissa * 2 ^ scale`, negated on demand; zero has a sign too. -/
  | finite (negative : Bool) (mantissa : Nat) (scale : Int)
  deriving DecidableEq, Repr

namespace FloatValue

/-- Takes the bits of a float apart: the sign, eleven bits of exponent and 52 bits of fraction. -/
def ofFloat (float : Float) : FloatValue :=
  let bits := float.toBits.toNat
  let negative := bits / Nat.pow 2 63 == 1
  let exponent : Nat := bits / Nat.pow 2 52 % Nat.pow 2 11
  let fraction : Nat := bits % Nat.pow 2 52
  if exponent = Nat.pow 2 11 - 1 then
    if fraction = 0 then .infinite negative else .notANumber
  else if exponent = 0 then
    .finite negative fraction (-1074)
  else
    .finite negative (Nat.pow 2 52 + fraction) ((exponent : Int) - 1075)

/-- Whether a float stands for a number at all. -/
def isFinite : FloatValue → Bool
  | .finite .. => true
  | .infinite _ | .notANumber => false

end FloatValue

/-- Which of two neighbouring multiples stands for a number halfway between them. -/
inductive Tie
  /-- The even one. -/
  | even
  /-- The one with the larger magnitude. -/
  | larger
  deriving DecidableEq, Repr

namespace Tie

/-- Whether a tie goes to the smaller of two multiples. -/
def takesSmaller (tie : Tie) (smaller : Nat) : Bool :=
  match tie with
  | .even => smaller % 2 == 0
  | .larger => false

end Tie

namespace Decimal

/-- The multiple of `10 ^ grid` that stands for a float, if the interval of the float holds one.

Values are counted in quarters of `2 ^ scale`, so the middle of the interval is `4 * mantissa`. The
interval reaches half a step to both sides, and only a quarter step down to a finer binade; its ends
belong to it when the mantissa is even. -/
def onGrid (tie : Tie) (mantissa : Nat) (scale : Int) (grid : Int) : Option Nat :=
  let narrow := mantissa = Nat.pow 2 52 ∧ scale > -1074
  let factor := Nat.pow 2 (scale - 2).toNat * Nat.pow 10 (-grid).toNat
  let unit := Nat.pow 10 grid.toNat * Nat.pow 2 (2 - scale).toNat
  let middle := 4 * mantissa * factor
  let low := (if narrow then 4 * mantissa - 1 else 4 * mantissa - 2) * factor
  let high := (4 * mantissa + 2) * factor
  let inside (multiple : Nat) : Bool :=
    let place := multiple * unit
    if mantissa % 2 = 0 then low ≤ place && place ≤ high else low < place && place < high
  let below := middle / unit
  let above := below + 1
  let belowFits := 0 < below && inside below
  if belowFits && inside above then
    let downward := middle - below * unit
    let upward := above * unit - middle
    if downward < upward || (downward = upward && tie.takesSmaller below) then
      some below
    else
      some above
  else if belowFits then
    some below
  else if inside above then
    some above
  else
    none

/-- The same number with as few digits as possible: trailing zeros move into the exponent. -/
def trimmed (fuel : Nat) (decimal : Decimal) : Decimal :=
  match fuel with
  | 0 => decimal
  | fuel + 1 =>
    if decimal.digits ≠ 0 ∧ decimal.digits % 10 = 0 then
      trimmed fuel ⟨decimal.digits / 10, decimal.exponent + 1⟩
    else
      decimal

/-- The decimal that stands for `mantissa * 2 ^ scale` in text.

The search starts at a power of ten above the number and ends within the 17 digits that tell any
two floats apart. -/
def shortest (tie : Tie) (mantissa : Nat) (scale : Int) : Decimal :=
  if mantissa = 0 then
    ⟨0, 0⟩
  else
    let start := ((mantissa.log2 : Int) + 1 + scale) * 30103 / 100000 + 1
    let grids := (List.range 24).map fun step => start - (step : Nat)
    let found := grids.findSome? fun grid =>
      (onGrid tie mantissa scale grid).map fun multiple => (⟨multiple, grid⟩ : Decimal)
    trimmed 24 (found.getD ⟨mantissa, 0⟩)

end Decimal

end SchemaCompiler
