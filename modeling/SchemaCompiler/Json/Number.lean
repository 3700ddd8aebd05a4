/-!
# Numbers in JSON text

A number without fraction and exponent that fits into 64 bits is an integer. Every other number is a
float: its leading digits, as many as fit into 64 bits, are rounded to a float, and the result is
multiplied or divided by a rounded power of ten. The two roundings are part of the format: `0.1` is
one tenth, but long decimals can end up next to the nearest float. The negative zero is a float.
-/

namespace SchemaCompiler

namespace Json

/-- A number read from JSON text. -/
inductive Number
  | integer (value : Int)
  | float (value : Float)

namespace Number

/-- The largest significand. -/
def largestSignificand : Nat := Nat.pow 2 64 - 1

/-- The largest written exponent. -/
def largestExponent : Nat := Nat.pow 2 31 - 1

/-- The significant digits read so far, and the power of ten that they count. -/
structure Accumulator where
  /-- The leading digits as a number. -/
  significand : Nat := 0
  /-- The power of ten of the last of them. -/
  exponent : Int := 0
  /-- Whether a digit had to be left out. -/
  full : Bool := false

namespace Accumulator

/-- Reads a digit before the point: a digit without room still counts as a place. -/
def takeWhole (state : Accumulator) (digit : Nat) : Accumulator :=
  if state.full || largestSignificand < state.significand * 10 + digit then
    { state with exponent := state.exponent + 1, full := true }
  else
    { state with significand := state.significand * 10 + digit }

/-- Reads a digit after the point: a digit without room, and every one after it, is dropped. -/
def takeFraction (state : Accumulator) (digit : Nat) : Accumulator :=
  if state.full || largestSignificand < state.significand * 10 + digit then
    { state with full := true }
  else
    { state with
      significand := state.significand * 10 + digit
      exponent := state.exponent - 1 }

end Accumulator

/-- A power of ten as a float. -/
def powerOfTen (power : Nat) : Float :=
  Float.ofScientific 1 false power

/-- The float `significand * 10 ^ exponent`, if it is in range. Divisors beyond the largest power of
ten are split into two, and what lies beyond both of them is zero. -/
def scaled? (significand : Nat) (exponent : Int) : Option Float :=
  let base := Float.ofNat significand
  if 0 ≤ exponent then
    if exponent ≤ 308 then
      let product := base * powerOfTen exponent.toNat
      if product.isInf then none else some product
    else if significand = 0 then
      some base
    else
      none
  else if -308 ≤ exponent then
    some (base / powerOfTen (-exponent).toNat)
  else if significand = 0 then
    some base
  else if -616 ≤ exponent then
    some (base / powerOfTen 308 / powerOfTen (-exponent - 308).toNat)
  else
    some 0

/-- A number literal taken apart. -/
structure Literal where
  /-- Whether a minus sign comes first. -/
  negative : Bool
  /-- The digits before the point. -/
  whole : List Nat
  /-- The digits after the point, if there is one. -/
  fraction : Option (List Nat)
  /-- The sign and the digits of the exponent, if there is one. -/
  exponent : Option (Bool × List Nat)

/-- A float with the sign of a literal. -/
def signed (negative : Bool) (value : Float) : Number :=
  .float (if negative then -value else value)

/-- The number that a literal denotes, if it is in range. -/
def ofLiteral? (literal : Literal) : Option Number :=
  let whole := literal.whole.foldl Accumulator.takeWhole {}
  match literal.fraction, literal.exponent, whole.full with
  | none, none, false =>
    if !literal.negative then
      some (.integer whole.significand)
    else if whole.significand = 0 || Nat.pow 2 63 < whole.significand then
      some (signed true (Float.ofNat whole.significand))
    else
      some (.integer (-whole.significand))
  | fraction, exponent, _ =>
    let read := (fraction.getD []).foldl Accumulator.takeFraction { whole with full := false }
    match exponent with
    | none => (scaled? read.significand read.exponent).map (signed literal.negative)
    | some (downward, digits) =>
      let power := digits.foldl (fun value digit => value * 10 + digit) 0
      if largestExponent < power then
        if read.significand ≠ 0 && !downward then none else some (signed literal.negative 0)
      else
        let shift : Int := if downward then -power else power
        (scaled? read.significand (read.exponent + shift)).map (signed literal.negative)

end Number

end Json

end SchemaCompiler
