import SchemaCompiler.Decimal

/-!
# Written decimals

Two notations for floats. The plain one never uses an exponent and writes a whole number without a
point; it has words for what is not a number, and a tie between two shortest decimals goes away from
zero. The scientific one, used by data formats, always shows a point or an exponent with its sign,
so that a whole float is not mistaken for an integer; a tie goes to the even digit.
-/

namespace SchemaCompiler

namespace Decimal

/-- The decimal digits of a number. -/
def digitChars (digits : Nat) : List Char :=
  Nat.toDigits 10 digits

/-- A number with its sign, be it positive or negative. -/
def signedChars (number : Int) : List Char :=
  (if number < 0 then '-' else '+') :: digitChars number.natAbs

/-- A decimal in positional notation, whole numbers without a point. -/
def positional (decimal : Decimal) : List Char :=
  let written := digitChars decimal.digits
  if 0 ≤ decimal.exponent then
    written ++ List.replicate decimal.exponent.toNat '0'
  else
    let places := (-decimal.exponent).toNat
    if places < written.length then
      let whole := written.length - places
      written.take whole ++ '.' :: written.drop whole
    else
      '0' :: '.' :: (List.replicate (places - written.length) '0' ++ written)

/-- A decimal with a point or an exponent: positional for exponents of the first digit from -5 to
15, with an exponent otherwise. -/
def scientific (decimal : Decimal) : List Char :=
  let written := digitChars decimal.digits
  let pointAt := (written.length : Int) + decimal.exponent
  if decimal.digits = 0 then
    ['0', '.', '0']
  else if 0 ≤ decimal.exponent ∧ pointAt ≤ 16 then
    decimal.positional ++ ['.', '0']
  else if -5 < pointAt ∧ pointAt ≤ 16 then
    decimal.positional
  else
    let power := 'e' :: signedChars (pointAt - 1)
    match written with
    | [] => power
    | [digit] => digit :: power
    | digit :: rest => digit :: '.' :: rest ++ power

end Decimal

namespace FloatValue

/-- The sign of a number as it is written. -/
def sign (negative : Bool) : List Char :=
  if negative then ['-'] else []

/-- Plain notation, with words for infinities and for what is not a number. -/
def plain : FloatValue → String
  | .notANumber => "NaN"
  | .infinite negative => String.ofList (sign negative ++ ['i', 'n', 'f'])
  | .finite negative mantissa scale =>
    String.ofList (sign negative ++ (Decimal.shortest .larger mantissa scale).positional)

/-- Scientific notation, which only numbers have. -/
def scientific? : FloatValue → Option String
  | .notANumber | .infinite _ => none
  | .finite negative mantissa scale =>
    some (String.ofList (sign negative ++ (Decimal.shortest .even mantissa scale).scientific))

end FloatValue

/-- A float in plain notation. -/
def plainFloat (float : Float) : String :=
  (FloatValue.ofFloat float).plain

end SchemaCompiler
