import LayeredConfig.Json.Number

/-!
# Reading decimals into doubles

A decimal is digits with a power of ten. It is rounded once, to the nearest double.
-/
set_option autoImplicit false

namespace LayeredConfig.Double

/-- Beyond this exponent in either direction a decimal is infinite or zero however many of its
digits count. -/
def decimalRange (digits : List Char) : Nat :=
  digits.length + 400

def ofDecimal (negative : Bool) (digits : List Char) (exponent : Int) : Double :=
  let significand := digitsValue digits
  if significand = 0 then zero negative
  else if decimalRange digits < exponent.natAbs then
    if exponent < 0 then zero negative else infinity negative
  else if exponent < 0 then ofRatio negative significand (Nat.pow 10 exponent.natAbs)
  else ofRatio negative (significand * Nat.pow 10 exponent.natAbs) 1

/-- A decimal exponent: a sign and digits. -/
def exponent? (text : List Char) : Option Int :=
  let (negative, digits) :=
    match text with
    | '-' :: digits => (true, digits)
    | '+' :: digits => (false, digits)
    | digits => (false, digits)
  if digits.isEmpty || !digits.all Char.isDigit then none
  else
    let value : Int := digitsValue digits
    some (if negative then -value else value)

def ofDigits (negative : Bool) (whole fraction : List Char) (exponent : Int) : Double :=
  ofDecimal negative (whole ++ fraction) (exponent - fraction.length)

/-- What follows the digits of a decimal: nothing, or an exponent mark and an exponent. -/
def trailing? : List Char → Option Int
  | [] => some 0
  | mark :: rest => if mark = 'e' ∨ mark = 'E' then exponent? rest else none

/-- The double of a decimal text: a sign, digits with at most one point among or around them, and an
exponent. -/
def ofText? (text : List Char) : Option Double :=
  let (negative, unsigned) :=
    match text with
    | '-' :: unsigned => (true, unsigned)
    | '+' :: unsigned => (false, unsigned)
    | unsigned => (false, unsigned)
  let whole := unsigned.takeWhile Char.isDigit
  let (fraction, rest) :=
    match unsigned.dropWhile Char.isDigit with
    | '.' :: after => (after.takeWhile Char.isDigit, after.dropWhile Char.isDigit)
    | rest => ([], rest)
  if whole.isEmpty && fraction.isEmpty then none
  else (trailing? rest).map fun exponent => ofDigits negative whole fraction exponent

end LayeredConfig.Double
