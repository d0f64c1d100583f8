import LayeredConfig.Double.Shortest

/-!
# JSON numbers

A number is an integer of the signed or unsigned 64-bit range, or a double. `Literal` is the number
grammar, and `Number.ofLiteral?` reads a literal: integers stay exact while they fit, all else is a
double made from the leading digits that fit 64 bits and a power of ten.
-/
set_option autoImplicit false

namespace LayeredConfig

inductive Number where
  | int (value : Int)
  | double (value : Double)
deriving DecidableEq, Repr

namespace Number

def minInt : Int := -9223372036854775808

def maxSigned : Int := 9223372036854775807

/-- The greatest integer of the unsigned range, and the greatest that stays exact. -/
def maxInt : Int := 18446744073709551615

def fits (value : Int) : Bool :=
  minInt ≤ value && value ≤ maxInt

/-- Equality of values: an integer never equals a double, the two zeros of a double are equal. -/
def same : Number → Number → Bool
  | .int a, .int b => a == b
  | .double a, .double b => a.same b
  | _, _ => false

def intText (value : Int) : String :=
  String.ofList <|
    if value < 0 then '-' :: Nat.toDigits 10 value.natAbs else Nat.toDigits 10 value.natAbs

def toText : Number → String
  | .int value => intText value
  | .double value => value.toText

end Number

structure Exponent where
  negative : Bool
  digits : List Char
deriving DecidableEq, Repr

/-- A number literal: sign, whole digits, digits after the point, exponent. -/
structure Literal where
  negative : Bool
  whole : List Char
  fraction : Option (List Char)
  exponent : Option Exponent
deriving DecidableEq, Repr

namespace Literal

def spanDigits (text : List Char) : List Char × List Char :=
  (text.takeWhile Char.isDigit, text.dropWhile Char.isDigit)

/-- The exponent of a literal, which has at least one digit and ends the text. -/
def readExponent : List Char → Option (Option Exponent)
  | [] => some none
  | mark :: rest =>
      if mark = 'e' ∨ mark = 'E' then
        let (negative, digits) :=
          match rest with
          | '-' :: digits => (true, digits)
          | '+' :: digits => (false, digits)
          | digits => (false, digits)
        if digits.isEmpty ∨ !digits.all Char.isDigit then none
        else some (some ⟨negative, digits⟩)
      else none

/-- The unsigned part of a literal: no zero may lead further whole digits, and a point needs
digits on both sides. -/
def readUnsigned (negative : Bool) (text : List Char) : Option Literal :=
  let (whole, rest) := spanDigits text
  let leadingZero : Bool :=
    match whole with
    | '0' :: _ :: _ => true
    | _ => false
  if whole.isEmpty ∨ leadingZero then none
  else
    match rest with
    | '.' :: rest =>
        let (fraction, rest) := spanDigits rest
        if fraction.isEmpty then none
        else (readExponent rest).map fun exponent => ⟨negative, whole, some fraction, exponent⟩
    | rest => (readExponent rest).map fun exponent => ⟨negative, whole, none, exponent⟩

def read? : List Char → Option Literal
  | '-' :: text => readUnsigned true text
  | text => readUnsigned false text

end Literal

def digitValue (c : Char) : Nat :=
  c.toNat - '0'.toNat

def digitsValue (digits : List Char) : Nat :=
  digits.foldl (fun value c => value * 10 + digitValue c) 0

namespace Number

def maxSignificand : Nat := 18446744073709551615

/-- Append digits to a significand while it stays in range; the digits that did not fit are left
over. -/
def accumulate (significand : Nat) : List Char → Nat × List Char
  | [] => (significand, [])
  | c :: rest =>
      let next := significand * 10 + digitValue c
      if next ≤ maxSignificand then accumulate next rest else (significand, c :: rest)

def powerOfTen (exponent : Nat) : Double :=
  Double.ofRatio false (Nat.pow 10 exponent) 1

/-- Scale a double by a power of ten, in steps of at most `10 ^ 308` with one rounding each, or
`none` when the result is not finite. A number is zero after four steps down, so `fuel` is no
restriction. -/
def scale : Nat → Double → Int → Option Double
  | 0, value, _ => some value
  | fuel + 1, value, exponent =>
      if exponent.natAbs ≤ 308 then
        if 0 ≤ exponent then
          let product := value.mul (powerOfTen exponent.natAbs)
          if product.isFinite then some product else none
        else some (value.div (powerOfTen exponent.natAbs))
      else if value.isZero then some value
      else if 0 ≤ exponent then none
      else scale fuel (value.div (powerOfTen 308)) (exponent + 308)

/-- The double `± significand * 10 ^ exponent`, or `none` when it is out of range. -/
def ofParts? (negative : Bool) (significand : Nat) (exponent : Int) : Option Number :=
  (scale 8 (Double.ofInt significand) exponent).map fun value =>
    .double (if negative then value.neg else value)

def maxExponentMark : Nat := 2147483647

/-- The exponent mark applied to a significand. A mark beyond `maxExponentMark` leaves zero where
the number is tiny or zero anyway, and nothing otherwise. -/
def withExponent? (negative : Bool) (significand : Nat) (exponent : Int) :
    Option Exponent → Option Number
  | none => ofParts? negative significand exponent
  | some mark =>
      let value := digitsValue mark.digits
      if maxExponentMark < value then
        if significand ≠ 0 ∧ !mark.negative then none
        else some (.double (Double.zero negative))
      else
        ofParts? negative significand (if mark.negative then exponent - value else exponent + value)

/-- An integer literal whose digits fit 64 bits: exact where the signed or unsigned range holds it;
minus zero and integers below the signed range are doubles. -/
def ofInteger (negative : Bool) (significand : Nat) : Number :=
  if !negative then .int significand
  else if significand = 0 ∨ -(significand : Int) < minInt then
    .double (Double.ofInt significand).neg
  else .int (-significand)

/-- The number a literal stands for, or `none` where it is beyond the doubles. -/
def ofLiteral? (literal : Literal) : Option Number :=
  let (significand, dropped) := accumulate 0 literal.whole
  match dropped, literal.fraction, literal.exponent with
  | [], none, none => some (ofInteger literal.negative significand)
  | dropped, fraction, exponent =>
      let digits := fraction.getD []
      let (significand, ignored) := accumulate significand digits
      let shift : Int := (dropped.length : Int) - ((digits.length - ignored.length : Nat) : Int)
      withExponent? literal.negative significand shift exponent

end Number

end LayeredConfig
