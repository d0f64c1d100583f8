/-!
# Binary64 numbers by their bits

A double is kept as its 64 bits. Every operation of this library on doubles goes through the exact
value `mantissa * 2 ^ exponent` and one rounding to the nearest representable number, ties to the
even mantissa, so nothing here depends on the floating-point unit of the machine.
-/
set_option autoImplicit false

namespace LayeredConfig

/-- The precision of a binary format: mantissa bits and the exponent of its smallest step. -/
structure BinaryFormat where
  precision : Nat
  minExponent : Int
  maxExponent : Int
deriving DecidableEq

namespace BinaryFormat

/-- Fifty-three mantissa bits, steps of at least `2 ^ -1074`, values below `2 ^ 1024`. -/
def double : BinaryFormat := ⟨53, -1074, 971⟩

/-- Twenty-four mantissa bits, steps of at least `2 ^ -149`, values below `2 ^ 128`. -/
def single : BinaryFormat := ⟨24, -149, 104⟩

end BinaryFormat

/-- The integer nearest to `num / den`; a half goes to the even neighbour. -/
def roundHalfEven (num den : Nat) : Nat :=
  let quotient := num / den
  let remainder := num % den
  if 2 * remainder < den then quotient
  else if den < 2 * remainder then quotient + 1
  else quotient + quotient % 2

def roundScaled (num den : Nat) (exponent : Int) : Nat :=
  if 0 ≤ exponent then roundHalfEven num (den * Nat.pow 2 exponent.toNat)
  else roundHalfEven (num * Nat.pow 2 (-exponent).toNat) den

def powerLe (exponent : Int) (num den : Nat) : Bool :=
  if 0 ≤ exponent then den * Nat.pow 2 exponent.toNat ≤ num
  else den ≤ num * Nat.pow 2 (-exponent).toNat

/-- The representable `mantissa * 2 ^ exponent` nearest to the positive ratio `num / den`, or
`none` where that lies beyond the largest representable number. -/
def BinaryFormat.round (format : BinaryFormat) (num den : Nat) : Option (Nat × Int) :=
  if num = 0 then some (0, format.minExponent)
  else
    let guess : Int := (num.log2 : Int) - (den.log2 : Int)
    let magnitude := if powerLe guess num den then guess else guess - 1
    let exponent := max format.minExponent (magnitude - (format.precision : Int) + 1)
    let mantissa := roundScaled num den exponent
    let (mantissa, exponent) :=
      if mantissa = Nat.pow 2 format.precision then
        (Nat.pow 2 (format.precision - 1), exponent + 1)
      else (mantissa, exponent)
    if exponent ≤ format.maxExponent then some (mantissa, exponent) else none

/-- A binary64 number as its bits: sign, eleven exponent bits, fifty-two mantissa bits. -/
structure Double where
  bits : UInt64
deriving DecidableEq, Repr, Inhabited

namespace Double

def signWeight : Nat := 9223372036854775808

/-- The weight of the lowest exponent bit, `2 ^ 52`, which is also that of the leading mantissa bit that
is not stored. -/
def exponentWeight : Nat := 4503599627370496

def specialExponent : Nat := 2047

def magnitudeBits (d : Double) : Nat :=
  d.bits.toNat % signWeight

def isNegative (d : Double) : Bool :=
  signWeight ≤ d.bits.toNat

def exponentBits (d : Double) : Nat :=
  d.magnitudeBits / exponentWeight

def isFinite (d : Double) : Bool :=
  d.exponentBits < specialExponent

/-- Exponent bits all set and a mantissa that is not zero. -/
def isNaN (d : Double) : Bool :=
  specialExponent * exponentWeight < d.magnitudeBits

def isZero (d : Double) : Bool :=
  d.magnitudeBits = 0

def unpack (d : Double) : Nat × Int :=
  let mantissa := d.magnitudeBits % exponentWeight
  if d.exponentBits = 0 then (mantissa, -1074)
  else (mantissa + exponentWeight, (d.exponentBits : Int) - 1075)

def ofMagnitudeBits (negative : Bool) (bits : Nat) : Double :=
  ⟨UInt64.ofNat (if negative then signWeight + bits else bits)⟩

def infinity (negative : Bool) : Double :=
  ofMagnitudeBits negative (specialExponent * exponentWeight)

def zero (negative : Bool) : Double :=
  ofMagnitudeBits negative 0

/-- The number nearest to `± num / den`, infinite where the ratio is too large. -/
def ofRatio (negative : Bool) (num den : Nat) : Double :=
  match BinaryFormat.double.round num den with
  | some (mantissa, exponent) =>
      ofMagnitudeBits negative ((exponent + 1074).toNat * exponentWeight + mantissa)
  | none => infinity negative

def ratioOf (mantissa : Nat) (exponent : Int) : Nat × Nat :=
  if 0 ≤ exponent then (mantissa * Nat.pow 2 exponent.toNat, 1)
  else (mantissa, Nat.pow 2 (-exponent).toNat)

def toRatio (d : Double) : Nat × Nat :=
  let (mantissa, exponent) := d.unpack
  ratioOf mantissa exponent

def ofInt (i : Int) : Double :=
  ofRatio (i < 0) i.natAbs 1

def mul (a b : Double) : Double :=
  let (an, ad) := a.toRatio
  let (bn, bd) := b.toRatio
  ofRatio (a.isNegative != b.isNegative) (an * bn) (ad * bd)

/-- The quotient of two finite numbers, the second not zero, rounded once. -/
def div (a b : Double) : Double :=
  let (an, ad) := a.toRatio
  let (bn, bd) := b.toRatio
  ofRatio (a.isNegative != b.isNegative) (an * bd) (ad * bn)

def neg (d : Double) : Double :=
  ofMagnitudeBits (!d.isNegative) d.magnitudeBits

/-- The single-precision number nearest to `± num / den`, as a double of the same value. -/
def singleOfRatio (negative : Bool) (num den : Nat) : Double :=
  match BinaryFormat.single.round num den with
  | some (mantissa, exponent) =>
      let (n, d) := ratioOf mantissa exponent
      ofRatio negative n d
  | none => infinity negative

def toSingle (d : Double) : Double :=
  if d.isFinite then
    let (n, m) := d.toRatio
    singleOfRatio d.isNegative n m
  else d

def singleOfInt (i : Int) : Double :=
  singleOfRatio (i < 0) i.natAbs 1

/-- Equality of values: the two zeros are equal, a NaN equals nothing. -/
def same (a b : Double) : Bool :=
  !a.isNaN && !b.isNaN && (a.bits == b.bits || (a.isZero && b.isZero))

end Double

end LayeredConfig
