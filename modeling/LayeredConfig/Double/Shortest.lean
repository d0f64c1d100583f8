import LayeredConfig.Double

/-!
# The shortest decimal text of a double

A finite double is written with the fewest decimal digits that read back as the same number, and
among those with the digits nearest to it. The digits are found on the decimal grids of one, two,
up to seventeen digits: the first grid with a point between the two halves to the neighbouring
doubles wins.
-/
set_option autoImplicit false

namespace LayeredConfig.Double

/-- A positive decimal `coefficient * 10 ^ exponent`. -/
structure Decimal where
  coefficient : Nat
  exponent : Int
deriving DecidableEq, Repr

namespace Decimal

def toRatio (d : Decimal) : Nat × Nat :=
  if 0 ≤ d.exponent then (d.coefficient * Nat.pow 10 d.exponent.toNat, 1)
  else (d.coefficient, Nat.pow 10 (-d.exponent).toNat)

/-- The same decimal without trailing zeros; `fuel` bounds the zeros dropped. -/
def strip : Nat → Decimal → Decimal
  | 0, d => d
  | fuel + 1, d =>
      if d.coefficient ≠ 0 ∧ d.coefficient % 10 = 0 then
        strip fuel ⟨d.coefficient / 10, d.exponent + 1⟩
      else d

end Decimal

/-- The reals that round to a positive finite double, in units of a quarter of its step:
`lower` and `upper` are its ends, which belong to it when `closed`. -/
structure RoundingInterval where
  lower : Nat
  centre : Nat
  upper : Nat
  exponent : Int
  closed : Bool

/-- Below a power of two the neighbour is half as far away as above it. -/
def roundingInterval (d : Double) : RoundingInterval :=
  let (mantissa, exponent) := d.unpack
  let below := if mantissa = exponentWeight ∧ exponent ≠ -1074 then 1 else 2
  { lower := 4 * mantissa - below
    centre := 4 * mantissa
    upper := 4 * mantissa + 2
    exponent := exponent - 2
    closed := mantissa % 2 = 0 }

namespace RoundingInterval

def contains (interval : RoundingInterval) (decimal : Decimal) : Bool :=
  let (num, den) := decimal.toRatio
  let (low, unit) := ratioOf interval.lower interval.exponent
  let (high, _) := ratioOf interval.upper interval.exponent
  if interval.closed then low * den ≤ num * unit && num * unit ≤ high * den
  else low * den < num * unit && num * unit < high * den

/-- The point of the grid of `10 ^ exponent` in the interval that is nearest to its centre. -/
def gridPoint? (interval : RoundingInterval) (exponent : Int) : Option Decimal :=
  let (centre, unit) := ratioOf interval.centre interval.exponent
  let (num, den) :=
    if 0 ≤ exponent then (centre, unit * Nat.pow 10 exponent.toNat)
    else (centre * Nat.pow 10 (-exponent).toNat, unit)
  let below : Decimal := ⟨num / den, exponent⟩
  let above : Decimal := ⟨num / den + 1, exponent⟩
  let nearest : Decimal := ⟨roundHalfEven num den, exponent⟩
  match decide (below.coefficient ≠ 0) && interval.contains below, interval.contains above with
  | true, true => some nearest
  | true, false => some below
  | false, true => some above
  | false, false => none

end RoundingInterval

/-- The exponent of the leading decimal digit of a positive finite double. -/
def leadingExponent (d : Double) : Int :=
  let (num, den) := d.toRatio
  ((Nat.toDigits 10 (num * Nat.pow 10 330 / den)).length : Int) - 331

/-- The first grid of at most `17` digits with a point in the interval. -/
def shortestFrom (interval : RoundingInterval) (leading : Int) : List Nat → Decimal
  | [] => ⟨0, 0⟩
  | digits :: more =>
      match interval.gridPoint? (leading - digits) with
      | some decimal => decimal
      | none => shortestFrom interval leading more

def shortest (d : Double) : Decimal :=
  (shortestFrom d.roundingInterval d.leadingExponent (List.range 17)).strip 20

/-- The decisions of a number format: which exponents of the leading digit are written
positionally. -/
structure TextFormat where
  lowestPositional : Int
  highestPositional : Int

/-- Numbers from `0.00001` up to below `10 ^ 16` are positional. -/
def TextFormat.standard : TextFormat := ⟨-5, 15⟩

/-- The text of a positive decimal: positional with at least one digit on each side of the point,
or one digit before the point and a signed exponent. -/
def TextFormat.write (format : TextFormat) (decimal : Decimal) : List Char :=
  let digits := Nat.toDigits 10 decimal.coefficient
  let leading := decimal.exponent + digits.length - 1
  if format.lowestPositional ≤ leading ∧ leading ≤ format.highestPositional then
    if leading < 0 then
      '0' :: '.' :: List.replicate (-leading - 1).toNat '0' ++ digits
    else
      let whole := digits.take (leading + 1).toNat
      let fraction := digits.drop (leading + 1).toNat
      whole ++ List.replicate ((leading + 1).toNat - whole.length) '0' ++
        '.' :: (if fraction.isEmpty then ['0'] else fraction)
  else
    let exponent := Nat.toDigits 10 leading.natAbs
    let mark := if leading < 0 then ['e', '-'] else ['e', '+']
    match digits with
    | [] => []
    | [digit] => digit :: mark ++ exponent
    | digit :: rest => digit :: '.' :: rest ++ mark ++ exponent

def toText (d : Double) : String :=
  let magnitude :=
    if d.isZero then ['0', '.', '0'] else TextFormat.standard.write d.shortest
  String.ofList (if d.isNegative then '-' :: magnitude else magnitude)

end LayeredConfig.Double
