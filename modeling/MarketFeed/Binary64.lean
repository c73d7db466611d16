/-!
# Finite doubles

A double is kept as sign, mantissa and power of two, and every operation on it is natural number
arithmetic on the fraction it stands for, followed by one rounding to the nearest double with ties
to the even mantissa. Infinity is no value here: an operation that leaves the range has no result.

`ofDecimal?` is the reading of decimal notation. It is not a single correct rounding: the digits are
rounded to a double first and are then multiplied or divided by a rounded power of ten.

Text goes the other way. Among all decimals that read back as a double under correct rounding, the
ones with the fewest significant digits are taken, and among those the one nearest to the double.
The reals that round to a double form an interval, which holds its ends exactly when the mantissa is
even. A grid of decimals with a fixed number of digits meets the interval exactly when one of the
two grid points around the double lies in it, so these two are all that has to be tried for each
number of digits.

Two notations are in use. Decimal fields write a number in positional notation whatever its size and
show no point when it is whole. Messages about a document write it as the document would: with a
point always, and with a power of ten outside a middle range of sizes. They also choose differently
between two equally near decimals.
-/
namespace MarketFeed

/-- The double `mantissa * 2 ^ exponent` with a sign. The mantissa has at most 53 bits, and fewer
than 53 only when the exponent is the least one, `-1074`. -/
structure Binary64 where
  negative : Bool
  mantissa : Nat
  exponent : Int
  deriving DecidableEq, Repr

namespace Binary64

def leastExponent : Int := -1074

def mantissaLimit : Nat := 0x20000000000000

def leastFullMantissa : Nat := 0x10000000000000

def greatestExponent : Int := 971

def zero : Binary64 := ⟨false, 0, leastExponent⟩

def isZero (x : Binary64) : Bool := x.mantissa == 0

def negate (x : Binary64) : Binary64 := { x with negative := !x.negative }

/-- `num / den` rounded to an integer, ties to the even one. -/
def divideToEven (num den : Nat) : Nat :=
  let quotient := num / den
  let twice := 2 * (num % den)
  if twice < den then quotient
  else if den < twice then quotient + 1
  else quotient + quotient % 2

/-- The fraction `num / (den * 2 ^ e)`. -/
def scaleByTwo (num den : Nat) (e : Int) : Nat × Nat :=
  if 0 ≤ e then (num, den <<< e.toNat) else (num <<< (-e).toNat, den)

/-- The double nearest to `num / den`, unless that lies beyond the largest one. -/
def nearest? (num den : Nat) : Option Binary64 :=
  if num = 0 then some zero
  else
    let guess := max ((num.log2 : Int) - den.log2 - 53) leastExponent
    let (n, d) := scaleByTwo num den guess
    let exponent := if n / d < mantissaLimit then guess else guess + 1
    let (n, d) := scaleByTwo num den exponent
    let mantissa := divideToEven n d
    let (mantissa, exponent) :=
      if mantissa < mantissaLimit then (mantissa, exponent)
      else (leastFullMantissa, exponent + 1)
    if exponent ≤ greatestExponent then some ⟨false, mantissa, exponent⟩ else none

/-- The magnitude as numerator and denominator. -/
def fraction (x : Binary64) : Nat × Nat :=
  if 0 ≤ x.exponent then (x.mantissa <<< x.exponent.toNat, 1)
  else (x.mantissa, 1 <<< (-x.exponent).toNat)

def ofNat? (n : Nat) : Option Binary64 := nearest? n 1

def tenPower? (n : Nat) : Option Binary64 := nearest? (Nat.pow 10 n) 1

def mul? (x y : Binary64) : Option Binary64 :=
  nearest? (x.fraction.1 * y.fraction.1) (x.fraction.2 * y.fraction.2)

def div? (x y : Binary64) : Option Binary64 :=
  nearest? (x.fraction.1 * y.fraction.2) (x.fraction.2 * y.fraction.1)

def greatestTenPower : Nat := 308

/-- A magnitude times a power of ten, by one factor. Powers too small for one factor are divided off
in portions until the result is zero or one factor is left. -/
def timesTenPower? (x : Binary64) (power : Int) : Option Binary64 :=
  if power.natAbs ≤ greatestTenPower then
    (tenPower? power.natAbs).bind (if 0 ≤ power then x.mul? else x.div?)
  else if x.isZero then some x
  else if 0 ≤ power then none
  else
    ((tenPower? greatestTenPower).bind x.div?).bind fun y =>
      timesTenPower? y (power + greatestTenPower)
termination_by (-power).toNat
decreasing_by
  simp only [greatestTenPower] at *
  omega

/-- The double that the notation `significand * 10 ^ power` is read as. -/
def ofDecimal? (significand : Nat) (power : Int) : Option Binary64 :=
  (ofNat? significand).bind (timesTenPower? · power)

inductive Tie where
  | toEven | away
  deriving DecidableEq, Repr

/-- The decimal `digits * 10 ^ power`. -/
structure DecimalForm where
  digits : Nat
  power : Int
  deriving DecidableEq, Repr

/-- The interval that rounds to a double, in fourths of its unit in the last place:
`low ≤ value ≤ high` over the common denominator `den`. -/
structure Rounding where
  low : Nat
  value : Nat
  high : Nat
  den : Nat
  closed : Bool
  deriving Repr

def rounding (x : Binary64) : Rounding :=
  let (num, den) := x.fraction
  let unit := 1 <<< x.exponent.toNat
  let below :=
    if x.mantissa = leastFullMantissa ∧ leastExponent < x.exponent then unit else 2 * unit
  { low := 4 * num - below
    value := 4 * num
    high := 4 * num + 2 * unit
    den := 4 * den
    closed := x.mantissa % 2 == 0 }

namespace Rounding

/-- The interval with its denominator cleared of `10 ^ power`, so that grid points are integers. -/
def scale (r : Rounding) (power : Int) : Rounding :=
  if 0 ≤ power then { r with den := r.den * Nat.pow 10 power.toNat }
  else
    let factor := Nat.pow 10 (-power).toNat
    { r with low := r.low * factor, value := r.value * factor, high := r.high * factor }

def holds (r : Rounding) (n : Nat) : Bool :=
  let m := n * r.den
  if r.closed then r.low ≤ m && m ≤ r.high else r.low < m && m < r.high

/-- The nearest integer in the interval next to the value, if one of its two neighbours is. -/
def neighbour? (r : Rounding) (tie : Tie) : Option Nat :=
  let below := r.value / r.den
  let above := below + 1
  match r.holds below && 0 < below, r.holds above with
  | true, true =>
    let twice := 2 * (r.value % r.den)
    if twice < r.den then some below
    else if r.den < twice then some above
    else match tie with
      | .away => some above
      | .toEven => some (below + below % 2)
  | true, false => some below
  | false, true => some above
  | false, false => none

/-- The power of ten of the leading digit of the value, which is not zero. -/
def leadingPower (r : Rounding) : Int :=
  if r.den ≤ r.value then (Nat.toDigits 10 (r.value / r.den)).length - 1
  else
    let digits := (Nat.toDigits 10 (r.den / r.value)).length
    if r.den = r.value * Nat.pow 10 (digits - 1) then 1 - digits else -digits

end Rounding

/-- The decimal without trailing zero digits; the number of digits bounds the zeros. -/
def DecimalForm.strip : Nat → DecimalForm → DecimalForm
  | 0, f => f
  | k + 1, f => if f.digits % 10 = 0 then strip k ⟨f.digits / 10, f.power + 1⟩ else f

/-- Seventeen digits always suffice. -/
def digitCounts : List Nat := (List.range 17).map (· + 1)

def shortest (tie : Tie) (x : Binary64) : DecimalForm :=
  if x.isZero then ⟨0, 0⟩
  else
    let r := x.rounding
    let leading := r.leadingPower
    let found := digitCounts.findSome? fun (count : Nat) =>
      let power := leading + 1 - count
      ((r.scale power).neighbour? tie).map fun digits => DecimalForm.mk digits power
    DecimalForm.strip 18 (found.getD ⟨0, 0⟩)

structure Style where
  tie : Tie
  /-- Powers of the leading digit that are written positionally; all of them when absent. -/
  positional : Option (Int × Int)
  /-- What follows a whole number. -/
  wholeSuffix : String
  deriving Repr

/-- Positional notation for every size, whole numbers without a point, and of two equally near
decimals the larger. -/
def Style.field : Style := ⟨.away, none, ""⟩

/-- Positional notation for leading digits from `10 ^ -5` to `10 ^ 15`, whole numbers with a point
and a zero, and of two equally near decimals the even one. -/
def Style.document : Style := ⟨.toEven, some (-5, 15), ".0"⟩

/-- Digits with the point where the power of the last digit says. -/
def positionalText (wholeSuffix : String) (digits : List Char) (power : Int) : String :=
  if 0 ≤ power then
    String.ofList (digits ++ List.replicate power.toNat '0') ++ wholeSuffix
  else
    let places := (-power).toNat
    let padded := List.replicate (places + 1 - digits.length) '0' ++ digits
    String.ofList (padded.take (padded.length - places)) ++ "." ++
      String.ofList (padded.drop (padded.length - places))

/-- Digits with the point after the first and a signed power of ten. -/
def scientificText (digits : List Char) (leading : Int) : String :=
  let rest := digits.drop 1
  String.ofList (digits.take 1) ++ (if rest.isEmpty then "" else "." ++ String.ofList rest) ++
    (if 0 ≤ leading then "e+" else "e-") ++ toString leading.natAbs

def text (style : Style) (x : Binary64) : String :=
  let form := x.shortest style.tie
  let digits := Nat.toDigits 10 form.digits
  let leading := form.power + digits.length - 1
  let positional := match style.positional with
    | none => true
    | some (least, greatest) => x.isZero || (least ≤ leading && leading ≤ greatest)
  (if x.negative then "-" else "") ++
    if positional then positionalText style.wholeSuffix digits form.power
    else scientificText digits leading

end Binary64
end MarketFeed
