import MarketFeed.Numeral

/-!
# Prices and sizes as numbers

A decimal is a coefficient of at most 96 bits divided by a power of ten of at most 28. Every such
number is a whole multiple of `10 ^ -28`, and that multiple is what is kept here: two spellings of
one number give one value, so equality and order are numeric, and minus zero is zero.

A text has an optional sign and digits with at most one point among or around them. Underscores may
follow the first digit. Digits after the point that do not fit are dropped, the first of them
rounding half up in magnitude; digits before the point have to fit. A text that is none of this may
still be such a number with a power of ten behind an `e`.
-/
namespace MarketFeed

/-- A decimal as a multiple of `10 ^ -28`. -/
@[ext] structure Decimal where
  units : Int
  deriving DecidableEq, Repr

namespace Decimal

def maxScale : Nat := 28

def maxCoefficient : Nat := 0xffffffffffffffffffffffff

def isZero (d : Decimal) : Bool := d.units == 0

/-- A coefficient over a power of ten in the course of reading. -/
structure Scaled where
  coefficient : Nat
  scale : Nat
  deriving DecidableEq, Repr

def Scaled.units (s : Scaled) : Nat := s.coefficient * Nat.pow 10 (maxScale - s.scale)

/-- The coefficient raised by one where the first dropped digit asks for it. When that makes it too
large, one more digit is dropped. -/
def Scaled.roundBy (s : Scaled) (dropped : Nat) : Option Scaled :=
  if dropped < 5 then some s
  else if s.coefficient < maxCoefficient then some { s with coefficient := s.coefficient + 1 }
  else if s.scale = 0 then none
  else some ⟨(s.coefficient + 5) / 10, s.scale - 1⟩

/-- What may follow a dropped digit. -/
def isFiller (c : Char) : Bool := c.isDigit || c == '_'

def digitValue (c : Char) : Nat := c.toNat - '0'.toNat

/-- A coefficient with the most places, of which the last was added while it was below `2 ^ 64 / 10`
by a margin. -/
def Scaled.isNarrow (s : Scaled) : Bool :=
  s.scale == maxScale && s.coefficient / 10 < 1844674407370954906

/-- Digits, underscores and at most one point. The flags say whether a point and a digit were seen.
An underscore behind the last place of a narrow coefficient counts as a dropped zero; elsewhere
underscores are passed over. -/
def scan (point seen : Bool) (s : Scaled) : List Char → Option Scaled
  | [] => if seen then some s else none
  | c :: cs =>
    if c = '_' then
      if point && s.isNarrow then if cs.all isFiller then some s else none
      else if seen then scan point seen s cs
      else none
    else if c = '.' then if point then none else scan true seen s cs
    else if c.isDigit then
      let longer := s.coefficient * 10 + digitValue c
      if point && (s.scale == maxScale || maxCoefficient < longer) then
        if cs.all isFiller then s.roundBy (digitValue c) else none
      else if maxCoefficient < longer then none
      else scan point true ⟨longer, if point then s.scale + 1 else 0⟩ cs
    else none

structure Signed where
  negative : Bool
  magnitude : Scaled
  deriving DecidableEq, Repr

def Signed.toDecimal (s : Signed) : Decimal :=
  ⟨if s.negative then -s.magnitude.units else s.magnitude.units⟩

def plain? (cs : List Char) : Option Signed :=
  match cs with
  | '-' :: rest => (scan false false ⟨0, 0⟩ rest).map (⟨true, ·⟩)
  | '+' :: rest => (scan false false ⟨0, 0⟩ rest).map (⟨false, ·⟩)
  | rest => (scan false false ⟨0, 0⟩ rest).map (⟨false, ·⟩)

/-- A power of ten: digits of a value below `2 ^ 32`, which a plus sign may precede. -/
def power? (cs : List Char) : Option Nat :=
  (Numeral.unsigned? cs).filter (· < 0x100000000)

/-- Division by a power of ten. What no longer fits behind the point is rounded half up first. -/
def Scaled.shiftDown? (s : Scaled) (power : Nat) : Option Scaled :=
  if maxScale < power then none
  else if s.scale + power ≤ maxScale then some { s with scale := s.scale + power }
  else
    let divisor := Nat.pow 10 (s.scale + power - maxScale)
    some ⟨(s.coefficient + divisor / 2) / divisor, maxScale⟩

def Scaled.shiftUp? (s : Scaled) (power : Nat) : Option Scaled :=
  if maxScale < power then none
  else if power ≤ s.scale then some { s with scale := s.scale - power }
  else
    let coefficient := s.coefficient * Nat.pow 10 (power - s.scale)
    if maxCoefficient < coefficient then none else some ⟨coefficient, 0⟩

def isExponentMark (c : Char) : Bool := c == 'e' || c == 'E'

/-- A number with a power of ten behind the first `e`. -/
def scientific? (cs : List Char) : Option Signed :=
  match cs.span fun c => !isExponentMark c with
  | (_, []) => none
  | (base, _ :: exponent) => do
    let s ← plain? base
    let magnitude ← match exponent with
      | '-' :: digits => (power? digits).bind s.magnitude.shiftDown?
      | digits => (power? digits).bind s.magnitude.shiftUp?
    return { s with magnitude }

def parse? (s : String) : Option Decimal :=
  ((plain? s.toList).or (scientific? s.toList)).map Signed.toDecimal

end Decimal
end MarketFeed
