import MarketFeed.Json.Value

/-!
# Numbers in a document

A number is scanned before it is valued. The scan is the grammar: no leading zeros, and at least one
digit after the minus sign, the point and the `e`. What stands where a digit is missing decides the
fault, and a skipped number differs from a read one only there, so the fault at the end of the text
is an argument.

The value takes the digits into a significand of 64 bits as far as they fit. Integer digits that do
not fit only count as powers of ten, fraction digits that do not fit are lost.
-/
namespace MarketFeed.Json

structure Written where
  negative : Bool
  whole : List Char
  /-- The digits after the point, if there is one. -/
  fraction : Option (List Char)
  exponent : Option Int
  deriving DecidableEq, Repr

namespace Written

def digits (atEnd : Fault) (s : List Char) : Except Fault (List Char × List Char) :=
  match s.span Char.isDigit, s with
  | ([], _), [] => .error atEnd
  | ([], _), _ :: _ => .error .invalidNumber
  | (ds, rest), _ => .ok (ds, rest)

/-- The digits before the point: a single zero, or digits that do not begin with one. -/
def scanWhole (atEnd : Fault) (s : List Char) : Except Fault (List Char × List Char) :=
  match s with
  | '0' :: c :: rest => if c.isDigit then .error .invalidNumber else .ok (['0'], c :: rest)
  | s => digits atEnd s

def scanFraction (atEnd : Fault) : List Char → Except Fault (Option (List Char) × List Char)
  | '.' :: rest => do
    let (ds, rest) ← digits atEnd rest
    return (some ds, rest)
  | s => .ok (none, s)

/-- The signed digits after the `e`. -/
def scanExponent (atEnd : Fault) (s : List Char) : Except Fault (Option Int × List Char) :=
  match s with
  | [] => .ok (none, [])
  | c :: rest =>
    if c = 'e' ∨ c = 'E' then do
      let (sign, rest) := match rest with
        | '+' :: rest => ((1 : Int), rest)
        | '-' :: rest => (-1, rest)
        | rest => (1, rest)
      let (ds, rest) ← digits atEnd rest
      return (some (sign * (Nat.ofDigitChars 10 ds 0 : Int)), rest)
    else .ok (none, s)

/-- A number after its sign. -/
def scan (atEnd : Fault) (negative : Bool) (s : List Char) :
    Except Fault (Written × List Char) := do
  let (whole, s) ← scanWhole atEnd s
  let (fraction, s) ← scanFraction atEnd s
  let (exponent, s) ← scanExponent atEnd s
  return (⟨negative, whole, fraction, exponent⟩, s)

def significandLimit : Nat := 0xffffffffffffffff

/-- Appends digits to a significand as far as it stays within its limit; the rest is returned. -/
def accumulate : Nat → List Char → Nat × List Char
  | acc, [] => (acc, [])
  | acc, c :: cs =>
    let next := acc * 10 + (c.toNat - '0'.toNat)
    if next ≤ significandLimit then accumulate next cs else (acc, c :: cs)

/-- Negative integers of 64 bits are kept as integers; minus zero and smaller ones are doubles. -/
def negativeInteger (n : Nat) : Except Fault Number :=
  if 0 < n ∧ n ≤ 0x8000000000000000 then .ok (.integer (-n))
  else match Binary64.ofNat? n with
    | some x => .ok (.double x.negate)
    | none => .error .numberOutOfRange

def value (w : Written) : Except Fault Number :=
  match accumulate 0 w.whole, w.fraction, w.exponent with
  | (n, []), none, none => if w.negative then negativeInteger n else .ok (.integer n)
  | (n, dropped), fraction, exponent =>
    let places := fraction.getD []
    let (significand, lost) := accumulate n places
    let power := (dropped.length : Int) - (places.length - lost.length : Nat) + exponent.getD 0
    match Binary64.ofDecimal? significand power with
    | some x => .ok (.double (if w.negative then x.negate else x))
    | none => .error .numberOutOfRange

end Written
end MarketFeed.Json
