/-!
# Punycode

A label with characters beyond ASCII is written with ASCII letters and digits alone. The ASCII
characters of the label come first, with a dash behind them if there are any. The others follow in
ascending order, each as the distance from the one before it, counted in places where it could be
inserted. A distance is a number of variable length in base 36, least significant digit first, whose
digits end it when they are below a threshold; the thresholds adapt to the distances seen so far.
-/
namespace MarketFeed.Url.Punycode

/-- The threshold of the digit at a position, which counts in steps of 36. -/
def threshold (position bias : Nat) : Nat := max 1 (min 26 (position - bias))

theorem threshold_pos (position bias : Nat) : 1 ≤ threshold position bias := by
  unfold threshold; omega

theorem threshold_le (position bias : Nat) : threshold position bias ≤ 26 := by
  unfold threshold; omega

def scale (k delta : Nat) : Nat :=
  if 455 < delta then scale (k + 36) (delta / 35) else k + 36 * delta / (delta + 38)
termination_by delta
decreasing_by omega

/-- The bias after a distance, with the number of characters there are by then. -/
def adapt (delta count : Nat) (first : Bool) : Nat :=
  let damped := if first then delta / 700 else delta / 2
  scale 0 (damped + damped / count)

def digit (n : Nat) : Char :=
  if n < 26 then Char.ofNat ('a'.toNat + n) else Char.ofNat ('0'.toNat + (n - 26))

def digitValue? (c : Char) : Option Nat :=
  if 'a' ≤ c ∧ c ≤ 'z' then some (c.toNat - 'a'.toNat)
  else if c.isDigit then some (c.toNat - '0'.toNat + 26)
  else none

def isBasic (c : Char) : Bool := c.toNat < 0x80

def writeDistance (bias position n : Nat) : List Char :=
  let t := threshold position bias
  if n < t then [digit n]
  else digit (t + (n - t) % (36 - t)) :: writeDistance bias (position + 36) ((n - t) / (36 - t))
termination_by n
decreasing_by
  have := threshold_pos position bias
  have := threshold_le position bias
  exact Nat.lt_of_le_of_lt (Nat.div_le_self _ _) (by omega)

structure Encoding where
  /-- The number of characters that are written. -/
  handled : Nat
  delta : Nat
  bias : Nat
  first : Bool
  output : List Char

/-- Passes a character on the way to those with the code point `n`. -/
def Encoding.pass (n : Nat) (e : Encoding) (c : Char) : Encoding :=
  if c.toNat < n then { e with delta := e.delta + 1 }
  else if c.toNat = n then
    { handled := e.handled + 1
      delta := 0
      bias := adapt e.delta (e.handled + 1) e.first
      first := false
      output := e.output ++ writeDistance e.bias 36 e.delta }
  else e

/-- Writes the characters with the given code points, which are above `least` and ascending. -/
def Encoding.write (label : List Char) (e : Encoding) (least : Nat) : List Nat → Encoding
  | [] => e
  | n :: rest =>
    let e := { e with delta := e.delta + (n - least) * (e.handled + 1) }
    let e := label.foldl (pass n) e
    { e with delta := e.delta + 1 }.write label (n + 1) rest

/-- The code points beyond ASCII, ascending and each once. -/
def foreignCodes (label : List Char) : List Nat :=
  let codes := (label.filter fun c => !isBasic c).map Char.toNat
  (codes.mergeSort (· ≤ ·)).eraseDups

def encode (label : List Char) : List Char :=
  let basic := label.filter isBasic
  let start : Encoding :=
    ⟨basic.length, 0, 72, true, if basic.isEmpty then [] else basic ++ ['-']⟩
  (start.write label 0x80 (foreignCodes label)).output

structure Decoding where
  output : List Char
  /-- The code point to be inserted next and the place for it. -/
  code : Nat
  place : Nat
  bias : Nat
  first : Bool
  /-- The distance so far, with the weight and position of its next digit. -/
  delta : Nat
  weight : Nat
  position : Nat

def char? (n : Nat) : Option Char := if n.isValidChar then some (Char.ofNat n) else none

/-- Inserts the character that a complete distance leads to. -/
def Decoding.insert? (d : Decoding) : Option Decoding := do
  let count := d.output.length + 1
  let code := d.code + (d.place + d.delta) / count
  let place := (d.place + d.delta) % count
  return {
    output := d.output.take place ++ (← char? code) :: d.output.drop place
    code, place := place + 1
    bias := adapt d.delta count d.first
    first := false
    delta := 0, weight := 1, position := 36 }

def Decoding.read? (d : Decoding) (c : Char) : Option Decoding := do
  let value ← digitValue? c
  let t := threshold d.position d.bias
  let d := { d with delta := d.delta + value * d.weight }
  if value < t then d.insert?
  else return { d with weight := d.weight * (36 - t), position := d.position + 36 }

/-- The ASCII characters and the digits of a written label. A dash at its front separates
nothing. -/
def cutBasic (cs : List Char) : List Char × List Char :=
  match cs.reverse.span (· != '-') with
  | (digits, _ :: basic) => if basic.isEmpty then ([], cs) else (basic.reverse, digits.reverse)
  | _ => ([], cs)

/-- The label that is written so, unless its last distance is cut short. -/
def decode? (cs : List Char) : Option (List Char) := do
  let (basic, digits) := cutBasic cs
  let d ← digits.foldlM Decoding.read? ⟨basic, 0x80, 0, 72, true, 0, 1, 36⟩
  if d.position = 36 then return d.output else none

end MarketFeed.Url.Punycode
