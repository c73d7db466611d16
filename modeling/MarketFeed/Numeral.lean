/-!
# Bounded integers and their numerals

Market numbers, ports and times are integers of a fixed width. The width is a pair of bounds in the
type, so no operation on them can wrap.

A numeral is an optional sign and one or more of the ten ASCII digits, with any number of leading
zeros and nothing else: no blanks, no separators, no digits of other scripts. A minus sign is read
only where negative numbers are, and minus zero is one of them. The value has to lie between the
bounds of the type that is asked for.
-/
namespace MarketFeed

/-- An integer between two bounds, both included. -/
@[ext] structure Bounded (low high : Int) where
  value : Int
  low_le : low ≤ value
  le_high : value ≤ high
  deriving DecidableEq, Repr

namespace Bounded

variable {low high : Int}

/-- The integer itself when it lies between the bounds. -/
def ofInt? (n : Int) : Option (Bounded low high) :=
  if h : low ≤ n ∧ n ≤ high then some ⟨n, h.1, h.2⟩ else none

def text (b : Bounded low high) : String := toString b.value

@[simp] theorem ofInt?_value (b : Bounded low high) : ofInt? b.value = some b := by
  simp [ofInt?, b.low_le, b.le_high]

theorem ofInt?_eq_some {n : Int} {b : Bounded low high} : ofInt? n = some b ↔ b.value = n := by
  constructor
  · intro h
    unfold ofInt? at h
    split at h <;> simp_all
    rw [← h]
  · rintro rfl
    exact b.ofInt?_value

end Bounded

abbrev Unsigned16 := Bounded 0 65535

abbrev Signed64 := Bounded (-9223372036854775808) 9223372036854775807

namespace Numeral

/-- The value of a non-empty run of digits. -/
def natural? (cs : List Char) : Option Nat :=
  if cs ≠ [] ∧ cs.all Char.isDigit then some (Nat.ofDigitChars 10 cs 0) else none

def unsigned? : List Char → Option Nat
  | '+' :: cs => natural? cs
  | cs => natural? cs

/-- A numeral with either sign, as a command line may write a market or a port. -/
def signed? : List Char → Option Int
  | '-' :: cs => (natural? cs).map fun n => -(n : Int)
  | cs => (unsigned? cs).map fun n => (n : Int)

def unsignedBounded? (low high : Int) (s : String) : Option (Bounded low high) :=
  (unsigned? s.toList).bind fun n => Bounded.ofInt? n

def signedBounded? (low high : Int) (s : String) : Option (Bounded low high) :=
  (signed? s.toList).bind Bounded.ofInt?

end Numeral
end MarketFeed
