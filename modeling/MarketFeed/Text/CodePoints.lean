import MarketFeed.Text

/-!
# Tables of code points

Properties of characters that a standard lists are kept as text, in hexadecimal and in ascending
order.

A set is a sequence of code points and ranges, `61-7A AA`. A map is a sequence of rules:
* `61-7A=41.42` sends every code point of the range to the same text,
* `61-7A+41` sends the first code point of the range to the target and the others to those after it,
* `61-7A/41` does so for every second code point and says nothing about those between,
* `61:41,42.43` lists the texts of consecutive code points.
-/
namespace MarketFeed.Text

def tableEntries (lines : List String) : List (List Char) :=
  lines.flatMap fun line => (fields (· == ' ') line.toList).filter fun entry => !entry.isEmpty

/-- A code point, or two with a dash between. -/
def range? (cs : List Char) : Option (Nat × Nat) :=
  match fields (· == '-') cs with
  | [single] => (Hex.number? single).map fun n => (n, n)
  | [first, last] => do return (← Hex.number? first, ← Hex.number? last)
  | _ => none

structure CodeSet where
  ranges : List (Nat × Nat)
  deriving DecidableEq, Repr

namespace CodeSet

def ofLines (lines : List String) : CodeSet := ⟨(tableEntries lines).filterMap range?⟩

def contains (s : CodeSet) (c : Char) : Bool :=
  s.ranges.any fun (first, last) => first ≤ c.toNat && c.toNat ≤ last

end CodeSet

inductive CodeRule where
  | constant (first last : Nat) (image : List Nat)
  | shifted (first last stride target : Nat)
  | listed (first : Nat) (images : List (List Nat))
  deriving DecidableEq, Repr

namespace CodeRule

/-- Code points with dots between. -/
def text? (cs : List Char) : Option (List Nat) := (fields (· == '.') cs).mapM Hex.number?

def isMark (c : Char) : Bool := c == '=' || c == '+' || c == '/' || c == ':'

def read? (entry : List Char) : Option CodeRule := do
  match entry.span fun c => !isMark c with
  | (key, mark :: image) =>
    let (first, last) ← range? key
    match mark with
    | '=' => return constant first last (← text? image)
    | '+' => return shifted first last 1 (← Hex.number? image)
    | '/' => return shifted first last 2 (← Hex.number? image)
    | _ => return listed first (← (fields (· == ',') image).mapM text?)
  | _ => none

/-- What the rule sends a code point to, if it is one of its own. -/
def image? (rule : CodeRule) (n : Nat) : Option (List Nat) :=
  match rule with
  | constant first last image => if first ≤ n ∧ n ≤ last then some image else none
  | shifted first last stride target =>
    if first ≤ n ∧ n ≤ last ∧ (n - first) % stride = 0 then some [target + (n - first)] else none
  | listed first images => if first ≤ n then images[n - first]? else none

/-- The first code point that the rule sends to a text, if there is any. -/
def source? (rule : CodeRule) (image : List Nat) : Option Nat :=
  match rule with
  | constant first _ text => if image = text then some first else none
  | shifted first last stride target =>
    match image with
    | [n] =>
      if target ≤ n ∧ first + (n - target) ≤ last ∧ (n - target) % stride = 0 then
        some (first + (n - target))
      else none
    | _ => none
  | listed first images => (images.findIdx? (· == image)).map (first + ·)

end CodeRule

structure CodeMap where
  rules : List CodeRule
  deriving DecidableEq, Repr

namespace CodeMap

def ofLines (lines : List String) : CodeMap := ⟨(tableEntries lines).filterMap CodeRule.read?⟩

def image? (m : CodeMap) (c : Char) : Option (List Char) :=
  (m.rules.findSome? fun rule => rule.image? c.toNat).map fun codes => codes.map Char.ofNat

def source? (m : CodeMap) (image : List Char) : Option Char :=
  (m.rules.findSome? fun rule => rule.source? (image.map Char.toNat)).map Char.ofNat

end CodeMap
end MarketFeed.Text
