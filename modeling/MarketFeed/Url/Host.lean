import MarketFeed.Text
import MarketFeed.Url.Domain
import MarketFeed.Url.Path

/-!
# Hosts

A host in brackets is an address of 128 bits. Any other host is percent-decoded and taken for a
domain name, which is an address of 32 bits if it ends in a number.

An address of 32 bits is written as one to four numbers between dots. Each number but the last
stands for one octet and the last one for all octets that are left, so that `127.1` is `127.0.0.1`.
A number is decimal, hexadecimal after `0x`, or octal after a zero. One dot at the end does not
count.

An address of 128 bits is eight groups of one to four hexadecimal digits between colons. Two colons,
at most once, stand for one or more groups of zero, and the last two groups may be written as four
octets with dots, which then have no leading zeros. The written form is the shortest one: the first
of the longest runs of at least two groups of zero is left out, digits are small and octets are not
used.
-/
namespace MarketFeed.Url

structure Ipv4 where
  value : UInt32
  deriving DecidableEq, Repr

namespace Ipv4

def isDot (c : Char) : Bool := c == '.'

def digits? (base : Nat) (cs : List Char) : Option Nat :=
  cs.foldlM (fun n c =>
    match Text.Hex.value? c with
    | some d => if d < base then some (n * base + d) else none
    | none => none) 0

/-- One number of an address. A bare `0x` is zero. -/
def number? : List Char → Option Nat
  | [] => none
  | '0' :: 'x' :: cs => digits? 16 cs
  | '0' :: 'X' :: cs => digits? 16 cs
  | '0' :: c :: cs => digits? 8 (c :: cs)
  | cs => digits? 10 cs

/-- The parts of a text between dots, less an empty one at the end. -/
def parts (cs : List Char) : List (List Char) :=
  let all := Text.fields isDot cs
  if 1 < all.length ∧ all.getLast? = some [] then all.dropLast else all

/-- The text ends in a number, so it has to be an address. -/
def claims (cs : List Char) : Bool :=
  match (parts cs).getLast? with
  | some last => (!last.isEmpty && last.all Char.isDigit) || (number? last).isSome
  | none => false

/-- The address that numbers stand for when the first of them is at `place`, the last octet being at
place 0. -/
def value? (place : Nat) : List Nat → Option Nat
  | [] => none
  | [n] => if n < 1 <<< (8 * (place + 1)) then some n else none
  | n :: rest =>
    match place with
    | 0 => none
    | place + 1 =>
      if n < 256 then (value? place rest).map (n <<< (8 * (place + 1)) + ·) else none

def parse? (cs : List Char) : Option Ipv4 := do
  let numbers ← (parts cs).mapM number?
  let value ← value? 3 numbers
  return ⟨UInt32.ofNat value⟩

/-- The four octets, most significant first. -/
def octets (a : Ipv4) : List Nat :=
  [24, 16, 8, 0].map fun shift => (a.value.toNat >>> shift) % 256

def text (a : Ipv4) : String := ".".intercalate (a.octets.map toString)

end Ipv4

structure Ipv6 where
  groups : List UInt16
  length_groups : groups.length = 8
  deriving DecidableEq, Repr

namespace Ipv6

def isColon (c : Char) : Bool := c == ':'

def group? (cs : List Char) : Option UInt16 :=
  if 1 ≤ cs.length ∧ cs.length ≤ 4 then (Ipv4.digits? 16 cs).map UInt16.ofNat else none

/-- An octet without leading zeros. -/
def octet? (cs : List Char) : Option Nat :=
  if cs = ['0'] ∨ (cs ≠ [] ∧ cs.head? ≠ some '0') then
    (Ipv4.digits? 10 cs).filter (· < 256)
  else none

def octetGroups? (cs : List Char) : Option (List UInt16) :=
  match (Text.fields Ipv4.isDot cs).mapM octet? with
  | some [a, b, c, d] => some [UInt16.ofNat (a * 256 + b), UInt16.ofNat (c * 256 + d)]
  | _ => none

/-- Groups of which the last two may be written as octets. -/
def groups? : List (List Char) → Option (List UInt16)
  | [] => some []
  | [last] => if last.any Ipv4.isDot then octetGroups? last else (group? last).map ([·])
  | first :: rest => do
    let g ← group? first
    let gs ← groups? rest
    return g :: gs

def groupsOf? (cs : List Char) : Option (List UInt16) :=
  if cs.isEmpty then some [] else groups? (Text.fields isColon cs)

/-- What stands before and after the first two colons in a row. -/
def cutDouble? : List Char → Option (List Char × List Char)
  | ':' :: ':' :: rest => some ([], rest)
  | c :: rest => (cutDouble? rest).map fun (before, after) => (c :: before, after)
  | [] => none

def ofGroups? (groups : List UInt16) : Option Ipv6 :=
  if h : groups.length = 8 then some ⟨groups, h⟩ else none

def parse? (cs : List Char) : Option Ipv6 :=
  match cutDouble? cs with
  | none => (groupsOf? cs).bind ofGroups?
  | some (before, after) => do
    if before.any Ipv4.isDot then none
    let left ← groupsOf? before
    let right ← groupsOf? after
    if 8 ≤ left.length + right.length then none
    ofGroups? (left ++ List.replicate (8 - left.length - right.length) 0 ++ right)

def zerosAhead (groups : List UInt16) : Nat := (groups.takeWhile (· == 0)).length

/-- The place and length of the first of the longest runs of zero groups. -/
def longestZeros (place : Nat) : List UInt16 → Nat × Nat
  | [] => (place, 0)
  | g :: rest =>
    let here := zerosAhead (g :: rest)
    let later := longestZeros (place + 1) rest
    if later.2 ≤ here then (place, here) else later

def hexText (n : Nat) : String := String.ofList (Nat.toDigits 16 n)

def groupsText (groups : List UInt16) : String :=
  ":".intercalate (groups.map fun g => hexText g.toNat)

def text (a : Ipv6) : String :=
  let (place, length) := longestZeros 0 a.groups
  if length < 2 then groupsText a.groups
  else groupsText (a.groups.take place) ++ "::" ++ groupsText (a.groups.drop (place + length))

end Ipv6

inductive UrlError where
  | emptyHost
  | invalidPort
  | invalidIpv4
  | invalidIpv6
  | invalidDomain
  deriving DecidableEq, Repr

def UrlError.message : UrlError → String
  | emptyHost => "empty host"
  | invalidPort => "invalid port number"
  | invalidIpv4 => "invalid IPv4 address"
  | invalidIpv6 => "invalid IPv6 address"
  | invalidDomain => "invalid international domain name"

inductive Host where
  | domain (name : String)
  | ipv4 (address : Ipv4)
  | ipv6 (address : Ipv6)
  deriving DecidableEq, Repr

namespace Host

def text : Host → String
  | domain name => name
  | ipv4 address => address.text
  | ipv6 address => "[" ++ address.text ++ "]"

/-- The text between brackets, if the second one is there. -/
def unbracket? (cs : List Char) : Option (List Char) :=
  if cs.getLast? = some ']' then some cs.dropLast else none

def parseName (cs : List Char) : Except UrlError Host :=
  match (Text.Utf8.decode (Percent.decode cs)).toOption.bind fun s => Domain.toAscii? s.toList with
  | none => .error .invalidDomain
  | some name =>
    if name.isEmpty then .error .emptyHost
    else if Ipv4.claims name then
      match Ipv4.parse? name with
      | some address => .ok (ipv4 address)
      | none => .error .invalidIpv4
    else .ok (domain (String.ofList name))

def parse : List Char → Except UrlError Host
  | [] => .error .emptyHost
  | '[' :: cs =>
    match (unbracket? cs).bind Ipv6.parse? with
    | some address => .ok (ipv6 address)
    | none => .error .invalidIpv6
  | cs => parseName cs

end Host
end MarketFeed.Url
