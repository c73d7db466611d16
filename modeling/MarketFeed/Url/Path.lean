import MarketFeed.Text

/-!
# Paths and percent-encoding

A character that may not stand where it is in a URL is written as the octets of its text, each as a
percent sign and two hexadecimal digits. Which characters those are depends on the part of the URL;
controls and characters beyond ASCII are always among them, the percent sign never is.

A path is a list of segments. A segment of one dot stands for nothing and one of two dots takes the
segment before it away, unless that one names a drive, such as `C:`. Either leaves an empty segment
behind where it comes last. Dots may be percent-encoded.
-/
namespace MarketFeed.Url

namespace Percent

/-- Controls and characters beyond ASCII, which no part of a URL may hold. -/
def isForeign (c : Char) : Bool := c.toNat < 0x20 || 0x7f ≤ c.toNat

def foreignOr (listed : String) (c : Char) : Bool := isForeign c || listed.toList.contains c

def inFragment : Char → Bool := foreignOr " \"<>\x60"

def inQuery : Char → Bool := foreignOr " \"#<>'"

def inPath : Char → Bool := foreignOr " \"<>\x60#?\x7b\x7d"

def inUserinfo : Char → Bool := foreignOr " \"<>\x60#?\x7b\x7d/:;=@[\\]^|"

def hexDigit (n : Nat) : Char := (Nat.digitChar n).toUpper

def encodeOctet (b : UInt8) : List Char :=
  ['%', hexDigit (b.toNat / 16), hexDigit (b.toNat % 16)]

def encodeChar (escaped : Char → Bool) (c : Char) : List Char :=
  if escaped c then (String.utf8EncodeChar c).flatMap encodeOctet else [c]

def encode (escaped : Char → Bool) (cs : List Char) : List Char := cs.flatMap (encodeChar escaped)

/-- The octets of a text in which each percent sign with two hexadecimal digits is one octet. -/
def decode : List Char → List UInt8
  | '%' :: high :: low :: rest =>
    match Text.Hex.value? high, Text.Hex.value? low with
    | some h, some l => UInt8.ofNat (h * 16 + l) :: decode rest
    | _, _ => String.utf8EncodeChar '%' ++ decode (high :: low :: rest)
  | c :: rest => String.utf8EncodeChar c ++ decode rest
  | [] => []

end Percent

namespace Path

def isSlash (c : Char) : Bool := c == '/' || c == '\\'

/-- How many dots a segment spells, encoded or not, if it spells nothing else. -/
def dots? : List Char → Option Nat
  | [] => some 0
  | '.' :: rest => (dots? rest).map (· + 1)
  | '%' :: '2' :: e :: rest => if e = 'e' ∨ e = 'E' then (dots? rest).map (· + 1) else none
  | _ => none

/-- A letter and a colon or a bar. -/
def isDrive : List Char → Bool
  | [letter, mark] => letter.isAlpha && (mark == ':' || mark == '|')
  | _ => false

/-- The segments, latest first, without the one that a segment of two dots takes away. -/
def parent : List (List Char) → List (List Char)
  | [] => []
  | last :: before => if isDrive last then last :: before else before

/-- The segments of a path, latest first, behind those in `before`. -/
def resolve (before : List (List Char)) : List (List Char) → List (List Char)
  | [] => before
  | segment :: rest =>
    let behind := fun kept => if rest.isEmpty then [] :: kept else kept
    match dots? segment with
    | some 1 => resolve (behind before) rest
    | some 2 => resolve (behind (parent before)) rest
    | _ => resolve (segment :: before) rest

/-- The segments of a written path, with or without the slash at its front. -/
def parse (cs : List Char) : List String :=
  let cs := match cs with
    | [] => []
    | c :: rest => if isSlash c then rest else c :: rest
  let segments := (Text.fields isSlash cs).map (Percent.encode Percent.inPath)
  (resolve [] segments).reverse.map String.ofList

def text (segments : List String) : String := String.join (segments.map ("/" ++ ·))

end Path
end MarketFeed.Url
