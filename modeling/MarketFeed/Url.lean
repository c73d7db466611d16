import MarketFeed.Numeral
import MarketFeed.Url.Host
import MarketFeed.Url.Path

/-!
# URLs of a stream

The URL of a stream names a scheme, a host and a port, a path, a query and a fragment, and may name
a user. It is read leniently: blanks at its end, tabs and line breaks anywhere, and extra slashes
before the host do not count, and a backslash passes for a slash. It is written in one canonical
form, in which the port of the scheme is left out.
-/
namespace MarketFeed

namespace Url

inductive Scheme where
  | ws
  | wss
  deriving DecidableEq, Repr

def Scheme.name : Scheme → String
  | ws => "ws"
  | wss => "wss"

def Scheme.defaultPort : Scheme → Unsigned16
  | ws => ⟨80, by decide, by decide⟩
  | wss => ⟨443, by decide, by decide⟩

end Url

open Url in
/-- A URL in parts. All texts are percent-encoded. -/
structure Url where
  scheme : Scheme
  username : String
  password : String
  host : Host
  /-- The port, if it is not the one of the scheme. -/
  port : Option Unsigned16
  path : List String
  query : Option String
  fragment : Option String
  deriving DecidableEq, Repr

namespace Url

/-- A part that may be missing, with the mark before it. -/
def marked (mark : String) : Option String → String
  | some part => mark ++ part
  | none => ""

def userinfoText (username password : String) : String :=
  if username = "" ∧ password = "" then ""
  else username ++ (if password = "" then "" else ":" ++ password) ++ "@"

def authority (url : Url) : String := url.host.text ++ marked ":" (url.port.map Bounded.text)

/-- What is asked of the server: path and query. -/
def target (url : Url) : String := Path.text url.path ++ marked "?" url.query

def text (url : Url) : String :=
  url.scheme.name ++ "://" ++ userinfoText url.username url.password ++ url.authority ++
    url.target ++ marked "#" url.fragment

/-- A control or a blank of ASCII. -/
def isTrailing (c : Char) : Bool := c.toNat ≤ 0x20

/-- A tab or a line break. -/
def isIgnored (c : Char) : Bool := c == '\t' || c == '\n' || c == '\r'

/-- The characters of a written URL that count. -/
def significant (s : String) : List Char :=
  (s.toList.reverse.dropWhile isTrailing).reverse.filter fun c => !isIgnored c

def endsAuthority (c : Char) : Bool := Path.isSlash c || c == '?' || c == '#'

/-- The host and the port after it, if a colon follows. Colons in brackets belong to the host. -/
def cutPort (inside : Bool) : List Char → List Char × Option (List Char)
  | [] => ([], none)
  | c :: cs =>
    if c = ':' ∧ inside = false then ([], some cs)
    else
      let (host, port) := cutPort (if c = '[' then true else if c = ']' then false else inside) cs
      (c :: host, port)

/-- The port that digits spell; no digits and the port of the scheme spell none. -/
def parsePort (scheme : Scheme) (cs : List Char) : Except UrlError (Option Unsigned16) :=
  if cs.isEmpty then .ok none
  else
    match (Numeral.natural? cs).bind fun n => Bounded.ofInt? n with
    | some port => .ok (if port = scheme.defaultPort then none else some port)
    | none => .error .invalidPort

def parseUserinfo (cs : List Char) : String × String :=
  let encoded := fun part => String.ofList (Percent.encode Percent.inUserinfo part)
  match Text.cutFirst? (· == ':') cs with
  | some (username, password) => (encoded username, encoded password)
  | none => (encoded cs, "")

/-- What stands after a path: query and fragment. -/
def parseMarked (cs : List Char) : Option String × Option String :=
  let fragment := fun part => String.ofList (Percent.encode Percent.inFragment part)
  let query := fun part => String.ofList (Percent.encode Percent.inQuery part)
  match cs with
  | '?' :: rest =>
    match Text.cutFirst? (· == '#') rest with
    | some (before, after) => (some (query before), some (fragment after))
    | none => (some (query rest), none)
  | '#' :: rest => (none, some (fragment rest))
  | _ => (none, none)

/-- Reads what stands after the scheme and its two slashes. -/
def parse (scheme : Scheme) (s : String) : Except UrlError Url := do
  let (authority, rest) := ((significant s).dropWhile Path.isSlash).span fun c => !endsAuthority c
  let (userinfo, hostAndPort) := (Text.cutLast? (· == '@') authority).getD ([], authority)
  let (username, password) := parseUserinfo userinfo
  let (hostText, portText) := cutPort false hostAndPort
  let host ← Host.parse hostText
  let port ← parsePort scheme (portText.getD [])
  let (path, marks) := rest.span fun c => !(c == '?' || c == '#')
  let (query, fragment) := parseMarked marks
  return ⟨scheme, username, password, host, port, Path.parse path, query, fragment⟩

end Url
end MarketFeed
