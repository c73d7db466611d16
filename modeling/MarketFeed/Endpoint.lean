import MarketFeed.StreamError
import MarketFeed.Text
import MarketFeed.Url

/-!
# Endpoints

Where a stream is served and how it is asked for. Host and path are kept as the user wrote them;
whether they make a URL is found out when the session is opened.
-/
namespace MarketFeed

/-- Where a stream is served, and the limits that a client keeps to. -/
structure Endpoint where
  host : String
  port : Unsigned16
  path : String
  secure : Bool
  userAgent : String
  /-- How long the server may be silent, if that is limited. -/
  readLimit : Option Duration
  /-- How long it may take to open a session, if that is limited. -/
  connectLimit : Option Duration
  deriving DecidableEq, Repr

namespace Endpoint

def mainnet : Endpoint where
  host := "mainnet.zklighter.elliot.ai"
  port := Url.Scheme.wss.defaultPort
  path := "/stream"
  secure := true
  userAgent := "lighter-rust-client/1.0"
  readLimit := some (.ofSeconds 90)
  connectLimit := some (.ofSeconds 10)

def ofHost (host : String) : Endpoint := { mainnet with host }

/-- A server without encryption, such as a local one. -/
def plain (host : String) (port : Unsigned16) : Endpoint :=
  { mainnet with host, port, secure := false }

def scheme (e : Endpoint) : Url.Scheme := if e.secure then .wss else .ws

/-- The endpoint as it is shown, without its port. -/
def displayUrl (e : Endpoint) : String := e.scheme.name ++ "://" ++ e.host ++ e.path

def validate (e : Endpoint) : Except StreamError Unit :=
  if (Text.trimChars e.host.toList).isEmpty then .error (.connection "host cannot be empty")
  else if e.port.value = 0 then .error (.connection "port cannot be 0")
  else if e.path.toList.head? ≠ some '/' then
    .error (.connection ("path must start with '/': " ++ e.path))
  else .ok ()

def url (e : Endpoint) : Except StreamError Url := do
  e.validate
  match Url.parse e.scheme (e.host ++ ":" ++ e.port.text ++ e.path) with
  | .ok url => return url
  | .error error => throw (.connection error.message)

/-- A character that no header of a request may hold: a control other than the tab. -/
def isHeaderControl (c : Char) : Bool := (c.toNat < 0x20 && c != '\t') || c.toNat == 0x7f

/-- A character that a host may hold but the line of a request may not. -/
def isUnrequestable (c : Char) : Bool := "\"\x60\x7b\x7d".toList.contains c

def checkRequest (e : Endpoint) (url : Url) : Except StreamError Unit :=
  if url.host.text.toList.any isUnrequestable then
    .error (.connection "HTTP format error: invalid uri character")
  else if e.userAgent.toList.any isHeaderControl then
    .error (.connection "invalid user agent: failed to parse header value")
  else .ok ()

end Endpoint
end MarketFeed
