import MarketFeed.Frame.Inbound
import MarketFeed.Text.Quoted

/-!
# Errors of a stream

An error of a frame or one that the server reports costs that frame only. Every other error ends the
session or keeps it from starting.

A time limit is reported in the largest of the units second, millisecond, microsecond and nanosecond
in which it is at least one, with as many decimal places as it needs.
-/
namespace MarketFeed

/-- A length of time in nanoseconds. -/
structure Duration where
  nanoseconds : Nat
  deriving DecidableEq, Repr

namespace Duration

def ofSeconds (n : Nat) : Duration := ⟨n * 1000000000⟩

def ofMilliseconds (n : Nat) : Duration := ⟨n * 1000000⟩

def milliseconds (d : Duration) : Nat := d.nanoseconds / 1000000

/-- A part of a unit as decimal places, without zeros at the end. -/
def placesText (places part : Nat) : String :=
  let digits := Nat.toDigits 10 part
  let padded := List.replicate (places - digits.length) '0' ++ digits
  let kept := (padded.reverse.dropWhile (· == '0')).reverse
  if kept.isEmpty then "" else "." ++ String.ofList kept

/-- The length in a unit of `10 ^ places` nanoseconds. -/
def inUnit (d : Duration) (places : Nat) (name : String) : String :=
  let unit := Nat.pow 10 places
  toString (d.nanoseconds / unit) ++ placesText places (d.nanoseconds % unit) ++ name

def text (d : Duration) : String :=
  if 1000000000 ≤ d.nanoseconds then d.inUnit 9 "s"
  else if 1000000 ≤ d.nanoseconds then d.inUnit 6 "ms"
  else if 1000 ≤ d.nanoseconds then d.inUnit 3 "µs"
  else toString d.nanoseconds ++ "ns"

end Duration

inductive StreamError where
  /-- No session could be opened. -/
  | connection (reason : String)
  | protocol (reason : String)
  /-- The peer is gone or the transport failed. -/
  | transportClosed (reason : String)
  | application (code : Option Signed64) (message : String)
  | notConnected
  | alreadyConnected
  /-- Nothing happened for as long as the limit. -/
  | timeout (limit : Duration)
  deriving DecidableEq, Repr

namespace StreamError

def message : StreamError → String
  | connection reason => "Connection failed: " ++ reason
  | protocol reason => "Malformed frame: " ++ reason
  | transportClosed reason => "Transport closed: " ++ reason
  | application _ message => "Server error: " ++ message
  | notConnected => "Not connected"
  | alreadyConnected => "Already connected"
  | timeout limit => "Timed out after " ++ limit.text

def isFatal : StreamError → Bool
  | protocol _ | application _ _ => false
  | _ => true

def code? : StreamError → Option Signed64
  | application code _ => code
  | _ => none

/-- The error in full, with the texts in it quoted. -/
def shape : StreamError → String
  | connection reason => "Connection(" ++ Text.quoted reason ++ ")"
  | protocol reason => "Protocol(" ++ Text.quoted reason ++ ")"
  | transportClosed reason => "TransportClosed(" ++ Text.quoted reason ++ ")"
  | application code message =>
    let code := match code with
      | some code => "Some(" ++ code.text ++ ")"
      | none => "None"
    "Application \x7b code: " ++ code ++ ", message: " ++ Text.quoted message ++ " \x7d"
  | notConnected => "NotConnected"
  | alreadyConnected => "AlreadyConnected"
  | timeout limit => "Timeout(" ++ limit.text ++ ")"

def ofFrameError (error : FrameError) : StreamError := protocol error.message

def ofServerError (error : ServerError) : StreamError := application error.code error.message

end StreamError
end MarketFeed
