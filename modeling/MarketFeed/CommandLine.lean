import MarketFeed.Endpoint
import MarketFeed.Text

/-!
# Command lines

A command line selects a market, sets up the endpoint and switches features on. Each of these may be
given once, in any order. Words are read from left to right. A value is looked at when the next flag
or the end is reached; an unknown flag, a second market and a value for a switch are refused on
sight, before any value that is still waiting to be looked at.

A word that begins with two dashes names a flag and may carry a value after an equals sign. A word
that begins with one dash names a flag by a single letter; what follows the letter, less an equals
sign, is the value. Two dashes alone make every word after them a plain one, and a single dash is
plain itself.

Host and port may also come from the environment. They count only where the command line is silent.
-/
namespace MarketFeed.CommandLine

inductive Word where
  | long (name : String) (value : Option String)
  | short (letter : Char) (value : Option String)
  /-- Two dashes alone. -/
  | separator
  | plain
  deriving DecidableEq, Repr

namespace Word

def attached? : List Char → Option String
  | [] => none
  | '=' :: cs => some (String.ofList cs)
  | cs => some (String.ofList cs)

def read (word : String) : Word :=
  match word.toList with
  | '-' :: '-' :: [] => separator
  | '-' :: '-' :: cs =>
    match Text.cutFirst? (· == '=') cs with
    | some (name, value) => long (String.ofList name) (some (String.ofList value))
    | none => long (String.ofList cs) none
  | '-' :: letter :: cs => short letter (attached? cs)
  | _ => plain

end Word

abbrev Unsigned64 := Bounded 0 18446744073709551615

/-- A flag with a value. -/
inductive Setting where
  | host
  | port
  | path
  | readTimeout
  | logLevel
  deriving DecidableEq, Repr

def Setting.all : List Setting := [host, port, path, readTimeout, logLevel]

def Setting.name : Setting → String
  | host => "host"
  | port => "port"
  | path => "path"
  | readTimeout => "read-timeout"
  | logLevel => "log-level"

def Setting.letter? : Setting → Option Char
  | logLevel => some 'l'
  | _ => none

/-- A flag without a value. -/
inductive Switch where
  | insecure
  | withTrades
  | withStats
  | all
  | noColor
  deriving DecidableEq, Repr

def Switch.name : Switch → String
  | insecure => "insecure"
  | withTrades => "with-trades"
  | withStats => "with-stats"
  | all => "all"
  | noColor => "no-color"

inductive UsageError where
  | helpRequested
  /-- There is no such flag, or there is one plain word too many. -/
  | unknownArgument
  | missingValue
  | invalidValue
  | repeatedArgument
  | unexpectedValue
  deriving DecidableEq, Repr

def UsageError.message : UsageError → String
  | helpRequested => "help was asked for"
  | unknownArgument => "unknown argument"
  | missingValue => "a value is missing"
  | invalidValue => "invalid value"
  | repeatedArgument => "an argument was given twice"
  | unexpectedValue => "a switch takes no value"

inductive Slot where
  | market
  | setting (setting : Setting)
  deriving DecidableEq, Repr

structure Given where
  market : Option MarketIndex
  host : Option String
  port : Option Unsigned16
  path : Option String
  readTimeout : Option Unsigned64
  logLevel : Option String
  switches : List Switch
  deriving DecidableEq, Repr

namespace Given

def nothing : Given := ⟨none, none, none, none, none, none, []⟩

def has (given : Given) : Slot → Bool
  | .market => given.market.isSome
  | .setting .host => given.host.isSome
  | .setting .port => given.port.isSome
  | .setting .path => given.path.isSome
  | .setting .readTimeout => given.readTimeout.isSome
  | .setting .logLevel => given.logLevel.isSome

/-- Reads a value. Markets and ports may be written with a minus sign, so that minus zero is one. -/
def put? (given : Given) (slot : Slot) (value : String) : Option Given :=
  match slot with
  | .market => (Numeral.signedBounded? 0 65535 value).map fun n => { given with market := some n }
  | .setting .host => some { given with host := some value }
  | .setting .port =>
    (Numeral.signedBounded? 0 65535 value).map fun n => { given with port := some n }
  | .setting .path => some { given with path := some value }
  | .setting .readTimeout =>
    (Numeral.unsignedBounded? 0 18446744073709551615 value).map fun n =>
      { given with readTimeout := some n }
  | .setting .logLevel => some { given with logLevel := some value }

def giveValue (given : Given) (slot : Slot) (value : String) : Except UsageError Given :=
  if given.has slot then .error .repeatedArgument
  else
    match given.put? slot value with
    | some given => .ok given
    | none => .error .invalidValue

def switchOn (given : Given) (switch : Switch) : Except UsageError Given :=
  if given.switches.contains switch then .error .repeatedArgument
  else .ok { given with switches := given.switches ++ [switch] }

end Given

/-- A value that is still to be looked at, or to come. -/
structure Pending where
  slot : Slot
  value : Option String
  deriving DecidableEq, Repr

structure Reading where
  given : Given
  pending : Option Pending
  marketSeen : Bool
  deriving DecidableEq, Repr

namespace Reading

def start : Reading := ⟨.nothing, none, false⟩

/-- What has been given once the pending value is looked at. -/
def settle (r : Reading) : Except UsageError Given :=
  match r.pending with
  | none => .ok r.given
  | some ⟨_, none⟩ => .error .missingValue
  | some ⟨slot, some value⟩ => r.given.giveValue slot value

def awaiting? (r : Reading) : Option Slot :=
  match r.pending with
  | some ⟨slot, none⟩ => some slot
  | _ => none

/-- A plain word that no flag waits for is the market. -/
def takeMarket (r : Reading) (word : String) : Except UsageError Reading :=
  if r.marketSeen then .error .unknownArgument
  else do
    let given ← r.settle
    return ⟨given, some ⟨.market, some word⟩, true⟩

def takeSetting (r : Reading) (setting : Setting) (value : Option String) :
    Except UsageError Reading := do
  let given ← r.settle
  match value with
  | none => return { r with given, pending := some ⟨.setting setting, none⟩ }
  | some value =>
    return { r with given := ← given.giveValue (.setting setting) value, pending := none }

def takeSwitch (r : Reading) (switch : Switch) : Except UsageError Reading := do
  let given ← r.settle
  return { r with given := ← given.switchOn switch, pending := none }

/-- A request for help. Pending values are looked at first. -/
def takeHelp (r : Reading) : Except UsageError Reading := do
  let _ ← r.settle
  throw .helpRequested

/-- Takes a word before the separator, which is not it. -/
def takeWord (switches : List Switch) (r : Reading) (word : String) : Except UsageError Reading :=
  match Word.read word with
  | .long name value =>
    match Setting.all.find? fun s => s.name == name, switches.find? fun s => s.name == name with
    | some setting, _ => r.takeSetting setting value
    | none, some switch =>
      if value.isSome then .error .unexpectedValue else r.takeSwitch switch
    | none, none =>
      if name ≠ "help" then .error .unknownArgument
      else if value.isSome then .error .unexpectedValue
      else r.takeHelp
  | .short letter value =>
    match Setting.all.find? fun s => s.letter? == some letter with
    | some setting => r.takeSetting setting value
    | none => if letter = 'h' then r.takeHelp else .error .unknownArgument
  | _ =>
    match r.awaiting? with
    | some slot => .ok { r with pending := some ⟨slot, some word⟩ }
    | none => r.takeMarket word

/-- Takes the words behind the separator, all of them plain. -/
def takePlain (r : Reading) : List String → Except UsageError Given
  | [] => r.settle
  | word :: rest => do
    let r ← r.takeMarket word
    r.takePlain rest

def takeWords (switches : List Switch) (r : Reading) : List String → Except UsageError Given
  | [] => r.settle
  | word :: rest =>
    if Word.read word = .separator then r.takePlain rest
    else do
      let r ← r.takeWord switches word
      r.takeWords switches rest

end Reading

abbrev Environment := String → Option String

def Given.orFrom (given : Given) (slot : Slot) (value : Option String) : Except UsageError Given :=
  match value with
  | some value => if given.has slot then .ok given else given.giveValue slot value
  | none => .ok given

structure Options where
  market : MarketIndex
  host : String
  port : Unsigned16
  path : String
  insecure : Bool
  /-- Seconds of silence before giving up; zero is no limit. -/
  readTimeout : Unsigned64
  logLevel : String
  switches : List Switch
  deriving DecidableEq, Repr

/-- The values that were given and the usual ones for the rest. -/
def Given.options (given : Given) : Options where
  market := given.market.getD ⟨0, by decide, by decide⟩
  host := given.host.getD Endpoint.mainnet.host
  port := given.port.getD Endpoint.mainnet.port
  path := given.path.getD Endpoint.mainnet.path
  insecure := given.switches.contains .insecure
  readTimeout := given.readTimeout.getD ⟨90, by decide, by decide⟩
  logLevel := given.logLevel.getD "info"
  switches := given.switches

def parse (switches : List Switch) (environment : Environment) (words : List String) :
    Except UsageError Options := do
  let given ← Reading.start.takeWords switches words
  let given ← given.orFrom (.setting .host) (environment "LIGHTER_WS_HOST")
  let given ← given.orFrom (.setting .port) (environment "LIGHTER_WS_PORT")
  return given.options

namespace Options

def endpoint (o : Options) : Endpoint :=
  let base :=
    if o.insecure then Endpoint.plain o.host o.port
    else { Endpoint.ofHost o.host with port := o.port }
  let seconds := o.readTimeout.value.toNat
  { base with
    path := o.path
    readLimit := if seconds = 0 then none else some (.ofSeconds seconds) }

/-- One channel for each topic, on the selected market. -/
def channels (o : Options) (topics : List Topic) : List Channel :=
  topics.map fun topic => .ofMarket topic o.market

end Options
end MarketFeed.CommandLine
