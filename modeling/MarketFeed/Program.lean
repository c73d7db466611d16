import MarketFeed.CommandLine
import MarketFeed.Console.Printer
import MarketFeed.Session

/-!
# The programs

Three programs stream from one server: summaries of an order book, a table of trades, and blocks of
market statistics. Each prints a banner, holds one session and prints what the session brings. A
session that was opened ends well, however it ended.
-/
namespace MarketFeed

open CommandLine Console

inductive Program where
  | orderBook
  | trades
  | marketStats
  deriving DecidableEq, Repr

structure Program.Result where
  exitCode : Nat
  output : String
  /-- The line on standard error, if there is one. -/
  error : Option String
  /-- What is reported beside, as far as the user wants to know. -/
  log : List Notice
  /-- The client after the session, unless the command line was not carried out. -/
  client : Option Client
  /-- Why the command line was not carried out, if it was not. -/
  refusal : Option UsageError

namespace Program

def all : List Program := [orderBook, trades, marketStats]

def name : Program → String
  | orderBook => "orderbook-stream"
  | trades => "trade-stream"
  | marketStats => "market-stats-stream"

def ofName? (s : String) : Option Program := all.find? fun p => p.name == s

def switches : Program → List Switch
  | orderBook => [.insecure, .withTrades, .withStats]
  | trades => [.insecure, .noColor]
  | marketStats => [.insecure, .all]

def title : Program → String
  | orderBook => "Lighter Order Book Stream"
  | trades => "Lighter Trade Stream"
  | marketStats => "Lighter Market Stats Stream"

/-- What is said while there is nothing to show. -/
def waiting : Program → List String
  | orderBook => []
  | trades => ["Waiting for trades...", ""]
  | marketStats => ["Waiting for updates...", ""]

/-- The flags and the market that a program may be started with. -/
def usage (program : Program) : String :=
  let settings := Setting.all.map fun setting => " [--" ++ setting.name ++ " VALUE]"
  let switches := program.switches.map fun switch => " [--" ++ switch.name ++ "]"
  "Usage: " ++ program.name ++ String.join (settings ++ switches) ++ " [MARKET]"

def channels (options : Options) : Program → List Channel
  | orderBook =>
    options.channels <|
      .orderBook :: (if options.switches.contains .withTrades then [.trade] else []) ++
        (if options.switches.contains .withStats then [.marketStats] else [])
  | trades => options.channels [.trade]
  | marketStats =>
    if options.switches.contains .all then [.ofAll .marketStats]
    else options.channels [.marketStats]

/-- Colours are used only where the environment insists on them, as the output is no terminal. -/
def isColoured (environment : Environment) : Bool :=
  match environment "CLICOLOR_FORCE" with
  | some value => value != "0"
  | none => false

def printer (options : Options) (environment : Environment) : Program → Printer
  | orderBook => .summary
  | trades => .tradeTable (isColoured environment && !options.switches.contains .noColor)
  | marketStats => .statsBlocks

/-- What is printed before the session is opened. -/
def banner (program : Program) (options : Options) : List String :=
  [program.title, "Connecting to " ++ options.endpoint.displayUrl, "Press Ctrl+C to exit", ""] ++
    program.waiting

def finish (session : Session Summary) : Result :=
  match session.result with
  | .ok ending =>
    { exitCode := 0
      output := (session.state.write ["Disconnected"]).1.sink.text
      error := none
      log := session.notices ++ [.sessionEnded ending]
      client := some session.client
      refusal := none }
  | .error error =>
    { exitCode := 1
      output := session.state.sink.text
      error := some ("Error: " ++ error.message)
      log := session.notices ++ [.startupFailed error]
      client := some session.client
      refusal := none }

/-- Runs a program with a server that answers by the handshake. -/
def run (program : Program) (environment : Environment) (words : List String)
    (handshake : Handshake) (shutdown : Shutdown) : Result :=
  match parse program.switches environment words with
  | .error error =>
    { exitCode := if error = .helpRequested then 0 else 2
      output := "", error := none, log := [], client := none, refusal := some error }
  | .ok options =>
    let (start, _) := (Summary.start .working).write (program.banner options)
    let result := finish (Session.hold options.endpoint handshake (program.channels options)
      (program.printer options environment).handler start shutdown)
    let asked := Level.ofName options.logLevel
    { result with log := result.log.filter fun notice => notice.isShownAt asked }

end Program
end MarketFeed
