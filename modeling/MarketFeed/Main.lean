import MarketFeed.Program

/-!
# Running a program

The first word names the program and the others are its command line. The frames of the server are
read from standard input, one text frame a line, and the stream ends with the input. Output goes to
standard output, notices and errors to standard error.
-/
namespace MarketFeed.Main

/-- The lines of an input, without the line breaks. -/
partial def readLines (input : IO.FS.Stream) (lines : Array String) : IO (List String) := do
  let line ← input.getLine
  if line.isEmpty then return lines.toList
  readLines input (lines.push line.trimAsciiEnd.toString)

/-- The variables that the programs look at. -/
def environment : IO CommandLine.Environment := do
  let names := ["LIGHTER_WS_HOST", "LIGHTER_WS_PORT", "CLICOLOR_FORCE"]
  let values ← names.mapM fun name => return (name, ← IO.getEnv name)
  return fun name => (values.lookup name).join

def run (program : Program) (words : List String) : IO UInt32 := do
  let frames ← readLines (← IO.getStdin) #[]
  let handshake := Handshake.accepted (.fresh (frames.map .text) fun _ => none)
  let result := program.run (← environment) words handshake .never
  IO.print result.output
  for notice in result.log do
    IO.eprintln notice.line
  for line in result.error.toList do
    IO.eprintln line
  for refusal in result.refusal.toList do
    IO.eprintln refusal.message
    IO.eprintln program.usage
  return result.exitCode.toUInt32

end MarketFeed.Main

open MarketFeed in
def main (words : List String) : IO UInt32 := do
  match words with
  | name :: rest =>
    match Program.ofName? name with
    | some program => Main.run program rest
    | none =>
      IO.eprintln ("There is no program of this name: " ++ name)
      return 2
  | [] =>
    IO.eprintln ("Programs: " ++ ", ".intercalate (Program.all.map Program.name))
    return 2
