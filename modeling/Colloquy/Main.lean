import Colloquy.Chance
import Colloquy.CommandLine.Program
import Std.Time.DateTime.Timestamp

/-!
# The command line

The program on the real command line: its files, clock, standard input and output.
-/

namespace Colloquy

namespace CommandLine

/-- The octets of a file, or why there are none. -/
def contentOfFile (path : String) : IO Document.Content := do
  try
    return .ok (← IO.FS.readBinFile path).toList
  catch
    | .noFileOrDirectory .. => return .error .notFound
    | .inappropriateType _ _ details =>
      return .error (if details.toLower = "is a directory" then .isDirectory else .notDirectory)
    | .invalidArgument name code details =>
      if code = 36 then return .error .nameTooLong else throw (.invalidArgument name code details)
    | e => throw e

/-- The seconds since the start of the epoch. -/
def now : IO Double := do
  let time ← Std.Time.Timestamp.now
  return .ofRat (mkRat time.toMillisecondsSinceUnixEpoch.toInt 1000)

/-- Print what a step printed and, if asked to, the journal; the journal is empty after that. -/
def present (options : Options) (step : Step) : IO State := do
  let output ← IO.getStdout
  let (printed, state) := step
  if options.verbose then (← IO.getStderr).putStr (journalText state.sources)
  output.putStr printed
  output.flush
  match state with
  | .playing preview =>
    return .playing { preview with sources := { preview.sources with journal := [] } }
  | ended => return ended

/-- Take lines of input as long as the program is under way, and give its exit code. -/
partial def play (options : Options) : State → IO UInt32
  | .left exit _ => return UInt32.ofNat exit
  | .broken fault _ => do
    (← IO.getStderr).putStrLn fault.message
    return 1
  | .playing preview => do
    let output ← IO.getStdout
    output.putStr prompt
    output.flush
    let input ← (← IO.getStdin).getLine
    if input.isEmpty then return 0
    -- the clock is read once for each line of input
    let clock := Clock.steady (← now)
    let ready := { preview with sources := { preview.sources with clock } }
    play options (← present options (answer ready ((input.dropSuffix "\n").toString)))

/-- Run the program with the given options. -/
def start (options : Options) : IO UInt32 := do
  let seed ←
    match options.seed with
    | some (.value n) => pure n
    | _ => pure (Int.ofNat (← IO.rand 0 0xFFFFFFFFFFFFFFFF))
  let sources : Sources := { chance := chanceFrom seed, clock := .steady (← now) }
  let content ←
    match options.tree with
    | .value path => contentOfFile path
    | .empty => pure (.error .notFound)
  play options (← present options (begin options (fun _ => content) sources))

end CommandLine

end Colloquy

/-- The program. -/
def main (words : List String) : IO UInt32 := do
  match Colloquy.CommandLine.parse words with
  | .run options => Colloquy.CommandLine.start options
  | .help =>
    IO.print Colloquy.CommandLine.helpText
    return 0
  | .fail error =>
    (← IO.getStderr).putStr (Colloquy.CommandLine.errorText error)
    return 2
