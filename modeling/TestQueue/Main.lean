import TestQueue.Http.Line
import TestQueue.Http.Service
import TestQueue.Server.CommandLine
import TestQueue.Server.Timers

/-!
The server as a program. Requests come one a line on standard input and are answered one a line on
standard output; the server goes on after the end of its input until its timers stop it.
-/

namespace TestQueue

open Time (Instant)

def usage : String :=
  "Distributes test buckets to remote workers\n\n" ++
    "Usage: testqueue [--config FILE] [--listen ADDRESS] [--log-json]"

def readFile? (path : String) : IO (Option ByteArray) := do
  try
    return some (← IO.FS.readBinFile path)
  catch _ =>
    return none

def readEnvironment : IO (String → Option String) := do
  let config ← IO.getEnv "TESTFLEET_CONFIG"
  let listen ← IO.getEnv "TESTFLEET_LISTEN"
  let logJson ← IO.getEnv "TESTFLEET_LOG_JSON"
  return fun name =>
    match name with
    | "TESTFLEET_CONFIG" => config
    | "TESTFLEET_LISTEN" => listen
    | "TESTFLEET_LOG_JSON" => logJson
    | _ => none

def freshIds : IO IdSource := do
  let bytes ← IO.getRandomBytes 16
  return .sequential (String.ofList (bytes.toList.flatMap fun b =>
    [Text.hexDigit (b.toNat / 16), Text.hexDigit (b.toNat % 16)]))

def instantOf (ms : Nat) : Instant := (Instant.ofMillis? ms).getD .epoch

partial def serve (start : Nat) (isOpen : Bool) (t : Timers) (d : Dispatcher) : IO Unit := do
  let line ← if isOpen then (← IO.getStdin).getLine else pure ""
  let now ← IO.monoMsNow
  let (t, d) := t.runUntil (now - start) (fun ms => instantOf (start + ms)) d
  if t.stoppedAt.isSome then
    return ()
  else if line.isEmpty then
    IO.sleep (min t.nextSweep t.nextPoll - (now - start)).toUInt32
    serve start false t d
  else
    let (response, d) := d.serve (instantOf now) (.ofLine (line.trimAsciiEnd.toString))
    let output ← IO.getStdout
    output.putStrLn response.toLine
    output.flush
    serve start isOpen t d

def launch (args : List String) : IO UInt32 := do
  let start := LaunchOptions.read args (← readEnvironment)
  let path := match start with
    | .ok o => o.config
    | .error _ => none
  let file ← match path with
    | some path => readFile? path
    | none => pure none
  match start.bind (LaunchOptions.settings · file) with
  | .error .help =>
    IO.println usage
    return LaunchFailure.help.exitCode
  | .error e =>
    IO.eprintln ("Error: " ++ e.message?.getD "cannot start")
    return e.exitCode
  | .ok config =>
    let now ← IO.monoMsNow
    serve now true (.starting config)
      (.new config.dispatcherSettings (← freshIds) (instantOf now))
    return 0

end TestQueue

def main (args : List String) : IO UInt32 := TestQueue.launch args
