import LogShipper.Run
import Std.Time.DateTime.Timestamp

/-!
# The command

Runs with the words of the command line, the environment, the files and the standard input.  No
connection is opened: a request goes to the standard output as its URL and its payload, a line
each, and counts as accepted.  What is reported goes to the standard error output.
-/

namespace LogShipper.Main

/-- The portions in which a stream arrives up to its end, before which some have arrived. -/
partial def readAll (stream : IO.FS.Stream) (before : Array Bytes) : IO (List Bytes) := do
  let portion ← stream.read TextFile.portionSize.toUSize
  if portion.isEmpty then return before.toList else readAll stream (before.push portion.toList)

/-- Opens a file.  An error that is none of its path ends the program. -/
def openFile (path : Text) : IO (Except OpenFault Bytes) := do
  match Path.refuse? path with
  | some fault => return .error fault
  | none =>
    match ← (IO.FS.readBinFile path.toShown).toBaseIO with
    | .ok bytes => return .ok bytes.toList
    | .error (.noFileOrDirectory ..) => return .error (.missing path)
    | .error (.permissionDenied ..) => return .error (.denied path)
    | .error (.inappropriateType _ 20 _) => return .error (.notDirectory path)
    | .error (.inappropriateType ..) => return .error (.isDirectory path)
    | .error error => throw error

/-- What was found at paths; at any other there is nothing. -/
abbrev Found := List (Text × Except OpenFault Bytes)

def Found.open (found : Found) (path : Text) : Except OpenFault Bytes :=
  (found.lookup path).getD (.error (.missing path))

/-- Opens the file of a path that is given. -/
def Found.add (found : Found) : Option Text → IO Found
  | none | some [] => return found
  | some path => return (path, ← openFile path) :: found

/-- The variables that hold settings. -/
def environment : IO Environment :=
  Setting.all.filterMapM fun setting => do
    let value ← IO.getEnv setting.environmentVariable.toShown
    return value.map fun t => (setting.environmentVariable, Text.ofString t)

/-- Finds the files of a run, and its input unless its records come from a file. -/
def find (words : List Text) (environment : Environment) : IO Situation := do
  let .ok arguments := Arguments.read words
    | return ⟨words, environment, Found.open [], []⟩
  let found ← Found.add [] arguments.configPath
  let .ok config := (Config.load arguments environment found.open).result
    | return ⟨words, environment, found.open, []⟩
  match config.inputFile with
  | none | some [] =>
    let input ← readAll (← IO.getStdin) #[]
    return ⟨words, environment, found.open, input⟩
  | inputFile =>
    return ⟨words, environment, (← found.add inputFile).open, []⟩

/-- The services of a run that begins now. -/
def services : IO Services := do
  let now ← Std.Time.Timestamp.now
  let session := SessionIds.ofRandom (← IO.getRandomBytes 16).toList
  return {
    timeOfDay := { now := now.toNanosecondsSinceUnixEpoch.val }
    sessions := { next := [session] } }

/-- Shows how a run ended, and gives its exit code. -/
def showEnding : Ending → IO UInt32
  | .exit code => return code.toUInt32
  | .leave (.usage fault) => do
    IO.eprintln fault.message.toShown
    return (Leave.usage fault).code.toUInt32
  | .leave .help => return Leave.help.code.toUInt32
  | .broken fault => do
    IO.eprintln fault.message.toShown
    return 1

end LogShipper.Main

open LogShipper Main in
def main (arguments : List String) : IO UInt32 := do
  let situation ← find (arguments.map Text.ofString) (← environment)
  let (ending, services) := run situation (← services)
  let output ← IO.getStdout
  for request in services.transport.sent do
    output.putStrLn request.url.toShown
    output.write ⟨request.body.toArray⟩
    output.putStrLn ""
  for notice in services.notices do
    IO.eprintln notice.line.toShown
  showEnding ending
