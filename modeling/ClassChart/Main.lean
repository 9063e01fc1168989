import ClassChart.CommandLine.Workspace

/-!
The program: it reads the arguments, the input that they name and the variables of the log, runs
the invocation, and carries out what comes of it on the streams and files of the system.
-/
namespace ClassChart.CommandLine

/-- The words of the system for a refused file. -/
def systemMessage (error : IO.Error) : String :=
  match error with
  | .noFileOrDirectory .. => FileError.missing.message
  | .inappropriateType _ code details | .permissionDenied _ code details
  | .resourceExhausted _ code details | .invalidArgument _ code details
  | .noSuchThing _ code details | .alreadyExists _ code details
  | .interrupted _ code details => s!"{details} (os error {code})"
  | .otherError code details => s!"{details} (os error {code})"
  | other => toString other

/-- Reads the input of a command. -/
def readInput (command : Command) : IO (Except String String) := do
  match command.inputFile? with
  | none =>
    let bytes ← (← IO.getStdin).readBinToEnd
    return decodeText bytes
  | some path =>
    try
      let bytes ← IO.FS.readBinFile path
      return (decodeText bytes).mapError (readFailure path)
    catch error => return .error (readFailure path (systemMessage error))

/-- Writes the file of an outcome; the result is the failure that the run ends with. -/
def writeSaved (outcome : Outcome) : IO (Option String) := do
  match outcome.saved with
  | none => return outcome.failure
  | some (path, content) =>
    try
      IO.FS.writeFile path content
      return outcome.failure
    catch error => return some (writeFailure path (systemMessage error))

/-- The variables that the log looks at. -/
def readEnvironment : IO Environment := do
  match ← IO.getEnv logFormatVariable with
  | some value => return [(logFormatVariable, value)]
  | none => return []

/-- How the program is called. -/
def usageLine : String :=
  s!"Usage: {programName} [OPTIONS] <render|check|tokens|help>"

/-- Answers arguments that name nothing to run. -/
def answerRejection (rejection : Rejection) : IO UInt32 := do
  match rejection with
  | .versionRequested => IO.println versionLine
  | .helpRequested => IO.println usageLine
  | _ => IO.eprintln usageLine
  return rejection.exitStatus.toUInt32

/-- Runs an invocation. -/
def execute (invocation : Invocation) : IO UInt32 := do
  let environment ← readEnvironment
  let outcome := invocation.run environment (← readInput invocation.command)
  IO.eprint (lines outcome.notes)
  IO.print outcome.printed
  match ← writeSaved outcome with
  | none => return 0
  | some message =>
    IO.eprintln (failureLine message)
    return 1

end ClassChart.CommandLine

/-- Runs the program on its arguments. -/
def main (arguments : List String) : IO UInt32 :=
  match ClassChart.CommandLine.readArguments arguments with
  | .error rejection => ClassChart.CommandLine.answerRejection rejection
  | .ok invocation => ClassChart.CommandLine.execute invocation
