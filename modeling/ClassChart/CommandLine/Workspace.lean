import ClassChart.CommandLine.Outcome

/-!
Whole runs in a directory that is held in memory: arguments, standard input and files lead to an
exit status, two output streams and the files as they are afterwards. Paths are read relative to
the directory.
-/
namespace ClassChart.CommandLine

/-- A file, or a directory with the names in it. -/
inductive FileTree where
  | file (content : ByteArray)
  | directory (entries : List (String × FileTree))

/-- Why the system refuses a file. -/
inductive FileError where
  | missing
  | isDirectory
  | notDirectory
  deriving DecidableEq, Repr

/-- The words of the system. -/
def FileError.message : FileError → String
  | .missing => "No such file or directory (os error 2)"
  | .isDirectory => "Is a directory (os error 21)"
  | .notDirectory => "Not a directory (os error 20)"

/-- A path, as the pieces to follow, and whether it ends in a slash. -/
structure PathParts where
  names : List String
  endsInSlash : Bool
  deriving DecidableEq, Repr

/-- Splits a path at its slashes. Empty pieces lead nowhere, and nor does the directory itself, which
is kept at the end only, where it asks for a directory. -/
def splitPath (path : String) : PathParts :=
  let pieces := (path.toList.splitOn '/').map String.ofList
  let names := pieces.filter (· ≠ "")
  { names := names.dropLast.filter (· ≠ ".") ++ names.getLast?.toList
    endsInSlash := pieces.getLast? = some "" }

/-- The place that a piece of a path leads to from a directory. The workspace has no directory above
it, like the root of a file system. -/
def nextPlace (place : List String) (piece : String) : List String :=
  if piece = "." then place
  else if piece = ".." then place.dropLast
  else place ++ [piece]

namespace FileTree

/-- What stands at the place that names lead to. -/
def find? : FileTree → List String → Except FileError FileTree
  | tree, [] => .ok tree
  | .file _, _ :: _ => .error .notDirectory
  | .directory entries, name :: rest =>
    match entries.lookup name with
    | none => .error .missing
    | some tree => tree.find? rest

/-- The tree with another content for the file at a place; a file that is not there is made, a
directory is not. -/
def put (content : ByteArray) : FileTree → List String → Except FileError FileTree
  | .file _, [] => .ok (.file content)
  | .directory _, [] => .error .isDirectory
  | .file _, _ :: _ => .error .notDirectory
  | .directory entries, name :: rest =>
    match entries.lookup name with
    | none =>
      if rest.isEmpty then .ok (.directory (entries ++ [(name, .file content)]))
      else .error .missing
    | some tree => do
      let changed ← tree.put content rest
      return .directory (entries.map fun entry => if entry.1 = name then (name, changed) else entry)

/-- Follows the pieces of a path from a place. Each of them needs a directory to start from, those that
lead back as well; what the last one leads to need not be there. -/
def follow (root : FileTree) (place : List String) :
    List String → Except FileError (List String)
  | [] => .ok place
  | piece :: rest => do
    match ← root.find? place with
    | .file _ => .error .notDirectory
    | .directory _ => root.follow (nextPlace place piece) rest

/-- The bytes of the file at a path. A slash at the end of a path asks for a directory. -/
def read (tree : FileTree) (path : String) : Except FileError ByteArray := do
  let parts := splitPath path
  match ← tree.find? (← tree.follow [] parts.names) with
  | .directory _ => .error .isDirectory
  | .file content => if parts.endsInSlash then .error .notDirectory else .ok content

/-- The tree after writing a file. A path that ends in a slash means a directory, which is not
written. -/
def write (tree : FileTree) (path : String) (content : ByteArray) : Except FileError FileTree := do
  let parts := splitPath path
  let changed ← tree.put content (← tree.follow [] parts.names)
  if parts.endsInSlash then .error .isDirectory else .ok changed

end FileTree

/-- Everything a run can see. -/
structure Surroundings where
  arguments : List String
  environment : Environment
  standardInput : ByteArray
  workspace : FileTree

/-- Everything a run leaves behind. -/
structure Aftermath where
  exitStatus : Nat
  standardOutput : String
  standardError : String
  workspace : FileTree

/-- What an invocation reads. -/
def Surroundings.input (surroundings : Surroundings) (command : Command) : Except String String :=
  match command.inputFile? with
  | none => decodeText surroundings.standardInput
  | some path =>
    match surroundings.workspace.read path with
    | .error error => .error (readFailure path error.message)
    | .ok bytes => (decodeText bytes).mapError (readFailure path)

/-- Finishes a run whose files are as they should be. -/
def Outcome.finish (outcome : Outcome) (workspace : FileTree) (failure : Option String) :
    Aftermath where
  exitStatus := if failure.isSome then 1 else 0
  standardOutput := outcome.printed
  standardError := lines (outcome.notes ++ (failure.map failureLine).toList)
  workspace := workspace

/-- Carries out an outcome in a directory. -/
def Outcome.carryOut (outcome : Outcome) (workspace : FileTree) : Aftermath :=
  match outcome.saved with
  | none => outcome.finish workspace outcome.failure
  | some (path, content) =>
    match workspace.write path content.toUTF8 with
    | .ok changed => outcome.finish changed outcome.failure
    | .error error => outcome.finish workspace (some (writeFailure path error.message))

/-- A whole run, or why the arguments name none. -/
def Surroundings.run (surroundings : Surroundings) : Except Rejection Aftermath := do
  let invocation ← readArguments surroundings.arguments
  let outcome := invocation.run surroundings.environment (surroundings.input invocation.command)
  return outcome.carryOut surroundings.workspace

end ClassChart.CommandLine
