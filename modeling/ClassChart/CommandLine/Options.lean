import ClassChart.Logging

/-!
The options of the command line: their spellings, where they may stand, and the values they take.
Options before the command are read in one scope, those behind it in the scope of the command,
and none of them is known in the other.
-/
namespace ClassChart.CommandLine

/-- The options. -/
inductive OptionName where
  | help
  | version
  | verbose
  | logLevel
  | logFormat
  | input
  | output
  | strict
  | width
  | height
  | json
  deriving DecidableEq, Repr

/-- What an option takes. -/
inductive ValueShape where
  /-- No value: the option is a switch. -/
  | nothing
  /-- A path, which is not empty. -/
  | path
  /-- A number of 32 bits. -/
  | size
  /-- One of a few words. -/
  | word (choices : List String)
  deriving DecidableEq, Repr

/-- An option and its spellings, without their hyphens. -/
structure OptionSpec where
  name : OptionName
  long : String
  short : Option Char
  shape : ValueShape
  deriving DecidableEq, Repr

/-- The option takes a value. -/
def OptionSpec.takesValue (option : OptionSpec) : Bool :=
  option.shape ≠ .nothing

/-- Where options are read: those that are known, and the commands that end the scope. -/
structure Scope where
  options : List OptionSpec
  commands : List String
  deriving DecidableEq, Repr

namespace Scope

/-- The option with this long spelling. -/
def findLong? (scope : Scope) (long : String) : Option OptionSpec :=
  scope.options.find? (·.long = long)

/-- The option with this short spelling. -/
def findShort? (scope : Scope) (short : Char) : Option OptionSpec :=
  scope.options.find? (·.short = some short)

end Scope

/-- The commands. -/
inductive CommandName where
  | render
  | check
  | tokens
  deriving DecidableEq, Repr

namespace CommandName

/-- The word for a command. -/
def word : CommandName → String
  | .render => "render"
  | .check => "check"
  | .tokens => "tokens"

/-- All commands. -/
def all : List CommandName := [.render, .check, .tokens]

/-- The command that a word names. -/
def ofWord? (word : String) : Option CommandName :=
  all.find? (·.word = word)

end CommandName

/-- The word of the command that explains the others. -/
def helpWord : String := "help"

private def helpOption : OptionSpec := ⟨.help, "help", some 'h', .nothing⟩

private def inputOption : OptionSpec := ⟨.input, "input", some 'i', .path⟩

private def strictOption : OptionSpec := ⟨.strict, "strict", none, .nothing⟩

/-- The scope before the command. -/
def outerScope : Scope where
  options :=
    [helpOption, ⟨.version, "version", some 'V', .nothing⟩,
      ⟨.verbose, "verbose", some 'v', .nothing⟩,
      ⟨.logLevel, "log-level", none, .word (Level.all.map Level.word)⟩,
      ⟨.logFormat, "log-format", none, .word (LogFormat.all.map LogFormat.word)⟩]
  commands := helpWord :: CommandName.all.map CommandName.word

/-- The scope of a command. -/
def CommandName.scope : CommandName → Scope
  | .render =>
    { options :=
        [helpOption, inputOption, ⟨.output, "output", some 'o', .path⟩, strictOption,
          ⟨.width, "width", none, .size⟩, ⟨.height, "height", none, .size⟩]
      commands := [] }
  | .check => { options := [helpOption, inputOption, strictOption], commands := [] }
  | .tokens =>
    { options := [helpOption, inputOption, ⟨.json, "json", none, .nothing⟩], commands := [] }

/-- Reads a number of 32 bits: an optional sign and decimal digits, leading zeros included. -/
def readSize? (text : String) : Option Nat :=
  let (negative, digits) := match text.toList with
    | '+' :: digits => (false, digits)
    | '-' :: digits => (true, digits)
    | digits => (false, digits)
  let value := digits.foldl (fun value digit => 10 * value + (digit.toNat - '0'.toNat)) 0
  if digits.isEmpty || digits.any (!·.isDigit) then none
  else if negative && value ≠ 0 || Nat.pow 2 32 ≤ value then none
  else some value

end ClassChart.CommandLine
