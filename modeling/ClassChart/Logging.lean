/-!
Setting up the log. A run has at most one log; its format is named by a word, its level by a filter
that is never refused. Names are looked for in order: what the caller asks for, the environment,
and a default.
-/
namespace ClassChart

/-- How important an entry of the log is. -/
inductive Level where
  | trace
  | debug
  | info
  | warn
  | error
  deriving DecidableEq, Repr

namespace Level

/-- The name of a level in the log. -/
def label : Level → String
  | .trace => "TRACE"
  | .debug => "DEBUG"
  | .info => "INFO"
  | .warn => "WARN"
  | .error => "ERROR"

/-- The word that asks for a level. -/
def word : Level → String
  | .trace => "trace"
  | .debug => "debug"
  | .info => "info"
  | .warn => "warn"
  | .error => "error"

/-- All levels. -/
def all : List Level := [.trace, .debug, .info, .warn, .error]

end Level

/-- The formats of the log. -/
inductive LogFormat where
  | compact
  | pretty
  | json
  deriving DecidableEq, Repr

namespace LogFormat

/-- The word for a format. -/
def word : LogFormat → String
  | .compact => "compact"
  | .pretty => "pretty"
  | .json => "json"

/-- All formats. -/
def all : List LogFormat := [.compact, .pretty, .json]

/-- The format that a word names. The case of letters does not count; no letter outside ASCII has a
small form in these words, so lowering ASCII letters is enough. -/
def ofWord? (word : String) : Option LogFormat :=
  all.find? fun format => format.word.toList = word.toList.map Char.toLower

end LogFormat

/-- Why the log was not set up. -/
inductive LogError where
  | unknownFormat (word : String)
  | alreadySet
  deriving DecidableEq, Repr

namespace LogError

/-- The message of an unknown format alone. -/
def unknownFormatMessage (word : String) : String :=
  s!"Unknown log format: {word}"

/-- The message of an error. -/
def message : LogError → String
  | .unknownFormat word => s!"Invalid log format: {unknownFormatMessage word}"
  | .alreadySet => "a global default trace dispatcher has already been set"

end LogError

/-- The variable that names the level of the log. -/
def logLevelVariable : String := "UMLSVG_LOG_LEVEL"

/-- The variable that names the format of the log. -/
def logFormatVariable : String := "UMLSVG_LOG_FORMAT"

/-- The variables of a run's surroundings. -/
abbrev Environment := List (String × String)

/-- The value of a variable. -/
def Environment.value? (environment : Environment) (name : String) : Option String :=
  environment.lookup name

/-- The format that a run logs in, where `asked` is what the caller asks for. -/
def chooseLogFormat (environment : Environment) (asked : Option String) :
    Except LogError LogFormat :=
  let word := (asked <|> environment.value? logFormatVariable).getD LogFormat.compact.word
  match LogFormat.ofWord? word with
  | some format => .ok format
  | none => .error (.unknownFormat word)

/-- Sets up the log of a run that has one or not: an unknown format is noticed first. -/
def setUpLog (environment : Environment) (isSet : Bool) (asked : Option String) :
    Except LogError LogFormat := do
  let format ← chooseLogFormat environment asked
  if isSet then .error .alreadySet else .ok format

/-- The outcomes of setting up the log several times in one run. -/
def setUpLogs (environment : Environment) (isSet : Bool) :
    List (Option String) → List (Except LogError LogFormat)
  | [] => []
  | asked :: rest =>
    let outcome := setUpLog environment isSet asked
    outcome :: setUpLogs environment (isSet || outcome.toBool) rest

end ClassChart
