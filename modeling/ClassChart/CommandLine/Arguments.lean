import ClassChart.CommandLine.Options

/-!
Reading the arguments of the command line. Arguments are read from left to right; an option whose
value is the next argument is settled only when something later needs it settled, so that of two
faults the one noticed first is reported. Main notions: the progress through a scope, and the
invocation that a whole argument list means.
-/
namespace ClassChart.CommandLine

/-- Why arguments name nothing to run. The first two ask for a text to be shown. -/
inductive Rejection where
  | helpRequested
  | versionRequested
  | nothingGiven
  | commandMissing
  | unknownCommand
  | unknownArgument
  | invalidValue
  | invalidNumber
  | repeatedOption
  | valueForSwitch
  deriving DecidableEq, Repr

/-- Texts that are asked for are no failure. -/
def Rejection.exitStatus : Rejection → Nat
  | .helpRequested | .versionRequested => 0
  | _ => 2

/-- An option that waits for its value, or for being settled. -/
structure Pending where
  option : OptionSpec
  value : Option String
  deriving DecidableEq, Repr

/-- The options settled so far, and the one that is not. -/
structure Progress where
  settled : List (OptionName × String)
  pending : Option Pending
  deriving DecidableEq, Repr

/-- What a value is refused for. -/
def ValueShape.refusal? (shape : ValueShape) (value : String) : Option Rejection :=
  match shape with
  | .nothing => none
  | .path => if value = "" then some .invalidValue else none
  | .size => if (readSize? value).isNone then some .invalidNumber else none
  | .word choices => if choices.contains value then none else some .invalidValue

namespace Progress

/-- Nothing read yet. -/
def empty : Progress := ⟨[], none⟩

/-- The next argument is the value of an option. -/
def awaitsValue (progress : Progress) : Bool :=
  match progress.pending with
  | some pending => pending.value.isNone
  | none => false

/-- The option was settled before. -/
def has (progress : Progress) (name : OptionName) : Bool :=
  progress.settled.any (·.1 = name)

/-- Settles an option with its value: one that is due and missing is noticed first, then a
repetition, then a value that does not fit. -/
def record (progress : Progress) (option : OptionSpec) (value : Option String) :
    Except Rejection Progress :=
  match value with
  | none => .error .invalidValue
  | some value =>
    if progress.has option.name then .error .repeatedOption
    else match option.shape.refusal? value with
      | some refusal => .error refusal
      | none => .ok { progress with settled := progress.settled ++ [(option.name, value)] }

/-- Settles the option that is not settled yet. -/
def settle (progress : Progress) : Except Rejection Progress :=
  match progress.pending with
  | none => .ok progress
  | some pending => { progress with pending := none }.record pending.option pending.value

/-- Takes a switch. -/
def switch (progress : Progress) (option : OptionSpec) : Except Rejection Progress := do
  let progress ← progress.settle
  match option.name with
  | .help => .error .helpRequested
  | .version => .error .versionRequested
  | _ => progress.record option (some "")

/-- Takes an option with the value attached to it. -/
def attach (progress : Progress) (option : OptionSpec) (value : String) :
    Except Rejection Progress := do
  let progress ← progress.settle
  progress.record option (some value)

/-- Takes an option whose value is the next argument. -/
def await (progress : Progress) (option : OptionSpec) : Except Rejection Progress := do
  let progress ← progress.settle
  return { progress with pending := some ⟨option, none⟩ }

/-- Takes an argument as the value that is due. -/
def give (progress : Progress) (value : String) : Progress :=
  { progress with
    pending := progress.pending.map fun pending => { pending with value := some value } }

end Progress

/-! ## Single arguments -/

/-- Takes an option in its long spelling. -/
def takeLong (scope : Scope) (progress : Progress) (long : String) (value : Option String) :
    Except Rejection Progress :=
  match scope.findLong? long with
  | none => .error .unknownArgument
  | some option =>
    match option.takesValue, value with
    | true, some value => progress.attach option value
    | true, none => progress.await option
    | false, some _ => .error .valueForSwitch
    | false, none => progress.switch option

/-- Takes a cluster of options in their short spelling; behind one that takes a value, the rest
of the cluster is the value. -/
def takeCluster (scope : Scope) (progress : Progress) : List Char → Except Rejection Progress
  | [] => .ok progress
  | short :: rest =>
    match scope.findShort? short with
    | none => .error .unknownArgument
    | some option =>
      if option.takesValue then
        match rest with
        | [] => progress.await option
        | '=' :: value => progress.attach option (String.ofList value)
        | value => progress.attach option (String.ofList value)
      else do
        let progress ← progress.switch option
        takeCluster scope progress rest

/-- The form of an argument. -/
inductive ArgumentForm where
  | long (name : String) (value : Option String)
  | cluster (options : List Char)
  | plain
  deriving DecidableEq, Repr

/-- Splits a long option from the value attached to it. -/
def longForm (text : List Char) : ArgumentForm :=
  match text.dropWhile (· ≠ '=') with
  | [] => .long (String.ofList text) none
  | _ :: value => .long (String.ofList (text.takeWhile (· ≠ '='))) (some (String.ofList value))

/-- The form of an argument; a lone hyphen is plain. -/
def argumentForm (argument : String) : ArgumentForm :=
  match argument.toList with
  | '-' :: '-' :: text => longForm text
  | '-' :: c :: rest => .cluster (c :: rest)
  | _ => .plain

/-- What a plain argument that is no value is refused for. Where a command is due it is taken for
one. -/
def Scope.stray (scope : Scope) : Rejection :=
  if scope.commands.isEmpty then .unknownArgument else .unknownCommand

/-! ## Argument lists -/

/-- The argument behind which there are no options. -/
def optionsEnd : String := "--"

/-- The command that ends a scope, and the arguments behind it. -/
abbrev CommandPart := Option (String × List String)

/-- Reads the arguments behind the end of the options; none is expected there. -/
def readTrailing (scope : Scope) (progress : Progress) (arguments : List String) :
    Except Rejection (Progress × CommandPart) :=
  match arguments with
  | [] => .ok (progress, none)
  | argument :: _ =>
    .error (if scope.commands.contains argument then .unknownArgument else scope.stray)

/-- Reads the arguments of a scope, up to a command. -/
def readScope (scope : Scope) (progress : Progress) :
    List String → Except Rejection (Progress × CommandPart)
  | [] => .ok (progress, none)
  | argument :: rest =>
    if !progress.awaitsValue && scope.commands.contains argument then
      .ok (progress, some (argument, rest))
    else if argument = optionsEnd then readTrailing scope progress rest
    else
      match argumentForm argument with
      | .long name value => do
        let progress ← takeLong scope progress name value
        readScope scope progress rest
      | .cluster options => do
        let progress ← takeCluster scope progress options
        readScope scope progress rest
      | .plain =>
        if progress.awaitsValue then readScope scope (progress.give argument) rest
        else .error scope.stray

/-! ## Invocations -/

/-- A command with its options. -/
inductive Command where
  | render (input output : Option String) (strict : Bool) (width height : Option Nat)
  | check (input : Option String) (strict : Bool)
  | tokens (input : Option String) (json : Bool)
  deriving DecidableEq, Repr

/-- What a whole command line asks for. -/
structure Invocation where
  command : Command
  verbose : Bool
  logLevel : String
  logFormat : String
  deriving DecidableEq, Repr

namespace Progress

/-- The value that an option was settled with. -/
def value? (progress : Progress) (name : OptionName) : Option String :=
  progress.settled.lookup name

/-- The number that an option was settled with. -/
def size? (progress : Progress) (name : OptionName) : Option Nat :=
  (progress.value? name).bind readSize?

end Progress

/-- The command that the options of its scope make. -/
def CommandName.withOptions (name : CommandName) (progress : Progress) : Command :=
  match name with
  | .render =>
    .render (progress.value? .input) (progress.value? .output) (progress.has .strict)
      (progress.size? .width) (progress.size? .height)
  | .check => .check (progress.value? .input) (progress.has .strict)
  | .tokens => .tokens (progress.value? .input) (progress.has .json)

/-- Reads the arguments behind a command. -/
def readCommand (name : CommandName) (arguments : List String) : Except Rejection Command := do
  let (progress, _) ← readScope name.scope .empty arguments
  let progress ← progress.settle
  return name.withOptions progress

/-- Reads the arguments behind the word for help: the name of at most one command. -/
def readHelp (arguments : List String) : Rejection :=
  match arguments with
  | [] => .helpRequested
  | [word] => if outerScope.commands.contains word then .helpRequested else .unknownCommand
  | _ => .unknownCommand

/-- What is missing where no command is given. -/
def withoutCommand (progress : Progress) : Rejection :=
  if progress.settled.isEmpty then .nothingGiven else .commandMissing

/-- The invocation that the options before a command and the command make. -/
def Command.invocation (command : Command) (progress : Progress) : Invocation where
  command := command
  verbose := progress.has .verbose
  logLevel := (progress.value? .logLevel).getD Level.warn.word
  logFormat := (progress.value? .logFormat).getD LogFormat.compact.word

/-- Reads a whole argument list. -/
def readArguments (arguments : List String) : Except Rejection Invocation := do
  let (progress, part) ← readScope outerScope .empty arguments
  match part with
  | none =>
    let progress ← progress.settle
    .error (withoutCommand progress)
  | some (word, rest) =>
    match CommandName.ofWord? word with
    | none => .error (readHelp rest)
    | some name =>
      let command ← readCommand name rest
      let progress ← progress.settle
      return command.invocation progress

end ClassChart.CommandLine
