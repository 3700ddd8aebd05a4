import SchemaCompiler.Command

/-!
# The command line

A command line is read from left to right. Options are given by a long name or by a letter, with
their value attached or in the next word; letters can be run together. Two dashes end the options.
The options for the settings and the format may stand before or after the name of the command, and
count where they stand last. The value of an option is checked when the next option comes up or when
the words of its level end, so the words of a command are checked before a value that stands right
before it.
-/

namespace SchemaCompiler

/-- Why a command line is not carried out. -/
inductive UsageError
  /-- Help was asked for. -/
  | helpRequested
  /-- The version was asked for. -/
  | versionRequested
  /-- There is nothing on the command line. -/
  | nothingGiven
  /-- There are options, but no command. -/
  | missingCommand
  /-- An option that the command needs is not given. -/
  | missingArgument
  | unknownArgument
  /-- The value of an option is missing, or is not one of its values. -/
  | invalidValue
  /-- An option is given twice. -/
  | repeatedArgument
  /-- An option has a value that takes none. -/
  | surplusValue
  /-- Help was asked for on something that is no command. -/
  | unknownTopic
  deriving DecidableEq, Repr

namespace UsageError

/-- The message of an error. -/
def message : UsageError → String
  | .helpRequested | .nothingGiven =>
    "Usage: schema_forge [OPTIONS] <generate|diagram|dialects>"
  | .versionRequested => "schema_forge"
  | .missingCommand => "error: a command is required"
  | .missingArgument => "error: a required argument was not provided"
  | .unknownArgument => "error: unexpected argument"
  | .invalidValue => "error: invalid value"
  | .repeatedArgument => "error: an argument cannot be used multiple times"
  | .surplusValue => "error: unexpected value"
  | .unknownTopic => "error: unrecognized command"

end UsageError

/-! ## Options -/

/-- An option of the command line. -/
inductive CommandOption
  | settings
  | format
  | model
  | dialect
  | naming
  | directory
  | driverScript
  | everything
  | help
  | version
  deriving DecidableEq, Repr

namespace CommandOption

/-- The long name of an option. -/
def name : CommandOption → String
  | .settings => "config"
  | .format => "format"
  | .model => "model"
  | .dialect => "dialect"
  | .naming => "naming"
  | .directory => "out"
  | .driverScript => "driver-script"
  | .everything => "all"
  | .help => "help"
  | .version => "version"

/-- The letter of an option. -/
def letter? : CommandOption → Option Char
  | .settings => some 'c'
  | .format => some 'o'
  | .model => some 'm'
  | .dialect => some 'd'
  | .naming => some 'n'
  | .help => some 'h'
  | .version => some 'V'
  | .directory | .driverScript | .everything => none

/-- Whether an option takes a value. -/
def takesValue : CommandOption → Bool
  | .settings | .format | .model | .dialect | .naming | .directory => true
  | .driverScript | .everything | .help | .version => false

/-- Whether a text is a value of an option. A path is not empty. -/
def admits (option : CommandOption) (value : String) : Bool :=
  match option with
  | .settings | .model | .directory => !value.isEmpty
  | .format => (ReportFormat.named? value).isSome
  | _ => true

end CommandOption

/-- The commands that can be named on the command line. -/
inductive CommandName
  | generate
  | draw
  | catalog
  deriving DecidableEq, Repr

namespace CommandName

/-- The command of a name. -/
def named? : String → Option CommandName
  | "generate" => some .generate
  | "diagram" => some .draw
  | "dialects" => some .catalog
  | _ => none

/-- The options that may stand after the name of a command. -/
def options : CommandName → List CommandOption
  | .generate =>
    [.model, .dialect, .naming, .directory, .driverScript, .settings, .format, .help]
  | .draw => [.model, .dialect, .directory, .everything, .settings, .format, .help]
  | .catalog => [.settings, .format, .help]

end CommandName

/-- The options that may stand before the name of a command. -/
def generalOptions : List CommandOption :=
  [.settings, .format, .help, .version]

/-! ## Words -/

/-- A word of the command line by its form. -/
inductive CommandWord
  /-- Two dashes, after which there are no options. -/
  | endOfOptions
  | long (name : String) (value : Option String)
  | letters (letters : List Char)
  | plain (text : String)
  deriving DecidableEq, Repr

namespace CommandWord

/-- A long option, with its value after an equals sign. -/
def ofLong (characters : List Char) : CommandWord :=
  let name := String.ofList (characters.takeWhile (· ≠ '='))
  match characters.dropWhile (· ≠ '=') with
  | [] => .long name none
  | _ :: value => .long name (some (String.ofList value))

/-- The form of a word. A single dash is no option. -/
def ofText (text : String) : CommandWord :=
  match text.toList with
  | ['-', '-'] => .endOfOptions
  | '-' :: '-' :: characters => ofLong characters
  | '-' :: letter :: rest => .letters (letter :: rest)
  | _ => .plain text

end CommandWord

/-! ## Reading the options of a level -/

/-- The options that were read so far before or after the name of a command. -/
structure OptionReading where
  /-- The options with their values, which are empty for those that take none. -/
  given : List (CommandOption × String) := []
  /-- The last option, if its value is in a word of its own and has not been checked yet. -/
  pending : Option (CommandOption × Option String) := none
  deriving DecidableEq, Repr

namespace OptionReading

/-- Adds an option with its value. -/
def accept (reading : OptionReading) (option : CommandOption) (value : String) :
    Except UsageError OptionReading :=
  if (reading.given.lookup option).isSome then
    .error .repeatedArgument
  else if option.admits value then
    .ok { reading with given := reading.given ++ [(option, value)] }
  else
    .error .invalidValue

/-- Checks the value that is pending. -/
def settle (reading : OptionReading) : Except UsageError OptionReading :=
  match reading.pending with
  | none => .ok reading
  | some (_, none) => .error .invalidValue
  | some (option, some value) => accept { reading with pending := none } option value

/-- Reads an option with a value attached to it. -/
def attach (reading : OptionReading) (option : CommandOption) (value : String) :
    Except UsageError OptionReading := do
  (← reading.settle).accept option value

/-- Reads an option whose value is due. -/
def await (reading : OptionReading) (option : CommandOption) :
    Except UsageError OptionReading := do
  return { ← reading.settle with pending := some (option, none) }

/-- Reads an option that takes no value. -/
def raise (reading : OptionReading) (option : CommandOption) :
    Except UsageError OptionReading := do
  let reading ← reading.settle
  match option with
  | .help => .error .helpRequested
  | .version => .error .versionRequested
  | _ => reading.accept option ""

/-- Whether the value of the last option is due. -/
def isWaiting (reading : OptionReading) : Bool :=
  reading.pending.any (·.2.isNone)

/-- Takes a word as the value that is due. -/
def supply (reading : OptionReading) (value : String) : OptionReading :=
  { reading with pending := reading.pending.map fun (option, _) => (option, some value) }

/-- Reads a long option. -/
def readLong (reading : OptionReading) (options : List CommandOption) (name : String)
    (value : Option String) : Except UsageError OptionReading :=
  match options.find? (·.name == name) with
  | none => .error .unknownArgument
  | some option =>
    match option.takesValue, value with
    | true, some value => reading.attach option value
    | true, none => reading.await option
    | false, some _ => .error .surplusValue
    | false, none => reading.raise option

/-- Reads options given by their letters. What follows the letter of an option with a value is the
value, less an equals sign. -/
def readLetters (reading : OptionReading) (options : List CommandOption) :
    List Char → Except UsageError OptionReading
  | [] => .ok reading
  | letter :: rest =>
    match options.find? (·.letter? == some letter) with
    | none => .error .unknownArgument
    | some option =>
      if option.takesValue then
        match rest with
        | [] => reading.await option
        | '=' :: value | value => reading.attach option (String.ofList value)
      else do
        (← reading.raise option).readLetters options rest

/-- The value of an option. -/
def value? (reading : OptionReading) (option : CommandOption) : Option String :=
  reading.given.lookup option

/-- Whether an option is given. -/
def has (reading : OptionReading) (option : CommandOption) : Bool :=
  (reading.value? option).isSome

end OptionReading

/-- Reads the words after the name of a command. All of them have to be options or their values. -/
def readCommandWords (options : List CommandOption) (reading : OptionReading) :
    List String → Except UsageError OptionReading
  | [] => reading.settle
  | word :: rest =>
    match CommandWord.ofText word with
    | .endOfOptions => if rest.isEmpty then reading.settle else .error .unknownArgument
    | .long name value => do
      readCommandWords options (← reading.readLong options name value) rest
    | .letters letters => do
      readCommandWords options (← reading.readLetters options letters) rest
    | .plain text =>
      if reading.isWaiting then
        readCommandWords options (reading.supply text) rest
      else
        .error .unknownArgument

/-! ## Command lines -/

/-- What a command line asks for. -/
structure Invocation where
  /-- The path of the settings, if it is named. -/
  settingsPath : Option String := none
  /-- How the report is shown. -/
  format : ReportFormat := .table
  /-- The command. -/
  command : Command
  deriving DecidableEq, Repr

namespace CommandName

/-- The overrides among the options of a command. -/
def overrides (reading : OptionReading) : Overrides where
  dialect := reading.value? .dialect
  naming := reading.value? .naming
  directory := reading.value? .directory
  driverScript := reading.has .driverScript

/-- The command of a name with its options. -/
def command (name : CommandName) (reading : OptionReading) : Except UsageError Command :=
  match name, reading.value? .model with
  | .catalog, _ => .ok .catalog
  | _, none => .error .missingArgument
  | .generate, some model => .ok (.generate ⟨model, overrides reading⟩)
  | .draw, some model => .ok (.draw ⟨model, overrides reading, reading.has .everything⟩)

end CommandName

namespace Invocation

/-- The invocation of a command, with the options before and after its name. -/
def ofReadings (outer inner : OptionReading) (command : Command) : Invocation where
  settingsPath := inner.value? .settings <|> outer.value? .settings
  format :=
    ((inner.value? .format <|> outer.value? .format).bind ReportFormat.named?).getD .table
  command := command

/-- What becomes of a request for help on something. -/
def helpOn : List String → UsageError
  | [] => .helpRequested
  | [topic] =>
    if topic == "help" || (CommandName.named? topic).isSome then .helpRequested else .unknownTopic
  | _ => .unknownTopic

/-- The invocation of something that is no command. -/
def unknown (reading : OptionReading) (name : String) : Except UsageError Invocation := do
  return ofReadings (← reading.settle) {} (.unknown name)

/-- The error of a command line without a command. -/
def withoutCommand (reading : OptionReading) : Except UsageError Invocation := do
  let reading ← reading.settle
  .error (if reading.given.isEmpty then .nothingGiven else .missingCommand)

/-- Reads a command line after some of its options. -/
def readWords (reading : OptionReading) : List String → Except UsageError Invocation
  | [] => withoutCommand reading
  | word :: rest =>
    match CommandWord.ofText word with
    | .endOfOptions =>
      match rest with
      | [] => withoutCommand reading
      | name :: _ => unknown reading name
    | .long name value => do
      readWords (← reading.readLong generalOptions name value) rest
    | .letters letters => do
      readWords (← reading.readLetters generalOptions letters) rest
    | .plain text =>
      if reading.isWaiting then
        readWords (reading.supply text) rest
      else if text == "help" then
        .error (helpOn rest)
      else
        match CommandName.named? text with
        | none => unknown reading text
        | some name => do
          let inner ← readCommandWords name.options {} rest
          let command ← name.command inner
          return ofReadings (← reading.settle) inner command

/-- Reads a command line. -/
def ofWords (words : List String) : Except UsageError Invocation :=
  readWords {} words

/-- Carries out an invocation and gives its report. -/
def run {m : Type → Type} [Monad m] [FileSystem m] (invocation : Invocation)
    (environment : Environment) : ExceptT RunError m String := do
  let file ← SettingsFile.discover invocation.settingsPath
  invocation.command.run file environment invocation.format

end Invocation

end SchemaCompiler
