import SearchSql.Decimal.Literal
import SearchSql.Output.Format

/-!
# The arguments of the command

The command has two tasks, to run a query and to explain one. Options may come in any order, those
for the whole command before the name of the task or after it; each may be given once at each of the
two places, and the one after the name wins. A value follows its option as the next argument or
after an equals sign; after `--` every argument is a text and no option.
-/

namespace SearchSql.CommandLine

/-- Why reading arguments stops before there is a task. -/
inductive Ending
  | help
  | version
  | misuse
deriving DecidableEq

/-- Where an argument stands: before the name of a task or after it. -/
inductive Place
  | command
  | query
  | explain
deriving DecidableEq

inductive Switch
  | help
  | version
  | config
  | endpoint
  | index
  | format
  | download
  | metadata
  | timeout
deriving DecidableEq

namespace Switch

def name : Switch → String
  | .help => "help"
  | .version => "version"
  | .config => "config"
  | .endpoint => "endpoint"
  | .index => "index"
  | .format => "format"
  | .download => "download"
  | .metadata => "meta"
  | .timeout => "timeout"

def takesValue : Switch → Bool
  | .help => false
  | .version => false
  | .download => false
  | _ => true

end Switch

/-- The options that may stand at a place. -/
def Place.switches : Place → List Switch
  | .command => [.config, .endpoint, .help, .version]
  | .query => [.config, .endpoint, .help, .index, .format, .download, .metadata, .timeout]
  | .explain => [.config, .endpoint, .help, .index]

def Place.switch? (place : Place) (name : String) : Option Switch :=
  place.switches.find? fun switch => switch.name == name

/-- What was given at a place. -/
structure Given where
  configPath : Option String := none
  endpoint : Option String := none
  index : Option String := none
  format : Option OutputFormat := none
  download : Bool := false
  metadata : Option String := none
  timeout : Option Nat := none
  sql : Option String := none

namespace Given

/-- A value where there was none. -/
def once {α : Type} (before : Option α) (value : α) : Option (Option α) :=
  if before.isSome then none else some (some value)

/-- Takes the value of an option; `none` for a value out of place and for one that comes twice. -/
def put? (given : Given) (switch : Switch) (value : String) : Option Given :=
  match switch with
  | .config =>
    if value.isEmpty then none
    else (once given.configPath value).map fun configPath => { given with configPath }
  | .endpoint => (once given.endpoint value).map fun endpoint => { given with endpoint }
  | .index => (once given.index value).map fun index => { given with index }
  | .format => do
    let format ← OutputFormat.ofName? value
    (once given.format format).map fun format => { given with format }
  | .download => if given.download then none else some { given with download := true }
  | .metadata => (once given.metadata value).map fun metadata => { given with metadata }
  | .timeout => do
    let seconds ← Decimal.word64? value
    (once given.timeout seconds).map fun timeout => { given with timeout }
  | _ => none

def putSql? (given : Given) (value : String) : Option Given :=
  (once given.sql value).map fun sql => { given with sql }

end Given

/-- The forms of an argument. -/
inductive Argument
  | escape
  | long (name : String) (value : Option String)
  | short (first : Char)
  | text (text : String)

def Argument.ofText (text : String) : Argument :=
  match text.toList with
  | ['-', '-'] => .escape
  | '-' :: '-' :: rest =>
    .long (String.ofList (rest.takeWhile (· != '=')))
      (match rest.dropWhile (· != '=') with
        | _ :: value => some (String.ofList value)
        | [] => none)
  | '-' :: first :: _ => .short first
  | _ => .text text

def orMisuse {α : Type} : Option α → Except Ending α
  | some value => .ok value
  | none => .error .misuse

/-- The effect of an option with its value. -/
def Given.accept (given : Given) (switch : Switch) (value : String) : Except Ending Given :=
  match switch with
  | .help => .error .help
  | .version => .error .version
  | switch => orMisuse (given.put? switch value)

/-- The value of an option, empty for one that takes none, and the arguments that are left. -/
def optionValue? (switch : Switch) (attached : Option String) (rest : List String) :
    Option (String × List String) :=
  match switch.takesValue, attached, rest with
  | false, none, rest => some ("", rest)
  | true, some value, rest => some (value, rest)
  | true, none, next :: rest =>
    match Argument.ofText next with
    | .text value => some (value, rest)
    | _ => none
  | _, _, _ => none

theorem length_le_of_optionValue? {switch : Switch} {attached : Option String}
    {rest rest' : List String} {value : String}
    (found : optionValue? switch attached rest = some (value, rest')) :
    rest'.length ≤ rest.length := by
  unfold optionValue? at found
  split at found
  · cases found
    exact Nat.le_refl _
  · cases found
    exact Nat.le_refl _
  · split at found
    · cases found
      exact Nat.le_succ _
    · cases found
  · cases found

def readShort (place : Place) (first : Char) : Ending :=
  if first = 'h' then .help
  else if first = 'V' ∧ place = .command then .version
  else .misuse

/-- Reads what follows the name of a task. -/
def readTask (place : Place) (given : Given) (arguments : List String) : Except Ending Given :=
  match arguments with
  | [] => .ok given
  | argument :: rest =>
    match Argument.ofText argument with
    | .escape => rest.foldlM (fun given text => orMisuse (given.putSql? text)) given
    | .short first => .error (readShort place first)
    | .text text =>
      match given.putSql? text with
      | some given => readTask place given rest
      | none => .error .misuse
    | .long name value =>
      match place.switch? name with
      | none => .error .misuse
      | some switch =>
        match found : optionValue? switch value rest with
        | none => .error .misuse
        | some (value, rest') =>
          have := length_le_of_optionValue? found
          match given.accept switch value with
          | .ok given => readTask place given rest'
          | .error ending => .error ending
termination_by arguments.length

/-- The name of a task and what follows it. -/
structure Named where
  place : Place
  arguments : List String

/-- The task of a name; `none` for the name of none. -/
def placeOf? : String → Option Place
  | "query" => some .query
  | "explain" => some .explain
  | _ => none

/-- What asking for help about names comes to. -/
def helpOn : List String → Ending
  | [] => .help
  | [name] => if name = "help" ∨ (placeOf? name).isSome then .help else .misuse
  | _ => .misuse

/-- Reads up to the name of a task. -/
def readCommand (given : Given) (arguments : List String) : Except Ending (Given × Named) :=
  match arguments with
  | [] => .error .misuse
  | argument :: rest =>
    match Argument.ofText argument with
    | .escape => .error .misuse
    | .short first => .error (readShort .command first)
    | .text text =>
      if text = "help" then .error (helpOn rest)
      else
        match placeOf? text with
        | some place => .ok (given, ⟨place, rest⟩)
        | none => .error .misuse
    | .long name value =>
      match Place.command.switch? name with
      | none => .error .misuse
      | some switch =>
        match found : optionValue? switch value rest with
        | none => .error .misuse
        | some (value, rest') =>
          have := length_le_of_optionValue? found
          match given.accept switch value with
          | .ok given => readCommand given rest'
          | .error ending => .error ending
termination_by arguments.length

structure QueryTask where
  sql : String
  index : Option String := none
  format : OutputFormat := .json
  download : Bool := false
  /-- The text of the metadata. -/
  metadata : Option String := none
  /-- The budget in seconds, when it is not that of the settings. -/
  timeout : Option Nat := none

structure ExplainTask where
  sql : String
  index : Option String := none

inductive Task
  | query (task : QueryTask)
  | explain (task : ExplainTask)

/-- What the command is asked to do. -/
structure Invocation where
  configPath : Option String
  endpoint : Option String
  task : Task

namespace Invocation

def taskOf (place : Place) (given : Given) (sql : String) : Task :=
  match place with
  | .explain => .explain { sql, index := given.index }
  | _ =>
    .query
      { sql
        index := given.index
        format := given.format.getD .json
        download := given.download
        metadata := given.metadata
        timeout := given.timeout }

def ofArguments (arguments : List String) : Except Ending Invocation := do
  let (before, named) ← readCommand {} arguments
  let given ← readTask named.place {} named.arguments
  let sql ← orMisuse given.sql
  .ok
    { configPath := given.configPath.or before.configPath
      endpoint := given.endpoint.or before.endpoint
      task := taskOf named.place given sql }

end Invocation

end SearchSql.CommandLine
