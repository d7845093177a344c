/-!
# Reading command lines

A command takes options with values, a fixed number of words, and perhaps subcommands. An option
may get its value attached or as the next argument; the value is looked at when the next option or
word begins, or at the end. After a lone `--` every argument is a word. What is found is kept in a
state that the grammar names, so options decide themselves what a second value of theirs means.
-/
namespace EnclaveChain.CommandLine

/-- What is wrong with a command line. -/
inductive Misuse where
  /-- Nothing was asked for. -/
  | nothing
  /-- A subcommand is missing. -/
  | missingSubcommand
  /-- No subcommand has the name. -/
  | unknownSubcommand (name : String)
  /-- An argument that the command does not take. -/
  | unexpected (argument : String)
  /-- An option without its value. -/
  | missingValue (option : String)
  /-- An option that is given twice. -/
  | repeated (option : String)
  /-- A value that an option refuses. -/
  | invalidValue (option value reason : String)
  /-- A value for a flag that takes none. -/
  | needlessValue (option value : String)
  /-- Words are missing. -/
  | missingWords
deriving DecidableEq, Repr

/-- Why a command line names nothing to run. -/
inductive Halt where
  /-- It asks for help. -/
  | help
  /-- It asks for the version. -/
  | version
  /-- It is wrong. -/
  | misuse (misuse : Misuse)
deriving DecidableEq, Repr

/-- An option that takes a value. -/
structure ValueOption (State : Type) where
  /-- Long name. -/
  name : String
  /-- Short name, if it has one. -/
  short? : Option Char
  /-- Name of the value. -/
  placeholder : String
  /-- Takes in a value. -/
  store : String → State → Except Misuse State

/-- An option as messages show it. -/
def ValueOption.shown {State : Type} (option : ValueOption State) : String :=
  "--" ++ option.name ++ " <" ++ option.placeholder ++ ">"

/-- What a command takes. -/
structure Grammar (State : Type) where
  /-- Options with values. -/
  options : List (ValueOption State)
  /-- How each word is taken in, in order. -/
  words : List (String → State → State)
  /-- Names of subcommands. -/
  subcommands : List String
  /-- Whether the command tells its version. -/
  versioned : Bool

/-- How far a command line has been read. -/
structure Progress (State : Type) where
  /-- What was taken in. -/
  state : State
  /-- The last option, while its value is awaited or not yet taken in. -/
  pending? : Option (ValueOption State × Option String)
  /-- How the words to come are taken in. -/
  words : List (String → State → State)

namespace Progress

variable {State : Type}

/-- Whether a value is awaited. -/
def isOpen (progress : Progress State) : Bool :=
  match progress.pending? with
  | some (_, none) => true
  | _ => false

/-- Takes in the value of the last option. -/
def settle (progress : Progress State) : Except Halt (Progress State) :=
  match progress.pending? with
  | none => .ok progress
  | some (option, none) => .error (.misuse (.missingValue option.shown))
  | some (option, some value) =>
    match option.store value progress.state with
    | .error misuse => .error (.misuse misuse)
    | .ok state => .ok ⟨state, none, progress.words⟩

/-- Begins an option, whose value is attached or awaited. -/
def start (progress : Progress State) (option : ValueOption State) (attached : Option String) :
    Except Halt (Progress State) :=
  match progress.settle with
  | .error halt => .error halt
  | .ok progress =>
    match attached with
    | none => .ok { progress with pending? := some (option, none) }
    | some value => settle { progress with pending? := some (option, some value) }

/-- Ends the reading, once the value of the last option is taken in. -/
def halt (progress : Progress State) (halt : Halt) : Except Halt (Progress State) :=
  match progress.settle with
  | .error earlier => .error earlier
  | .ok _ => .error halt

end Progress

namespace Grammar

variable {State : Type}

/-- What is said of an argument that is neither an option nor a word. -/
def unexpectedWord (grammar : Grammar State) (onlyWords : Bool) (argument : String) : Misuse :=
  if grammar.subcommands = [] ∨ (onlyWords ∧ argument ∈ grammar.subcommands) then
    .unexpected argument
  else .unknownSubcommand argument

/-- Reads a word. -/
def word (grammar : Grammar State) (onlyWords : Bool) (progress : Progress State)
    (argument : String) : Except Halt (Progress State) :=
  match progress.words with
  | [] => .error (.misuse (grammar.unexpectedWord onlyWords argument))
  | first :: others =>
    match progress.settle with
    | .error halt => .error halt
    | .ok progress => .ok ⟨first argument progress.state, none, others⟩

/-- The name of a long option and the value attached to it. -/
def splitLong (text : List Char) : String × Option String :=
  match text.span (· ≠ '=') with
  | (name, '=' :: value) => (String.ofList name, some (String.ofList value))
  | (name, _) => (String.ofList name, none)

/-- A flag without a value: the end it puts to the reading. -/
def flag? (grammar : Grammar State) (name : String) : Option Halt :=
  if name = "help" then some .help
  else if name = "version" ∧ grammar.versioned then some .version
  else none

/-- Reads a long option, the text after its two dashes. -/
def long (grammar : Grammar State) (progress : Progress State) (text : List Char) :
    Except Halt (Progress State) :=
  let (name, attached) := splitLong text
  match grammar.options.find? fun option => option.name = name with
  | some option => progress.start option attached
  | none =>
    match grammar.flag? name, attached with
    | some halt, none => progress.halt halt
    | some _, some value => .error (.misuse (.needlessValue ("--" ++ name) value))
    | none, _ => .error (.misuse (.unexpected ("--" ++ name)))

/-- Reads the first of some short options; one with a value takes the text behind it. -/
def short (grammar : Grammar State) (progress : Progress State) (name : Char) (rest : List Char) :
    Except Halt (Progress State) :=
  match grammar.options.find? fun option => option.short? = some name with
  | some option =>
    let attached :=
      match rest with
      | [] => none
      | '=' :: value => some (String.ofList value)
      | value => some (String.ofList value)
    progress.start option attached
  | none =>
    if name = 'h' then progress.halt .help
    else if name = 'V' ∧ grammar.versioned then progress.halt .version
    else .error (.misuse (.unexpected (String.ofList ['-', name])))

/-- Reads the arguments up to a subcommand, which comes second with the arguments after it. -/
def walk (grammar : Grammar State) (onlyWords : Bool) (progress : Progress State) :
    List String → Except Halt (Progress State × Option (String × List String))
  | [] => .ok (progress, none)
  | argument :: arguments =>
    let goOn (step : Except Halt (Progress State)) :
        Except Halt (Progress State × Option (String × List String)) :=
      match step with
      | .error halt => .error halt
      | .ok progress => grammar.walk onlyWords progress arguments
    if onlyWords then goOn (grammar.word true progress argument)
    else if progress.isOpen = false ∧ argument ∈ grammar.subcommands then
      .ok (progress, some (argument, arguments))
    else
      match argument.toList with
      | ['-', '-'] => grammar.walk true progress arguments
      | '-' :: '-' :: text => goOn (grammar.long progress text)
      | '-' :: name :: rest => goOn (grammar.short progress name rest)
      | _ =>
        match progress.pending? with
        | some (option, none) =>
          grammar.walk false { progress with pending? := some (option, some argument) } arguments
        | _ => goOn (grammar.word false progress argument)

/-- Reads all arguments of a command that has no subcommands. -/
def run (grammar : Grammar State) (start : State) (arguments : List String) :
    Except Halt State :=
  match grammar.walk false ⟨start, none, grammar.words⟩ arguments with
  | .error halt => .error halt
  | .ok (progress, _) =>
    match progress.settle with
    | .error halt => .error halt
    | .ok progress => .ok progress.state

end Grammar

end EnclaveChain.CommandLine
