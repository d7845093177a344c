import EnclaveChain.Chain.Account
import EnclaveChain.CommandLine.Grammar
import EnclaveChain.Text.Quoted

/-!
# Invocations

What the program can be asked to do, and how a command line asks for it. Options of the program
stand before the name of the command, options of the command after it. Keys stay texts here: they
are read when the command runs, after the files it needs.
-/
namespace EnclaveChain.CommandLine

/-- Reads the hexadecimal digits of a value, or says why it cannot. -/
def hexValue (text : String) : Except String Bytes :=
  match Hex.decodeText text with
  | .ok bytes => .ok bytes
  | .error fault => .error ("Invalid hex value " ++ text ++ ": " ++ fault.message)

/-- Reads the hash of a block, or says why it cannot. -/
def blockHash (text : String) : Except String Hash :=
  match hexValue text with
  | .error reason => .error reason
  | .ok bytes =>
    match FixedBytes.ofList? 32 bytes with
    | some hash => .ok hash
    | none =>
      .error ("Invalid block hash: expected 32 bytes, got " ++ toString bytes.length)

/-- The options of the program. -/
structure Settings where
  /-- The URL of the node. -/
  url? : Option String
  /-- The file of the configuration. -/
  config? : Option String
  /-- The file of the registry. -/
  registry? : Option String
deriving DecidableEq, Repr

/-- What to do. -/
inductive Command where
  /-- List the registry. -/
  | pallets
  /-- Derive the key of an entry. -/
  | key (pallet item : String) (keys : List String)
  /-- Read the bytes of an entry. -/
  | get (pallet item : String) (keys : List String) (block : Option Hash)
  /-- Read the number of the chain. -/
  | parachainId (block : Option Hash)
  /-- Read the block authorities. -/
  | authorities (block : Option Hash)
deriving DecidableEq

/-- What a command line asks for. -/
structure Invocation where
  /-- The options of the program. -/
  settings : Settings
  /-- The command. -/
  command : Command
deriving DecidableEq

/-- An option that keeps one value, under the way to read the value. -/
def single {State α : Type} (name : String) (short? : Option Char) (placeholder : String)
    (read : String → Except Misuse α) (get : State → Option α) (set : State → α → State) :
    ValueOption State where
  name := name
  short? := short?
  placeholder := placeholder
  store text state :=
    match get state with
    | some _ => .error (.repeated ("--" ++ name ++ " <" ++ placeholder ++ ">"))
    | none =>
      match read text with
      | .ok value => .ok (set state value)
      | .error misuse => .error misuse

/-- The name of a file, which must not be empty. -/
def fileName (shown : String) (text : String) : Except Misuse String :=
  if text = "" then .error (.missingValue shown) else .ok text

/-- The grammar in front of the name of a command. -/
def settingsGrammar : Grammar Settings where
  options :=
    [single "ws-url" none "WS_URL" .ok Settings.url?
        fun settings url => { settings with url? := some url },
      single "config" (some 'c') "CONFIG" (fileName "--config <CONFIG>") Settings.config?
        fun settings name => { settings with config? := some name },
      single "metadata" none "METADATA" (fileName "--metadata <METADATA>") Settings.registry?
        fun settings name => { settings with registry? := some name }]
  words := []
  subcommands := ["pallets", "key", "get", "parachain-id", "authorities", "help"]
  versioned := true

/-- What a command has taken in. -/
structure CommandState where
  /-- The words, the last one first. -/
  words : List String
  /-- The keys, the last one first. -/
  keys : List String
  /-- The block. -/
  block? : Option Hash

/-- Takes in a word. -/
def addWord (word : String) (state : CommandState) : CommandState :=
  { state with words := word :: state.words }

/-- The option that names keys, as often as there are keys. -/
def keyOption : ValueOption CommandState where
  name := "key"
  short? := none
  placeholder := "KEYS"
  store text state := .ok { state with keys := text :: state.keys }

/-- The option that names a block. -/
def blockOption : ValueOption CommandState :=
  let read (text : String) : Except Misuse Hash :=
    match blockHash text with
    | .ok hash => .ok hash
    | .error reason => .error (.invalidValue "--at <AT>" text reason)
  single "at" none "AT" read CommandState.block?
    fun state block => { state with block? := some block }

/-- The grammar behind the name of a command. -/
def commandGrammar (words : Nat) (options : List (ValueOption CommandState)) :
    Grammar CommandState :=
  ⟨options, List.replicate words addWord, [], false⟩

/-- Reads the arguments of a command. -/
def Command.ofArguments (name : String) (arguments : List String) : Except Halt Command :=
  let run (words : Nat) (options : List (ValueOption CommandState)) : Except Halt CommandState :=
    (commandGrammar words options).run ⟨[], [], none⟩ arguments
  let entry (options : List (ValueOption CommandState))
      (next : String → String → CommandState → Command) : Except Halt Command :=
    match run 2 options with
    | .error halt => .error halt
    | .ok state =>
      match state.words with
      | [item, pallet] => .ok (next pallet item state)
      | _ => .error (.misuse .missingWords)
  match name with
  | "pallets" => (run 0 []).map fun _ => .pallets
  | "key" => entry [keyOption] fun pallet item state => .key pallet item state.keys.reverse
  | "get" => entry [keyOption, blockOption] fun pallet item state =>
    .get pallet item state.keys.reverse state.block?
  | "parachain-id" => (run 0 [blockOption]).map fun state => .parachainId state.block?
  | "authorities" => (run 0 [blockOption]).map fun state => .authorities state.block?
  | "help" =>
    match arguments with
    | [] => .error .help
    | topic :: others =>
      if topic ∈ settingsGrammar.subcommands then
        match others with
        | [] => .error .help
        | deeper :: _ => .error (.misuse (.unknownSubcommand deeper))
      else .error (.misuse (.unknownSubcommand topic))
  | _ => .error (.misuse (.unknownSubcommand name))

/-- Reads a command line; the environment may name the node that the command line does not. -/
def Invocation.ofArguments (environmentUrl : Option String) (arguments : List String) :
    Except Halt Invocation :=
  match settingsGrammar.walk false ⟨⟨none, none, none⟩, none, []⟩ arguments with
  | .error halt => .error halt
  | .ok (progress, some (name, rest)) =>
    match Command.ofArguments name rest with
    | .error halt => .error halt
    | .ok command =>
      match progress.settle with
      | .error halt => .error halt
      | .ok progress =>
        let settings := progress.state
        .ok ⟨{ settings with url? := settings.url?.or environmentUrl }, command⟩
  | .ok (progress, none) =>
    match progress.settle with
    | .error halt => .error halt
    | .ok progress =>
      if progress.state = ⟨none, none, none⟩ ∧ environmentUrl = none then
        .error (.misuse .nothing)
      else .error (.misuse .missingSubcommand)

end EnclaveChain.CommandLine
