import EnclaveChain.Chain.Ss58
import EnclaveChain.CommandLine.Report
import EnclaveChain.Config.Basic
import EnclaveChain.Node.Basic
import EnclaveChain.Storage.Item

/-!
# The program

Every command loads the configuration, then the registry, then reads its keys, and only then does
its work; the first of these that fails ends the run. What a command prints before it fails stays
printed. The surroundings of a run (files, network, environment) are values, so a run is a function
of them and of the arguments.
-/
namespace EnclaveChain.CommandLine

open Terminal

/-- What a run has around it. -/
structure World where
  /-- The text of each file, or why it has none. -/
  files : Files
  /-- The node that the environment names. -/
  url? : Option String
  /-- Where URLs lead. -/
  network : Network

/-- What a part of a run came to, and the lines it printed. -/
structure Printed (α : Type) where
  /-- The value or the failure. -/
  result : Except Failure α
  /-- The lines, the first one first. -/
  lines : List Line

namespace Printed

/-- A part that prints nothing. -/
def ofExcept {α : Type} (result : Except Failure α) : Printed α := ⟨result, []⟩

/-- A part that prints a line and nothing else. -/
def line (line : Line) : Printed Unit := ⟨.ok (), [line]⟩

/-- A part that prints lines and nothing else. -/
def print (lines : List Line) : Printed Unit := ⟨.ok (), lines⟩

/-- Goes on with the value of a part, if it has one. -/
def andThen {α β : Type} (first : Printed α) (next : α → Printed β) : Printed β :=
  match first.result with
  | .error failure => ⟨.error failure, first.lines⟩
  | .ok value => ⟨(next value).result, first.lines ++ (next value).lines⟩

instance : Monad Printed where
  pure value := ofExcept (.ok value)
  bind := andThen

/-- An operation of the library as a part of a run. -/
def ofTraced {α : Type} (traced : Traced α) : Printed α :=
  ofExcept (traced.result.mapError .command)

end Printed

/-- Reads keys, up to the first that cannot be read. -/
def readKeys : List String → Except Failure (List Bytes)
  | [] => .ok []
  | text :: texts =>
    match hexValue text with
    | .error reason => .error (.value reason)
    | .ok key =>
      match readKeys texts with
      | .error failure => .error failure
      | .ok keys => .ok (key :: keys)

/-- Connects to the node of a configuration. -/
def connect (world : World) (config : Config) : Printed Node := do
  Printed.line (progress "Connecting to blockchain...")
  let dialed := (world.network.connect config.url).result
  let node ← Printed.ofExcept (dialed.mapError (.connect config.url))
  Printed.line (info ("Connected to " ++ config.url))
  return node

/-! ### Listing the registry -/

/-- A call in the list. -/
def callLine (call : CallEntry) : Line :=
  let args := call.args.map fun argument => argument.name ++ ": " ++ argument.type
  field ("call " ++ toString call.index.toNat)
    (call.name ++ "(" ++ String.intercalate ", " args ++ ")")

/-- A storage item in the list. -/
def itemLine (entry : StorageEntry) : Line :=
  let type :=
    match entry.modifier with
    | .optional => "Option<" ++ entry.valueType ++ ">"
    | .default => entry.valueType
  let keys :=
    if entry.keyTypes = [] then "" else "[" ++ String.intercalate ", " entry.keyTypes ++ "] "
  field "storage" (entry.name ++ " " ++ keys ++ "-> " ++ type)

/-- A pallet in the list. -/
def palletLines (pallet : PalletEntry) : List Line :=
  [sectionTitle (pallet.name ++ " #" ++ toString pallet.index.toNat)] ++
    pallet.calls.map callLine ++ pallet.storage.map itemLine ++ [sectionEnd]

/-- Lists a registry. -/
def listPallets (registry : Registry) : Printed Unit :=
  Printed.print (info ("Metadata registry, spec version " ++ toString registry.specVersion.toNat) ::
    registry.pallets.flatMap palletLines)

/-! ### Keys and values -/

/-- Derives the key of an entry. -/
def showKey (registry : Registry) (pallet item : String) (keys : List Bytes) : Printed Unit := do
  let key ← Printed.ofExcept ((StorageKey.derive registry pallet item keys).mapError .command)
  Printed.line (success (Error.itemName pallet item))
  Printed.line [.plain key.text]

/-- The line for what a node has under the key of an item. -/
def valueLine (entry : StorageEntry) : Option Bytes → Line
  | some bytes => field "Value" (Hex.encode0x bytes)
  | none =>
    match entry.default? with
    | some bytes => field "Default" (Hex.encode0x bytes)
    | none => missing "Value"

/-- Reads the bytes of an entry from a node. -/
def showValue (world : World) (config : Config) (registry : Registry) (pallet item : String)
    (keys : List Bytes) (block : Option Hash) : Printed Unit := do
  let key ← Printed.ofExcept ((StorageKey.derive registry pallet item keys).mapError .command)
  let node ← connect world config
  let name := Error.itemName pallet item
  Printed.line (progress ("Fetching " ++ name ++ "..."))
  let value ← Printed.ofTraced (node.backend key block)
  Printed.line (sectionTitle name)
  Printed.line (field "Key" key.text)
  let entry ← Printed.ofExcept ((registry.storageItem pallet item).mapError .command)
  Printed.line (valueLine entry value)
  Printed.line sectionEnd

/-- Reads the value of a slot from a node, or its default. -/
def readSlot (node : Node) (registry : Registry) (slot : Slot) (block : Option Hash) :
    Printed slot.Value :=
  Printed.ofTraced (Reader.fetchOrDefault ⟨node.backend, registry⟩ slot.address block)

/-- Reads the number of the chain. -/
def showParachainId (world : World) (config : Config) (registry : Registry)
    (block : Option Hash) : Printed Unit := do
  let node ← connect world config
  let id : UInt32 ← readSlot node registry ⟨.parachainId, ()⟩ block
  Printed.line (success ("Parachain id: " ++ toString id.toNat))

/-- Authorities with their positions, from a position on. -/
def authorityLines (position : Nat) : List (FixedBytes 32) → List Line
  | [] => []
  | key :: keys =>
    field ("#" ++ toString position) (Ss58.address key) :: authorityLines (position + 1) keys

/-- Reads the block authorities. -/
def showAuthorities (world : World) (config : Config) (registry : Registry)
    (block : Option Hash) : Printed Unit := do
  let node ← connect world config
  let keys : List (FixedBytes 32) ← readSlot node registry ⟨.authorities, ()⟩ block
  Printed.line (sectionTitle ("Aura authorities (" ++ toString keys.length ++ ")"))
  Printed.print (authorityLines 0 keys)
  Printed.line sectionEnd

/-! ### A run -/

/-- The configuration of a run: that of its file, with what the options name in its place. -/
def loadConfig (world : World) (settings : Settings) : Except Failure Config :=
  let loaded : Except Failure Config :=
    match settings.config? with
    | none => .ok Config.default
    | some name => (Config.ofFile world.files name).mapError (.config name)
  loaded.map fun config =>
    ⟨settings.url?.getD config.url, settings.registry?.or config.registryFile⟩

/-- Does what an invocation asks for. -/
def execute (world : World) (invocation : Invocation) : Printed Unit := do
  let config ← Printed.ofExcept (loadConfig world invocation.settings)
  let registry ← Printed.ofExcept ((config.registry world.files).mapError .registry)
  match invocation.command with
  | .pallets => listPallets registry
  | .key pallet item keys =>
    let keys ← Printed.ofExcept (readKeys keys)
    showKey registry pallet item keys
  | .get pallet item keys block =>
    let keys ← Printed.ofExcept (readKeys keys)
    showValue world config registry pallet item keys block
  | .parachainId block => showParachainId world config registry block
  | .authorities block => showAuthorities world config registry block

/-- How a run ended. -/
inductive Ending where
  /-- It did what it was asked. -/
  | done
  /-- It failed. -/
  | failed (failure : Failure)
  /-- It was not told what to do. -/
  | misused (misuse : Misuse)
deriving DecidableEq, Repr

namespace Ending

/-- The exit code. -/
def code : Ending → UInt32
  | done => 0
  | failed _ => 1
  | misused _ => 2

/-- What is said about the ending; only the text of a misuse is ever coloured. -/
def text (colours : Bool) : Ending → String
  | done => ""
  | failed failure => failure.text
  | misused misuse => renderMessage colours misuse.message

end Ending

/-- What a run printed and how it ended. -/
structure Outcome where
  /-- The output. -/
  output : String
  /-- The ending. -/
  ending : Ending

/-- Runs the program on its arguments. -/
def run (world : World) (colours : Bool) (arguments : List String) : Outcome :=
  match Invocation.ofArguments world.url? arguments with
  | .error .help => ⟨usage, .done⟩
  | .error .version => ⟨version, .done⟩
  | .error (.misuse misuse) => ⟨"", .misused misuse⟩
  | .ok invocation =>
    let printed := execute world invocation
    let ending :=
      match printed.result with
      | .ok () => .done
      | .error failure => .failed failure
    ⟨renderAll colours printed.lines, ending⟩

end EnclaveChain.CommandLine
