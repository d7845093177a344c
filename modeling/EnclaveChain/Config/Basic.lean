import EnclaveChain.Config.Files
import EnclaveChain.Json.Writer
import EnclaveChain.Registry.Lookup
import EnclaveChain.Toml.Document

/-!
# Configurations

A configuration names the node to ask and, if the built-in registry is not wanted, the file of
another one. It is read from a TOML text, in which other keys and tables are allowed.
-/
namespace EnclaveChain

/-- Which node to ask and which registry to use. -/
structure Config where
  /-- The URL of the node. -/
  url : String
  /-- The file of a registry. -/
  registryFile : Option String
deriving DecidableEq, Repr

namespace Config

/-- The URL of a node on this machine. -/
def defaultUrl : String := "ws://127.0.0.1:9944"

/-- The configuration without any choice. -/
def default : Config := ⟨defaultUrl, none⟩

/-- The string of a key, if the key is there; a value of another kind is an error. -/
def string? (table : Toml.Entries) (key : String) : Except Error (Option String) :=
  match table.get? key with
  | none => .ok none
  | some (.string text) => .ok (some text)
  | some _ => .error .toml

/-- A configuration from a TOML text. -/
def ofToml (text : String) : Except Error Config :=
  match Toml.read text with
  | none => .error .toml
  | some table => do
    let url ← string? table "ws_url"
    let registryFile ← string? table "metadata"
    return ⟨url.getD defaultUrl, registryFile⟩

/-- A configuration from a file. -/
def ofFile (files : Files) (name : String) : Except Error Config :=
  match files name with
  | .error fault => .error (.file fault)
  | .ok text => ofToml text

/-- The registry that a configuration asks for. -/
def registry (config : Config) (files : Files) : Except Error Registry :=
  match config.registryFile with
  | none => .ok .builtin
  | some name =>
    match files name with
    | .error fault => .error (.file fault)
    | .ok text => Registry.load text

/-- A configuration as a JSON text. -/
def json (config : Config) : String :=
  let file :=
    match config.registryFile with
    | none => Json.Tree.null
    | some name => .ofString name
  (Json.Tree.ofFields [("ws_url", .ofString config.url), ("metadata", file)]).text

end Config

end EnclaveChain
