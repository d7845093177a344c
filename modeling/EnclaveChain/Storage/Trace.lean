import EnclaveChain.Storage.Key

/-!
# Traced operations

An operation on the state of the chain comes to a value or an error, and leaves log records on the
way to either. Records are kept as data and in order, so what an operation did can be read off its
trace; the wording is apart. Doing one operation after another appends the records, and nothing
after an error is done.
-/
namespace EnclaveChain

/-- How much a record matters. -/
inductive LogLevel where
  /-- A step of an operation. -/
  | trace
  /-- A turn that an operation takes. -/
  | debug
deriving DecidableEq, Repr

/-- The name of a level. -/
def LogLevel.name : LogLevel → String
  | trace => "TRACE"
  | debug => "DEBUG"

/-- A log record. -/
inductive LogRecord where
  /-- The key of an entry was derived. -/
  | derivedKey (pallet item : String) (key : StorageKey)
  /-- An entry is about to be read at a block, or at the latest one. -/
  | fetching (pallet item : String) (block : Option Hash)
  /-- The memory state is asked for a key. -/
  | memoryLookup (key : StorageKey) (block : Option Hash)
  /-- An entry is not stored. -/
  | notPresent (pallet item : String)
  /-- The default of an item is used. -/
  | usingDefault (pallet item : String)
  /-- A connection is about to be made. -/
  | connecting (url : String)
  /-- A connection was made. -/
  | connected
  /-- A node is asked for a key at a block. -/
  | querying (key : StorageKey) (block : Hash)
  /-- Whether a node had a value for a key. -/
  | present (key : StorageKey) (found : Bool)
deriving DecidableEq

namespace LogRecord

/-- A block that may be left open. -/
def blockText : Option Hash → String
  | none => "None"
  | some block => "Some(" ++ Hex.encode0x block.toList ++ ")"

/-- The level of a record. -/
def level : LogRecord → LogLevel
  | notPresent _ _ | connecting _ | connected => .debug
  | _ => .trace

/-- The text of a record. -/
def message : LogRecord → String
  | derivedKey pallet item key =>
    "Derived storage key " ++ Error.itemName pallet item ++ " = " ++ key.text
  | fetching pallet item block =>
    "Fetching " ++ Error.itemName pallet item ++ " at " ++ blockText block
  | memoryLookup key block => "Memory state lookup " ++ key.text ++ " at " ++ blockText block
  | notPresent pallet item => Error.itemName pallet item ++ " is not present"
  | usingDefault pallet item => "Using default value of " ++ Error.itemName pallet item
  | connecting url => "Connecting to blockchain at " ++ url
  | connected => "Successfully connected to blockchain"
  | querying key block =>
    "Querying storage " ++ key.text ++ " at " ++ Hex.encode0x block.toList
  | present key found => "Storage " ++ key.text ++ " present: " ++ toString found

/-- A record as a line. -/
def text (record : LogRecord) : String := record.level.name ++ " " ++ record.message

end LogRecord

/-- What an operation came to, and the records it left. -/
structure Traced (α : Type) where
  /-- The value or the error. -/
  result : Except Error α
  /-- The records, the first one first. -/
  log : List LogRecord

namespace Traced

/-- An operation that leaves no record. -/
def ofExcept {α : Type} (result : Except Error α) : Traced α := ⟨result, []⟩

/-- An operation that leaves a record and nothing else. -/
def record (entry : LogRecord) : Traced Unit := ⟨.ok (), [entry]⟩

/-- Goes on with the value of an operation, if it has one. -/
def andThen {α β : Type} (first : Traced α) (next : α → Traced β) : Traced β :=
  match first.result with
  | .error fault => ⟨.error fault, first.log⟩
  | .ok value => ⟨(next value).result, first.log ++ (next value).log⟩

instance : Monad Traced where
  pure value := ofExcept (.ok value)
  bind := andThen

end Traced

/-- Derives the key of an entry and leaves a record of it. -/
def StorageKey.deriveTraced (registry : Registry) (pallet item : String) (keys : List Bytes) :
    Traced StorageKey :=
  (Traced.ofExcept (StorageKey.derive registry pallet item keys)).andThen fun key =>
    (Traced.record (.derivedKey pallet item key)).andThen fun () => pure key

end EnclaveChain
