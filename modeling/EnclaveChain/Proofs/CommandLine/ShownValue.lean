import EnclaveChain.Proofs.CommandLine.Printed
import EnclaveChain.Proofs.Node.Stored
import EnclaveChain.Proofs.Scale.Exact
import EnclaveChain.Proofs.Storage.Fallback
import EnclaveChain.Proofs.Terminal.Rendering
import EnclaveChain.Proofs.Text.Hex

/-!
# What is shown of a stored value

The run that shows the bytes of an entry and the reader of typed values look at the registry and at
the node on their own, and each has its own rule for what is not stored. They tell the same story:
stored bytes are shown exactly where a read comes to something, a default exactly where a read with
default falls back to it, and nothing exactly where there is no default (`shown_as_read`).
-/
namespace EnclaveChain.CommandLine

open Terminal

/-! ### The line for a value -/

/-- What is shown of an entry. -/
inductive Shown where
  /-- Bytes that are stored. -/
  | value (bytes : Bytes)
  /-- Bytes of a default. -/
  | default (bytes : Bytes)
  /-- That there are none. -/
  | nothing
deriving DecidableEq

namespace Shown

/-- How it is shown. -/
def line : Shown → Line
  | value bytes => field "Value" (Hex.encode0x bytes)
  | default bytes => field "Default" (Hex.encode0x bytes)
  | nothing => missing "Value"

/-- What is shown of an entry when this is stored. -/
def ofStored (entry : StorageEntry) : Option Bytes → Shown
  | some bytes => value bytes
  | none =>
    match entry.modifier with
    | .default => default entry.default
    | .optional => nothing

variable {entry : StorageEntry} {stored? : Option Bytes} {bytes : Bytes}

/-- The line of an entry shows this. -/
theorem valueLine_eq (entry : StorageEntry) (stored? : Option Bytes) :
    valueLine entry stored? = (ofStored entry stored?).line := by
  cases stored? with
  | some bytes => rfl
  | none =>
    rw [valueLine, ofStored, StorageEntry.default?]
    cases entry.modifier <;> rfl

/-- Different things are shown differently. -/
theorem line_inj {left right : Shown} : left.line = right.line ↔ left = right := by
  cases left <;> cases right <;>
    simp [line, field, missing, labelled, Span.coloured, Hex.encode0x_inj]

/-- Bytes that are stored are shown even if there are none of them. -/
example : (value []).line = field "Value" "0x" := by decide

/-- Stored bytes are shown. -/
theorem value_eq_ofStored_iff : value bytes = ofStored entry stored? ↔ stored? = some bytes := by
  cases stored? with
  | some found => simp [ofStored, eq_comm]
  | none =>
    rw [ofStored]
    cases entry.modifier <;> simp

/-- A default is shown where nothing is stored and absence stands for it. -/
theorem default_eq_ofStored_iff :
    default bytes = ofStored entry stored? ↔
      stored? = none ∧ entry.modifier = .default ∧ bytes = entry.default := by
  cases stored? with
  | some found => simp [ofStored]
  | none =>
    rw [ofStored]
    cases entry.modifier <;> simp

/-- Nothing is shown where nothing is stored and absence stands for nothing. -/
theorem nothing_eq_ofStored_iff :
    nothing = ofStored entry stored? ↔ stored? = none ∧ entry.modifier = .optional := by
  cases stored? with
  | some found => simp [ofStored]
  | none =>
    rw [ofStored]
    cases entry.modifier <;> simp

end Shown

namespace Printed

variable {printed : Printed Unit} {shown other : Shown}

/-- Among the lines is this one. -/
def Shows (printed : Printed Unit) (shown : Shown) : Prop := shown.line ∈ printed.lines

/-- Among the lines is this one, and none besides it that shows anything of an entry. -/
def ShowsOnly (printed : Printed Unit) (shown : Shown) : Prop :=
  ∃ before after, printed.lines = before ++ shown.line :: after ∧
    ∀ other : Shown, other.line ∉ before ++ after

/-- What alone is shown is all that is shown. -/
theorem ShowsOnly.shows_iff (only : printed.ShowsOnly shown) :
    printed.Shows other ↔ other = shown := by
  obtain ⟨before, after, lines, nowhere⟩ := only
  have elsewhere := nowhere other
  rw [List.mem_append, not_or] at elsewhere
  rw [Shows, lines, List.mem_append, or_iff_right elsewhere.1, List.mem_cons,
    or_iff_left elsewhere.2, Shown.line_inj]

end Printed

/-! ### The run -/

/-- The lines around what is shown of an entry, those before it and those after it. -/
def entryFrame (config : Config) (name : String) (key : StorageKey) : List Line × List Line :=
  (connectedLines config ++
    [progress ("Fetching " ++ name ++ "..."), sectionTitle name,
      field "Key" (Hex.encode0x key.bytes)], [sectionEnd])

/-- They show nothing of the entry themselves. -/
theorem line_notMem_entryFrame (config : Config) (name : String) (key : StorageKey)
    (shown : Shown) :
    shown.line ∉ (entryFrame config name key).1 ++ (entryFrame config name key).2 := by
  cases shown <;>
    simp [entryFrame, connectedLines, Shown.line, progress, info, sectionTitle, sectionEnd, field,
      missing, labelled, Span.coloured, Span.plain, Span.bold]

/-- Of keys they show this one, with its digits, and what is shown of the entry is none. -/
theorem key_mem_framed_iff (config : Config) (name : String) (key : StorageKey) (shown : Shown)
    (text : String) :
    field "Key" text ∈
        (entryFrame config name key).1 ++ shown.line :: (entryFrame config name key).2 ↔
      text = Hex.encode0x key.bytes := by
  cases shown <;>
    simp [entryFrame, connectedLines, Shown.line, progress, info, sectionTitle, sectionEnd, field,
      missing, labelled, Span.coloured, Span.plain, Span.bold]

variable {world : World} {config : Config} {registry : Registry} {pallet item : String}
  {keys : List Bytes} {block : Option Hash}

/-- Without a key nothing is printed, and no node is asked. -/
theorem showValue_of_error {fault : Error}
    (underived : StorageKey.derive registry pallet item keys = .error fault) :
    showValue world config registry pallet item keys block = ⟨.error (.command fault), []⟩ := by
  rw [showValue, underived, Printed.mapError_error_bind]

/-- With a key, and a node that is reached and serves the block, the run shows what is stored. -/
theorem showValue_of_ok {key : StorageKey} {node : Node} {entry : StorageEntry}
    (derived : StorageKey.derive registry pallet item keys = .ok key)
    (reached : (world.network.connect config.url).result = .ok node) (serves : node.Serves block)
    (found : registry.storageItem pallet item = .ok entry) :
    showValue world config registry pallet item keys block =
      let frame := entryFrame config (Error.itemName pallet item) key
      ⟨.ok (), frame.1 ++ (Shown.ofStored entry (node.stored? key block)).line :: frame.2⟩ := by
  have connected := connect_of_ok reached
  have dialed : (connect world config).result = .ok node := by rw [connected]
  rw [showValue, derived, found, Printed.mapError_ok_bind, Printed.bind_of_ok dialed, connected]
  simp only [Printed.ofTraced_bind (serves.result_backend key), Printed.mapError_ok_bind,
    Printed.line_bind, Shown.valueLine_eq]
  rfl

/-! ### The run and the reader -/

/-- A run shows an entry, the bytes stored under its key being given. -/
structure Printed.TellsStored (printed : Printed Unit) (key : StorageKey) (entry : StorageEntry)
    (stored? : Option Bytes) : Prop where
  /-- It ends well. -/
  done : printed.result = .ok ()
  /-- It shows the digits of the key and no other as the key. -/
  key : ∀ text, field "Key" text ∈ printed.lines ↔ text = Hex.encode0x key.bytes
  /-- It shows one thing of the entry, on one line. -/
  one : ∃ shown, printed.ShowsOnly shown
  /-- Bytes are shown as the value exactly when they are stored. -/
  value : ∀ bytes, printed.Shows (.value bytes) ↔ stored? = some bytes
  /-- Bytes are shown as the default exactly when nothing is stored and the entry has them as its
  default. -/
  default : ∀ bytes, printed.Shows (.default bytes) ↔
    stored? = none ∧ entry.modifier = .default ∧ bytes = entry.default
  /-- Nothing is shown exactly when nothing is stored and the entry has no default. -/
  nothing : printed.Shows .nothing ↔ stored? = none ∧ entry.modifier = .optional

/-- A run shows an entry, what a read and a read with default come to being given. -/
structure Printed.TellsRead {Value : Type} (printed : Printed Unit) (entry : StorageEntry)
    (address : Address Value) (read : Except Error (Option Value))
    (readOrDefault : Except Error Value) : Prop where
  /-- Some bytes are shown as the value exactly when the read comes to something. -/
  value : (∃ bytes, printed.Shows (.value bytes)) ↔ read ≠ .ok none
  /-- Then it decodes all of them. -/
  decoded : ∀ bytes, printed.Shows (.value bytes) → read = (address.decodeStored bytes).map some
  /-- The default bytes are shown exactly when the read comes to nothing and the read with default
  decodes all of them. -/
  default : ∀ bytes, printed.Shows (.default bytes) ↔
    bytes = entry.default ∧ read = .ok none ∧ readOrDefault = address.decodeDefault bytes
  /-- Of bytes that are a value it is enough that the read with default comes to this value, which
  no other bytes have. -/
  readable : ∀ bytes value, address.schema.decodeAll bytes = .ok value →
    (printed.Shows (.default bytes) ↔ read = .ok none ∧ readOrDefault = .ok value)
  /-- Nothing is shown exactly when the read comes to nothing and there is no default. -/
  nothing : printed.Shows .nothing ↔
    read = .ok none ∧ readOrDefault = .error (.noDefault address.pallet address.item)

/-- A run that shows only what is stored tells about the stored bytes. -/
theorem Printed.ShowsOnly.tellsStored {printed : Printed Unit} {key : StorageKey}
    {entry : StorageEntry} {stored? : Option Bytes} (done : printed.result = .ok ())
    (keyShown : ∀ text, field "Key" text ∈ printed.lines ↔ text = Hex.encode0x key.bytes)
    (only : printed.ShowsOnly (.ofStored entry stored?)) :
    printed.TellsStored key entry stored? where
  done := done
  key := keyShown
  one := ⟨_, only⟩
  value _ := only.shows_iff.trans Shown.value_eq_ofStored_iff
  default _ := only.shows_iff.trans Shown.default_eq_ofStored_iff
  nothing := only.shows_iff.trans Shown.nothing_eq_ofStored_iff

section

variable {Value : Type} {reader : Reader} {address : Address Value} {key : StorageKey}
  {stored? : Option Bytes} {entry : StorageEntry}

/-- A run that tells about the stored bytes tells what reads of the same address come to. -/
theorem Printed.TellsStored.tellsRead {printed : Printed Unit}
    (told : printed.TellsStored key entry stored?)
    (derived : address.key reader.registry = .ok key)
    (answered : (reader.backend key block).result = .ok stored?)
    (found : reader.registry.storageItem address.pallet address.item = .ok entry) :
    printed.TellsRead entry address (reader.fetch address block).result
      (reader.fetchOrDefault address block).result := by
  have absent := Reader.result_fetch_eq_none_iff derived answered
  -- where nothing is stored, a read with default is a default, and the entry decides
  have falls (nothing : stored? = none) :
      (reader.fetchOrDefault address block).result = (reader.default address).result := by
    rw [Reader.result_fetchOrDefault, absent.mpr nothing]
  have decides := Reader.decides_default found
  have decoded (offered : entry.modifier = .default) :
      (reader.default address).result = address.decodeDefault entry.default := by
    rw [Reader.result_default, found]
    simp only [StorageEntry.default?, offered]
  constructor
  case value =>
    simp only [told.value]
    rw [ne_eq, absent, ← ne_eq, Option.ne_none_iff_exists']
  case decoded =>
    intro bytes shown
    rw [(told.value bytes).mp shown] at answered
    exact Reader.result_fetch_of_stored derived answered
  case default =>
    intro bytes
    rw [told.default, absent]
    constructor
    · rintro ⟨nothing, offered, rfl⟩
      exact ⟨rfl, nothing, (falls nothing).trans (decoded offered)⟩
    · rintro ⟨rfl, nothing, read⟩
      refine ⟨nothing, ?_, rfl⟩
      cases offered : entry.modifier with
      | default => rfl
      | optional =>
        rw [falls nothing, decides.noDefault.mpr offered] at read
        obtain ⟨cause, -, blamed⟩ := Address.decodeDefault_eq_error_iff.mp read.symm
        cases blamed
  case readable =>
    intro bytes value readable
    have encoded := ((Scale.Schema.decodeAll_eq_ok_iff _).mp readable).2
    rw [told.default, absent]
    constructor
    · rintro ⟨nothing, offered, rfl⟩
      refine ⟨nothing, ?_⟩
      rw [falls nothing, decoded offered, Address.decodeDefault, readable]
    · rintro ⟨nothing, read⟩
      rw [falls nothing] at read
      obtain ⟨offered, default⟩ := (decides.value value).mp read
      refine ⟨nothing, offered, ?_⟩
      rw [encoded, address.schema.canonical _ _ _ default, List.append_nil]
  case nothing =>
    rw [told.nothing, absent]
    refine and_congr_right fun nothing => ?_
    rw [falls nothing]
    exact decides.noDefault.symm

end

/-- What is shown of an entry is what the reader has to say of it. Take any registry, names, keys
and block. When no key can be derived, the run ends with this error and prints nothing, whatever
there is to connect to. Otherwise, with a node that is reached and serves the block, it shows the
key and one thing of the entry: the stored bytes, or where there are none the default bytes, or
nothing where there is no default either. And with the same registry and node, reads at any address
with these names and keys, of values of any layout, come to what is shown. Without colours, what is
shown stands behind its label in the text, and a placeholder where there is nothing. -/
theorem shown_as_read (world : World) (config : Config) (registry : Registry)
    (pallet item : String) (keys : List Bytes) (block : Option Hash) :
    (∀ fault, StorageKey.derive registry pallet item keys = .error fault →
      showValue world config registry pallet item keys block = ⟨.error (.command fault), []⟩) ∧
    (∀ key node, StorageKey.derive registry pallet item keys = .ok key →
      (world.network.connect config.url).result = .ok node → node.Serves block →
      ∃ entry, registry.storageItem pallet item = .ok entry ∧
        (showValue world config registry pallet item keys block).TellsStored key entry
          (node.stored? key block) ∧
        ∀ {Value : Type} (address : Address Value), address.pallet = pallet →
          address.item = item → address.keys = keys →
          (showValue world config registry pallet item keys block).TellsRead entry address
            (Reader.fetch ⟨node.backend, registry⟩ address block).result
            (Reader.fetchOrDefault ⟨node.backend, registry⟩ address block).result) ∧
    ∀ label text,
      (field label text).render false = "  ├─  " ++ label ++ ": " ++ text ++ "\n" ∧
      (missing label).render false = "  ├─  " ++ label ++ ": <empty>\n" := by
  refine ⟨?_, ?_, ?_⟩
  · intro fault underived
    exact showValue_of_error underived
  · intro key node derived reached serves
    obtain ⟨entry, found⟩ := StorageKey.exists_storageItem derived
    have run := showValue_of_ok derived reached serves found
    have told : (showValue world config registry pallet item keys block).TellsStored key entry
        (node.stored? key block) := by
      rw [run]
      refine Printed.ShowsOnly.tellsStored rfl ?_ ?_
      · exact key_mem_framed_iff config _ key _
      · exact ⟨_, _, rfl, line_notMem_entryFrame config _ key⟩
    refine ⟨entry, found, told, ?_⟩
    rintro Value address rfl rfl rfl
    exact told.tellsRead derived (serves.result_backend key) found
  · intro label text
    exact ⟨render_field label text, render_missing label⟩

/-- The key of the number of the chain. -/
def numberKey : StorageKey :=
  ⟨StorageKey.itemStem "ParachainInfo" "ParachainId" ++ StorageKey.hashed [] []⟩

/-- A node with one block, which has these bytes, if any, as the number of the chain. -/
def numberNode (bytes? : Option Bytes) : Node :=
  let block : Hash := ⟨List.replicate 32 0, List.length_replicate⟩
  ⟨block, [(block, ⟨bytes?.toList.map fun bytes => (numberKey, bytes)⟩)], fun _ => none⟩

/-- The number of the chain as such a node on this machine has it. Five is shown where five is
stored, and the key of the number with it. Where nothing is stored the default is shown, and a read
with default comes to it, a hundred. An item that is unknown ends the run. -/
theorem shown_as_read_parachainId :
    let shown (item : String) (bytes? : Option Bytes) :=
      showValue ⟨fun _ => .error .notFound, none, fun _ => .ok (numberNode bytes?)⟩
        ⟨"ws://[::1]:9944", none⟩ .builtin "ParachainInfo" item [] none
    (shown "ParachainId" (some [5, 0, 0, 0])).Shows (.value [5, 0, 0, 0]) ∧
      field "Key" "0x0d715f2646c8f85767b5d2764bb2782604a74d81251e398fd8a0a4d55023bb3f" ∈
        (shown "ParachainId" (some [5, 0, 0, 0])).lines ∧
      (shown "ParachainId" none).Shows (.default [100, 0, 0, 0]) ∧
      (Reader.fetchOrDefault ⟨(numberNode none).backend, .builtin⟩
        (Slot.mk .parachainId ()).address none).result = .ok (100 : UInt32) ∧
      (shown "Number" none).result =
        .error (.command (.unknownStorage "ParachainInfo" "Number")) := by
  intro shown
  have agrees (item : String) (bytes? : Option Bytes) :=
    shown_as_read ⟨fun _ => .error .notFound, none, fun _ => .ok (numberNode bytes?)⟩
      ⟨"ws://[::1]:9944", none⟩ .builtin "ParachainInfo" item [] none
  have tells (bytes? : Option Bytes) :=
    (agrees "ParachainId" bytes?).2.1 numberKey (numberNode bytes?) rfl rfl
      ⟨rfl, rfl, List.mem_singleton.mpr rfl⟩
  have failed := (agrees "Number" none).1 _ rfl
  obtain ⟨_, -, five, -⟩ := tells (some [5, 0, 0, 0])
  obtain ⟨entry, found, absent, reads⟩ := tells none
  cases found
  have hundred : (shown "ParachainId" none).Shows (.default [100, 0, 0, 0]) :=
    (absent.default _).mpr ⟨rfl, rfl, rfl⟩
  have told := reads (Slot.mk .parachainId ()).address rfl rfl rfl
  refine ⟨?_, (five.key _).mpr (by decide), hundred, ?_, congrArg Printed.result failed⟩
  · refine (five.value _).mpr ?_
    simp [Node.stored?, Node.layer?, numberNode, Layer.get?]
  · exact ((told.readable [100, 0, 0, 0] (100 : UInt32) rfl).mp hundred).2

end EnclaveChain.CommandLine
