import EnclaveChain.Proofs.Storage.Fallback
import EnclaveChain.Proofs.Storage.Mirror
import EnclaveChain.Proofs.Storage.Slot

/-!
# What the records of a read tell

A read of a state in memory leaves records of the key that it derived, of the read, and of the one
time that it asked the memory, and then a record for each turn that it took: that nothing is stored,
and that a default is used (`Reader.LogsBranch`). Without a key it leaves no record at all. So the
records of a session show how often the memory was asked, which is once for each read that has a
key (`reads_ask_once`).
-/
namespace EnclaveChain

/-! ### Records of operations -/

/-- One operation after another has the records of the second one only if the first one succeeds. -/
theorem Traced.log_bind {α β : Type} (first : Traced α) (next : α → Traced β) :
    (first >>= next).log =
      first.log ++
        match first.result with
        | .error _ => []
        | .ok value => (next value).log := by
  cases done : first.result with
  | error fault => simp [Traced.bind_of_error done]
  | ok value => simp [Traced.bind_of_ok done]

/-- A key that is derived leaves one record, and one that is not leaves none. -/
theorem Address.log_keyTraced {Value : Type} (address : Address Value) (registry : Registry) :
    (address.keyTraced registry).log =
      match address.key registry with
      | .error _ => []
      | .ok key => [.derivedKey address.pallet address.item key] := by
  rw [keyTraced, key, StorageKey.deriveTraced, Traced.andThen, Traced.result_ofExcept]
  cases StorageKey.derive registry address.pallet address.item address.keys <;> rfl

namespace Reader

section

variable {Value : Type} (reader : Reader) (address : Address Value) (block : Option Hash)

/-- A read with a key has the records of what it asks the source, and says if nothing is stored. -/
theorem log_fetch :
    (reader.fetch address block).log =
      match address.key reader.registry with
      | .error _ => []
      | .ok key =>
        [.derivedKey address.pallet address.item key,
            .fetching address.pallet address.item block] ++
          (reader.backend key block).log ++
          match (reader.backend key block).result with
          | .ok none => [.notPresent address.pallet address.item]
          | _ => [] := by
  rw [fetch, Traced.log_bind, Address.result_keyTraced, Address.log_keyTraced]
  cases address.key reader.registry with
  | error fault => rfl
  | ok key =>
    simp only [Traced.log_bind, Traced.result_record]
    cases (reader.backend key block).result with
    | error fault => rfl
    | ok stored? => cases stored? <;> rfl

/-- A default is used with a record of it. -/
theorem log_default :
    (reader.default address).log =
      match reader.registry.storageItem address.pallet address.item with
      | .error _ => []
      | .ok entry =>
        match entry.default? with
        | none => []
        | some _ => [.usingDefault address.pallet address.item] := by
  rw [default, Traced.log_bind, Traced.result_ofExcept]
  cases reader.registry.storageItem address.pallet address.item with
  | error fault => rfl
  | ok entry =>
    simp only
    cases entry.default? <;> rfl

/-- A read with default has the records of the read, and those of the default after a read that
comes to nothing. -/
theorem log_fetchOrDefault :
    (reader.fetchOrDefault address block).log =
      (reader.fetch address block).log ++
        match (reader.fetch address block).result with
        | .ok none => (reader.default address).log
        | _ => [] := by
  rw [fetchOrDefault, Traced.log_bind]
  cases (reader.fetch address block).result with
  | error fault => rfl
  | ok found => cases found <;> rfl

end

/-! ### Reads of a state in memory -/

/-- The records of a read and of the same read with default tell which turns they took. The read
has a key, its item has an entry, and so much is stored under the key. -/
structure LogsBranch {Value : Type} (reader : Reader) (address : Address Value)
    (block : Option Hash) (key : StorageKey) (entry : StorageEntry) (stored? : Option Bytes) :
    Prop where
  /-- The key is derived once, then the read is announced, then the memory is asked once for the
  key at the block, and then it is said that nothing is stored, exactly if nothing is. -/
  fetch : (reader.fetch address block).log =
    [.derivedKey address.pallet address.item key, .fetching address.pallet address.item block,
      .memoryLookup key block] ++
      if stored? = none then [.notPresent address.pallet address.item] else []
  /-- The same records, and then that the default is used, exactly if nothing is stored and there
  is a default. -/
  fetchOrDefault : (reader.fetchOrDefault address block).log =
    (reader.fetch address block).log ++
      if stored? = none ∧ entry.modifier = .default then
        [.usingDefault address.pallet address.item]
      else []
  /-- Bytes that are stored and malformed are not called absent. -/
  decode : ∀ cause, (reader.fetchOrDefault address block).result =
      .error (.decode address.pallet address.item cause) →
    .notPresent address.pallet address.item ∉ (reader.fetchOrDefault address block).log
  /-- No default is used where there is none. -/
  noDefault : (reader.fetchOrDefault address block).result =
      .error (.noDefault address.pallet address.item) →
    .usingDefault address.pallet address.item ∉ (reader.fetchOrDefault address block).log
  /-- A default that is to blame is used. -/
  defaultDecode : ∀ cause, (reader.fetchOrDefault address block).result =
      .error (.defaultDecode address.pallet address.item cause) →
    .usingDefault address.pallet address.item ∈ (reader.fetchOrDefault address block).log

variable {Value : Type} (state : MemoryState) {registry : Registry} {address : Address Value}
  (block : Option Hash)

/-- A read without a key leaves no record, nor does a read with default. -/
theorem log_eq_nil_of_key_error (reader : Reader) {fault : Error}
    (failed : address.key reader.registry = .error fault) :
    (reader.fetch address block).log = [] ∧ (reader.fetchOrDefault address block).log = [] := by
  have silent : (reader.fetch address block).log = [] := by rw [log_fetch, failed]
  have passed : (reader.fetch address block).result = .error fault := by rw [result_fetch, failed]
  refine ⟨silent, ?_⟩
  rw [log_fetchOrDefault, silent, passed]
  rfl

/-- A read of a state in memory asks it once, and says if nothing is stored. -/
theorem log_fetch_memory {key : StorageKey} (derived : address.key registry = .ok key) :
    (fetch ⟨state.backend, registry⟩ address block).log =
      [.derivedKey address.pallet address.item key, .fetching address.pallet address.item block,
        .memoryLookup key block] ++
        if state.get? key block = none then [.notPresent address.pallet address.item] else [] := by
  rw [log_fetch, derived]
  simp only [MemoryState.backend]
  cases state.get? key block <;> rfl

/-- Stored bytes are decoded, with or without default, and no default is looked up. -/
theorem fetchOrDefault_of_stored {key : StorageKey} {bytes : Bytes}
    (derived : address.key registry = .ok key) (stored : state.get? key block = some bytes) :
    (fetchOrDefault ⟨state.backend, registry⟩ address block).result = address.decodeStored bytes ∧
      (fetchOrDefault ⟨state.backend, registry⟩ address block).log =
        (fetch ⟨state.backend, registry⟩ address block).log := by
  have answered : (state.backend key block).result = .ok (some bytes) := by
    rw [← stored]
    rfl
  have read : (fetch ⟨state.backend, registry⟩ address block).result =
      (address.decodeStored bytes).map some := result_fetch_of_stored derived answered
  rw [result_fetchOrDefault, log_fetchOrDefault, read]
  cases address.decodeStored bytes <;> exact ⟨rfl, List.append_nil _⟩

/-- Where nothing is stored the default decides, and its records come last. -/
theorem fetchOrDefault_of_absent {key : StorageKey} (derived : address.key registry = .ok key)
    (absent : state.get? key block = none) :
    (fetchOrDefault ⟨state.backend, registry⟩ address block).result =
        (default ⟨state.backend, registry⟩ address).result ∧
      (fetchOrDefault ⟨state.backend, registry⟩ address block).log =
        (fetch ⟨state.backend, registry⟩ address block).log ++
          (default ⟨state.backend, registry⟩ address).log := by
  have answered : (state.backend key block).result = .ok none := by
    rw [← absent]
    rfl
  have nothing : (fetch ⟨state.backend, registry⟩ address block).result = .ok none :=
    (result_fetch_eq_none_iff derived answered).mpr rfl
  rw [result_fetchOrDefault, log_fetchOrDefault, nothing]
  exact ⟨rfl, rfl⟩

/-- Every read of a state in memory that has a key tells which turns it took. -/
theorem logsBranch {key : StorageKey} {entry : StorageEntry}
    (derived : address.key registry = .ok key)
    (found : registry.storageItem address.pallet address.item = .ok entry) :
    LogsBranch ⟨state.backend, registry⟩ address block key entry (state.get? key block) := by
  have asked := log_fetch_memory state block derived
  cases stored : state.get? key block with
  | some bytes =>
    obtain ⟨decoded, same⟩ := fetchOrDefault_of_stored state block derived stored
    rw [stored] at asked
    constructor
    case fetch => exact asked
    case fetchOrDefault => simpa using same
    case decode => simp [same, asked]
    case noDefault => simp [same, asked]
    case defaultDecode =>
      intro cause failed
      rw [decoded] at failed
      obtain ⟨_, -, blamed⟩ := Address.decodeStored_eq_error_iff.mp failed
      cases blamed
  | none =>
    obtain ⟨falls, longer⟩ := fetchOrDefault_of_absent state block derived stored
    have decides : entry.Decides address (default ⟨state.backend, registry⟩ address).result :=
      decides_default found
    have used : (default ⟨state.backend, registry⟩ address).log =
        if entry.modifier = .default then
          [.usingDefault address.pallet address.item]
        else [] := by
      rw [log_default, found]
      simp only [StorageEntry.default?]
      cases entry.modifier <;> rfl
    rw [stored] at asked
    rw [used] at longer
    constructor
    case fetch => exact asked
    case fetchOrDefault => simpa using longer
    case decode =>
      intro cause failed
      rw [falls] at failed
      rcases decides.onlyFaults _ failed with blamed | ⟨_, blamed⟩ <;> cases blamed
    case noDefault =>
      intro failed
      rw [falls] at failed
      simp [longer, asked, decides.noDefault.mp failed]
    case defaultDecode =>
      intro cause failed
      rw [falls] at failed
      obtain ⟨offered, -⟩ := (decides.unreadable cause).mp failed
      simp [longer, offered]

end Reader

/-! ### Sessions -/

/-- Whether a record is that the memory is asked. -/
def LogRecord.isLookup : LogRecord → Bool
  | memoryLookup _ _ => true
  | _ => false

namespace Read

/-- The key that a read asks for; a read of bytes comes with its key. -/
def key (registry : Registry) : Read → Except Error StorageKey
  | bytes key => .ok key
  | value address | valueOrDefault address => address.key registry

/-- The records of a read at a block, or of the latest state. -/
def log (reader : Reader) (block : Option Hash) : Read → List LogRecord
  | bytes key => (reader.backend key block).log
  | value address => (reader.fetch address block).log
  | valueOrDefault address => (reader.fetchOrDefault address block).log

/-- A read asks the memory once if it has a key, and else not at all. -/
theorem countP_log (state : MemoryState) (registry : Registry) (block : Option Hash)
    (read : Read) :
    (read.log ⟨state.backend, registry⟩ block).countP LogRecord.isLookup =
      if (read.key registry).isOk then 1 else 0 := by
  cases read with
  | bytes key => rfl
  | value address =>
    rw [log, Read.key]
    cases derived : address.key registry with
    | error fault =>
      rw [(Reader.log_eq_nil_of_key_error block ⟨state.backend, registry⟩ derived).1]
      rfl
    | ok key =>
      rw [Reader.log_fetch_memory state block derived]
      split <;> rfl
  | valueOrDefault address =>
    rw [log, Read.key]
    cases derived : address.key registry with
    | error fault =>
      rw [(Reader.log_eq_nil_of_key_error block ⟨state.backend, registry⟩ derived).2]
      rfl
    | ok key =>
      obtain ⟨entry, found⟩ := StorageKey.exists_storageItem derived
      have branch := Reader.logsBranch state block derived found
      rw [branch.fetchOrDefault, branch.fetch]
      split <;> split <;> rfl

end Read

/-- A step of a session over a state in memory. -/
inductive SessionStep : Type 1 where
  /-- Bytes are stored, in the latest state or in that of a block. -/
  | write (stored : RawWrite)
  /-- A key is derived, as for a write to an address. -/
  | derive {Value : Type} (address : Address Value)
  /-- Something is read at a block, or from the latest state. -/
  | read (wanted : Read) (block : Option Hash)

namespace SessionStep

/-- Whether a step is a read that has its key. -/
def isKeyedRead (registry : Registry) : SessionStep → Bool
  | .read wanted _ => (wanted.key registry).isOk
  | _ => false

/-- The records of a session. -/
def log (registry : Registry) : MemoryState → List SessionStep → List LogRecord
  | _, [] => []
  | state, .write stored :: steps =>
    log registry (state.insert stored.block stored.key stored.bytes) steps
  | state, .derive address :: steps =>
    (address.keyTraced registry).log ++ log registry state steps
  | state, .read wanted block :: steps =>
    wanted.log ⟨state.backend, registry⟩ block ++ log registry state steps

/-- The memory is asked as often in a session as it has reads with a key. -/
theorem countP_log (registry : Registry) (state : MemoryState) (steps : List SessionStep) :
    (log registry state steps).countP LogRecord.isLookup =
      steps.countP (isKeyedRead registry) := by
  induction steps generalizing state with
  | nil => rfl
  | cons step steps ih =>
    cases step with
    | write stored =>
      rw [log, ih, List.countP_cons_of_neg]
      exact Bool.false_ne_true
    | derive address =>
      have silent : (address.keyTraced registry).log.countP LogRecord.isLookup = 0 := by
        rw [Address.log_keyTraced]
        cases address.key registry <;> rfl
      rw [log, List.countP_append, silent, ih, List.countP_cons_of_neg, Nat.zero_add]
      exact Bool.false_ne_true
    | read wanted block =>
      rw [log, List.countP_append, wanted.countP_log, ih, List.countP_cons, Nat.add_comm]
      rfl

end SessionStep

/-- Each read of a state in memory asks it once, and its records tell which turns it took. A read
whose key is not derived leaves no record. Otherwise its item has an entry, and the records are
those of `Reader.LogsBranch`: of the key, of the read, of the one lookup, then that nothing is
stored if nothing is, and then that the default is used if it is. So in every session, whatever is
written in between, there are as many lookups as reads whose key is derived, or given. -/
theorem reads_ask_once (registry : Registry) :
    (∀ {Value : Type} (state : MemoryState) (address : Address Value) (block : Option Hash),
      (∀ fault, address.key registry = .error fault →
        (Reader.fetch ⟨state.backend, registry⟩ address block).log = [] ∧
          (Reader.fetchOrDefault ⟨state.backend, registry⟩ address block).log = []) ∧
      ∀ key, address.key registry = .ok key →
        ∃ entry, registry.storageItem address.pallet address.item = .ok entry ∧
          Reader.LogsBranch ⟨state.backend, registry⟩ address block key entry
            (state.get? key block)) ∧
    ∀ (state : MemoryState) (steps : List SessionStep),
      (SessionStep.log registry state steps).countP LogRecord.isLookup =
        steps.countP (SessionStep.isKeyedRead registry) := by
  constructor
  · intro Value state address block
    constructor
    · intro fault failed
      exact Reader.log_eq_nil_of_key_error block ⟨state.backend, registry⟩ failed
    · intro key derived
      obtain ⟨entry, found⟩ := StorageKey.exists_storageItem derived
      exact ⟨entry, found, Reader.logsBranch state block derived found⟩
  · intro state steps
    exact SessionStep.countP_log registry state steps

/-- The number of the block, read with default. Half a number is neither called absent nor replaced;
where nothing is stored both is told, that it is absent and that the default is used; and an item
that is unknown is not looked up at all, so that of three reads in a session two ask the memory. -/
theorem reads_ask_once_blockNumber :
    let slot : Slot := .mk .blockNumber ()
    let unknown : Address UInt32 := ⟨"System", "Height", [], .u32⟩
    let asked : List LogRecord := [.derivedKey "System" "Number" slot.place,
      .fetching "System" "Number" none, .memoryLookup slot.place none]
    let half := MemoryState.empty.insert none slot.place [5, 0]
    (Reader.fetchOrDefault ⟨half.backend, .builtin⟩ slot.address none).log = asked ∧
      (Reader.fetchOrDefault ⟨MemoryState.empty.backend, .builtin⟩ slot.address none).log =
        asked ++ [.notPresent "System" "Number", .usingDefault "System" "Number"] ∧
      (Reader.fetchOrDefault ⟨half.backend, .builtin⟩ unknown none).log = [] ∧
      (SessionStep.log .builtin .empty
        [.read (.valueOrDefault slot.address) none, .read (.value unknown) none,
          .write ⟨none, slot.place, [5, 0]⟩, .read (.value slot.address) none]).countP
        LogRecord.isLookup = 2 := by
  intro slot unknown asked half
  obtain ⟨branches, sessions⟩ := reads_ask_once .builtin
  obtain ⟨-, tells⟩ := branches half slot.address none
  obtain ⟨-, tellsAbsent⟩ := branches .empty slot.address none
  obtain ⟨silent, -⟩ := branches half unknown none
  refine ⟨?_, ?_, (silent _ rfl).2, ?_⟩
  · obtain ⟨entry, -, branch⟩ := tells slot.place slot.address_key
    have stored : half.get? slot.place none = some [5, 0] := by simp [half]
    rw [branch.fetchOrDefault, branch.fetch, stored]
    rfl
  · obtain ⟨entry, found, branch⟩ := tellsAbsent slot.place slot.address_key
    obtain rfl := Except.ok.inj found
    rw [branch.fetchOrDefault, branch.fetch]
    rfl
  · rw [sessions]
    rfl

end EnclaveChain
