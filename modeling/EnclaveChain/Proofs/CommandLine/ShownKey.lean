import EnclaveChain.Proofs.CommandLine.Printed
import EnclaveChain.Proofs.Registry.Denotation
import EnclaveChain.Proofs.Text.Hex
import Mathlib.Data.List.Forall2

/-!
# When a key is shown

A run that derives a key goes through four stages: it loads the configuration, loads the registry,
reads the arguments and derives the key. Each stage can fail, and what they come to is said here
without the run (`KeyRequest.Configures`, `KeyRequest.Registers`, `KeyRequest.Faults`). The run
shows a key exactly if all of them succeed, and else prints nothing and reports the first one that
fails (`key_shown_iff_stages_succeed`).
-/
namespace EnclaveChain.CommandLine

open Terminal

/-! ### The stages -/

/-- What a run that derives a key is given. -/
structure KeyRequest where
  /-- What the run has around it. -/
  world : World
  /-- The options of the program. -/
  settings : Settings
  /-- The name of the pallet. -/
  pallet : String
  /-- The name of the item. -/
  item : String
  /-- The arguments, as texts. -/
  texts : List String

namespace KeyRequest

/-- The configuration that is loaded: that of the file that is named, or the one without a file. -/
inductive Configures (request : KeyRequest) : Config → Prop where
  /-- No file is named. -/
  | default (unnamed : request.settings.config? = none) : Configures request .default
  /-- A file is named, it can be read, and its text is a configuration. -/
  | file {name text : String} {config : Config} (named : request.settings.config? = some name)
    (read : request.world.files name = .ok text) (parsed : Config.ofToml text = .ok config) :
    Configures request config

/-- The file of the registry: the one that an option names, else the one of the configuration. -/
def registryFile? (request : KeyRequest) (config : Config) : Option String :=
  match request.settings.registry? with
  | some name => some name
  | none => config.registryFile

/-- The registry that is loaded: that of the file, or the built-in one if there is no file. -/
inductive Registers (request : KeyRequest) (config : Config) : Registry → Prop where
  /-- No file is named. -/
  | builtin (unnamed : request.registryFile? config = none) : Registers request config .builtin
  /-- A file is named, it can be read, and its text is a registry that is consistent. -/
  | file {name text : String} {registry : Registry}
    (named : request.registryFile? config = some name)
    (read : request.world.files name = .ok text) (parsed : Registry.parse text = .ok registry)
    (valid : registry.validate = .ok ()) :
    Registers request config registry

/-- The key of a request: all stages before it succeed, and it is derived from what they load. -/
def Derives (request : KeyRequest) (key : StorageKey) : Prop :=
  ∃ config registry keys, request.Configures config ∧ request.Registers config registry ∧
    List.Forall₂ Hex.SpelledBy keys request.texts ∧
    StorageKey.derive registry request.pallet request.item keys = .ok key

/-- The failure of a request: a stage fails, and all stages before it succeed. -/
inductive Faults (request : KeyRequest) : Failure → Prop where
  /-- The file of the configuration cannot be read. -/
  | configUnread {name : String} {fault : FileFault}
    (named : request.settings.config? = some name)
    (unread : request.world.files name = .error fault) :
    Faults request (.config name (.file fault))
  /-- Its text is no configuration. -/
  | configRefused {name text : String} {error : Error}
    (named : request.settings.config? = some name) (read : request.world.files name = .ok text)
    (refused : Config.ofToml text = .error error) : Faults request (.config name error)
  /-- The file of the registry cannot be read. -/
  | registryUnread {config : Config} {name : String} {fault : FileFault}
    (configured : request.Configures config) (named : request.registryFile? config = some name)
    (unread : request.world.files name = .error fault) : Faults request (.registry (.file fault))
  /-- Its text is no registry that is consistent. -/
  | registryRefused {config : Config} {name text : String} {error : Error}
    (configured : request.Configures config) (named : request.registryFile? config = some name)
    (read : request.world.files name = .ok text) (refused : Registry.load text = .error error) :
    Faults request (.registry error)
  /-- An argument is not hexadecimal, and all arguments before it are. -/
  | value {config : Config} {registry : Registry} {earlier later : List String} {text : String}
    {fault : Hex.Fault} (configured : request.Configures config)
    (registered : request.Registers config registry)
    (split : request.texts = earlier ++ text :: later)
    (before : ∀ other ∈ earlier, ∃ bytes, Hex.SpelledBy bytes other)
    (bad : Hex.decodeText text = .error fault) :
    Faults request (.value ("Invalid hex value " ++ text ++ ": " ++ fault.message))
  /-- The key is not derived. -/
  | key {config : Config} {registry : Registry} {keys : List Bytes} {error : Error}
    (configured : request.Configures config) (registered : request.Registers config registry)
    (spelled : List.Forall₂ Hex.SpelledBy keys request.texts)
    (underived : StorageKey.derive registry request.pallet request.item keys = .error error) :
    Faults request (.command error)

end KeyRequest

/-! ### Reading the arguments -/

/-- A text that spells bytes is read as these bytes. -/
theorem hexValue_eq_ok_iff {text : String} {bytes : Bytes} :
    hexValue text = .ok bytes ↔ Hex.SpelledBy bytes text := by
  rw [← Hex.decodeText_eq_ok_iff, hexValue]
  cases Hex.decodeText text <;> simp

/-- Texts that spell bytes are all read. -/
theorem readKeys_of_spelled {keys : List Bytes} {texts : List String}
    (spelled : List.Forall₂ Hex.SpelledBy keys texts) : readKeys texts = .ok keys := by
  induction spelled with
  | nil => rfl
  | cons first others ih =>
    rw [readKeys, hexValue_eq_ok_iff.mpr first]
    simp only [ih]

/-- The first text that spells no bytes is blamed. -/
theorem readKeys_of_bad {earlier later : List String} {text : String} {fault : Hex.Fault}
    (before : ∀ other ∈ earlier, ∃ bytes, Hex.SpelledBy bytes other)
    (bad : Hex.decodeText text = .error fault) :
    readKeys (earlier ++ text :: later) =
      .error (.value ("Invalid hex value " ++ text ++ ": " ++ fault.message)) := by
  induction earlier with
  | nil =>
    rw [List.nil_append, readKeys, hexValue, bad]
  | cons other earlier ih =>
    rw [List.forall_mem_cons] at before
    obtain ⟨⟨bytes, spelled⟩, before⟩ := before
    rw [List.cons_append, readKeys, hexValue_eq_ok_iff.mpr spelled]
    simp only [ih before]

/-- Texts all spell bytes, or there is a first one that does not. -/
theorem spelled_or_bad (texts : List String) :
    (∃ keys, List.Forall₂ Hex.SpelledBy keys texts) ∨
      ∃ earlier text later fault, texts = earlier ++ text :: later ∧
        (∀ other ∈ earlier, ∃ bytes, Hex.SpelledBy bytes other) ∧
        Hex.decodeText text = .error fault := by
  induction texts with
  | nil => exact .inl ⟨[], .nil⟩
  | cons text texts ih =>
    cases read : Hex.decodeText text with
    | error fault => exact .inr ⟨[], text, texts, fault, rfl, by simp, read⟩
    | ok bytes =>
      have spelled := (Hex.decodeText_eq_ok_iff text bytes).mp read
      rcases ih with ⟨keys, others⟩ | ⟨earlier, bad, later, fault, rfl, before, blamed⟩
      · exact .inl ⟨bytes :: keys, .cons spelled others⟩
      · refine .inr ⟨text :: earlier, bad, later, fault, rfl, ?_, blamed⟩
        exact List.forall_mem_cons.mpr ⟨⟨bytes, spelled⟩, before⟩

/-! ### The run -/

/-- A value of a stage is passed on. -/
theorem Printed.ofExcept_ok_bind {α β : Type} (value : α) (next : α → Printed β) :
    ofExcept (.ok value) >>= next = next value :=
  bind_of_ok rfl

/-- A failure of a stage ends the run. -/
theorem Printed.ofExcept_error_bind {α β : Type} (failure : Failure) (next : α → Printed β) :
    ofExcept (.error failure) >>= next = ⟨.error failure, []⟩ :=
  bind_of_error rfl

namespace KeyRequest

/-- What the run is asked for. -/
def invocation (request : KeyRequest) : Invocation :=
  ⟨request.settings, .key request.pallet request.item request.texts⟩

variable {request : KeyRequest} {config : Config} {registry : Registry}

/-- The configuration that is loaded is used with what the options name in its place. -/
theorem loadConfig_of_configures (configured : request.Configures config) :
    loadConfig request.world request.settings =
      .ok ⟨request.settings.url?.getD config.url, request.registryFile? config⟩ := by
  have chosen : request.settings.registry?.or config.registryFile =
      request.registryFile? config := by
    rw [registryFile?]
    cases request.settings.registry? <;> rfl
  rw [loadConfig, ← chosen]
  cases configured with
  | default unnamed =>
    rw [unnamed]
    rfl
  | file named read parsed =>
    rw [named]
    simp only [Config.ofFile, read, parsed]
    rfl

/-- The registry that is loaded is the one of the configuration. -/
theorem registry_of_registers (registered : request.Registers config registry) (url : String) :
    Config.registry ⟨url, request.registryFile? config⟩ request.world.files = .ok registry := by
  rw [Config.registry]
  cases registered with
  | builtin unnamed => rw [unnamed]
  | file named read parsed valid =>
    rw [named]
    simp only [read]
    exact (Registry.load_eq_ok_iff _ registry).mpr ⟨parsed, valid⟩

/-- Once the configuration and the registry are loaded the arguments are read, and the key is
derived from them. -/
theorem execute_of_loaded (configured : request.Configures config)
    (registered : request.Registers config registry) :
    execute request.world request.invocation =
      Printed.ofExcept (readKeys request.texts) >>= fun keys =>
        showKey registry request.pallet request.item keys := by
  rw [execute, invocation, loadConfig_of_configures configured, Printed.ofExcept_ok_bind,
    registry_of_registers registered, Printed.mapError_ok_bind]

/-- Where all stages succeed the key is shown. -/
theorem Derives.execute_eq {key : StorageKey} (derives : request.Derives key) :
    execute request.world request.invocation =
      ⟨.ok (), [success (Error.itemName request.pallet request.item), [.plain key.text]]⟩ := by
  obtain ⟨config, registry, keys, configured, registered, spelled, derived⟩ := derives
  rw [execute_of_loaded configured registered, readKeys_of_spelled spelled,
    Printed.ofExcept_ok_bind, showKey, derived, Printed.mapError_ok_bind, Printed.line_bind]
  rfl

/-- A registry that cannot be loaded ends the run. -/
theorem execute_of_registry_error {error : Error} (configured : request.Configures config)
    (failed : ∀ url, Config.registry ⟨url, request.registryFile? config⟩ request.world.files =
      .error error) :
    execute request.world request.invocation = ⟨.error (.registry error), []⟩ := by
  rw [execute, invocation, loadConfig_of_configures configured, Printed.ofExcept_ok_bind,
    failed, Printed.mapError_error_bind]

/-- Where a stage fails nothing is printed, and the run ends with the failure. -/
theorem Faults.execute_eq {failure : Failure} (faults : request.Faults failure) :
    execute request.world request.invocation = ⟨.error failure, []⟩ := by
  cases faults with
  | @configUnread name fault named unread =>
    have failed : loadConfig request.world request.settings =
        .error (.config name (.file fault)) := by
      rw [loadConfig, named]
      simp only [Config.ofFile, unread]
      rfl
    rw [execute, invocation, failed, Printed.ofExcept_error_bind]
  | @configRefused name text error named read refused =>
    have failed : loadConfig request.world request.settings = .error (.config name error) := by
      rw [loadConfig, named]
      simp only [Config.ofFile, read, refused]
      rfl
    rw [execute, invocation, failed, Printed.ofExcept_error_bind]
  | registryUnread configured named unread =>
    refine execute_of_registry_error configured fun url => ?_
    rw [Config.registry, named]
    simp only [unread]
  | registryRefused configured named read refused =>
    refine execute_of_registry_error configured fun url => ?_
    rw [Config.registry, named]
    simp only [read, refused]
  | value configured registered split before bad =>
    rw [execute_of_loaded configured registered, split, readKeys_of_bad before bad,
      Printed.ofExcept_error_bind]
  | key configured registered spelled underived =>
    rw [execute_of_loaded configured registered, readKeys_of_spelled spelled,
      Printed.ofExcept_ok_bind, showKey, underived, Printed.mapError_error_bind]

/-- A configuration is loaded, or this stage fails. -/
theorem configures_or_faults (request : KeyRequest) :
    (∃ config, request.Configures config) ∨ ∃ failure, request.Faults failure := by
  cases named : request.settings.config? with
  | none => exact .inl ⟨_, .default named⟩
  | some name =>
    cases read : request.world.files name with
    | error fault => exact .inr ⟨_, .configUnread named read⟩
    | ok text =>
      cases parsed : Config.ofToml text with
      | error error => exact .inr ⟨_, .configRefused named read parsed⟩
      | ok config => exact .inl ⟨config, .file named read parsed⟩

/-- With a configuration a registry is loaded, or this stage fails. -/
theorem Configures.registers_or_faults (configured : request.Configures config) :
    (∃ registry, request.Registers config registry) ∨
      ∃ error, request.Faults (.registry error) := by
  cases named : request.registryFile? config with
  | none => exact .inl ⟨_, .builtin named⟩
  | some name =>
    cases read : request.world.files name with
    | error fault => exact .inr ⟨_, .registryUnread configured named read⟩
    | ok text =>
      cases loaded : Registry.load text with
      | error error => exact .inr ⟨_, .registryRefused configured named read loaded⟩
      | ok registry =>
        obtain ⟨parsed, valid⟩ := (Registry.load_eq_ok_iff text registry).mp loaded
        exact .inl ⟨registry, .file named read parsed valid⟩

/-- A registry that is loaded where a file is named is the one of the file. -/
theorem Registers.exists_text {name : String} (registered : request.Registers config registry)
    (named : request.registryFile? config = some name) :
    ∃ text, request.world.files name = .ok text ∧ Registry.load text = .ok registry := by
  cases registered with
  | builtin unnamed =>
    rw [named] at unnamed
    cases unnamed
  | @file _ text _ found read parsed valid =>
    obtain rfl := Option.some.inj (named.symm.trans found)
    exact ⟨text, read, (Registry.load_eq_ok_iff text registry).mpr ⟨parsed, valid⟩⟩

/-- All stages succeed, or one of them fails. -/
theorem derives_or_faults (request : KeyRequest) :
    (∃ key, request.Derives key) ∨ ∃ failure, request.Faults failure := by
  rcases request.configures_or_faults with ⟨config, configured⟩ | faults
  · rcases configured.registers_or_faults with ⟨registry, registered⟩ | faults
    · rcases spelled_or_bad request.texts with
        ⟨keys, spelled⟩ | ⟨earlier, text, later, fault, split, before, bad⟩
      · cases derived : StorageKey.derive registry request.pallet request.item keys with
        | error error => exact .inr ⟨_, .key configured registered spelled derived⟩
        | ok key =>
          exact .inl ⟨key, config, registry, keys, configured, registered, spelled, derived⟩
      · exact .inr ⟨_, .value configured registered split before bad⟩
    · obtain ⟨error, faults⟩ := faults
      exact .inr ⟨_, faults⟩
  · exact .inr faults

/-- What is printed when a key is shown: a line that names the item, and a line with the digits of
the key in lower case, after their mark. -/
def output (request : KeyRequest) (colours : Bool) (key : StorageKey) : String :=
  Line.render colours (success (Error.itemName request.pallet request.item)) ++
    (Hex.encode0x key.bytes ++ "\n")

/-- The two lines are what is printed. -/
theorem renderAll_eq_output (request : KeyRequest) (colours : Bool) (key : StorageKey) :
    renderAll colours [success (Error.itemName request.pallet request.item), [.plain key.text]] =
      request.output colours key := by
  have digits : Line.render colours [.plain key.text] = Hex.encode0x key.bytes ++ "\n" := by
    cases colours <;> simp [Line.render, Span.plain, Span.render, StorageKey.text]
  rw [output, ← digits]
  simp [renderAll]

/-- Different keys are printed differently. -/
theorem output_inj {colours : Bool} {left right : StorageKey} :
    request.output colours left = request.output colours right ↔ left = right := by
  refine ⟨fun same => ?_, congrArg _⟩
  rw [output, output, String.append_right_inj, String.append_left_inj, Hex.encode0x_inj] at same
  obtain ⟨bytes⟩ := left
  obtain ⟨others⟩ := right
  exact congrArg StorageKey.mk same

section Run

variable {arguments : List String}
  (asked : Invocation.ofArguments request.world.url? arguments = .ok request.invocation)
  (colours : Bool)

include asked

/-- A run shows the key of its request. -/
theorem Derives.run_eq {key : StorageKey} (derives : request.Derives key) :
    run request.world colours arguments = ⟨request.output colours key, .done⟩ := by
  rw [run, asked]
  simp only [derives.execute_eq, renderAll_eq_output]

/-- A run fails as its request does, and prints nothing. -/
theorem Faults.run_eq {failure : Failure} (faults : request.Faults failure) :
    run request.world colours arguments = ⟨"", .failed failure⟩ := by
  rw [run, asked]
  simp only [faults.execute_eq]
  rfl

end Run

end KeyRequest

/-- A key is shown exactly when every stage before it succeeds. Let a command line ask for a key,
with any options, names and arguments, and let the files be any. The run shows a key and ends well
exactly if the configuration is loaded, the registry is loaded, all arguments are hexadecimal and
this key is derived from them. It prints nothing and ends with a failure exactly if this is the
failure of the first stage that fails. One of the two is always so. In particular a registry that
is named, by an option or else by the configuration, and is not loaded ends the run. -/
theorem key_shown_iff_stages_succeed (request : KeyRequest) {arguments : List String}
    (asked : Invocation.ofArguments request.world.url? arguments = .ok request.invocation)
    (colours : Bool) :
    (∀ key, run request.world colours arguments = ⟨request.output colours key, .done⟩ ↔
      request.Derives key) ∧
    (∀ failure, run request.world colours arguments = ⟨"", .failed failure⟩ ↔
      request.Faults failure) ∧
    ((∃ key, request.Derives key) ∨ ∃ failure, request.Faults failure) ∧
    ∀ config name, request.Configures config → request.registryFile? config = some name →
      (∀ text registry, request.world.files name = .ok text →
        Registry.load text ≠ .ok registry) →
      ∃ error, run request.world colours arguments = ⟨"", .failed (.registry error)⟩ := by
  have outcome := request.derives_or_faults
  refine ⟨?_, ?_, outcome, ?_⟩
  · intro key
    constructor
    · intro shown
      rcases outcome with ⟨other, derives⟩ | ⟨failure, faults⟩
      · rw [derives.run_eq asked, Outcome.mk.injEq] at shown
        obtain rfl := KeyRequest.output_inj.mp shown.1
        exact derives
      · rw [faults.run_eq asked, Outcome.mk.injEq] at shown
        cases shown.2
    · intro derives
      exact derives.run_eq asked colours
  · intro failure
    constructor
    · intro failed
      rcases outcome with ⟨key, derives⟩ | ⟨other, faults⟩
      · rw [derives.run_eq asked, Outcome.mk.injEq] at failed
        cases failed.2
      · rw [faults.run_eq asked, Outcome.mk.injEq] at failed
        cases failed.2
        exact faults
    · intro faults
      exact faults.run_eq asked colours
  · intro config name configured named missing
    rcases configured.registers_or_faults with ⟨registry, registered⟩ | ⟨error, faults⟩
    · obtain ⟨text, read, loaded⟩ := registered.exists_text named
      exact absurd loaded (missing text registry read)
    · exact ⟨error, faults.run_eq asked colours⟩

/-- On a machine without files. The key of an item is shown; a registry that is named and missing
ends the run, though the built-in one has the item, and is reported before a bad argument; and of
two bad arguments the first one is reported, though the number of arguments is wrong too. -/
theorem key_shown_iff_stages_succeed_number :
    let world : World := ⟨fun _ => .error .notFound, none, Network.offline⟩
    run world false ["key", "System", "Number"] =
        ⟨"✓ System::Number\n0x26aa394eea5630e07c48ae0c9558cef702a5c1b19ab7a04f536c519aca4983ac\n",
          .done⟩ ∧
      run world false ["--metadata", "other.json", "key", "System", "Number", "--key", "zz"] =
        ⟨"", .failed (.registry (.file .notFound))⟩ ∧
      run world false ["key", "System", "Number", "--key", "0x01", "--key", "0x0", "--key", "zz"] =
        ⟨"", .failed (.value "Invalid hex value 0x0: Odd number of digits")⟩ := by
  intro world
  let none : Settings := ⟨.none, .none, .none⟩
  let number : KeyRequest := ⟨world, none, "System", "Number", []⟩
  let other : KeyRequest :=
    ⟨world, { none with registry? := some "other.json" }, "System", "Number", ["zz"]⟩
  let bad : KeyRequest := ⟨world, none, "System", "Number", ["0x01", "0x0", "zz"]⟩
  refine ⟨?_, ?_, ?_⟩
  · have asked : Invocation.ofArguments world.url? ["key", "System", "Number"] =
        .ok number.invocation := rfl
    obtain ⟨shown, -⟩ := key_shown_iff_stages_succeed number asked false
    have derives : number.Derives
        ⟨StorageKey.itemStem "System" "Number" ++ StorageKey.hashed [] []⟩ :=
      ⟨_, _, [], .default rfl, .builtin rfl, .nil, rfl⟩
    rw [(shown _).mpr derives, Outcome.mk.injEq]
    exact ⟨by decide +kernel, rfl⟩
  · have asked : Invocation.ofArguments world.url?
        ["--metadata", "other.json", "key", "System", "Number", "--key", "zz"] =
        .ok other.invocation := rfl
    obtain ⟨-, failed, -⟩ := key_shown_iff_stages_succeed other asked false
    exact (failed _).mpr (.registryUnread (.default rfl) rfl rfl)
  · have asked : Invocation.ofArguments world.url?
        ["key", "System", "Number", "--key", "0x01", "--key", "0x0", "--key", "zz"] =
        .ok bad.invocation := rfl
    obtain ⟨-, failed, -⟩ := key_shown_iff_stages_succeed bad asked false
    have split : bad.texts = ["0x01"] ++ "0x0" :: ["zz"] := rfl
    have first : Hex.SpelledBy [1] "0x01" := (Hex.decodeText_eq_ok_iff _ _).mp rfl
    have odd : Hex.decodeText "0x0" = .error .oddLength := rfl
    exact (failed _).mpr
      (.value (.default rfl) (.builtin rfl) split (by simpa using ⟨_, first⟩) odd)

end EnclaveChain.CommandLine
