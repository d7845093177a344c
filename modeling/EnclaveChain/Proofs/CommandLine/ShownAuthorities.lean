import EnclaveChain.Proofs.CommandLine.ShownKey
import EnclaveChain.Proofs.Node.Stored
import EnclaveChain.Proofs.Storage.Fallback
import EnclaveChain.Proofs.Storage.Mirror
import EnclaveChain.Proofs.Storage.Slot
import EnclaveChain.Proofs.Terminal.Rendering
import EnclaveChain.Proofs.Text.Base58

/-!
# The authorities that are listed

A run that lists the authorities of a block prints how many there are and each of them by its
address, in the order in which they are stored, and an empty list where none are stored. Nothing is
lost on the way (`authorities_listed`): the number stands before a bracket and an address before
the end of its line, so both can be read back, and an address shows its account.
-/
namespace EnclaveChain.CommandLine

open Terminal

/-! ### The section -/

/-- The line of an authority: its position and its address. -/
def authorityLine (position : Nat) (key : FixedBytes 32) : Line :=
  field ("#" ++ toString position) (Ss58.address key)

/-- The section of authorities: their number, each of them in order, and the end. -/
def authoritiesSection (keys : List (FixedBytes 32)) : List Line :=
  sectionTitle ("Aura authorities (" ++ toString keys.length ++ ")") ::
    (keys.zipIdx.map fun (key, position) => authorityLine position key) ++ [sectionEnd]

/-- Authorities are printed one by one, their positions counted on. -/
theorem authorityLines_eq_map (position : Nat) (keys : List (FixedBytes 32)) :
    authorityLines position keys =
      (keys.zipIdx position).map fun (key, position) => authorityLine position key := by
  induction keys generalizing position with
  | nil => rfl
  | cons key keys ih =>
    rw [authorityLines, ih, List.zipIdx_cons, List.map_cons]
    rfl

/-! ### Reading it back -/

/-- What stands in front of a character that it does not have, and what stands behind it, are told
by the whole. -/
theorem append_cons_inj_of_fronts {α : Type} {delimiter : α} {left right before after : List α}
    (leftFree : delimiter ∉ left) (rightFree : delimiter ∉ right)
    (same : left ++ delimiter :: before = right ++ delimiter :: after) :
    left = right ∧ before = after := by
  induction left generalizing right with
  | nil =>
    cases right with
    | nil => exact ⟨rfl, (List.cons.inj same).2⟩
    | cons first right => exact absurd (List.cons.inj same).1 (List.ne_of_not_mem_cons rightFree)
  | cons first left ih =>
    cases right with
    | nil => exact absurd (List.cons.inj same).1.symm (List.ne_of_not_mem_cons leftFree)
    | cons second right =>
      obtain ⟨rfl, rest⟩ := List.cons.inj same
      obtain ⟨rfl, rests⟩ := ih (List.not_mem_of_not_mem_cons leftFree)
        (List.not_mem_of_not_mem_cons rightFree) rest
      exact ⟨rfl, rests⟩

/-- A number is written with digits only. -/
theorem notMem_toString {c : Char} (other : ¬ c.isDigit) (number : Nat) :
    c ∉ (toString number).toList := by
  rw [Nat.toString_eq_repr, Nat.toList_repr]
  intro member
  exact other (Nat.isDigit_of_mem_toDigits (by decide) (by decide) member)

/-- An address is written with digits to the base 58 only. -/
theorem notMem_address {c : Char} (other : c ∉ Base58.alphabet) (key : FixedBytes 32) :
    c ∉ (Ss58.address key).toList :=
  fun member => other (Base58.mem_alphabet_of_mem_encode member)

/-- Behind a value stands a character that no address has. -/
theorem exists_delimiter (colours : Bool) :
    ∃ delimiter rest, (Span.back colours ++ "\n").toList = delimiter :: rest ∧
      delimiter ∉ Base58.alphabet := by
  cases colours with
  | false => exact ⟨'\n', [], by decide, by decide⟩
  | true => exact ⟨'\x1b', "[0m\n".toList, by decide, by decide⟩

/-- The line of an authority shows the authority, and what comes after the line is the rest. -/
theorem authorityLine_inj {colours : Bool} {position : Nat} {left right : FixedBytes 32}
    {before after : List Char}
    (same : (Line.render colours (authorityLine position left)).toList ++ before =
      (Line.render colours (authorityLine position right)).toList ++ after) :
    left = right ∧ before = after := by
  have clean (key : FixedBytes 32) : '\x1b' ∉ (Ss58.address key).toList :=
    notMem_address (by decide) key
  obtain ⟨delimiter, rest, ends, foreign⟩ := exists_delimiter colours
  rw [authorityLine, authorityLine, toList_render_field (clean left),
    toList_render_field (clean right), ends] at same
  simp only [List.append_assoc, List.append_cancel_left_eq, List.cons_append] at same
  obtain ⟨addresses, rests⟩ := append_cons_inj_of_fronts (notMem_address foreign left)
    (notMem_address foreign right) same
  exact ⟨Ss58.address_injective (String.toList_inj.mp addresses), List.append_cancel_left rests⟩

/-- A section does not end where there is another authority. -/
theorem render_sectionEnd_ne (colours : Bool) (position : Nat) (key : FixedBytes 32)
    (rest : List Char) :
    (Line.render colours sectionEnd).toList ≠
      (Line.render colours (authorityLine position key)).toList ++ rest := by
  rw [toList_render_sectionEnd, authorityLine, toList_render_field (notMem_address (by decide) key)]
  cases colours <;> simp [Span.front, Span.opening, Colour.code]

/-- The lines of authorities up to the end of their section show all of them. -/
theorem authorityLines_inj {colours : Bool} {position : Nat} {left right : List (FixedBytes 32)}
    (same : (renderAll colours (authorityLines position left ++ [sectionEnd])).toList =
      (renderAll colours (authorityLines position right ++ [sectionEnd])).toList) :
    left = right := by
  simp only [toList_renderAll] at same
  induction left generalizing position right with
  | nil =>
    cases right with
    | nil => rfl
    | cons key right =>
      rw [authorityLines, authorityLines, List.nil_append, List.flatMap_singleton, List.cons_append,
        List.flatMap_cons] at same
      exact absurd same (render_sectionEnd_ne colours position key _)
  | cons first left ih =>
    cases right with
    | nil =>
      rw [authorityLines, authorityLines, List.nil_append, List.flatMap_singleton, List.cons_append,
        List.flatMap_cons] at same
      exact absurd same.symm (render_sectionEnd_ne colours position first _)
    | cons second right =>
      simp only [authorityLines, List.cons_append, List.flatMap_cons] at same
      obtain ⟨rfl, rests⟩ := authorityLine_inj same
      rw [ih rests]

/-- A printed section shows its authorities. -/
theorem authoritiesSection_inj {colours : Bool} {left right : List (FixedBytes 32)}
    (same : renderAll colours (authoritiesSection left) =
      renderAll colours (authoritiesSection right)) : left = right := by
  have clean (number : Nat) : '\x1b' ∉ ("Aura authorities (" ++ toString number ++ ")").toList := by
    simpa using notMem_toString (by decide) number
  have bracket (number : Nat) : ')' ∉ (toString number).toList :=
    notMem_toString (by decide) number
  have last : ")".toList = [')'] := rfl
  have characters := congrArg String.toList same
  simp only [authoritiesSection, ← authorityLines_eq_map, List.cons_append] at characters
  rw [toList_renderAll, toList_renderAll, List.flatMap_cons, List.flatMap_cons,
    toList_render_sectionTitle (clean _), toList_render_sectionTitle (clean _)] at characters
  simp only [String.toList_append, List.append_assoc, List.append_cancel_left_eq,
    ← toList_renderAll, last, List.singleton_append] at characters
  obtain ⟨-, rests⟩ := append_cons_inj_of_fronts (bracket _) (bracket _) characters
  exact authorityLines_inj (List.append_cancel_left rests)

/-! ### The run -/

/-- The key of the authorities, whose item asks for no arguments. -/
def authoritiesKey : StorageKey := ⟨StorageKey.itemStem "Aura" "Authorities"⟩

/-- The place of the authorities is their key. -/
theorem place_authorities : (Slot.mk .authorities ()).place = authoritiesKey := by
  rw [Slot.place, authoritiesKey]
  exact congrArg StorageKey.mk (List.append_nil _)

/-- A run that is asked for the authorities of a block. It is configured to use the built-in
registry, and its node is reached and serves the block. -/
structure AuthoritiesRequest where
  /-- What the run has around it. -/
  world : World
  /-- The command line. -/
  arguments : List String
  /-- The options of the program. -/
  settings : Settings
  /-- The block. -/
  block : Option Hash
  /-- The configuration. -/
  config : Config
  /-- The node. -/
  node : Node
  /-- The command line asks for the authorities. -/
  asked : Invocation.ofArguments world.url? arguments = .ok ⟨settings, .authorities block⟩
  /-- The configuration is loaded. -/
  configured : loadConfig world settings = .ok config
  /-- It names no registry. -/
  builtin : config.registryFile = none
  /-- The node is reached. -/
  reached : (world.network.connect config.url).result = .ok node
  /-- The node answers what it is asked about the block. -/
  serves : node.Serves block

namespace AuthoritiesRequest

variable (request : AuthoritiesRequest)

/-- What is stored as the authorities at the block. -/
def stored? : Option Bytes := request.node.stored? authoritiesKey request.block

/-- What is printed for a list of authorities. -/
def output (colours : Bool) (keys : List (FixedBytes 32)) : String :=
  renderAll colours (connectedLines request.config ++ authoritiesSection keys)

/-- What the node answers is what is stored. -/
theorem result_backend :
    (request.node.backend (Slot.mk .authorities ()).place request.block).result =
      .ok request.stored? := by
  rw [request.serves.result_backend, place_authorities]
  rfl

/-- What the program reads as the authorities of the block. -/
def read : Printed (List (FixedBytes 32)) :=
  readSlot request.node .builtin ⟨.authorities, ()⟩ request.block

/-- A read comes to what the reader comes to. -/
theorem result_read :
    request.read.result = (Reader.fetchOrDefault ⟨request.node.backend, .builtin⟩
      (Slot.mk .authorities ()).address request.block).result.mapError .command := rfl

variable {request}

/-- The authorities that are read are listed. -/
theorem showAuthorities_of_read {keys : List (FixedBytes 32)}
    (read : request.read.result = .ok keys) :
    showAuthorities request.world request.config .builtin request.block =
      ⟨.ok (), connectedLines request.config ++ authoritiesSection keys⟩ := by
  have connected := connect_of_ok request.reached
  have dialed : (connect request.world request.config).result = .ok request.node := by
    rw [connected]
  rw [showAuthorities, Printed.bind_of_ok dialed, connected]
  change Printed.mk (request.read >>= _).result (_ ++ (request.read >>= _).lines) = _
  rw [Printed.bind_of_ok read]
  simp only [Printed.line_bind, authoritiesSection, ← authorityLines_eq_map]
  rfl

/-- The run prints the authorities that are read. -/
theorem run_of_read {keys : List (FixedBytes 32)} (read : request.read.result = .ok keys)
    (colours : Bool) :
    run request.world colours request.arguments = ⟨request.output colours keys, .done⟩ := by
  have loaded : request.config.registry request.world.files = .ok .builtin := by
    rw [Config.registry, request.builtin]
  have executed : execute request.world ⟨request.settings, .authorities request.block⟩ =
      ⟨.ok (), connectedLines request.config ++ authoritiesSection keys⟩ := by
    rw [execute, request.configured, Printed.ofExcept_ok_bind, loaded, Printed.mapError_ok_bind,
      ← showAuthorities_of_read read]
  rw [run, request.asked]
  simp only [executed]
  rfl

/-- Authorities that are stored are read. -/
theorem read_of_stored {keys : List (FixedBytes 32)} (short : keys.length < 2 ^ 32)
    (stored : request.stored? = some ((Scale.Schema.list (.array 32)).encode keys)) :
    request.read.result = .ok keys := by
  let reader : Reader := ⟨request.node.backend, .builtin⟩
  let address : Address (List (FixedBytes 32)) := (Slot.mk .authorities ()).address
  have derived : address.key reader.registry = .ok (Slot.mk .authorities ()).place :=
    Slot.address_key _
  have answered : (reader.backend (Slot.mk .authorities ()).place request.block).result =
      .ok (some (address.schema.encode keys)) :=
    request.result_backend.trans (congrArg Except.ok stored)
  have fits : (Scale.Schema.list (.array 32)).fits keys := by
    simp [Scale.Schema.fits, short]
  have decoded : address.decodeStored (address.schema.encode keys) = .ok keys := by
    have all := (address.schema.decodeAll_eq_ok_iff).mpr ⟨fits, rfl⟩
    rw [Address.decodeStored, all]
  have fetched : (reader.fetch address request.block).result = .ok (some keys) := by
    rw [Reader.result_fetch_of_stored derived answered, decoded]
    rfl
  have read : (reader.fetchOrDefault address request.block).result = .ok keys := by
    rw [Reader.fetchOrDefault_of_some fetched]
  rw [result_read]
  exact congrArg (Except.mapError Failure.command) read

/-- Where none are stored the default of the built-in registry is read, the empty list. -/
theorem read_of_absent (absent : request.stored? = none) : request.read.result = .ok [] := by
  let reader : Reader := ⟨request.node.backend, .builtin⟩
  let address : Address (List (FixedBytes 32)) := (Slot.mk .authorities ()).address
  have derived : address.key reader.registry = .ok (Slot.mk .authorities ()).place :=
    Slot.address_key _
  have answered : (reader.backend (Slot.mk .authorities ()).place request.block).result =
      .ok none :=
    request.result_backend.trans (congrArg Except.ok absent)
  have fetched := (Reader.result_fetch_eq_none_iff derived answered).mpr rfl
  have read : (reader.fetchOrDefault address request.block).result = .ok [] := by
    rw [Reader.result_fetchOrDefault, fetched]
    rfl
  rw [result_read]
  exact congrArg (Except.mapError Failure.command) read

end AuthoritiesRequest

/-- A listing of authorities loses nothing. Let a run be asked for the authorities of a block, with
the built-in registry and a node that is reached and serves the block. Whatever list is stored
there, it is printed with its number and its authorities in order, and where nothing is stored the
empty list is. The section of a list shows the list, with colours and without, and so does all of
the output, when it is compared with that of any other such run with a node of the same name. -/
theorem authorities_listed (request : AuthoritiesRequest) (colours : Bool) :
    (∀ keys : List (FixedBytes 32), keys.length < 2 ^ 32 →
      request.stored? = some ((Scale.Schema.list (.array 32)).encode keys) →
      run request.world colours request.arguments = ⟨request.output colours keys, .done⟩) ∧
    (request.stored? = none →
      run request.world colours request.arguments = ⟨request.output colours [], .done⟩) ∧
    (∀ left right : List (FixedBytes 32), renderAll colours (authoritiesSection left) =
      renderAll colours (authoritiesSection right) → left = right) ∧
    ∀ (other : AuthoritiesRequest) (keys others : List (FixedBytes 32)),
      other.config.url = request.config.url → keys.length < 2 ^ 32 → others.length < 2 ^ 32 →
      request.stored? = some ((Scale.Schema.list (.array 32)).encode keys) →
      other.stored? = some ((Scale.Schema.list (.array 32)).encode others) →
      (run request.world colours request.arguments).output =
        (run other.world colours other.arguments).output → keys = others := by
  refine ⟨?_, ?_, ?_, ?_⟩
  · intro keys short stored
    exact AuthoritiesRequest.run_of_read (AuthoritiesRequest.read_of_stored short stored) colours
  · intro absent
    exact AuthoritiesRequest.run_of_read (AuthoritiesRequest.read_of_absent absent) colours
  · intro left right same
    exact authoritiesSection_inj same
  · intro other keys others address short othersShort stored othersStored same
    rw [AuthoritiesRequest.run_of_read (AuthoritiesRequest.read_of_stored short stored) colours,
      AuthoritiesRequest.run_of_read (AuthoritiesRequest.read_of_stored othersShort othersStored)
        colours] at same
    have connected : connectedLines other.config = connectedLines request.config := by
      rw [connectedLines, connectedLines, address]
    simp only [AuthoritiesRequest.output, connected, renderAll_append,
      String.append_right_inj] at same
    exact authoritiesSection_inj same

/-- A node with one block, which has these authorities, if any. -/
def authoritiesNode (keys? : Option (List (FixedBytes 32))) : Node :=
  let stored := keys?.toList.map fun keys =>
    (authoritiesKey, (Scale.Schema.list (.array 32)).encode keys)
  ⟨repeated 0, [(repeated 0, ⟨stored⟩)], fun _ => none⟩

/-- A run with such a node on a machine without files. -/
def authoritiesRun (keys? : Option (List (FixedBytes 32))) : AuthoritiesRequest where
  world := ⟨fun _ => .error .notFound, none, fun _ => .ok (authoritiesNode keys?)⟩
  arguments := ["--ws-url", "ws://[::1]:9944", "authorities"]
  settings := ⟨some "ws://[::1]:9944", none, none⟩
  block := none
  config := ⟨"ws://[::1]:9944", none⟩
  node := authoritiesNode keys?
  asked := rfl
  configured := rfl
  builtin := rfl
  reached := rfl
  serves := ⟨rfl, rfl, List.mem_singleton.mpr rfl⟩

/-- What is stored there are these authorities. -/
theorem stored?_authoritiesRun (keys? : Option (List (FixedBytes 32))) :
    (authoritiesRun keys?).stored? = keys?.map (Scale.Schema.list (.array 32)).encode := by
  cases keys? <;>
    simp [AuthoritiesRequest.stored?, authoritiesRun, Node.stored?, Node.layer?, authoritiesNode,
      Layer.get?]

/-- Two authorities are listed by their addresses, none by an empty section, and two in the other
order make another output. -/
theorem authorities_listed_two :
    let first : FixedBytes 32 := ⟨List.replicate 32 0, rfl⟩
    let second : FixedBytes 32 := ⟨List.replicate 32 1, rfl⟩
    let shown (colours : Bool) (keys? : Option (List (FixedBytes 32))) :=
      run (authoritiesRun keys?).world colours (authoritiesRun keys?).arguments
    let connected := "⏳ Connecting to blockchain...\nℹ Connected to ws://[::1]:9944\n"
    shown false (some [first, second]) =
        ⟨connected ++ "\n  ┌─[ Aura authorities (2) ]\n" ++
          "  ├─  #0: 5C4hrfjw9DjXZTzV3MwzrrAr9P1MJhSrvWGWqi1eSuyUpnhM\n" ++
          "  ├─  #1: 5C62Ck4UrFPiBtoCmeSrgF7x9yv9mn38446dhCpsi2mLHiFT\n" ++
          "  └─\n", .done⟩ ∧
      shown false none =
        ⟨connected ++ "\n  ┌─[ Aura authorities (0) ]\n  └─\n", .done⟩ ∧
      (shown true (some [first, second])).output ≠ (shown true (some [second, first])).output := by
  intro first second shown connected
  refine ⟨?_, ?_, ?_⟩
  · obtain ⟨listed, -⟩ := authorities_listed (authoritiesRun (some [first, second])) false
    refine (listed _ (by decide) (stored?_authoritiesRun _)).trans ?_
    rw [Outcome.mk.injEq]
    exact ⟨by decide +kernel, rfl⟩
  · obtain ⟨-, listed, -⟩ := authorities_listed (authoritiesRun none) false
    refine (listed (stored?_authoritiesRun _)).trans ?_
    rw [Outcome.mk.injEq]
    exact ⟨by decide +kernel, rfl⟩
  · obtain ⟨-, -, -, told⟩ := authorities_listed (authoritiesRun (some [first, second])) true
    intro same
    have equal : [first, second] = [second, first] :=
      told (authoritiesRun (some [second, first])) _ _ rfl (by decide) (by decide)
        (stored?_authoritiesRun _) (stored?_authoritiesRun _) same
    exact absurd equal (by decide)

end EnclaveChain.CommandLine
