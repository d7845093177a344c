import EnclaveChain.Proofs.Toml.Building

/-!
# What statements keep

Whatever statements a document makes, a value stays once it is there, but for tables, in the place
of which other tables are put (`Draft.foldlM_keeps`). So a name that has something other than a
string never has a string later (`Statement.Denies.foldlM_hasOther`).
-/
namespace EnclaveChain.Toml

/-! ### Keeping values -/

/-- Whether statements may add to a value. -/
inductive Value.IsTable : Value → Prop where
  /-- A table. -/
  | table {origin : Origin} {entries : Entries} : IsTable (.table origin entries)
  /-- A list of tables. -/
  | tables {elements : List Entries} : IsTable (.tables elements)

/-- Whether every value is kept, but for tables, in the place of which stand tables. -/
def Entries.Keeps (before after : Entries) : Prop :=
  ∀ key value, before.get? key = some value → ∃ later, after.get? key = some later ∧
    (later = value ∨ value.IsTable ∧ later.IsTable)

namespace Entries

variable {entries later : Entries} {key : String} {value : Value}

/-- What is, is kept. -/
theorem Keeps.refl (entries : Entries) : entries.Keeps entries :=
  fun _ value found => ⟨value, found, .inl rfl⟩

/-- What is kept twice is kept. -/
theorem Keeps.trans {first second third : Entries} (before : first.Keeps second)
    (after : second.Keeps third) : first.Keeps third := by
  intro key value found
  obtain ⟨middle, foundMiddle, kept⟩ := before key value found
  obtain ⟨last, foundLast, keptLast⟩ := after key middle foundMiddle
  refine ⟨last, foundLast, ?_⟩
  rcases kept with rfl | ⟨isTable, _⟩
  · exact keptLast
  · rcases keptLast with rfl | ⟨_, lastTable⟩
    · exact .inr ⟨isTable, ‹_›⟩
    · exact .inr ⟨isTable, lastTable⟩

/-- Adding a key gives it its value and keeps the others. -/
theorem add_eq_some (added : entries.add key value = some later) :
    later.get? key = some value ∧ entries.Keeps later := by
  unfold add at added
  split at added
  next absent =>
    obtain rfl := Option.some.inj added
    refine ⟨?_, fun other found present => ⟨found, ?_, .inl rfl⟩⟩
    · rw [get?_append, absent, get?_singleton]
      rfl
    · rw [get?_append, present]
      rfl
  next => cases added

/-- Replacing a key gives another value to it and to no other key. -/
theorem get?_replace (entries : Entries) (key : String) (value : Value) (other : String) :
    (entries.replace key value).get? other =
      (entries.get? other).map fun old => if other = key then value else old := by
  induction entries with
  | nil => rfl
  | cons entry entries replaced =>
    simp only [get?, replace, List.map_cons, List.find?_cons] at replaced ⊢
    by_cases found : entry.1 = other
    · by_cases same : entry.1 = key
      · simp [← found, same]
      · simp [← found, same]
    · by_cases same : entry.1 = key
      · simpa [found, same, same ▸ found] using replaced
      · simpa [found, same] using replaced

/-- Whether everything is kept and a key has a table. -/
def Grows (key : String) (before after : Entries) : Prop :=
  before.Keeps after ∧ ∃ value, after.get? key = some value ∧ value.IsTable

/-- A table may be added. -/
theorem add_grows (added : entries.add key value = some later) (isTable : value.IsTable) :
    entries.Grows key later := by
  obtain ⟨found, keeps⟩ := add_eq_some added
  exact ⟨keeps, value, found, isTable⟩

/-- A table may take the place of a table. -/
theorem replace_grows {old : Value} (found : entries.get? key = some old) (oldTable : old.IsTable)
    (isTable : value.IsTable) : entries.Grows key (entries.replace key value) := by
  refine ⟨fun other present foundOther => ?_, value, by simp [get?_replace, found], isTable⟩
  by_cases same : other = key
  · subst same
    obtain rfl := Option.some.inj (found.symm.trans foundOther)
    exact ⟨value, by simp [get?_replace, found], .inr ⟨oldTable, isTable⟩⟩
  · exact ⟨present, by simp [get?_replace, foundOther, same], .inl rfl⟩

/-- To give a value to a key of several parts makes or changes a table. -/
theorem put_grows {step next : String} {steps : List String}
    (given : entries.put (step :: next :: steps) value = some later) :
    entries.Grows step later := by
  rw [put] at given
  split at given
  next absent =>
    obtain ⟨inner, -, added⟩ := Option.bind_eq_some_iff.mp given
    exact add_grows added .table
  next => cases given
  next found =>
    split at given
    next => cases given
    next =>
      obtain ⟨inner, -, rfl⟩ := Option.map_eq_some_iff.mp given
      exact replace_grows found .table .table
  next found =>
    split at given
    next => cases given
    next =>
      obtain ⟨elements, -, rfl⟩ := Option.map_eq_some_iff.mp given
      exact replace_grows found .tables .tables
  next => cases given

/-- To give a value to a key keeps everything. -/
theorem put_keeps {path : List String} (given : entries.put path value = some later) :
    entries.Keeps later :=
  match path, given with
  | [_], given => (add_eq_some given).2
  | _ :: _ :: _, given => (put_grows given).1

/-- To change a table below makes or changes a table. -/
theorem change_grows {alter : Entries → Option Entries} {step : String} {steps : List String}
    (changed : Entries.change alter (step :: steps) entries = some later) :
    entries.Grows step later := by
  rw [change] at changed
  split at changed
  next absent =>
    obtain ⟨inner, -, added⟩ := Option.bind_eq_some_iff.mp changed
    exact add_grows added .table
  next found =>
    obtain ⟨inner, -, rfl⟩ := Option.map_eq_some_iff.mp changed
    exact replace_grows found .table .table
  next found =>
    obtain ⟨elements, -, rfl⟩ := Option.map_eq_some_iff.mp changed
    exact replace_grows found .tables .tables
  next => cases changed

/-- To open a table makes or changes one. -/
theorem openTable_grows (opened : openTable key entries = some later) :
    entries.Grows key later := by
  rw [openTable] at opened
  split at opened
  next absent => exact add_grows opened .table
  next found =>
    obtain rfl := Option.some.inj opened
    exact replace_grows found .table .table
  next => cases opened

/-- To open one more table makes or changes a list of them. -/
theorem openElement_grows (opened : openElement key entries = some later) :
    entries.Grows key later := by
  rw [openElement] at opened
  split at opened
  next absent => exact add_grows opened .tables
  next found =>
    obtain rfl := Option.some.inj opened
    exact replace_grows found .tables .tables
  next => cases opened

end Entries

namespace Draft

variable {draft later : Draft}

/-- A header makes or changes the table of the first part of its key. -/
theorem enter_grows {enter : String → Entries → Option Entries}
    (grows : ∀ {key entries later}, enter key entries = some later →
      Entries.Grows key entries later)
    {step : String} {steps : List String}
    (entered : draft.enter (step :: steps) enter = some later) :
    draft.root.Grows step later.root := by
  cases steps with
  | nil =>
    obtain ⟨root, opened, rfl⟩ := Option.map_eq_some_iff.mp entered
    exact grows opened
  | cons next steps =>
    rw [Draft.enter, List.getLast?_cons] at entered
    obtain ⟨root, changed, rfl⟩ := Option.map_eq_some_iff.mp entered
    exact Entries.change_grows changed

/-- A statement keeps everything. -/
theorem extend_keeps {statement : Statement} (extended : draft.extend statement = some later) :
    draft.root.Keeps later.root := by
  cases statement with
  | table path =>
    cases path with
    | nil => cases extended
    | cons => exact (enter_grows Entries.openTable_grows extended).1
  | element path =>
    cases path with
    | nil => cases extended
    | cons => exact (enter_grows Entries.openElement_grows extended).1
  | pair path value =>
    obtain ⟨root, changed, rfl⟩ := Option.map_eq_some_iff.mp extended
    cases current : draft.current with
    | nil =>
      rw [current, Entries.change] at changed
      exact Entries.put_keeps changed
    | cons =>
      rw [current] at changed
      exact (Entries.change_grows changed).1

/-- Statements keep everything. -/
theorem foldlM_keeps {found : List Statement} : ∀ {draft : Draft},
    found.foldlM extend draft = some later → draft.root.Keeps later.root := by
  induction found with
  | nil =>
    intro draft built
    obtain rfl := Option.some.inj built
    exact .refl _
  | cons statement found keeps =>
    intro draft built
    rw [List.foldlM_cons] at built
    obtain ⟨middle, extended, built⟩ := Option.bind_eq_some_iff.mp built
    exact (extend_keeps extended).trans (keeps built)

end Draft

/-! ### Names without strings -/

/-- Whether a value is a string. -/
def Value.isString : Value → Bool
  | .string _ => true
  | _ => false

/-- Whether a statement makes something other than a string of a name of the root, if pairs are put
into the table of a path. -/
inductive Statement.Denies (name : String) : List String → Statement → Prop where
  /-- A value that is no string. -/
  | value {value : Value} (other : value.isString = false) :
      Denies name [] (.pair [name] value)
  /-- A key with more parts. -/
  | dotted {next : String} {more : List String} {value : Value} :
      Denies name [] (.pair (name :: next :: more) value)
  /-- A table. -/
  | table {current more : List String} : Denies name current (.table (name :: more))
  /-- A list of tables. -/
  | element {current more : List String} : Denies name current (.element (name :: more))

/-- Whether a key has a value that is no string. -/
def Entries.HasOther (entries : Entries) (key : String) : Prop :=
  ∃ value, entries.get? key = some value ∧ value.isString = false

/-- A table is no string. -/
theorem Value.IsTable.isString_eq {value : Value} (isTable : value.IsTable) :
    value.isString = false := by
  cases isTable <;> rfl

namespace Entries

variable {entries later : Entries} {key : String}

/-- A key gets a table. -/
theorem Grows.hasOther (grows : entries.Grows key later) : later.HasOther key := by
  obtain ⟨-, value, found, isTable⟩ := grows
  exact ⟨value, found, isTable.isString_eq⟩

/-- What is kept does not become a string. -/
theorem HasOther.keeps (hasOther : entries.HasOther key) (keeps : entries.Keeps later) :
    later.HasOther key := by
  obtain ⟨value, found, other⟩ := hasOther
  obtain ⟨value', found', rfl | ⟨-, isTable⟩⟩ := keeps key value found
  · exact ⟨_, found', other⟩
  · exact ⟨value', found', isTable.isString_eq⟩

end Entries

/-- A statement that makes something other than a string of a name leaves no string there. -/
theorem Statement.Denies.hasOther {name : String} {statement : Statement} {draft later : Draft}
    (denies : statement.Denies name draft.current)
    (extended : draft.extend statement = some later) :
    later.root.HasOther name := by
  obtain ⟨root, current⟩ := draft
  cases denies with
  | value other =>
    obtain ⟨root, added, rfl⟩ := Option.map_eq_some_iff.mp extended
    exact ⟨_, (Entries.add_eq_some added).1, other⟩
  | dotted =>
    obtain ⟨root, put, rfl⟩ := Option.map_eq_some_iff.mp extended
    exact (Entries.put_grows put).hasOther
  | table => exact (Draft.enter_grows Entries.openTable_grows extended).hasOther
  | element => exact (Draft.enter_grows Entries.openElement_grows extended).hasOther

/-- Whatever statements follow, no string is left there. -/
theorem Statement.Denies.foldlM_hasOther {name : String} {statement : Statement}
    {draft later : Draft} (denies : statement.Denies name draft.current) {found : List Statement}
    (built : (statement :: found).foldlM Draft.extend draft = some later) :
    later.root.HasOther name := by
  rw [List.foldlM_cons] at built
  obtain ⟨middle, extended, built⟩ := Option.bind_eq_some_iff.mp built
  exact (denies.hasOther extended).keeps (Draft.foldlM_keeps built)

end EnclaveChain.Toml
