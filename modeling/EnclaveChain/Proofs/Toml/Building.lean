import EnclaveChain.Proofs.Toml.Lines

/-!
# The table that statements build

What an outline says is built as one table, the strings of the root first and then a table for each
header (`Outline.read_eq`). The names must be distinct: a name that is there already is not added.
-/
namespace EnclaveChain.Toml

/-! ### Entries -/

namespace Entries

/-- The names in front come first. -/
theorem get?_append (first second : Entries) (key : String) :
    get? (first ++ second) key = (first.get? key).or (second.get? key) := by
  simp only [get?, List.find?_append]
  cases first.find? fun entry => entry.1 = key <;> rfl

/-- A key of no entry has no value. -/
theorem get?_eq_none {entries : Entries} {key : String} (absent : key ∉ entries.map (·.1)) :
    entries.get? key = none := by
  rw [get?, Option.map_eq_none_iff, List.find?_eq_none]
  intro entry inside same
  exact absent (List.mem_map.mpr ⟨entry, inside, of_decide_eq_true same⟩)

/-- The value of the only key. -/
theorem get?_singleton (key : String) (value : Value) : get? [(key, value)] key = some value := by
  simp [get?]

/-- A key that has no value is added at the end. -/
theorem add_eq {entries : Entries} {key : String} (absent : key ∉ entries.map (·.1))
    (value : Value) : entries.add key value = some (entries ++ [(key, value)]) := by
  rw [add, get?_eq_none absent]

/-- The last entry is found if no other has its key. -/
theorem get?_last {entries : Entries} {key : String} (absent : key ∉ entries.map (·.1))
    (value : Value) : get? (entries ++ [(key, value)]) key = some value := by
  rw [get?_append, get?_eq_none absent, get?_singleton]
  rfl

/-- The last entry is replaced if no other has its key. -/
theorem replace_last {entries : Entries} {key : String} (absent : key ∉ entries.map (·.1))
    (value other : Value) :
    replace (entries ++ [(key, value)]) key other = entries ++ [(key, other)] := by
  have kept : replace entries key other = entries := by
    refine (List.map_congr_left fun entry inside => ?_).trans (List.map_id _)
    exact if_neg fun same => absent (List.mem_map.mpr ⟨entry, inside, same⟩)
  have last : replace [(key, value)] key other = [(key, other)] := by simp [replace]
  exact (List.map_append).trans (congrArg₂ (· ++ ·) kept last)

end Entries

/-! ### The table of an outline -/

namespace Outline

/-- The entry of a name and its string. -/
def entry (pair : String × String) : String × Value := (pair.1, .string pair.2)

/-- The entry of a table that a header opens. -/
def tableEntry (table : String × List (String × String)) : String × Value :=
  (table.1, .table .opened (table.2.map entry))

/-- The table that an outline says. -/
def root (outline : Outline) : Entries :=
  outline.pairs.map entry ++ outline.tables.map tableEntry

/-- The strings of the root are put at its end. -/
theorem foldlM_pairs {pairs : List (String × String)} : ∀ {root : Entries},
    (root.map (·.1) ++ pairs.map (·.1)).Nodup →
    (pairs.map (Line.statement ∘ pairLine)).foldlM Draft.extend ⟨root, []⟩ =
      some ⟨root ++ pairs.map entry, []⟩ := by
  induction pairs with
  | nil => simp
  | cons pair pairs built =>
    intro root distinct
    have absent : pair.1 ∉ root.map (·.1) := fun inside =>
      (List.nodup_append.mp distinct).2.2 _ inside _ List.mem_cons_self rfl
    have step : Draft.extend ⟨root, []⟩ (pairLine pair).statement =
        some ⟨root ++ [entry pair], []⟩ := by
      simp [pairLine, Line.statement, Draft.extend, Entries.change, Entries.put,
        Entries.add_eq absent, entry]
    rw [List.map_cons, List.foldlM_cons, Function.comp_apply, step]
    refine (built ?_).trans (by simp)
    simpa [entry] using distinct

/-- The strings of a table are put at its end. -/
theorem foldlM_inner {root : Entries} {name : String} (absent : name ∉ root.map (·.1))
    {pairs : List (String × String)} : ∀ {inner : Entries},
      (inner.map (·.1) ++ pairs.map (·.1)).Nodup →
      (pairs.map (Line.statement ∘ pairLine)).foldlM Draft.extend
        ⟨root ++ [(name, .table .opened inner)], [name]⟩ =
          some ⟨root ++ [(name, .table .opened (inner ++ pairs.map entry))], [name]⟩ := by
  induction pairs with
  | nil => simp
  | cons pair pairs built =>
    intro inner distinct
    have new : pair.1 ∉ inner.map (·.1) := fun inside =>
      (List.nodup_append.mp distinct).2.2 _ inside _ List.mem_cons_self rfl
    have step : Draft.extend ⟨root ++ [(name, .table .opened inner)], [name]⟩
        (pairLine pair).statement =
          some ⟨root ++ [(name, .table .opened (inner ++ [entry pair]))], [name]⟩ := by
      simp [pairLine, Line.statement, Draft.extend, Entries.change, Entries.put,
        Entries.get?_last absent, Entries.replace_last absent, Entries.add_eq new, entry]
    rw [List.map_cons, List.foldlM_cons, Function.comp_apply, step]
    refine (built ?_).trans (by simp)
    simpa [entry] using distinct

/-- The tables of headers are put at the end of the root. -/
theorem foldlM_tables {tables : List (String × List (String × String))}
    (inner : ∀ table ∈ tables, (table.2.map (·.1)).Nodup) :
    ∀ {root : Entries} (current : List String), (root.map (·.1) ++ tables.map (·.1)).Nodup →
      ∃ last, ((tables.flatMap tableLines).map Line.statement).foldlM Draft.extend ⟨root, current⟩ =
        some ⟨root ++ tables.map tableEntry, last⟩ := by
  induction tables with
  | nil => simp
  | cons table tables built =>
    intro root current distinct
    have absent : table.1 ∉ root.map (·.1) := fun inside =>
      (List.nodup_append.mp distinct).2.2 _ inside _ List.mem_cons_self rfl
    have opened : Draft.extend ⟨root, current⟩ (.table [table.1]) =
        some ⟨root ++ [(table.1, .table .opened [])], [table.1]⟩ := by
      simp [Draft.extend, Draft.enter, Entries.change, Entries.openTable,
        Entries.get?_eq_none absent, Entries.add_eq absent]
    have filled : (table.2.map (Line.statement ∘ pairLine)).foldlM Draft.extend
        ⟨root ++ [(table.1, .table .opened [])], [table.1]⟩ =
          some ⟨root ++ [tableEntry table], [table.1]⟩ :=
      foldlM_inner absent (by simpa using inner table List.mem_cons_self)
    have others : ((root ++ [tableEntry table]).map (·.1) ++ tables.map (·.1)).Nodup := by
      simpa [tableEntry] using distinct
    obtain ⟨last, rest⟩ := built (fun table inside => inner table (List.mem_cons_of_mem _ inside))
      [table.1] others
    refine ⟨last, ?_⟩
    rw [List.flatMap_cons, List.map_append, List.foldlM_append, tableLines, List.map_cons,
      List.foldlM_cons, Line.statement, opened, List.map_map]
    refine (congrArg (· >>= _) filled).trans (rest.trans ?_)
    simp

/-- The table of a text is what its outline says. -/
theorem read_eq {outline : Outline} (distinct : outline.IsDistinct) {text : String}
    (spelled : outline.IsSpelledBy text) : read text = some outline.root := by
  have noMark : skipMark text.toList = text.toList :=
    skipMark_eq_self (spelled.head_ne_mark nofun)
  have pairs : (outline.pairs.map (Line.statement ∘ pairLine)).foldlM Draft.extend ⟨[], []⟩ =
      some ⟨outline.pairs.map entry, []⟩ := by
    refine foldlM_pairs ?_
    exact (List.nodup_append.mp distinct.names).1
  have names : ((outline.pairs.map entry).map (·.1) ++ outline.tables.map (·.1)).Nodup := by
    simpa [entry, Outline.names, Function.comp_def] using distinct.names
  obtain ⟨last, built⟩ := foldlM_tables distinct.tables [] names
  have found : statements (text.toList.length + 1) text.toList =
      some (outline.lines.map Line.statement) := by
    obtain ⟨more, found⟩ := spelled.read_text
    have ended : statements (more + 1) [] = some [] := rfl
    rw [found, ended, Option.map_some, List.append_nil]
  rw [read, noMark, found]
  simp [lines, List.foldlM_append, pairs, built, root]

/-- The value of a name that is no table's is its string. -/
theorem get?_root {outline : Outline} {name : String} (noTable : name ∉ outline.tables.map (·.1)) :
    outline.root.get? name = (outline.pairs.lookup name).map .string := by
  have absent : name ∉ (outline.tables.map tableEntry).map (·.1) := by
    simpa [tableEntry] using noTable
  rw [root, Entries.get?_append, Entries.get?_eq_none absent, Option.or_none]
  induction outline.pairs with
  | nil => rfl
  | cons pair pairs found =>
    obtain ⟨first, text⟩ := pair
    by_cases same : first = name
    · simp [Entries.get?, entry, same]
    · have other : (name == first) = false := beq_false_of_ne (Ne.symm same)
      simpa [Entries.get?, entry, same, other, List.lookup_cons] using found

end Outline

end EnclaveChain.Toml
