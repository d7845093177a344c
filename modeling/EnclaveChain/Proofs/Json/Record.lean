import EnclaveChain.Json.Shape
import EnclaveChain.Json.Writer
import Mathlib.Data.List.Nodup
import Mathlib.Logic.Function.Basic

/-!
# Records and the trees that give them

A tree gives the fields of a record as an object, in any order and among other members, or as an
array, in the order of the record. Either way it comes to a partial map from names to trees
(`Tree.Gives`), and a record is read exactly when every field has a value there or may be left out
(`Shape.read_eq_ok_iff`). While an object is read the known values are those of the members so far;
that invariant (`Shape.Knows`) does not depend on the order of the members.
-/
namespace EnclaveChain.Json

/-- Whether a tree gives the named fields of a record, and what it gives for each. -/
inductive Tree.Gives (names : List String) : Tree → (String → Option Tree) → Prop where
  /-- An object names what it gives, each field at most once. -/
  | object {members : List (String × Tree)}
      (once : ∀ name ∈ names, (members.map (·.1)).count name ≤ 1) :
      Gives names (.ofFields members) fun name => members.lookup name
  /-- An array gives fields from the first on. -/
  | array {items : List Tree} (few : items.length ≤ names.length) :
      Gives names (.array items) fun name => (names.zip items).lookup name

/-- Nothing is read from a tree of another kind. -/
theorem unexpected_ne_ok {α : Type} (tree : Tree) (expected : String) (value : α) :
    unexpected tree expected ≠ .ok value := by
  unfold unexpected
  split <;> exact nofun

namespace Shape

variable {α π : Type} {shape : Shape α π} {given other : String → Option Tree} {key : String}

/-- The names of the fields. -/
def names : {α π : Type} → Shape α π → List String
  | _, _, .done => []
  | _, _, .field name _ _ others => name :: others.names

/-- Whether the known values are those of the given fields. -/
def Knows : {α π : Type} → Shape α π → (String → Option Tree) → π → Prop
  | _, _, .done, _, _ => True
  | _, _, .field name read _ others, given, (known, rest) =>
    (given name).map read = known.map .ok ∧ others.Knows given rest

/-- Whether the values of a record are those of the given fields, or defaults. -/
def Holds : {α π : Type} → Shape α π → (String → Option Tree) → α → Prop
  | _, _, .done, _, _ => True
  | _, _, .field name read default others, given, (value, values) =>
    ((given name).map read).or (default.map .ok) = some (.ok value) ∧ others.Holds given values

/-! ### What is known -/

/-- Before any field is given nothing is known. -/
theorem knows_blank (shape : Shape α π) : shape.Knows (fun _ => none) shape.blank := by
  induction shape with
  | done => trivial
  | field name read default others ih => exact ⟨rfl, ih⟩

/-- Only the fields of the record matter for what is known. -/
theorem knows_congr (same : ∀ name ∈ shape.names, given name = other name) (known : π) :
    shape.Knows given known ↔ shape.Knows other known := by
  induction shape with
  | done => rfl
  | field name read default others ih =>
    obtain ⟨first, rest⟩ := known
    rw [Knows, Knows, same name List.mem_cons_self,
      ih (fun name listed => same name (List.mem_cons_of_mem _ listed))]

/-- Only the fields of the record matter for its values. -/
theorem holds_congr (same : ∀ name ∈ shape.names, given name = other name) (values : α) :
    shape.Holds given values ↔ shape.Holds other values := by
  induction shape with
  | done => rfl
  | field name read default others ih =>
    obtain ⟨first, rest⟩ := values
    rw [Holds, Holds, same name List.mem_cons_self,
      ih (fun name listed => same name (List.mem_cons_of_mem _ listed))]

/-- What is known is determined by the given fields. -/
theorem Knows.unique {known known' : π} (knows : shape.Knows given known)
    (knows' : shape.Knows given known') : known = known' := by
  induction shape with
  | done => rfl
  | field name read default others ih =>
    obtain ⟨first, rest⟩ := known
    obtain ⟨first', rest'⟩ := known'
    have same : first.map (Except.ok (ε := Fault)) = first'.map .ok := knows.1.symm.trans knows'.1
    rw [Option.map_injective (fun _ _ => Except.ok.inj) same, ih knows.2 knows'.2]

/-- When all given fields can be read, so can some of them. -/
theorem Knows.exists_of_le {known : π} (other : String → Option Tree)
    (knows : shape.Knows given known)
    (fewer : ∀ name tree, other name = some tree → given name = some tree) :
    ∃ known', shape.Knows other known' := by
  induction shape with
  | done => exact ⟨(), trivial⟩
  | field name read default others ih =>
    obtain ⟨first, rest⟩ := known
    obtain ⟨rest', knows'⟩ := ih knows.2
    cases known : other name with
    | none => exact ⟨(none, rest'), by rw [Knows, known]; exact ⟨rfl, knows'⟩⟩
    | some tree =>
      refine ⟨(first, rest'), ?_, knows'⟩
      rw [known, ← fewer name tree known]
      exact knows.1

/-- A record is complete when every field is known or may be left out. -/
theorem complete_eq_ok_iff {known : π} (knows : shape.Knows given known) (values : α) :
    shape.complete known = .ok values ↔ shape.Holds given values := by
  induction shape with
  | done => exact ⟨fun _ => trivial, fun _ => rfl⟩
  | field name read default others ih =>
    obtain ⟨first, rest⟩ := known
    obtain ⟨value, values⟩ := values
    have all := ih knows.2 values
    rw [Holds, knows.1, complete, ← all]
    cases first with
    | none =>
      cases default with
      | none => simp
      | some default => cases others.complete rest <;> simp
    | some first => cases others.complete rest <;> simp

/-! ### Reading members -/

/-- A member of another name is passed over. -/
theorem put_of_notMem (unknown : key ∉ shape.names) (known : π) (tree : Tree) :
    shape.put known key tree = .ok none := by
  induction shape with
  | done => rfl
  | field name read default others ih =>
    obtain ⟨first, rest⟩ := known
    have different : key ≠ name := fun same => unknown (same ▸ List.mem_cons_self)
    rw [put, if_neg different, ih (fun listed => unknown (List.mem_cons_of_mem _ listed))]

/-- A field of another name does not matter for what is known. -/
theorem knows_update (fresh : key ∉ shape.names) (tree : Option Tree) (known : π) :
    shape.Knows (Function.update given key tree) known ↔ shape.Knows given known := by
  refine knows_congr (fun name listed => ?_) known
  have different : name ≠ key := fun same => fresh (same ▸ listed)
  rw [Function.update_of_ne different]

/-- A member of a known name is read only when there was none before. -/
theorem knows_of_put (distinct : shape.names.Nodup) {known : π} (knows : shape.Knows given known)
    (listed : key ∈ shape.names) {tree : Tree} {next : Option π}
    (done : shape.put known key tree = .ok next) :
    given key = none ∧ ∃ known', next = some known' ∧
      shape.Knows (Function.update given key (some tree)) known' := by
  induction shape with
  | done => cases listed
  | field name read default others ih =>
    obtain ⟨first, rest⟩ := known
    obtain ⟨fresh, distinct⟩ := List.nodup_cons.mp distinct
    by_cases here : key = name
    · subst here
      rw [put, if_pos rfl] at done
      cases first with
      | some value => cases done
      | none =>
        have absent : given key = none := Option.map_eq_none_iff.mp knows.1
        cases value : read tree with
        | error fault => simp [value] at done
        | ok value' =>
          simp only [Option.isSome_none, Bool.false_eq_true, if_false, value] at done
          refine ⟨absent, _, (Except.ok.inj done).symm, ?_, (knows_update fresh _ _).mpr knows.2⟩
          rw [Function.update_self, Option.map_some, value, Option.map_some]
    · rw [put, if_neg here] at done
      have listed := (List.mem_cons.mp listed).resolve_left here
      cases later : others.put rest key tree with
      | error fault => simp [later] at done
      | ok next' =>
        obtain ⟨absent, rest', rfl, knows'⟩ := ih distinct knows.2 listed later
        simp only [later] at done
        refine ⟨absent, _, (Except.ok.inj done).symm, ?_, knows'⟩
        rw [Function.update_of_ne (Ne.symm here), knows.1]

/-- A member of a known name is read when there was none before and it can be. -/
theorem put_of_knows (distinct : shape.names.Nodup) {known known' : π}
    (knows : shape.Knows given known) (listed : key ∈ shape.names) (absent : given key = none)
    {tree : Tree} (knows' : shape.Knows (Function.update given key (some tree)) known') :
    shape.put known key tree = .ok (some known') := by
  induction shape with
  | done => cases listed
  | field name read default others ih =>
    obtain ⟨first, rest⟩ := known
    obtain ⟨first', rest'⟩ := known'
    obtain ⟨fresh, distinct⟩ := List.nodup_cons.mp distinct
    obtain ⟨readFirst, knowsRest⟩ := knows
    obtain ⟨readFirst', knowsRest'⟩ := knows'
    by_cases here : key = name
    · subst here
      have unknown : first = none := by
        rw [absent] at readFirst
        exact Option.map_eq_none_iff.mp readFirst.symm
      have same : rest = rest' := knowsRest.unique ((knows_update fresh _ _).mp knowsRest')
      rw [Function.update_self, Option.map_some] at readFirst'
      obtain ⟨value, rfl, done⟩ := Option.map_eq_some_iff.mp readFirst'.symm
      rw [put, if_pos rfl, unknown, same, ← done]
      rfl
    · have listed := (List.mem_cons.mp listed).resolve_left here
      have same : first = first' := by
        rw [Function.update_of_ne (Ne.symm here), readFirst] at readFirst'
        exact Option.map_injective (fun _ _ => Except.ok.inj) readFirst'
      rw [put, if_neg here, ih distinct knowsRest listed knowsRest', same]

/-- What was given before, and else what members give. -/
def merge (given : String → Option Tree) (members : List (String × Tree)) (name : String) :
    Option Tree := (given name).or (members.lookup name)

/-- Whether each of the named fields is given at most once, before or by members. -/
def Once (names : List String) (given : String → Option Tree) (members : List (String × Tree)) :
    Prop := ∀ name ∈ names, (given name).toList.length + (members.map (·.1)).count name ≤ 1

section Members

variable {names : List String} {tree : Tree} {members : List (String × Tree)}

/-- A member gives its field. -/
theorem merge_cons (absent : given key = none) :
    merge given ((key, tree) :: members) =
      merge (Function.update given key (some tree)) members := by
  funext name
  by_cases here : name = key
  · rw [here, merge, merge, absent, Function.update_self]
    simp
  · rw [merge, merge, Function.update_of_ne here, List.lookup_cons, beq_false_of_ne here]

/-- A member of another name gives nothing. -/
theorem merge_cons_of_ne {name : String} (different : name ≠ key) :
    merge given ((key, tree) :: members) name = merge given members name := by
  rw [merge, merge, List.lookup_cons, beq_false_of_ne different]

/-- A field that a member gives was not given before. -/
theorem Once.absent (once : Once names given ((key, tree) :: members)) (listed : key ∈ names) :
    given key = none := by
  have bound := once key listed
  rw [List.map_cons, List.count_cons_self] at bound
  cases before : given key with
  | none => rfl
  | some _ => rw [before, Option.toList_some, List.length_singleton] at bound; omega

/-- A field that a member gives counts as given. -/
theorem once_cons (absent : given key = none) :
    Once names given ((key, tree) :: members) ↔
      Once names (Function.update given key (some tree)) members := by
  refine forall₂_congr fun name _ => ?_
  by_cases here : name = key
  · rw [here, absent, Function.update_self, List.map_cons, List.count_cons_self]
    simp only [Option.toList_none, Option.toList_some, List.length_nil, List.length_singleton]
    omega
  · rw [Function.update_of_ne here, List.map_cons, List.count_cons_of_ne (Ne.symm here)]

/-- A member of another name does not count. -/
theorem once_cons_of_notMem (unknown : key ∉ names) :
    Once names given ((key, tree) :: members) ↔ Once names given members := by
  refine forall₂_congr fun name listed => ?_
  have different : key ≠ name := fun same => unknown (same ▸ listed)
  rw [List.map_cons, List.count_cons_of_ne different]

end Members

/-- The first member has a name, and the others are read after it. -/
theorem readMembers_cons {known final : π} {first value : Tree} {members : List (Tree × Tree)}
    (done : shape.readMembers known ((first, value) :: members) = .ok final) :
    ∃ key, first = .ofString key ∧ ∃ next, shape.put known key value = .ok next ∧
      shape.readMembers (next.getD known) members = .ok final := by
  match first with
  | .string (some key) =>
    refine ⟨key, rfl, ?_⟩
    rw [readMembers] at done
    cases taken : shape.put known key value with
    | error fault => simp [taken] at done
    | ok next =>
      cases next with
      | some next => exact ⟨_, rfl, by simpa [taken] using done⟩
      | none =>
        simp only [taken] at done
        split at done
        · exact ⟨_, rfl, done⟩
        · cases done
  | .string none | .null | .bool _ | .number _ | .array _ | .object _ | .broken =>
    simp [readMembers] at done

/-- The members of an object that is read have names, known ones at most once. -/
theorem knows_of_readMembers (distinct : shape.names.Nodup) {known final : π}
    (knows : shape.Knows given known) {members : List (Tree × Tree)}
    (done : shape.readMembers known members = .ok final) :
    ∃ named : List (String × Tree),
      members = named.map (fun (name, value) => (.ofString name, value)) ∧
      Once shape.names given named ∧ shape.Knows (merge given named) final := by
  induction members generalizing given known with
  | nil =>
    have same : known = final := by simpa [readMembers] using done
    refine ⟨[], rfl, fun name _ => ?_, ?_⟩
    · cases given name <;> simp
    · rw [← same, show merge given [] = given from funext fun name => Option.or_none]
      exact knows
  | cons member members ih =>
    obtain ⟨first, value⟩ := member
    obtain ⟨key, rfl, next, taken, done⟩ := readMembers_cons done
    by_cases listed : key ∈ shape.names
    · obtain ⟨absent, known', rfl, knows'⟩ := knows_of_put distinct knows listed taken
      obtain ⟨named, rfl, once, knows⟩ := ih knows' done
      refine ⟨(key, value) :: named, rfl, (once_cons absent).mpr once, ?_⟩
      rw [merge_cons absent]
      exact knows
    · rw [put_of_notMem listed] at taken
      cases taken
      obtain ⟨named, rfl, once, knows⟩ := ih knows done
      refine ⟨(key, value) :: named, rfl, (once_cons_of_notMem listed).mpr once, ?_⟩
      refine (knows_congr (fun name isName => ?_) final).mpr knows
      exact merge_cons_of_ne fun same => listed (same ▸ isName)

/-- Members are read when they can be. -/
theorem readMembers_of_knows (distinct : shape.names.Nodup) {known final : π}
    (knows : shape.Knows given known) {members : List (String × Tree)}
    (whole : (Tree.ofFields members).isWhole = true) (once : Once shape.names given members)
    (knows' : shape.Knows (merge given members) final) :
    shape.readMembers known (members.map fun (name, value) => (.ofString name, value)) =
      .ok final := by
  induction members generalizing given known with
  | nil =>
    rw [show merge given [] = given from funext fun name => Option.or_none] at knows'
    rw [knows.unique knows']
    rfl
  | cons member members ih =>
    obtain ⟨key, value⟩ := member
    obtain ⟨wholeValue, wholeMembers⟩ : value.isWhole = true ∧
        (Tree.ofFields members).isWhole = true := by
      simpa [Tree.ofFields, Tree.isWhole, membersAreWhole, Tree.ofString] using whole
    show shape.readMembers known ((.string (some key), value) :: _) = _
    rw [readMembers]
    by_cases listed : key ∈ shape.names
    · have absent := once.absent listed
      rw [merge_cons absent] at knows'
      obtain ⟨known', knows''⟩ := knows'.exists_of_le (Function.update given key (some value))
        (fun name tree before => by rw [merge, before, Option.some_or])
      rw [put_of_knows distinct knows listed absent knows'']
      exact ih knows'' wholeMembers ((once_cons absent).mp once) knows'
    · rw [put_of_notMem listed]
      simp only [wholeValue, if_true]
      refine ih knows wholeMembers ((once_cons_of_notMem listed).mp once) ?_
      refine (knows_congr (fun name isName => ?_) final).mp knows'
      exact merge_cons_of_ne fun same => listed (same ▸ isName)

/-! ### Reading records -/

/-- An array is read when its items are values of the first fields and the other fields may be left
out. -/
theorem readPositions_eq_ok_iff (distinct : shape.names.Nodup) (expected : String) (before : Nat)
    (items : List Tree) (values : α) :
    shape.readPositions expected before items = .ok values ↔
      items.length ≤ shape.names.length ∧
        shape.Holds (fun name => (shape.names.zip items).lookup name) values := by
  induction shape generalizing before items with
  | done => cases items <;> simp [readPositions, names, Holds]
  | field name read default others ih =>
    obtain ⟨value, values⟩ := values
    obtain ⟨fresh, distinct⟩ := List.nodup_cons.mp distinct
    have rest := ih distinct (before + 1) items.tail values
    cases items with
    | nil =>
      simp only [List.tail_nil, List.length_nil, Nat.zero_le, true_and, List.zip_nil_right,
        List.lookup_nil] at rest
      simp only [readPositions, Holds, List.length_nil, Nat.zero_le, true_and, List.zip_nil_right,
        List.lookup_nil, Option.map_none, Option.none_or, ← rest]
      cases default with
      | none => simp
      | some default => cases others.readPositions expected (before + 1) [] <;> simp
    | cons item items =>
      have skip : ∀ other ∈ others.names,
          (((name :: others.names).zip (item :: items)).lookup other) =
            (others.names.zip items).lookup other := by
        intro other listed
        have different : other ≠ name := fun same => fresh (same ▸ listed)
        rw [List.zip_cons_cons, List.lookup_cons, beq_false_of_ne different]
      rw [List.tail_cons] at rest
      rw [Holds, names, holds_congr skip, List.zip_cons_cons, List.lookup_cons_self,
        List.length_cons, List.length_cons, Nat.add_le_add_iff_right, and_left_comm, ← rest,
        readPositions]
      cases first : read item with
      | error fault => simp [first]
      | ok first' => cases others.readPositions expected (before + 1) items <;> simp [first]

/-- The values of a record that are given are known. -/
theorem Holds.exists_knows {values : α} (holds : shape.Holds given values) :
    ∃ known, shape.Knows given known := by
  induction shape with
  | done => exact ⟨(), trivial⟩
  | field name read default others ih =>
    obtain ⟨value, values⟩ := values
    obtain ⟨rest, knows⟩ := ih holds.2
    have first := holds.1
    cases gave : given name with
    | none => exact ⟨(none, rest), by rw [gave]; rfl, knows⟩
    | some tree =>
      rw [gave, Option.map_some, Option.some_or] at first
      exact ⟨(some value, rest), by rw [gave, Option.map_some, first]; rfl, knows⟩

/-- A record is read from a tree exactly when the tree gives its fields. -/
theorem read_eq_ok_iff (distinct : shape.names.Nodup) (type : String) {tree : Tree}
    (whole : tree.isWhole = true) (values : α) :
    shape.read type tree = .ok values ↔
      ∃ given, tree.Gives shape.names given ∧ shape.Holds given values := by
  constructor
  · intro done
    match tree with
    | .object members =>
      rw [read] at done
      cases taken : shape.readMembers shape.blank members with
      | error fault => simp [taken] at done
      | ok known =>
        obtain ⟨named, rfl, once, knows⟩ := knows_of_readMembers distinct (knows_blank shape) taken
        refine ⟨_, .object fun name listed => by simpa using once name listed, ?_⟩
        rw [taken] at done
        exact (complete_eq_ok_iff knows values).mp done
    | .array items =>
      obtain ⟨few, holds⟩ := (readPositions_eq_ok_iff distinct _ 0 items values).mp done
      exact ⟨_, .array few, holds⟩
    | .null | .bool _ | .number _ | .string _ | .broken =>
      simp only [read] at done
      exact absurd done (unexpected_ne_ok _ _ _)
  · rintro ⟨_, gives, holds⟩
    cases gives with
    | @object members once =>
      obtain ⟨known, knows⟩ := holds.exists_knows
      have taken := readMembers_of_knows distinct (knows_blank shape) whole
        (fun name listed => by simpa using once name listed) knows
      unfold read Tree.ofFields
      simp only [taken]
      exact (complete_eq_ok_iff knows values).mpr holds
    | array few => exact (readPositions_eq_ok_iff distinct _ 0 _ values).mpr ⟨few, holds⟩

end Shape

end EnclaveChain.Json
