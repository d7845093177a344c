import EnclaveChain.Proofs.Json.Record

/-!
# One place in a tree

A tree that is read as a value is read again after what stands at one place of it is replaced. If
the place is that of a field, or of an item of a list, the new tree is read exactly when the new
part is, as the old value with the new part in its place, and else it fails as the part does: what
stands before the place was read, and what stands after it does not matter for the first fault
(`Threads`). Places inside of places are put together (`Threads.comp`), so a reader of records and
lists follows a part however deep it is.
-/
namespace EnclaveChain.Json

/-- A tree around a place. -/
inductive Surrounding where
  /-- The place is an item of an array. -/
  | item (before after : List Tree)
  /-- The place is the value of a member of an object. -/
  | member (before : List (Tree × Tree)) (name : String) (after : List (Tree × Tree))

namespace Surrounding

/-- The tree with a part at its place. -/
def fill : Surrounding → Tree → Tree
  | item before after, part => .array (before ++ part :: after)
  | member before name after, part => .object (before ++ (.ofString name, part) :: after)

/-- Whether the place is that of a field of a record with these fields. -/
def Gives (names : List String) (name : String) : Surrounding → Prop
  | item before _ => before.length = names.idxOf name
  | member _ key _ => key = name

end Surrounding

/-- A reader of trees with a place reads what stands there by another reader, and puts it into a
value. -/
def Threads {α β : Type} (outer : Tree → Reading α) (fill : Tree → Tree)
    (inner : Tree → Reading β) (put : β → α) : Prop :=
  ∀ part, outer (fill part) = (inner part).map put

section Threads

variable {α β γ : Type} {outer : Tree → Reading α} {middle : Tree → Reading β}
  {inner : Tree → Reading γ} {fill fill' : Tree → Tree} {put : β → α} {put' : γ → β}

/-- A place inside of a place is a place. -/
theorem Threads.comp (first : Threads outer fill middle put)
    (second : Threads middle fill' inner put') :
    Threads outer (fun part => fill (fill' part)) inner (fun value => put (put' value)) := by
  intro part
  rw [first, second]
  cases inner part <;> rfl

/-- A value made of what is read is a value with a place. -/
theorem Threads.map {δ : Type} (threads : Threads outer fill middle put) (make : α → δ) :
    Threads (fun tree => (outer tree).map make) fill middle (fun value => make (put value)) := by
  intro part
  have read := threads part
  simp only [read]
  cases middle part <;> rfl

/-- Where the whole is read the part is. -/
theorem Threads.exists_part (threads : Threads outer fill middle put) {part : Tree} {whole : α}
    (read : outer (fill part) = .ok whole) :
    ∃ value, middle part = .ok value ∧ put value = whole := by
  rw [threads] at read
  cases found : middle part with
  | error fault =>
    rw [found] at read
    cases read
  | ok value =>
    rw [found] at read
    exact ⟨value, rfl, Except.ok.inj read⟩

end Threads

/-! ### Lists -/

/-- An item of a list is a place. -/
theorem threads_readList {α : Type} {item : Tree → Reading α} {before after : List Tree}
    {part : Tree} {values : List α}
    (done : readList item ((Surrounding.item before after).fill part) = .ok values) :
    Threads (readList item) (Surrounding.item before after).fill item
      (values.set before.length ·) := by
  intro other
  simp only [Surrounding.fill, readList] at done ⊢
  induction before generalizing values with
  | nil =>
    simp only [List.nil_append, readItems] at done ⊢
    cases read : item part with
    | error fault => simp [read] at done
    | ok value =>
      cases rest : readItems item after with
      | error fault => simp [read, rest] at done
      | ok others =>
        simp only [read, rest, Except.ok.injEq] at done
        subst done
        cases item other <;> simp [Except.map]
  | cons first before ih =>
    simp only [List.cons_append, readItems] at done ⊢
    cases read : item first with
    | error fault => simp [read] at done
    | ok value =>
      cases rest : readItems item (before ++ part :: after) with
      | error fault => simp [read, rest] at done
      | ok others =>
        simp only [read, rest, Except.ok.injEq] at done
        subst done
        rw [ih rest]
        cases item other <;> simp [Except.map]

/-! ### Records -/

namespace Shape

/-- Whether a field is one of a record, how it is replaced in the values of the record, and how it
becomes known. -/
inductive Selects {β : Type} (name : String) (read : Tree → Reading β) :
    {α π : Type} → Shape α π → (β → α → α) → (β → π → π) → Prop where
  /-- It is the first field. -/
  | here {α π : Type} {default : Option β} {others : Shape α π} :
    Selects name read (.field name read default others) (fun value values => (value, values.2))
      (fun value known => (some value, known.2))
  /-- It is a later field, and the first one has another name. -/
  | there {γ α π : Type} {other : String} {readOther : Tree → Reading γ} {default : Option γ}
    {others : Shape α π} {set : β → α → α} {know : β → π → π} (different : name ≠ other)
    (later : Selects name read others set know) :
    Selects name read (.field other readOther default others)
      (fun value values => (values.1, set value values.2))
      (fun value known => (known.1, know value known.2))

variable {β : Type} {name : String} {read : Tree → Reading β} {α π : Type} {shape : Shape α π}
  {set : β → α → α} {know : β → π → π}

/-- A field that becomes known when one tree is read becomes known when any is. -/
theorem Selects.put_eq (selects : Selects name read shape set know) {known : π} {part : Tree}
    {next : Option π} (done : shape.put known name part = .ok next) (other : Tree) :
    shape.put known name other = (read other).map fun value => some (know value known) := by
  induction selects with
  | here =>
    obtain ⟨first, rest⟩ := known
    rw [put, if_pos rfl] at done ⊢
    cases first with
    | some value => cases done
    | none => cases read other <;> rfl
  | @there _ _ _ _ _ _ others _ _ different later ih =>
    obtain ⟨first, rest⟩ := known
    rw [put, if_neg different] at done ⊢
    cases taken : others.put rest name part with
    | error fault => simp [taken] at done
    | ok following =>
      rw [ih taken]
      cases read other <;> rfl

/-- A known field cannot be given again. -/
theorem Selects.put_again (selects : Selects name read shape set know) (value : β) (known : π)
    (tree : Tree) :
    shape.put (know value known) name tree = .error (.mismatch (.duplicate name)) := by
  induction selects with
  | here => rw [put, if_pos rfl, if_pos (by rfl)]
  | there different later ih => rw [put, if_neg different, ih]

/-- Another member does not depend on the field. -/
theorem Selects.put_other (selects : Selects name read shape set know) {key : String}
    (different : key ≠ name) (value : β) (known : π) (tree : Tree) :
    shape.put (know value known) key tree =
      (shape.put known key tree).map (Option.map (know value)) := by
  induction selects with
  | here =>
    obtain ⟨first, rest⟩ := known
    rw [put, put, if_neg different, if_neg different]
    cases Shape.put _ rest key tree with
    | error fault => rfl
    | ok next => cases next <;> rfl
  | @there γ _ _ other readOther _ others _ _ apart later ih =>
    obtain ⟨first, rest⟩ := known
    rw [put, put]
    split_ifs with here known
    · rfl
    · cases readOther tree <;> rfl
    · rw [ih]
      cases others.put rest key tree with
      | error fault => rfl
      | ok next => cases next <;> rfl

/-- What becomes known last is known. -/
theorem Selects.know_know (selects : Selects name read shape set know) (value other : β)
    (known : π) : know value (know other known) = know value known := by
  induction selects with
  | here => rfl
  | there _ _ ih => exact congrArg _ (ih known.2)

/-- A record that is complete with one value of the field is complete with any. -/
theorem Selects.complete_eq (selects : Selects name read shape set know) {value : β} {known : π}
    {values : α} (done : shape.complete (know value known) = .ok values) (other : β) :
    shape.complete (know other known) = .ok (set other values) := by
  induction selects with
  | @here _ _ _ others =>
    obtain ⟨first, rest⟩ := known
    simp only [complete, Option.some_or] at done ⊢
    cases rest : others.complete rest with
    | error fault => simp [rest] at done
    | ok following =>
      simp only [rest, Except.ok.injEq] at done ⊢
      rw [← done]
  | @there _ _ _ _ _ default others set know _ _ ih =>
    obtain ⟨first, rest⟩ := known
    simp only [complete] at done ⊢
    cases known : first.or default with
    | none => simp [known] at done
    | some kept =>
      cases later : others.complete (know value rest) with
      | error fault => simp [known, later] at done
      | ok following =>
        simp only [known, later, ih later, Except.ok.injEq] at done ⊢
        rw [← done]

/-- Members in front are read first. -/
theorem readMembers_append (known : π) (before after : List (Tree × Tree)) :
    shape.readMembers known (before ++ after) =
      match shape.readMembers known before with
      | .error fault => .error fault
      | .ok next => shape.readMembers next after := by
  induction before generalizing known with
  | nil => rfl
  | cons member before ih =>
    obtain ⟨key, value⟩ := member
    match key with
    | .string (some key) =>
      simp only [List.cons_append, readMembers]
      cases shape.put known key value with
      | error fault => rfl
      | ok next =>
        cases next with
        | some next => exact ih next
        | none =>
          simp only
          split_ifs
          · exact ih known
          · rfl
    | .string none | .null | .bool _ | .number _ | .array _ | .object _ | .broken => rfl

/-- Members that are read behind one value of the field are read behind any. -/
theorem Selects.readMembers_eq (selects : Selects name read shape set know) {value : β}
    {known final : π} {members : List (Tree × Tree)}
    (done : shape.readMembers (know value known) members = .ok final) (other : β) :
    shape.readMembers (know other known) members = .ok (know other final) := by
  induction members generalizing known with
  | nil =>
    rw [← Except.ok.inj done, selects.know_know]
    rfl
  | cons member members ih =>
    obtain ⟨first, tree⟩ := member
    match first with
    | .string (some key) =>
      rw [readMembers] at done ⊢
      have different : key ≠ name := by
        rintro rfl
        rw [selects.put_again] at done
        cases done
      rw [selects.put_other different] at done ⊢
      cases taken : shape.put known key tree with
      | error fault => simp [taken, Except.map] at done
      | ok next =>
        cases next with
        | some next =>
          simp only [taken, Except.map, Option.map_some] at done ⊢
          exact ih done
        | none =>
          simp only [taken, Except.map, Option.map_none] at done ⊢
          split_ifs at done ⊢
          exact ih done
    | .string none | .null | .bool _ | .number _ | .array _ | .object _ | .broken =>
      simp [readMembers] at done

/-- The field of an array that gives fields by their positions is replaced at its position. -/
theorem Selects.readPositions_eq (selects : Selects name read shape set know) {expected : String}
    {count : Nat} {before after : List Tree} {part : Tree} {values : α}
    (position : before.length = shape.names.idxOf name)
    (done : shape.readPositions expected count (before ++ part :: after) = .ok values)
    (other : Tree) :
    shape.readPositions expected count (before ++ other :: after) =
      (read other).map (set · values) := by
  induction selects generalizing count before with
  | @here _ _ _ others =>
    rw [names, List.idxOf_cons_self] at position
    obtain rfl := List.length_eq_zero_iff.mp position
    simp only [List.nil_append, readPositions] at done ⊢
    cases found : read part with
    | error fault => simp [found] at done
    | ok value =>
      cases rest : others.readPositions expected (count + 1) after with
      | error fault => simp [found, rest] at done
      | ok following =>
        simp only [found, rest, Except.ok.injEq] at done
        rw [← done]
        cases read other <;> rfl
  | @there _ _ _ _ readOther _ others _ _ different later ih =>
    rw [names, List.idxOf_cons_ne _ different.symm] at position
    obtain ⟨first, before, rfl⟩ := List.exists_cons_of_length_eq_add_one position
    rw [List.length_cons, Nat.add_right_cancel_iff] at position
    simp only [List.cons_append, readPositions] at done ⊢
    cases found : readOther first with
    | error fault => simp [found] at done
    | ok value =>
      cases rest : others.readPositions expected (count + 1) (before ++ part :: after) with
      | error fault => simp [found, rest] at done
      | ok following =>
        simp only [found, rest, Except.ok.injEq] at done
        rw [ih position rest, ← done]
        cases read other <;> rfl

/-- A field of a record is a place. -/
theorem Selects.threads (selects : Selects name read shape set know) {around : Surrounding}
    (gives : around.Gives shape.names name) {type : String} {part : Tree} {values : α}
    (done : shape.read type (around.fill part) = .ok values) :
    Threads (shape.read type) around.fill read (set · values) := by
  intro other
  cases around with
  | item before after => exact selects.readPositions_eq gives done other
  | member before key after =>
    obtain rfl : key = name := gives
    simp only [Surrounding.fill, Shape.read, readMembers_append] at done ⊢
    cases first : shape.readMembers shape.blank before with
    | error fault => simp [first] at done
    | ok known =>
      simp only [first, Tree.ofString, readMembers] at done ⊢
      cases taken : shape.put known key part with
      | error fault => simp [taken] at done
      | ok next =>
        have replaced := selects.put_eq taken
        simp only [replaced] at done ⊢
        cases found : read part with
        | error fault => simp [found, Except.map] at done
        | ok value =>
          simp only [found, Except.map] at done ⊢
          cases behind : shape.readMembers (know value known) after with
          | error fault => simp [behind] at done
          | ok final =>
            have kept : know value final = final := by
              have again := selects.readMembers_eq behind value
              rw [behind] at again
              exact (Except.ok.inj again).symm
            simp only [behind] at done
            rw [← kept] at done
            cases read other with
            | error fault => rfl
            | ok new =>
              simp only [selects.readMembers_eq behind new]
              exact selects.complete_eq done new

/-- A field of a record is a place also where the values of the record are made into another
value, if replacing the field in them updates what they are made into. -/
theorem Selects.threads_map {δ : Type} {make : α → δ} (update : β → δ → δ)
    (selects : Selects name read shape set know)
    (updates : ∀ value values, make (set value values) = update value (make values))
    {around : Surrounding} (gives : around.Gives shape.names name) {type : String} {part : Tree}
    {whole : δ} (done : (shape.read type (around.fill part)).map make = .ok whole) :
    Threads (fun tree => (shape.read type tree).map make) around.fill read (update · whole) := by
  cases found : shape.read type (around.fill part) with
  | error fault =>
    rw [found] at done
    cases done
  | ok values =>
    rw [found] at done
    rw [← Except.ok.inj done]
    intro other
    rw [(selects.threads gives found).map make other]
    simp only [updates]

end Shape

end EnclaveChain.Json
