import EnclaveChain.Error
import EnclaveChain.Scale.Bytes

/-!
# Files

A tree of directories and files, as a value, and the reading of a file of it as text. Names are
looked up from a working directory. What lies above that directory or is named from the top of the
file system is not part of the tree: directories can be passed through there, and nothing is found.
-/
namespace EnclaveChain

/-- The text of each file by its name, or why it has none. -/
abbrev Files := String → Except FileFault String

/-- The text that bytes spell in UTF-8. -/
def utf8Text (bytes : Bytes) : Except FileFault String :=
  match String.fromUTF8? ⟨bytes.toArray⟩ with
  | some text => .ok text
  | none => .error .notText

/-- What a name in a working directory stands for. -/
inductive FileEntry where
  /-- A file with its bytes. -/
  | file (bytes : Bytes)
  /-- A directory; what it holds is entered under longer paths. -/
  | directory
deriving DecidableEq

/-- The files under a working directory by their paths, part by part. -/
structure FileTree where
  /-- Each path once, with what it stands for. -/
  entries : List (List String × FileEntry)
deriving DecidableEq

namespace FileTree

/-- The tree without files. -/
def empty : FileTree := ⟨[]⟩

/-- What a path stands for; the parts of longer paths are directories. -/
def entry? (tree : FileTree) (path : List String) : Option FileEntry :=
  if path = [] then some .directory
  else
    match tree.entries.find? fun entry => entry.1 = path with
    | some entry => some entry.2
    | none =>
      if tree.entries.any fun entry => path.isPrefixOf entry.1 then some .directory else none

/-- Whether a part of a name is longer than any entry of a directory can be named. -/
def isLongPart (part : String) : Bool := 255 < part.utf8ByteSize

/-- Whether a name is longer than any name may be. -/
def isLongName (name : String) : Bool := 4096 ≤ name.utf8ByteSize

/-- What is found when the parts of a name are followed from a directory inside the tree, or from
one outside of it. A part is too long only for a directory that is asked for it. -/
def follow (tree : FileTree) : Option (List String) → List String → Except FileFault FileEntry
  | none, [] => .ok .directory
  | none, part :: parts =>
    if part = "" ∨ part = "." ∨ part = ".." then tree.follow none parts
    else if isLongPart part then .error .nameTooLong
    else .error .notFound
  | some path, [] =>
    match tree.entry? path with
    | some entry => .ok entry
    | none => .error .notFound
  | some path, part :: parts =>
    match tree.entry? path with
    | none => .error .notFound
    | some (.file _) => .error .notDirectory
    | some .directory =>
      if part = "" ∨ part = "." then tree.follow (some path) parts
      else if part = ".." then
        if path = [] then tree.follow none parts else tree.follow (some path.dropLast) parts
      else if isLongPart part then .error .nameTooLong
      else tree.follow (some (path ++ [part])) parts

/-- What a name stands for. -/
def lookup (tree : FileTree) (name : String) : Except FileFault FileEntry :=
  if name = "" then .error .notFound
  else if name.toList.contains '\x00' then .error .badName
  else if isLongName name then .error .nameTooLong
  else tree.follow (if name.toList.head? = some '/' then none else some []) (name.splitOn "/")

/-- The files of a tree as texts. -/
def files (tree : FileTree) : Files := fun name =>
  match tree.lookup name with
  | .error fault => .error fault
  | .ok .directory => .error .directory
  | .ok (.file bytes) => utf8Text bytes

end FileTree

end EnclaveChain
