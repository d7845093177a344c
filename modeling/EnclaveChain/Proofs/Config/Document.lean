import EnclaveChain.Config.Basic
import EnclaveChain.Proofs.Toml.Building
import EnclaveChain.Proofs.Toml.Other
import EnclaveChain.Proofs.Toml.Writing

/-!
# Configurations that survive TOML

A configuration is read back from every document that gives its strings, however they are written
and whatever strings and tables stand beside them (`ofToml_document`). A document that gives
something other than a string to one of the two keys is refused.
-/
namespace EnclaveChain.Config

open Toml (Entries Outline SpellsOther SpellsLines AreBlank)

/-- The keys of a configuration. -/
def keys : List String := ["ws_url", "metadata"]

/-- Whether a document gives these strings to the keys of a configuration, or none. -/
structure GivenBy (url registryFile : Option String) (outline : Outline) : Prop where
  /-- No name is given twice. -/
  distinct : outline.IsDistinct
  /-- The string of the first key. -/
  url : outline.pairs.lookup "ws_url" = url
  /-- The string of the second key. -/
  registryFile : outline.pairs.lookup "metadata" = registryFile
  /-- No table has the name of a key. -/
  noTable : ∀ key ∈ keys, key ∉ outline.tables.map (·.1)

/-- The strings that a document gives are read, and a default for the first one. -/
theorem GivenBy.ofToml {url registryFile : Option String} {outline : Outline}
    (given : GivenBy url registryFile outline) {text : String}
    (spelled : outline.IsSpelledBy text) :
    ofToml text = .ok ⟨url.getD defaultUrl, registryFile⟩ := by
  have found {key : String} (listed : key ∈ keys) :
      string? outline.root key = .ok (outline.pairs.lookup key) := by
    rw [string?, Outline.get?_root (given.noTable key listed)]
    cases outline.pairs.lookup key <;> rfl
  rw [Config.ofToml, Outline.read_eq given.distinct spelled]
  simp only [found (by decide : "ws_url" ∈ keys), found (by decide : "metadata" ∈ keys), given.url,
    given.registryFile]
  rfl

/-- A key is refused for one reason only. -/
theorem string?_eq_error {table : Entries} {key : String} {error : Error}
    (refused : string? table key = .error error) : error = .toml := by
  rw [string?] at refused
  split at refused
  next => cases refused
  next => cases refused
  next => exact (Except.error.inj refused).symm

/-- A value that is no string is refused. -/
theorem string?_hasOther {table : Entries} {key : String} (other : table.HasOther key) :
    string? table key = .error .toml := by
  obtain ⟨value, found, isOther⟩ := other
  rw [string?, found]
  cases value with
  | string => cases isOther
  | _ => rfl

/-- A table in which a key has a value that is no string is refused. -/
theorem ofToml_hasOther {text : String} {key : String} (listed : key ∈ keys)
    (other : ∀ table, Toml.read text = some table → table.HasOther key) :
    ofToml text = .error .toml := by
  rw [ofToml]
  cases read : Toml.read text with
  | none => rfl
  | some table =>
    have refused := string?_hasOther (other table read)
    obtain rfl | rfl : key = "ws_url" ∨ key = "metadata" := by simpa [keys] using listed
    · simp only [refused]
      rfl
    · cases first : string? table "ws_url" with
      | ok url =>
        simp only [refused, first]
        rfl
      | error error =>
        obtain rfl := string?_eq_error first
        simp only [first]
        rfl

/-- A configuration is read from every document that gives its strings, and with the default URL
from every document that gives its file alone; every such document can be written. A document is
refused if a key has a value that is no string in the table that is read, and so is every document
in which lines of strings and tables are followed by another value for a key, whatever follows
that. -/
theorem ofToml_document (config : Config) :
    (∀ outline text, outline.IsSpelledBy text →
      (GivenBy config.url config.registryFile outline → ofToml text = .ok config) ∧
      (GivenBy none config.registryFile outline →
        ofToml text = .ok ⟨defaultUrl, config.registryFile⟩)) ∧
    (∀ outline : Outline, outline.IsSpelledBy outline.text) ∧
    (∀ key ∈ keys, ∀ text table, Toml.read text = some table →
      table.HasOther key → ofToml text = .error .toml) ∧
    (∀ key ∈ keys, ∀ front other indent lines text, SpellsOther key front other → AreBlank indent →
      (front = true → ∀ line ∈ lines, line.isPair = true) →
      SpellsLines (indent ++ other) text.toList lines → ofToml text = .error .toml) := by
  refine ⟨fun outline text spelled => ⟨fun given => ?_, fun given => ?_⟩,
    fun outline => outline.isSpelledBy_text, fun key listed text table read other => ?_,
    fun key listed front other indent lines text spelled blank root before => ?_⟩
  · exact given.ofToml spelled
  · exact given.ofToml spelled
  · refine ofToml_hasOther listed fun found same => ?_
    obtain rfl := Option.some.inj (read.symm.trans same)
    exact other
  · exact ofToml_hasOther listed fun table read => spelled.read_hasOther blank root before read

/-- A file before a URL with escapes, another name and a table are read, as is the same without the
URL, and a number in its place is refused. -/
theorem ofToml_document_escaped :
    ofToml ("metadata = \"a\\\\b\"\nws_url = \"\\\"é\\\"\\u0001\"\nx = \"\"\n" ++
      "[t]\nws_url = \"y\"\n") = .ok ⟨"\"é\"\x01", some "a\\b"⟩ ∧
    ofToml "metadata = \"a\\\\b\"\n" = .ok ⟨defaultUrl, some "a\\b"⟩ ∧
    ofToml "metadata = \"a\\\\b\"\n\tws_url = 1 # \"" = .error .toml := by
  let all : Outline :=
    ⟨[("metadata", "a\\b"), ("ws_url", "\"é\"\x01"), ("x", "")], [("t", [("ws_url", "y")])]⟩
  let file : Outline := ⟨[("metadata", "a\\b")], []⟩
  obtain ⟨strings, written, -, refused⟩ := ofToml_document ⟨"\"é\"\x01", some "a\\b"⟩
  refine ⟨?_, ?_, ?_⟩
  · have given : GivenBy (some "\"é\"\x01") (some "a\\b") all :=
      ⟨⟨by decide, by decide⟩, rfl, rfl, by decide⟩
    have text : all.text = "metadata = \"a\\\\b\"\nws_url = \"\\\"é\\\"\\u0001\"\nx = \"\"\n" ++
      "[t]\nws_url = \"y\"\n" := by decide +kernel
    have read := (strings all all.text (written all)).1 given
    rwa [text] at read
  · have given : GivenBy none (some "a\\b") file := ⟨⟨by decide, by decide⟩, rfl, rfl, by decide⟩
    have text : file.text = "metadata = \"a\\\\b\"\n" := by decide +kernel
    have read := (strings file file.text (written file)).2 given
    rwa [text] at read
  · have blank : AreBlank [' '] ∧ AreBlank ['\t'] := by simp [AreBlank, Toml.blanks]
    have named : Toml.SpellsKey "ws_url".toList "ws_url" :=
      .bare (by decide) (Toml.forall_of_all (by decide))
    have number : SpellsOther "ws_url" true
        ("ws_url".toList ++ ([' '] ++ '=' :: ([' '] ++ "1 # \"".toList))) :=
      .value named blank.1 blank.1 (by rintro first ⟨⟩; decide)
    have lead : SpellsLines (['\t'] ++ "ws_url = 1 # \"".toList)
        ([] ++ ((Toml.Line.pair "metadata" "a\\b").write ++ "\n\tws_url = 1 # \"".toList))
        [.pair "metadata" "a\\b"] :=
      .line Toml.areBlank_nil (Toml.spellsLine_write _)
        ⟨[], [], ['\n'], rfl, Toml.areBlank_nil, .inl rfl, .inl (by decide)⟩ .done
    have text : [] ++ ((Toml.Line.pair "metadata" "a\\b").write ++ "\n\tws_url = 1 # \"".toList) =
      "metadata = \"a\\\\b\"\n\tws_url = 1 # \"".toList := by decide +kernel
    rw [text] at lead
    exact refused "ws_url" (by decide) true _ _ _ _ number blank.2 (fun _ => by decide) lead

end EnclaveChain.Config
