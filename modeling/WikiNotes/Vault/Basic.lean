import WikiNotes.Index.Search
import WikiNotes.Vault.Coordinator
import WikiNotes.Vault.Error
import WikiNotes.Vault.Notifier
import WikiNotes.Vault.Settings

/-! # Vaults

A vault keeps the index of the notes beneath a root current and answers questions about them.  All
updates go through its coordinator, and every batch that may have changed what is visible is told
to its notifier.

A vault is a value: what it needs of the outside, the files above all, is given to each operation
as it is at that moment. -/

namespace WikiNotes

/-- What a vault sees of the outside at one moment. -/
structure Surroundings where
  /-- The files that the notes are read from. -/
  files : FileSystem
  /-- The path without links and dots to what a path leads to on the disk, if something is there. -/
  canonical? : Path → Option Path
  /-- Whether a path leads to a directory on the disk. -/
  isDirectory : Path → Bool
  /-- The time. -/
  time : String

/-- The notes beneath a root, kept current. -/
structure Vault where
  settings : Settings
  index : Index
  coordinator : Coordinator := {}
  notifier : Notifier := {}
deriving DecidableEq

/-- What is counted about a vault. -/
structure VaultStats where
  root : Option Path
  notes : Nat
  tags : Nat
  links : Nat
  rebuiltAt : Option String
  scanIssues : List ScanIssue
deriving DecidableEq, Repr

namespace Vault

/-! ### Updates -/

/-- Run one update of the index; says whether what is visible may have changed. -/
def runMutation (s : Surroundings) (settings : Settings) (index : Index) :
    Mutation → Index × Bool
  | .rebuild => (Index.build s.files s.time settings.root settings.policy, true)
  | .apply change => index.apply s.files change

/-- Run the updates of a batch in order; says whether what is visible may have changed. -/
def runBatch (s : Surroundings) (settings : Settings) (index : Index) :
    List Mutation → Index × Bool
  | [] => (index, false)
  | mutation :: mutations =>
    let (updated, changed) := runMutation s settings index mutation
    let (final, restChanged) := runBatch s settings updated mutations
    (final, changed || restChanged)

/-- Run a batch and tell of it if what is visible may have changed. -/
def afterBatch (s : Surroundings) (vault : Vault) (batch : List Mutation) : Vault :=
  let (index, changed) := runBatch s vault.settings vault.index batch
  { vault with
    index
    notifier := if changed then vault.notifier.notify else vault.notifier }

/-- Submit updates to the coordinator and run the batches that it forms. -/
def submit (s : Surroundings) (vault : Vault) (mutations : List Mutation) : Vault :=
  let (coordinator, outcome) := vault.coordinator.submit mutations []
  { (outcome.runs.map BatchRun.batch).foldl (afterBatch s) vault with coordinator }

/-- A vault with the given settings, as they are. -/
def new (s : Surroundings) (settings : Settings) : Vault :=
  submit s { settings, index := { policy := settings.policy } } [.rebuild]

/-- A vault with the given settings and the root as the disk knows it. -/
def openOnDisk (s : Surroundings) (settings : Settings) : Vault :=
  new s (settings.canonicalized s.canonical?)

/-- Build the index from scratch. -/
def rebuild (s : Surroundings) (vault : Vault) : Vault := vault.submit s [.rebuild]

/-- Take new settings, with the root as the disk knows it.  The index is built from scratch unless
    they say the same as the old ones. -/
def applySettings (s : Surroundings) (vault : Vault) (settings : Settings) : Vault :=
  let settings := settings.canonicalized s.canonical?
  if vault.settings.same settings then vault else { vault with settings }.submit s [.rebuild]

/-- Take up several changes to files and directories at once. -/
def handleChanges (s : Surroundings) (vault : Vault) (changes : List Change) : Vault :=
  vault.submit s (changes.map .apply)

/-- Take up a change to a file or directory. -/
def handleChange (s : Surroundings) (vault : Vault) (change : Change) : Vault :=
  vault.handleChanges s [change]

/-- How often there was a change so far. -/
def generation (vault : Vault) : Nat := vault.notifier.generation

/-! ### Questions -/

/-- The visible notes in the order of their places. -/
def documents (vault : Vault) : List Record := vault.index.sortedRecords

/-- The visible note at a path. -/
def documentAt? (vault : Vault) (path : Path) : Option Record := vault.index.at? path.location

/-- The visible note with a name. -/
def findByName? (vault : Vault) (target : String) : Option Record := vault.index.resolve? target

/-- The notes that carry a tag, in the order of their paths. -/
def notesWithTag (vault : Vault) (tag : String) : List Path :=
  match vault.index.policy.canonicalTag? tag with
  | some canonical => vault.index.tags.notes canonical
  | none => []

/-- The headings of the note that a reference names. -/
def headingsFor (vault : Vault) (reference : String) : List Heading :=
  match vault.findByName? (Link.splitTarget reference).1 with
  | some record => record.note.headings
  | none => []

/-- What is counted about the vault. -/
def stats (vault : Vault) : VaultStats :=
  { root := vault.index.root
    notes := vault.index.size
    tags := vault.index.tags.size
    links := vault.index.linkCount
    rebuiltAt := vault.index.rebuiltAt
    scanIssues := vault.index.scanIssues }

/-- A path as it is shown: beneath the root without the root, elsewhere as it is. -/
def relativePath (vault : Vault) (path : Path) : Path :=
  (vault.settings.root.bind path.stripBase?).getD path

/-- The visible note that a user means: a path with the extension of a note leads to the note there,
    relative to the root, and anything else is a name. -/
def locateNote (vault : Vault) (note : String) : Except VaultError Record :=
  -- A path with the extension of a note that leads nowhere may still be a name.
  let candidate : Path := ⟨Text.trim note⟩
  let atPath :=
    if hasNoteExtension candidate then
      vault.settings.root.bind fun root => vault.documentAt? (root.join candidate)
    else none
  match atPath.or (vault.findByName? note) with
  | some record => .ok record
  | none => .error (.noteNotFound note)

/-- The root of the vault, if there is a directory to watch. -/
def watchableRoot (s : Surroundings) (vault : Vault) : Except VaultError Path :=
  match vault.settings.root with
  | none => .error .notConfigured
  | some root => if s.isDirectory root then .ok root else .error (.vaultNotFound root)

end Vault

end WikiNotes
