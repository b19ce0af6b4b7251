import WikiNotes.Index.Basic

/-! # Keeping the index current

`Index.build` makes the index of a root from scratch, and `Index.apply` brings it up to date with
one change to a file or directory, by looking at what is there now. -/

namespace WikiNotes

/-- What happened to a file or directory. -/
inductive ChangeKind where
  | added
  | updated
  | deleted
deriving DecidableEq, Repr

/-- A change to a file or directory. -/
structure Change where
  kind : ChangeKind
  path : Path
deriving DecidableEq, Repr

namespace Index

/-! ### Building -/

/-- Insert the notes at the given paths that can be read. -/
def insertReadable (files : FileSystem) (index : Index) (paths : List Path) : Index :=
  paths.foldl (fun index path =>
    match Record.read files index.policy path with
    | .ok record => (index.insert record).1
    | .error _ => index) index

/-- The index of the notes beneath a root; without a root it is empty. -/
def build (files : FileSystem) (time : String) (root : Option Path) (policy : NamingPolicy) :
    Index :=
  let report := (root.map (scan files)).getD .empty
  let index : Index := { root, policy }
  { index.insertReadable files report.notes with
    rebuiltAt := some time
    scanIssues := report.issues }

/-! ### Changes -/

/-- Remove what was at a path: the note there, or all notes beneath it. -/
def discard (index : Index) (path : Path) : Index × Bool :=
  -- Where no visible note was there may have been a directory of notes.
  match index.remove path.location with
  | (removed, true) => (removed, true)
  | (removed, false) => removed.removeUnder path.location

/-- Read the note at a path again.  A note that is gone is removed; one that cannot be read for
    another reason stays as it was. -/
def refresh (files : FileSystem) (index : Index) (path : Path) : Index × Bool :=
  if index.root.any (isEligible · path) then
    match Record.read files index.policy path with
    | .ok record => index.insert record
    | .error error => if error.kind = .notFound then index.discard path else (index, false)
  else (index, false)

/-- Read several notes again, one after the other. -/
def refreshEach (files : FileSystem) (index : Index) : List Path → Index × Bool
  | [] => (index, false)
  | path :: paths =>
    let (refreshed, changed) := index.refresh files path
    let (rest, restChanged) := refreshed.refreshEach files paths
    (rest, changed || restChanged)

/-- Read the notes in a directory again, if it may hold notes and can be listed. -/
def refreshUnder (files : FileSystem) (index : Index) (dir : Path) : Index × Bool :=
  if index.root.any (isEligibleDirectory · dir) && (files.listDirectory dir).toOption.isSome then
    index.refreshEach files (scan files dir).notes
  else (index, false)

/-- Bring the index up to date with a change.  A path with the extension of a note is that of a
    note, any other that of a directory. -/
def apply (files : FileSystem) (index : Index) (change : Change) : Index × Bool :=
  match change.kind with
  | .deleted => index.discard change.path
  | .added | .updated =>
    if hasNoteExtension change.path then index.refresh files change.path
    else index.refreshUnder files change.path

end Index

end WikiNotes
