import WikiNotes.Index.Update
import WikiNotes.Storage.Memory

/-! # Events of a file system

What a file system reports about its files, as far as it tells, and what changes that stands for.
Where nothing is reported, the changes are found by comparing the files with the earlier ones. -/

namespace WikiNotes

/-- What a reported renaming says about its paths. -/
inductive RenameMode where
  /-- The old path, then the new one. -/
  | both
  /-- Old paths. -/
  | source
  /-- New paths. -/
  | target
  /-- It is not known which. -/
  | unknown
deriving DecidableEq, Repr

/-- The kinds of events. -/
inductive EventKind where
  | created
  | removed
  | renamed (mode : RenameMode)
  /-- Content or properties of a file changed. -/
  | modified
  /-- Nothing happened to the notes. -/
  | irrelevant
deriving DecidableEq, Repr

/-- An event: what happened, and to which paths. -/
structure FileEvent where
  kind : EventKind
  paths : List Path
deriving DecidableEq, Repr

namespace FileEvent

/-- The changes that an event stands for.  Where it is not known which end of a renaming a path is,
    it counts as new if it is there. -/
def changes (isPresent : Path → Bool) (event : FileEvent) : List Change :=
  match event.kind with
  | .created => event.paths.map (⟨.added, ·⟩)
  | .removed => event.paths.map (⟨.deleted, ·⟩)
  | .renamed .both =>
    match event.paths with
    | source :: target :: _ => [⟨.deleted, source⟩, ⟨.added, target⟩]
    | _ => []
  | .renamed .source => event.paths.map (⟨.deleted, ·⟩)
  | .renamed .target => event.paths.map (⟨.added, ·⟩)
  | .renamed .unknown =>
    event.paths.map fun path => ⟨if isPresent path then .added else .deleted, path⟩
  | .modified => event.paths.map (⟨.updated, ·⟩)
  | .irrelevant => []

end FileEvent

/-- What happened to the files since they were as an earlier memory has them. -/
def Memory.changesSince (m old : Memory) : List Change :=
  let gone := old.files.filter fun place _ => !m.files.contains place
  let fresh := m.files.filter fun place content => old.files.find? place ≠ some content
  gone.keys.map (fun place => ⟨.deleted, .ofLocation place⟩)
    ++ fresh.keys.map fun place =>
      ⟨if old.files.contains place then .updated else .added, .ofLocation place⟩

end WikiNotes
