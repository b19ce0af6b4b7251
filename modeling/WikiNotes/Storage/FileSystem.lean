import WikiNotes.Path

/-! # File systems

What the index asks of the place where notes are kept: to read a file as text and to list a
directory.  `FileSystem` is one such place at one moment.  `Storage.Memory` holds files in memory
and `Storage.Disk` describes a disk with directories and links; both give a `FileSystem`. -/

namespace WikiNotes

/-- The kinds of failure to read a file or a directory. -/
inductive ReadFailure where
  /-- Nothing is there. -/
  | notFound
  | permissionDenied
  /-- A directory where a file is needed. -/
  | isDirectory
  /-- A file where a directory is needed. -/
  | notDirectory
  /-- The content is not valid UTF-8. -/
  | invalidText
  /-- Links that lead to links without end. -/
  | linkLoop
  /-- The path holds a character that no file name may hold. -/
  | invalidPath
  /-- The path or a name in it is longer than names may be. -/
  | nameTooLong
  | other
deriving DecidableEq, Repr

/-- A failure to read, and how it is told. -/
structure ReadError where
  kind : ReadFailure
  message : String
deriving DecidableEq, Repr

/-- What a file holds. -/
inductive FileContent where
  | text (content : String)
  /-- Bytes that are not valid UTF-8. -/
  | binary
deriving DecidableEq, Repr, Inhabited

namespace FileContent

/-- The content that bytes are. -/
def ofBytes (bytes : ByteArray) : FileContent :=
  match String.fromUTF8? bytes with
  | some content => text content
  | none => binary

end FileContent

/-- What an entry of a directory is. -/
inductive EntryKind where
  | file
  | directory
deriving DecidableEq, Repr

/-- An entry of a directory. -/
structure Entry where
  name : String
  /-- The directory's path joined with the name. -/
  path : Path
  kind : EntryKind
deriving DecidableEq, Repr

/-- A place where notes are kept, as it is at one moment. -/
structure FileSystem where
  /-- Read a file as text. -/
  readText : Path → Except ReadError String
  /-- List a directory, in any order. -/
  listDirectory : Path → Except ReadError (List Entry)
  /-- A bound on how many directories lie one inside another. -/
  depth : Nat

end WikiNotes
