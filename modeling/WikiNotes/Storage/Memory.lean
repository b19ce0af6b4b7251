import WikiNotes.Storage.FileSystem

/-! # Files in memory

`Memory` keeps files by their places.  A directory is there if it was made or if something lies
beneath it.  Any place can be made to fail: reading the file or directory there then gives the
failure, whatever is there. -/

namespace WikiNotes

/-- Files and directories in memory. -/
structure Memory where
  /-- The files. -/
  files : SortedMap Location FileContent := .empty
  /-- Directories that are there even if nothing lies beneath them. -/
  directories : SortedSet Location := .empty
  /-- Places that cannot be read. -/
  failures : SortedMap Location ReadError := .empty
deriving DecidableEq

namespace Memory

/-! ### Changes -/

/-- Put a file at a path. -/
def write (m : Memory) (path : Path) (content : FileContent) : Memory :=
  { m with files := m.files.insert path.location content }

/-- Make a directory at a path. -/
def makeDirectory (m : Memory) (path : Path) : Memory :=
  { m with directories := m.directories.insert path.location () }

/-- Take away what is at a path and everything beneath it. -/
def delete (m : Memory) (path : Path) : Memory :=
  -- A place begins with itself, so this takes away a file as well as a directory.
  let kept (place : Location) : Bool := !path.location.isPrefixOf place
  { m with
    files := m.files.filter fun place _ => kept place
    directories := m.directories.filter fun place _ => kept place }

/-- Let reading at a path fail. -/
def fail (m : Memory) (path : Path) (error : ReadError) : Memory :=
  { m with failures := m.failures.insert path.location error }

/-- Let reading at a path succeed again. -/
def heal (m : Memory) (path : Path) : Memory :=
  { m with failures := m.failures.erase path.location }

/-! ### Reading -/

/-- The places at which something was put. -/
def places (m : Memory) : List Location := m.files.keys ++ m.directories.keys

/-- Whether there is a directory at a place. -/
def hasDirectory (m : Memory) (place : Location) : Bool :=
  m.places.any fun other =>
    place.isPrefixOf other && (place != other || m.directories.contains place)

/-- The names of what lies directly in a directory, sorted and without repetition. -/
def childNames (m : Memory) (place : Location) : List String :=
  let name? (other : Location) : Option String :=
    if place.isPrefixOf other then
      match other.drop place.length with
      | .name text :: _ => some text
      | _ => none
    else none
  (SortedSet.ofList (m.places.filterMap name?)).keys

/-- Read a file as text. -/
def readText (m : Memory) (path : Path) : Except ReadError String :=
  match m.failures.find? path.location with
  | some error => .error error
  | none =>
    match m.files.find? path.location with
    | some (.text content) => .ok content
    | some .binary => .error ⟨.invalidText, "stream did not contain valid UTF-8"⟩
    | none => .error ⟨.notFound, "not found"⟩

/-- List a directory. -/
def listDirectory (m : Memory) (dir : Path) : Except ReadError (List Entry) :=
  match m.failures.find? dir.location with
  | some error => .error error
  | none =>
    if m.files.contains dir.location then .error ⟨.notDirectory, "not a directory"⟩
    else if m.hasDirectory dir.location then
      .ok ((m.childNames dir.location).map fun name =>
        { name
          path := dir.join ⟨name⟩
          kind := if m.files.contains (dir.location ++ [.name name]) then .file else .directory })
    else .error ⟨.notFound, "not found"⟩

/-- How many components the longest path to a file or directory has. -/
def height (m : Memory) : Nat := (m.places.map List.length).foldl max 0

/-- The files as the index sees them. -/
def fileSystem (m : Memory) : FileSystem :=
  { readText := m.readText
    listDirectory := m.listDirectory
    depth := m.height + 1 }

end Memory

end WikiNotes
