import WikiNotes.Storage.FileSystem
import WikiNotes.Text.Blank

/-! # A disk

`Disk` describes a disk: a tree of directories, files and symbolic links.  `walk?` follows a path
through it the way a system call does: dots are steps of their own, a link is replaced by its
target, whatever is not last on the way must be a directory, and after forty links the walk is
given up.  All questions about a path start with that walk. -/

namespace WikiNotes

/-- What is at a place of a disk. -/
inductive DiskNode where
  | file (content : FileContent)
  | directory
  /-- A link to another path. -/
  | link (target : Path)
deriving DecidableEq

/-- A place of a disk: the names that lead to it from the root. -/
abbrev DiskPlace := List String

/-- A disk, and the directory from which relative paths start. -/
structure Disk where
  nodes : SortedMap DiskPlace DiskNode := .empty
  workingDirectory : DiskPlace := []
deriving DecidableEq

namespace Disk

/-! ### What can go wrong -/

/-- Nothing is at a place. -/
def noEntry : ReadError := ⟨.notFound, "No such file or directory (os error 2)"⟩

/-- A file is at a place where a directory is needed. -/
def noDirectory : ReadError := ⟨.notDirectory, "Not a directory (os error 20)"⟩

/-- A directory is at a place where a file is needed. -/
def isADirectory : ReadError := ⟨.isDirectory, "Is a directory (os error 21)"⟩

/-- More links had to be followed than are allowed. -/
def tooManyLinks : ReadError := ⟨.linkLoop, "Too many levels of symbolic links (os error 40)"⟩

/-- A file whose bytes are not UTF-8. -/
def notText : ReadError := ⟨.invalidText, "stream did not contain valid UTF-8"⟩

/-- A path that the system does not accept. -/
def unfitPath : ReadError :=
  ⟨.invalidPath, "file name contained an unexpected NUL byte"⟩

/-- A path or a name that is longer than the system accepts. -/
def nameTooLong : ReadError := ⟨.nameTooLong, "File name too long (os error 36)"⟩

/-- The bytes that a name may have. -/
def maxNameSize : Nat := 255

/-- The bytes that a path may have. -/
def maxPathSize : Nat := 4095

/-! ### Following a path -/

/-- What is at a place; at the root there is always a directory. -/
def node? (disk : Disk) (place : DiskPlace) : Option DiskNode :=
  if place.isEmpty then some .directory else disk.nodes.find? place

/-- The steps that a path spells: names and dots.  A slash at its end is a step to itself, which
    asks for a directory. -/
def steps (path : Path) : List String :=
  let parts := (Path.splitSlash path.text.toList).filter (!·.isEmpty)
  let ending := if path.text.toList.getLast? = some '/' then [['.']] else []
  (parts ++ ending).map String.ofList

/-- Where a path starts, given the directory for relative ones. -/
def origin (cwd : DiskPlace) (path : Path) : DiskPlace := if path.isAbsolute then [] else cwd

/-- How far steps lead. -/
inductive Progress where
  /-- To a place where something is. -/
  | arrived (place : DiskPlace)
  /-- To a last name that is not there, in a directory that is. -/
  | absent (dir : DiskPlace) (name : String)
  /-- To a link in a directory, with steps left behind it. -/
  | crossing (dir : DiskPlace) (target : Path) (rest : List String)
  | failed (error : ReadError)

/-- Take steps from a place until they end or cross a link.  A link at the very end is crossed only
    if `follow` says so. -/
def advance (disk : Disk) (follow : Bool) : DiskPlace → List String → Progress
  | place, [] => .arrived place
  | place, step :: rest =>
    match disk.node? place with
    | some .directory =>
      if step = "." then advance disk follow place rest
      else if step = ".." then advance disk follow place.dropLast rest
      else if maxNameSize < step.utf8ByteSize then .failed nameTooLong
      else
        match disk.node? (place ++ [step]) with
        -- A last name that is not there may still be created.
        | none => if rest.isEmpty then .absent place step else .failed noEntry
        | some (.link target) =>
          if rest.isEmpty && !follow then .arrived (place ++ [step])
          else .crossing place target rest
        | some _ => advance disk follow (place ++ [step]) rest
    | _ => .failed noDirectory

/-- Take steps from a place, crossing no more than the given number of links. -/
def walkFrom (disk : Disk) (follow : Bool) : (links : Nat) → DiskPlace → List String → Progress
  | links, place, steps =>
    match disk.advance follow place steps with
    | .crossing dir target rest =>
      -- A relative target starts from the directory that the link is in.
      match links with
      | 0 => .failed tooManyLinks
      | links + 1 => walkFrom disk follow links (origin dir target) (Disk.steps target ++ rest)
    | progress => progress

/-- How many links a walk may cross. -/
def maxLinks : Nat := 40

/-- Follow a path. -/
def walk (disk : Disk) (path : Path) (follow : Bool) : Progress :=
  if path.text.toList.contains '\x00' then .failed unfitPath
  else if path.text.isEmpty then .failed noEntry
  else if maxPathSize < path.text.utf8ByteSize then .failed nameTooLong
  else disk.walkFrom follow maxLinks (origin disk.workingDirectory path) (steps path)

/-- The place that a path leads to, links included. -/
def resolve (disk : Disk) (path : Path) : Except ReadError DiskPlace :=
  match disk.walk path true with
  | .arrived place => .ok place
  | .failed error => .error error
  | _ => .error noEntry

/-- What is at the place that a path leads to. -/
def look (disk : Disk) (path : Path) : Except ReadError DiskNode := do
  let place ← disk.resolve path
  match disk.node? place with
  | some node => .ok node
  | none => .error noEntry

/-! ### Questions about a path -/

/-- Whether a path leads to something. -/
def isPresent (disk : Disk) (path : Path) : Bool := (disk.look path).toOption.isSome

/-- Whether a path leads to a directory. -/
def isDirectory (disk : Disk) (path : Path) : Bool :=
  (disk.look path).toOption == some .directory

/-- The absolute path of a place. -/
def pathOf (place : DiskPlace) : Path :=
  ⟨if place.isEmpty then "/" else place.foldl (fun text name => text ++ "/" ++ name) ""⟩

/-- The path without links and dots to the place that a path leads to, if something is there. -/
def canonical? (disk : Disk) (path : Path) : Option Path :=
  (disk.resolve path).toOption.map pathOf

/-- Read a file as text. -/
def readText (disk : Disk) (path : Path) : Except ReadError String := do
  match ← disk.look path with
  | .file (.text content) => .ok content
  | .file .binary => .error notText
  | _ => .error isADirectory

/-- The names in the directory at a place. -/
def childNames (disk : Disk) (place : DiskPlace) : List String :=
  disk.nodes.keys.filterMap fun other =>
    if place.isPrefixOf other && other.length == place.length + 1 then other.getLast? else none

/-- The entry of a directory at a place that has a name.  A link counts as a file, unless it leads
    to a directory: then it is no entry, so that directories are reached in one way only. -/
def entry? (disk : Disk) (dir : Path) (place : DiskPlace) (name : String) : Option Entry :=
  let path := dir.join ⟨name⟩
  match disk.node? (place ++ [name]) with
  | some .directory => some ⟨name, path, .directory⟩
  | some (.link _) => if disk.isDirectory path then none else some ⟨name, path, .file⟩
  | some (.file _) => some ⟨name, path, .file⟩
  | none => none

/-- List a directory. -/
def listDirectory (disk : Disk) (dir : Path) : Except ReadError (List Entry) := do
  let place ← disk.resolve dir
  match disk.node? place with
  | some .directory => .ok ((disk.childNames place).filterMap (disk.entry? dir place))
  | _ => .error noDirectory

/-! ### Changes -/

/-- The places on the way to a place, itself left out. -/
def parents (place : DiskPlace) : List DiskPlace :=
  ((List.range place.length).map place.take).filter (!·.isEmpty)

/-- Put something at a place, with the directories that lead there. -/
def put (disk : Disk) (place : DiskPlace) (node : DiskNode) : Disk :=
  let withParents := (parents place).foldl (fun nodes parent =>
    if nodes.contains parent then nodes else nodes.insert parent .directory) disk.nodes
  { disk with nodes := withParents.insert place node }

/-- The place that a path spells, without following links. -/
def placeOf (path : Path) : DiskPlace :=
  path.location.filterMap fun
    | .name text => some text
    | _ => none

/-- Put something at an absolute path, with the directories that lead there. -/
def putAt (disk : Disk) (path : Path) (node : DiskNode) : Disk := disk.put (placeOf path) node

/-- Write a file at an absolute path: where a path leads to a place that is there, links included,
    the content goes there. -/
def write (disk : Disk) (path : Path) (content : FileContent) : Disk :=
  match disk.resolve path with
  | .ok place => disk.put place (.file content)
  | .error _ => disk.putAt path (.file content)

/-- Take away what is at an absolute path and everything beneath it. -/
def delete (disk : Disk) (path : Path) : Disk :=
  { disk with nodes := disk.nodes.filter fun place _ => !(placeOf path).isPrefixOf place }

/-- Create an empty file, or empty the one that is there.  A path with a slash at its end spells a
    directory and cannot be created. -/
def create (disk : Disk) (path : Path) : Except ReadError Disk :=
  let bare := Text.dropEndWhile (· = '/') path.text.toList
  let spellsDirectory := bare.length < path.text.toList.length
  let emptied (place : DiskPlace) : Except ReadError Disk :=
    if spellsDirectory then .error isADirectory else .ok (disk.put place (.file (.text "")))
  if spellsDirectory && bare.isEmpty then .error isADirectory
  else
    match disk.walk ⟨String.ofList bare⟩ true with
    -- A file that is there is emptied, one that is not is made; a directory is neither.
    | .arrived place =>
      if disk.node? place = some .directory then .error isADirectory else emptied place
    | .absent dir name => emptied (dir ++ [name])
    | .failed error => .error error
    | .crossing .. => .error tooManyLinks

/-- How many names the longest path to a place has. -/
def height (disk : Disk) : Nat := (disk.nodes.keys.map List.length).foldl max 0

/-- The disk as the index sees it. -/
def fileSystem (disk : Disk) : FileSystem :=
  { readText := disk.readText
    listDirectory := disk.listDirectory
    depth := disk.height + 1 }

end Disk

end WikiNotes
