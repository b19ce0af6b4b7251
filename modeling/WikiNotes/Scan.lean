import WikiNotes.Storage.FileSystem

/-! # Which files are notes

A note is a file with the extension of a note, at a path beneath the root on which nothing is
hidden.  `isEligible` tests that of a path, and `scan` finds the notes of a file system by going
through its directories.  A directory that cannot be listed is an issue of the scan and does not
stop it. -/

namespace WikiNotes

/-! ### Eligible paths -/

/-- The extensions of notes, in lower case only. -/
def noteExtensions : List String := ["md", "markdown"]

/-- Whether a path has the extension of a note. -/
def hasNoteExtension (path : Path) : Bool :=
  path.extension?.any fun extension => noteExtensions.contains extension

/-- Whether a name hides what bears it. -/
def isHiddenName (name : String) : Bool := name.toList.head? == some '.'

/-- Whether a component is a name that hides nothing. -/
def isShown : Component → Bool
  | .name text => !isHiddenName text
  | _ => false

/-- The components of a path beneath a root, if it lies there and nothing on the way is hidden. -/
def shownBeneath? (root path : Path) : Option Location :=
  if path.isUnder root then
    -- What hides the root itself does not hide the notes beneath it.
    let beneath := path.location.drop root.location.length
    if beneath.all isShown then some beneath else none
  else none

/-- Whether a path is that of a note of a root. -/
def isEligible (root path : Path) : Bool :=
  (shownBeneath? root path).any (!·.isEmpty) && hasNoteExtension path

/-- Whether a path is that of a directory that may hold notes of a root. -/
def isEligibleDirectory (root path : Path) : Bool := (shownBeneath? root path).isSome

/-! ### Scanning -/

/-- A directory that could not be listed. -/
structure ScanIssue where
  path : Path
  message : String
deriving DecidableEq, Repr

/-- What a scan found. -/
structure ScanReport where
  /-- The notes. -/
  notes : List Path
  /-- The directories that could not be listed. -/
  issues : List ScanIssue
deriving DecidableEq, Repr

namespace ScanReport

/-- The report of a scan that found nothing. -/
def empty : ScanReport := ⟨[], []⟩

/-- Two reports taken together. -/
def append (a b : ScanReport) : ScanReport := ⟨a.notes ++ b.notes, a.issues ++ b.issues⟩

/-- A report in the order of the paths. -/
def sorted (report : ScanReport) : ScanReport :=
  ⟨sortBy Path.order report.notes, sortBy (fun a b => a.path.order b.path) report.issues⟩

end ScanReport

/-- What an entry of a directory adds to a scan, given what is found in a directory. -/
def scanEntry (inDirectory : Path → ScanReport) (entry : Entry) : ScanReport :=
  if isHiddenName entry.name then .empty
  else
    match entry.kind with
    | .directory => inDirectory entry.path
    | .file => if hasNoteExtension entry.path then ⟨[entry.path], []⟩ else .empty

/-- What is found in a directory, with no more than the given number of directories one inside
    another. -/
def scanFrom (files : FileSystem) : (depth : Nat) → Path → ScanReport
  | 0, _ => .empty
  | depth + 1, dir =>
    match files.listDirectory dir with
    | .error error => ⟨[], [⟨dir, error.message⟩]⟩
    | .ok entries =>
      entries.foldr (fun entry report => (scanEntry (scanFrom files depth) entry).append report)
        .empty

/-- The notes in a directory and the directories beneath it that cannot be listed, each in the
    order of their paths. -/
def scan (files : FileSystem) (dir : Path) : ScanReport :=
  (scanFrom files files.depth dir).sorted

end WikiNotes
