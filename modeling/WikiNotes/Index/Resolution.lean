import WikiNotes.Index.Basic

/-! # Where links lead

A link leads to the visible note whose canonical name is that of the link's target.  There is no
other way to find a note: neither paths nor similar names count.  A target with the extension of an
image, a sound, a film or a printed page is meant for such a file and not for a note. -/

namespace WikiNotes

/-- A note that a reference leads to, with the heading in it if there is one. -/
structure Resolved where
  record : Record
  heading : Option Heading
deriving DecidableEq

namespace Index

/-- The visible note that a target names. -/
def resolve? (index : Index) (target : String) : Option Record :=
  let trimmed := Text.trim target
  if trimmed.isEmpty then none else index.named? (index.policy.canonicalName trimmed)

/-- The note and heading that a reference names; an unknown heading is none. -/
def resolveReference? (index : Index) (reference : String) : Option Resolved :=
  let (name, heading) := Link.splitTarget reference
  (index.resolve? name).map fun record =>
    { record, heading := heading.bind (Heading.find? record.note.headings) }

end Index

/-- The extensions of files that are no notes but are linked to, in lower case. -/
def mediaExtensions : List String :=
  ["png", "jpg", "jpeg", "gif", "webp", "svg", "bmp", "mp3", "wav", "ogg", "m4a", "flac", "mp4",
    "webm", "mov", "avi", "pdf"]

/-- Whether a target names a file that is no note, by what stands behind its last dot. -/
def isMediaTarget (target : String) : Bool :=
  let cs := target.toList
  let extension := (cs.reverse.takeWhile (· ≠ '.')).reverse
  cs.contains '.' && mediaExtensions.contains (String.ofList (Text.lowerChars extension))

end WikiNotes
