import WikiNotes.CommandLine.Arguments
import WikiNotes.Report.Json
import WikiNotes.Report.Toml
import WikiNotes.Report.Yaml
import WikiNotes.Vault.Basic

/-! # What commands answer

A command asks a vault and answers with a report, messages for the user, and an exit code.  Paths in
reports are relative to the root. -/

namespace WikiNotes

open Report (Value)

/-- What a command answers. -/
structure Answer where
  report : Value
  /-- What is said besides the report. -/
  messages : List String := []
  exitCode : Nat := 0
  /-- Whether the report is one of a sequence and written in one line where that is possible. -/
  isLine : Bool := false

/-! ### Parts of reports -/

/-- A field that is there only if its value is. -/
def optionalField {α : Type} (key : String) (make : α → Value) (value : Option α) :
    List (String × Value) :=
  match value with
  | some value => [(key, make value)]
  | none => []

/-- A path in a report. -/
def Vault.pathValue (vault : Vault) (path : Path) : Value := .text (vault.relativePath path).text

/-- A note in a report. -/
def Vault.noteValue (vault : Vault) (name : String) (path : Path) : Value :=
  .record [("name", .text name), ("path", vault.pathValue path)]

/-- The note of a record in a report. -/
def Vault.recordValue (vault : Vault) (record : Record) : Value :=
  vault.noteValue record.displayName record.path

/-- A heading in a report. -/
def Heading.value (heading : Heading) : Value :=
  .record [("text", .text heading.text), ("level", .number heading.level),
    ("line", .number heading.line), ("slug", .text heading.slug)]

/-- A directory that could not be listed, in a report. -/
def ScanIssue.value (issue : ScanIssue) : Value :=
  .record [("path", .text issue.path.text), ("message", .text issue.message)]

/-! ### Commands -/

namespace Vault

/-- The notes whose name contains a text and that carry a tag, as far as these are given. -/
def listed (vault : Vault) (name tag : Option String) : List Record :=
  let records :=
    match name with
    | some partialName => vault.index.suggest partialName
    | none => vault.documents
  match tag with
  | some tag =>
    let places := (vault.notesWithTag tag).map Path.location
    records.filter fun record => places.contains record.place
  | none => records

/-- The answer to a wish for a list of notes. -/
def answerList (vault : Vault) (name tag : Option String) : Answer :=
  let records := vault.listed name tag
  { report := .record [("notes", .list (records.map vault.recordValue)),
      ("total", .number records.length)]
    messages := if records.isEmpty then ["No matching notes"] else [] }

/-- The answer to a wish for the note and heading that a target names. -/
def answerResolve (vault : Vault) (target : String) : Except VaultError Answer :=
  let (name, heading) := Link.splitTarget target
  match vault.index.resolveReference? target with
  | none => .error (.noteNotFound name)
  | some resolved =>
    let missing := if resolved.heading.isSome then none else heading
    .ok { report := .record <|
      [("query", .text target), ("resolved", vault.pathValue resolved.record.path)]
        ++ optionalField "heading" Heading.value resolved.heading
        ++ optionalField "missing_heading" .text missing }

/-- The answer to a wish for the notes that link to a note. -/
def answerBacklinks (vault : Vault) (note : String) : Except VaultError Answer := do
  let record ← vault.locateNote note
  .ok { report := .record [("note", vault.recordValue record),
    ("backlinks", .list ((vault.index.backlinks record.place).map vault.recordValue))] }

/-- A tag in a report, with its notes if they are to be shown. -/
def tagValue (vault : Vault) (countsOnly : Bool) (tag : TagInfo) : Value :=
  let notes := if countsOnly then none else some tag.notes
  .record <| [("tag", .text tag.name), ("count", .number tag.count)]
    ++ optionalField "notes" (fun paths => .list (paths.map vault.pathValue)) notes

/-- The answer to a wish for all tags, or for the notes that carry a tag. -/
def answerTags (vault : Vault) (tag : Option String) (countsOnly : Bool) : Answer :=
  match tag with
  | some tag =>
    -- The report repeats the tag as it was asked for, all number signs in front aside.
    let bare := String.ofList (tag.toList.dropWhile (· = '#'))
    { report := .record [("tag", .text bare),
        ("notes", .list ((vault.notesWithTag tag).map vault.pathValue))] }
  | none =>
    { report := .record
        [("tags", .list (vault.index.tags.all.map (vault.tagValue countsOnly)))] }

/-- The answer to a search. -/
def answerSearch (s : Surroundings) (vault : Vault) (query : String) : Answer :=
  let hits := (vault.index.search s.files query none).hits
  { report := .record [("query", .text query),
      ("results", .list (hits.map fun hit => vault.noteValue hit.displayName hit.path)),
      ("total", .number hits.length)] }

/-- The answer to a wish for the headings of a note. -/
def answerHeadings (vault : Vault) (note : String) : Except VaultError Answer := do
  let record ← vault.locateNote note
  .ok { report := .record [("note", vault.recordValue record),
    ("headings", .list (record.note.headings.map Heading.value))] }

/-- The answer to a wish for the graph. -/
def answerGraph (vault : Vault) : Answer :=
  let graph := vault.index.graph
  let edgeValue (edge : Edge) : Value :=
    .record [("from", vault.pathValue edge.source), ("to", vault.pathValue edge.target)]
  { report := .record [("nodes", .list (graph.nodes.map vault.recordValue)),
      ("edges", .list (graph.edges.map edgeValue))] }

/-- The exit code if there are broken links and this was to be checked. -/
def brokenLinksCode : Nat := 10

/-- The answer to a wish for the broken links. -/
def answerBrokenLinks (vault : Vault) (check : Bool) : Answer :=
  let broken := vault.index.brokenLinks
  let linkValue (link : BrokenLink) : Value :=
    .record [("source", vault.pathValue link.source), ("target", .text link.target),
      ("line", .number link.line)]
  { report := .record [("broken", .list (broken.map linkValue)), ("total", .number broken.length)]
    exitCode := if check && !broken.isEmpty then brokenLinksCode else 0 }

/-- The answer to a wish for what is counted about the vault. -/
def answerInfo (vault : Vault) : Answer :=
  let stats := vault.stats
  let policy := vault.settings.policy
  let issues := if stats.scanIssues.isEmpty then none else some stats.scanIssues
  { report := .record <|
      [("vault_path", .text (stats.root.getD ⟨""⟩).text),
        ("case_sensitive", .flag policy.caseSensitive),
        ("space_replacement", .text policy.spaces.word),
        ("note_count", .number stats.notes),
        ("tag_count", .number stats.tags),
        ("link_count", .number stats.links),
        ("broken_link_count", .number vault.index.brokenLinks.length)]
        ++ optionalField "last_rebuild" .text stats.rebuiltAt
        ++ optionalField "scan_issues" (fun issues => .list (issues.map ScanIssue.value)) issues }

/-- The report on a vault that is being watched. -/
def changeReport (vault : Vault) : Value :=
  let stats := vault.stats
  .record [("generation", .number vault.generation), ("notes", .number stats.notes),
    ("tags", .number stats.tags), ("links", .number stats.links)]

/-- The first answer to a wish to watch the vault. -/
def answerWatch (s : Surroundings) (vault : Vault) : Except VaultError Answer := do
  let _ ← vault.watchableRoot s
  .ok { report := vault.changeReport, messages := ["Watching for changes (Ctrl-C to stop)"],
        isLine := true }

/-- What a command answers about a vault. -/
def answer (s : Surroundings) (vault : Vault) : Command → Except VaultError Answer
  | .list name tag => .ok (vault.answerList name tag)
  | .resolve target => vault.answerResolve target
  | .backlinks note => vault.answerBacklinks note
  | .tags tag countsOnly => .ok (vault.answerTags tag countsOnly)
  | .search query => .ok (vault.answerSearch s query)
  | .headings note => vault.answerHeadings note
  | .graph => .ok vault.answerGraph
  | .brokenLinks check => .ok (vault.answerBrokenLinks check)
  | .info => .ok vault.answerInfo
  | .watch _ => vault.answerWatch s

end Vault

/-! ### Writing -/

/-- A report in a format, as it is printed. -/
def OutputFormat.write (format : OutputFormat) (isLine : Bool) (report : Value) : String :=
  let text :=
    match format with
    | .json => if isLine then Report.Json.compact report else Report.Json.pretty report
    | .yaml => Report.Yaml.document report
    | .toml => Report.Toml.document report
  text ++ "\n"

end WikiNotes
