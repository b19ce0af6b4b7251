import Std.Time
import WikiNotes.CommandLine.Program
import WikiNotes.Storage.Memory
import WikiNotes.Vault.Event

/-! # The command line

The outer layer of the program: it gives `Program.run` the computer as a machine, prints what comes
of it, and goes on reporting changes if a vault is to be watched. -/

namespace WikiNotes.Main

/-! ### The computer -/

/-- An error of the computer as the program tells it. -/
def readError (error : IO.Error) : ReadError :=
  match error with
  | .noFileOrDirectory .. => Disk.noEntry
  | .inappropriateType _ 20 _ => Disk.noDirectory
  | .inappropriateType _ 21 _ => Disk.isADirectory
  | .permissionDenied .. => ⟨.permissionDenied, "Permission denied (os error 13)"⟩
  | error => ⟨.other, toString error⟩

/-- Run an action and keep its error as a value. -/
def attempt {α : Type} (action : IO α) : IO (Except ReadError α) :=
  try return .ok (← action)
  catch error => return .error (readError error)

/-- Read a file as text. -/
def readText (path : Path) : IO (Except ReadError String) := do
  match ← attempt (IO.FS.readBinFile path.text) with
  | .error error => return .error error
  | .ok bytes =>
    match FileContent.ofBytes bytes with
    | .text content => return .ok content
    | .binary => return .error Disk.notText

/-- The path without links and dots to what a path leads to, if something is there. -/
def canonical? (path : Path) : IO (Option Path) :=
  try return some ⟨(← IO.FS.realPath path.text).toString⟩
  catch _ => return none

/-- Whether a path leads to something. -/
def isPresent (path : Path) : IO Bool := do ((← IO.currentDir) / path.text).pathExists

/-- Whether a path leads to a directory. -/
def isDirectory (path : Path) : IO Bool := do ((← IO.currentDir) / path.text).isDir

/-- Create an empty file, or empty the one that is there. -/
def createFile (path : Path) : IO (Except ReadError Unit) :=
  attempt (IO.FS.writeFile path.text "")

/-- The time. -/
def now : IO String := do
  let time := Std.Time.DateTime.ofTimestampWithZone (← Std.Time.Timestamp.now) Std.Time.TimeZone.UTC
  return time.format "uuuu-MM-dd'T'HH:mm:ss.SSSSSSSSS" ++ "+00:00"

/-- Take up the notes in a directory and those beneath it.  Hidden directories and directories
    behind links are left out. -/
partial def snapshot (memory : Memory) (dir : Path) : IO Memory := do
  let memory := memory.makeDirectory dir
  let entries ← attempt (((← IO.currentDir) / dir.text).readDir)
  match entries with
  | .error error => return memory.fail dir error
  | .ok entries =>
    let mut memory := memory
    for entry in entries do
      let path := dir.join ⟨entry.fileName⟩
      if isHiddenName entry.fileName then continue
      let isLink := (← entry.path.symlinkMetadata).type matches .symlink
      if ← entry.path.isDir then
        unless isLink do memory ← snapshot memory path
      else if hasNoteExtension path then
        match ← readText path with
        | .ok content => memory := memory.write path (.text content)
        | .error error => memory := (memory.write path .binary).fail path error
    return memory

/-- What a vault sees of the computer, given the notes as they are. -/
def surroundings (memory : Memory) (rootIsDirectory : Bool) : IO Surroundings := do
  let time ← now
  return {
    files := memory.fileSystem
    canonical? := fun _ => none
    isDirectory := fun _ => rootIsDirectory
    time }

/-- A path from the environment, if it is set and not empty. -/
def environmentPath (name : String) : IO (Option Path) := do
  return ((← IO.getEnv name).filter (!·.isEmpty)).map Path.mk

/-- The computer as a machine. -/
def computer : IO (Machine IO) := do
  let home ← environmentPath "HOME"
  let configHome := (← environmentPath "XDG_CONFIG_HOME").filter Path.isAbsolute
  let configDir := configHome.or (home.map fun home => home.join ⟨".config"⟩)
  return {
    readText
    isPresent
    isDirectory
    canonical?
    createFile
    surroundings := fun root => do
      surroundings (← snapshot {} root) (← isDirectory root)
    home
    configFile := configDir.map fun dir => dir.join ⟨"linkvault/config.toml"⟩ }

/-! ### Watching -/

/-- Report the changes of a vault until the program is stopped. -/
partial def keepWatching (watch : Watch) (old : Memory) : IO Unit := do
  IO.sleep (UInt32.ofNat (max 1 watch.debounce))
  match watch.vault.settings.root with
  | none => return ()
  | some root =>
    let memory ← snapshot {} root
    let seen ← surroundings memory true
    let vault := watch.vault.handleChanges seen (memory.changesSince old)
    if vault.generation ≠ watch.vault.generation then
      IO.print (watch.format.write true vault.changeReport)
      (← IO.getStdout).flush
    keepWatching { watch with vault } memory

/-- Print what a run comes to, and go on if a vault is to be watched. -/
def conclude (outcome : Outcome) : IO UInt32 := do
  for message in outcome.messages do IO.eprintln message
  IO.print outcome.output
  (← IO.getStdout).flush
  if let some watch := outcome.watch then
    if let some root := watch.vault.settings.root then
      keepWatching watch (← snapshot {} root)
  return UInt32.ofNat outcome.exitCode

end WikiNotes.Main

/-- Run the program. -/
def main (arguments : List String) : IO UInt32 := do
  let machine ← WikiNotes.Main.computer
  WikiNotes.Main.conclude (← WikiNotes.Program.run machine arguments)
