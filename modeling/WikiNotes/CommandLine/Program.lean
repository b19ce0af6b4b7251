import WikiNotes.CommandLine.Answer
import WikiNotes.Config.Basic
import WikiNotes.Storage.Disk

/-! # The program

`Program.run` is the whole program: it reads the arguments and the configuration, starts the log
file, opens the vault, and lets it answer the command.  What it needs of the computer it runs on is
a `Machine`, in whatever monad that works; `Machine.ofDisk` is one on a disk that is only described,
so that the program can be reasoned about. -/

namespace WikiNotes

/-- What the program asks of the computer that it runs on. -/
structure Machine (m : Type → Type) where
  /-- Read a file as text. -/
  readText : Path → m (Except ReadError String)
  /-- Whether a path leads to something. -/
  isPresent : Path → m Bool
  /-- Whether a path leads to a directory. -/
  isDirectory : Path → m Bool
  /-- The path without links and dots to what a path leads to, if something is there. -/
  canonical? : Path → m (Option Path)
  /-- Create an empty file, or empty the one that is there. -/
  createFile : Path → m (Except ReadError Unit)
  /-- What a vault with a root sees of the computer now. -/
  surroundings : Path → m Surroundings
  /-- The home directory. -/
  home : Option Path
  /-- Where the configuration is if nothing else is said. -/
  configFile : Option Path

/-- The machine that is a disk, at a time. -/
def Machine.ofDisk (home configFile : Option Path) (time : String) : Machine (StateM Disk) where
  readText path := return (← get).readText path
  isPresent path := return (← get).isPresent path
  isDirectory path := return (← get).isDirectory path
  canonical? path := return (← get).canonical? path
  createFile path := do
    match (← get).create path with
    | .ok disk =>
      set disk
      return .ok ()
    | .error error => return .error error
  surroundings _ := do
    let disk ← get
    return {
      files := disk.fileSystem
      canonical? := disk.canonical?
      isDirectory := disk.isDirectory
      time }
  home
  configFile

/-- A vault that is to be watched after the first report. -/
structure Watch where
  vault : Vault
  format : OutputFormat
  /-- The milliseconds within which changes count as one. -/
  debounce : Nat

/-- What a run of the program leads to. -/
structure Outcome where
  exitCode : Nat
  /-- What is printed. -/
  output : String := ""
  /-- What is said besides, line by line. -/
  messages : List String := []
  watch : Option Watch := none

namespace Program

/-- The name and version of the program. -/
def versionText : String := "linkvault 0.1.0"

/-- How the program is used, line by line. -/
def helpLines : List String :=
  ["Wikilink, backlink, tag and search index for markdown vaults", "",
    "Usage: linkvault [OPTIONS] <COMMAND>", "", "Commands:"]
    ++ CommandName.all.map (fun command => "  " ++ command.word)
    ++ ["  help", "", "Options:"]
    ++ OptionName.globals.map fun option => "  --" ++ option.word

/-- What is said about arguments that are refused. -/
def usageMessage : UsageIssue → String
  | .unknownArgument => "error: unexpected argument"
  | .invalidValue => "error: a value is missing or not one of the possible values"
  | .argumentConflict => "error: an argument cannot be used twice or with another one"
  | .missingRequiredArgument => "error: a required argument was not provided"
  | .invalidCommand => "error: unrecognized subcommand"
  | .missingCommand => "error: a subcommand is required but was not provided"
  | .malformedValue => "error: invalid value"
  | .needlessValue => "error: unexpected value"
  | .helpRequested => ""
  | .versionRequested => ""
  | .nothingGiven => ""

/-- The exit code for arguments that are refused. -/
def usageCode : Nat := 2

/-- What a run with arguments that lead to no command comes to. -/
def refuse (issue : UsageIssue) : Outcome :=
  match issue with
  | .helpRequested => { exitCode := 0, output := String.join (helpLines.map (· ++ "\n")) }
  | .versionRequested => { exitCode := 0, output := versionText ++ "\n" }
  | .nothingGiven => { exitCode := usageCode, messages := helpLines }
  | issue => { exitCode := usageCode, messages := [usageMessage issue] }

/-- What a run that fails comes to. -/
def fail (quiet : Bool) (error : VaultError) : Outcome :=
  { exitCode := error.exitCode
    messages := if quiet then [] else ["Error: " ++ error.message] }

/-- What a run with an answer comes to. -/
def succeed (arguments : Arguments) (vault : Vault) (answer : Answer) : Outcome :=
  { exitCode := answer.exitCode
    output := arguments.format.write answer.isLine answer.report
    messages := if arguments.quiet then [] else answer.messages
    watch :=
      match arguments.command with
      | .watch debounce => some { vault, format := arguments.format, debounce }
      | _ => none }

section Monadic

variable {m : Type → Type} [Monad m]

/-- Read the configuration at a path. -/
def readConfig (machine : Machine m) (path : Path) : ExceptT VaultError m Config := do
  match ← (machine.readText path : m _) with
  | .error error => throw (.unreadableConfig path error)
  | .ok text =>
    match Config.ofText? text with
    | some config => return config
    | none => throw .malformedConfig

/-- The configuration that is asked for, or the one at its usual place if there is one. -/
def findConfig (machine : Machine m) (asked : Option Path) : ExceptT VaultError m Config := do
  match asked, machine.configFile with
  | some path, _ => readConfig machine path
  | none, some path =>
    if ← (machine.isPresent path : m _) then readConfig machine path else return {}
  | none, none => return {}

/-- Start the log file, if there is to be one. -/
def startLog (machine : Machine m) (logging : LogSettings) : ExceptT VaultError m Unit := do
  match logging.file with
  | none => return ()
  | some path =>
    match ← (machine.createFile path : m _) with
    | .ok () => return ()
    | .error error => throw (.uncreatableLog path error)

/-- The settings of a vault, with those of the arguments in front of the configured ones. -/
def chooseSettings (machine : Machine m) (arguments : Arguments) (config : Config) :
    m Settings := do
  let settings := config.settings machine.home arguments.vault
  let canonical ← settings.root.mapM machine.canonical?
  let settings := settings.canonicalized fun _ => canonical.join
  return { settings with
    policy :=
      { caseSensitive := arguments.caseSensitive || settings.policy.caseSensitive
        spaces := arguments.spaces.getD settings.policy.spaces } }

/-- Open the vault that is asked for and let it answer. -/
def answer (machine : Machine m) (arguments : Arguments) :
    ExceptT VaultError m (Vault × Answer) := do
  -- A configuration that cannot be read and a log that cannot be written come before the vault.
  let config ← findConfig machine arguments.config
  startLog machine config.logging
  let settings ← (chooseSettings machine arguments config : m _)
  match settings.root with
  | none => throw .notConfigured
  | some root =>
    if ← (machine.isDirectory root : m _) then
      let surroundings ← (machine.surroundings root : m _)
      let vault := Vault.openOnDisk surroundings settings
      match vault.answer surroundings arguments.command with
      | .ok answer => return (vault, answer)
      | .error error => throw error
    else throw (.vaultNotFound root)

/-- Run the program with its arguments. -/
def run (machine : Machine m) (arguments : List String) : m Outcome := do
  match Arguments.parse arguments with
  | .error issue => return refuse issue
  | .ok arguments =>
    match ← (answer machine arguments).run with
    | .ok (vault, answer) => return succeed arguments vault answer
    | .error error => return fail arguments.quiet error

end Monadic

end Program

end WikiNotes
