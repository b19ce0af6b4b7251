import WikiNotes.CommandLine.Option
import WikiNotes.Path

/-! # Reading arguments

Arguments are options and a command with options and operands of its own.  Options that are
understood everywhere may stand in front of the command or behind it, and count from behind if they
are given in both places.

A *level* is what stands in front of the command or behind it.  An option that takes a value waits
for it: the next argument that is no option is its value, and the next option or operand settles
it.  Settling an option checks that it has a value, that it was not given before, and that the
value is fit.  `Level.read` takes the arguments of a level one by one. -/

namespace WikiNotes

/-- The formats of the output. -/
inductive OutputFormat where
  | json
  | yaml
  | toml
deriving DecidableEq, Repr

/-- What is to be done. -/
inductive Command where
  /-- List notes, perhaps only those whose name contains a text or that carry a tag. -/
  | list (name tag : Option String)
  /-- Resolve a link target. -/
  | resolve (target : String)
  /-- List the notes that link to a note. -/
  | backlinks (note : String)
  /-- List all tags, or the notes that carry a tag. -/
  | tags (tag : Option String) (countsOnly : Bool)
  /-- Search the notes for a text. -/
  | search (query : String)
  /-- List the headings of a note. -/
  | headings (note : String)
  /-- Show the links between notes. -/
  | graph
  /-- List the links that lead nowhere; `check` asks for an exit code of its own if there are
      any. -/
  | brokenLinks (check : Bool)
  /-- Show what is counted about the vault. -/
  | info
  /-- Report changes until stopped; changes within so many milliseconds count as one. -/
  | watch (debounce : Nat)
deriving DecidableEq, Repr

/-- What the arguments ask for. -/
structure Arguments where
  vault : Option Path
  config : Option Path
  quiet : Bool
  /-- How often more messages were asked for. -/
  verbosity : Nat
  caseSensitive : Bool
  spaces : Option SpaceRule
  format : OutputFormat
  command : Command
deriving DecidableEq, Repr

/-! ### Single arguments -/

/-- What an argument looks like. -/
inductive ArgumentShape where
  /-- Two hyphens, behind which everything is an operand. -/
  | separator
  /-- An option by its word, perhaps with a value behind an equals sign. -/
  | long (word : String) (value : Option String)
  /-- Options by their letters. -/
  | short (letters : List Char)
  | operand
deriving DecidableEq, Repr

/-- What an argument looks like. -/
def ArgumentShape.of (argument : String) : ArgumentShape :=
  match argument.toList with
  | ['-', '-'] => .separator
  | '-' :: '-' :: cs =>
    let word := cs.takeWhile (· ≠ '=')
    .long (String.ofList word)
      (if word.length < cs.length then some (String.ofList (cs.drop (word.length + 1))) else none)
  | '-' :: c :: cs => .short (c :: cs)
  | _ => .operand

/-! ### Levels -/

/-- What a level understands. -/
structure LevelRule where
  options : List OptionName
  operands : OperandRule
deriving DecidableEq, Repr

/-- What has been read of a level. -/
structure Level where
  /-- The settled options with their values, in order; an option without one has an empty text. -/
  settled : List (OptionName × String) := []
  /-- The option that waits to be settled, with its value once that has been read. -/
  pending : Option (OptionName × Option String) := none
  operands : List String := []
  /-- Whether the separator has been read. -/
  separated : Bool := false
deriving DecidableEq, Repr

namespace Level

/-- Whether an option is settled. -/
def has (level : Level) (option : OptionName) : Bool :=
  level.settled.any fun entry => entry.1 = option

/-- The value of a settled option. -/
def value? (level : Level) (option : OptionName) : Option String := level.settled.lookup option

/-- How often an option is settled. -/
def count (level : Level) (option : OptionName) : Nat :=
  (level.settled.filter fun entry => entry.1 = option).length

/-- Settle an option that takes a value. -/
def settleValue (level : Level) (option : OptionName) (value : Option String) :
    Except UsageIssue Level :=
  match value with
  | none => .error .invalidValue
  | some value =>
    if level.has option then .error .argumentConflict
    else
      match option.issueOf? value with
      | some issue => .error issue
      | none => .ok { level with settled := level.settled ++ [(option, value)] }

/-- Settle the option that waits, if there is one. -/
def settlePending (level : Level) : Except UsageIssue Level :=
  match level.pending with
  | none => .ok level
  | some (option, value) => { level with pending := none }.settleValue option value

/-- Settle an option that takes no value.  Only the wish for more messages may be repeated. -/
def settleFlag (level : Level) (option : OptionName) : Except UsageIssue Level := do
  let level ← level.settlePending
  match option with
  | .help => .error .helpRequested
  | .version => .error .versionRequested
  | _ =>
    if option ≠ .verbose && level.has option then .error .argumentConflict
    else .ok { level with settled := level.settled ++ [(option, "")] }

/-- Read an option by its word. -/
def readLong (rule : LevelRule) (level : Level) (word : String) (value : Option String) :
    Except UsageIssue Level :=
  match rule.options.find? fun option => option.word = word with
  | none => .error .unknownArgument
  | some option =>
    if option.takesValue then do
      let level ← level.settlePending
      match value with
      -- A value behind an equals sign settles the option at once.
      | some value => level.settleValue option (some value)
      | none => .ok { level with pending := some (option, none) }
    else if value.isSome then .error .needlessValue
    else level.settleFlag option

/-- Read options by their letters. -/
def readShort (rule : LevelRule) (level : Level) : List Char → Except UsageIssue Level
  | [] => .ok level
  | letter :: letters =>
    match rule.options.find? fun option => option.letter? = some letter with
    | none => .error .unknownArgument
    | some option => do
      let level ← level.settleFlag option
      level.readShort rule letters

/-- Whether the next argument that is no option is the value of the option that waits. -/
def awaitsValue (level : Level) : Bool :=
  !level.separated && level.pending.any fun entry => entry.2.isNone

/-- Read an operand. -/
def readOperand (rule : LevelRule) (level : Level) (argument : String) :
    Except UsageIssue Level :=
  if rule.operands = .none || !level.operands.isEmpty then .error .unknownArgument
  else do
    let level ← level.settlePending
    .ok { level with operands := [argument] }

/-- Read an argument that is no option. -/
def readPlain (rule : LevelRule) (level : Level) (argument : String) : Except UsageIssue Level :=
  match level.pending with
  | some (option, none) =>
    if level.separated then level.readOperand rule argument
    else .ok { level with pending := some (option, some argument) }
  | _ => level.readOperand rule argument

/-- Read an argument. -/
def read (rule : LevelRule) (level : Level) (argument : String) : Except UsageIssue Level :=
  if level.separated then level.readPlain rule argument
  else
    match ArgumentShape.of argument with
    | .separator => .ok { level with separated := true }
    | .long word value => level.readLong rule word value
    | .short letters => level.readShort rule letters
    | .operand => level.readPlain rule argument

/-- Whether no two options for the format are settled. -/
def hasOneFormat (level : Level) : Bool := (OptionName.formats.filter level.has).length ≤ 1

end Level

/-! ### Commands -/

/-- What is understood behind a command. -/
def CommandName.rule (command : CommandName) : LevelRule :=
  ⟨OptionName.globals ++ command.options, command.operandRule⟩

/-- The milliseconds within which changes count as one if nothing else is asked for. -/
def Command.standardDebounce : Nat := 300

/-- The command that the options and operands behind its name make. -/
def CommandName.complete (command : CommandName) (level : Level) : Except UsageIssue Command :=
  let operand : Except UsageIssue String :=
    match level.operands with
    | [] => .error .missingRequiredArgument
    | operand :: _ => .ok operand
  match command with
  | .list => .ok (.list (level.value? .name) (level.value? .tag))
  | .resolve => operand.map .resolve
  | .backlinks => operand.map .backlinks
  | .tags => .ok (.tags level.operands.head? (level.has .countsOnly))
  | .search => operand.map .search
  | .headings => operand.map .headings
  | .graph => .ok .graph
  | .brokenLinks => .ok (.brokenLinks (level.has .check))
  | .info => .ok .info
  | .watch =>
    .ok (.watch (((level.value? .debounce).bind OptionName.number?).getD Command.standardDebounce))

/-- Read what stands behind a command. -/
def CommandName.read (command : CommandName) (arguments : List String) :
    Except UsageIssue (Level × Command) := do
  let level ← arguments.foldlM (Level.read command.rule) {}
  let level ← level.settlePending
  -- Options that exclude each other are reported before an operand that is missing.
  if !level.hasOneFormat then .error .argumentConflict
  else do
    let made ← command.complete level
    .ok (level, made)

/-! ### All arguments -/

/-- The word with which help is asked for in place of a command. -/
def helpWord : String := "help"

/-- Read what stands behind the word for help: nothing, or one command. -/
def readHelp (arguments : List String) : UsageIssue :=
  match arguments with
  | [] => .helpRequested
  | [word] =>
    if word = helpWord || (CommandName.ofWord? word).isSome then .helpRequested
    else .invalidCommand
  | _ => .invalidCommand

namespace Arguments

/-- What is understood in front of the command. -/
def frontRule : LevelRule := ⟨OptionName.globals ++ [.version], .none⟩

/-- The greatest number of times that more messages are asked for. -/
def greatestVerbosity : Nat := 255

/-- What is asked for by the options in front of a command and behind it. -/
def ofLevels (front behind : Level) (command : Command) : Arguments :=
  let value? (option : OptionName) : Option String :=
    (behind.value? option).or (front.value? option)
  let has (option : OptionName) : Bool := behind.has option || front.has option
  let verbosity :=
    if behind.has .verbose then behind.count .verbose else front.count .verbose
  { vault := (value? .vault).map Path.mk
    config := (value? .config).map Path.mk
    quiet := has .quiet
    verbosity := min greatestVerbosity verbosity
    caseSensitive := has .caseSensitive
    spaces := (value? .spaceReplacement).bind SpaceRule.ofWord?
    format := if has .yaml then .yaml else if has .toml then .toml else .json
    command }

/-- Complete the arguments whose front and command have been read. -/
def complete (front behind : Level) (command : Command) : Except UsageIssue Arguments := do
  let front ← front.settlePending
  if !front.hasOneFormat then .error .argumentConflict else .ok (ofLevels front behind command)

/-- Read arguments, given what stands in front of them. -/
def readFrom (front : Level) : List String → Except UsageIssue Arguments
  | [] => do
    let front ← front.settlePending
    if front.settled.isEmpty then .error .nothingGiven else .error .missingCommand
  | argument :: rest =>
    -- A word names a command only where neither a value is awaited nor a separator was read.
    let isWord := argument = helpWord || (CommandName.ofWord? argument).isSome
    if !front.separated && !front.awaitsValue && argument = helpWord then .error (readHelp rest)
    else
      match if front.separated || front.awaitsValue then none else CommandName.ofWord? argument with
      | some command => do
        -- What stands behind the command is refused before what stands in front of it.
        let (behind, made) ← command.read rest
        complete front behind made
      | none =>
        if (front.separated || ArgumentShape.of argument = .operand) && !front.awaitsValue then
          .error (if front.separated && isWord then .unknownArgument else .invalidCommand)
        else do
          let front ← front.read frontRule argument
          readFrom front rest

/-- Read arguments. -/
def parse (arguments : List String) : Except UsageIssue Arguments := readFrom {} arguments

end Arguments

end WikiNotes
