import WikiNotes.Naming

/-! # Options and commands

The words of the command line: the options, the commands with the options and operands that each
understands, and the ways in which arguments can be refused. -/

namespace WikiNotes

/-- Why arguments do not lead to a command that is run. -/
inductive UsageIssue where
  | unknownArgument
  /-- A value is missing or none of those that are possible. -/
  | invalidValue
  /-- An option is given twice, or together with one that excludes it. -/
  | argumentConflict
  | missingRequiredArgument
  | invalidCommand
  | missingCommand
  /-- A value is not of its type. -/
  | malformedValue
  /-- A value is given to an option that takes none. -/
  | needlessValue
  /-- Help is asked for. -/
  | helpRequested
  /-- The version is asked for. -/
  | versionRequested
  /-- Nothing at all is given. -/
  | nothingGiven
deriving DecidableEq, Repr

/-- The options. -/
inductive OptionName where
  | vault
  | config
  | json
  | yaml
  | toml
  | quiet
  | verbose
  | caseSensitive
  | spaceReplacement
  | help
  | version
  | name
  | tag
  | countsOnly
  | check
  | debounce
deriving DecidableEq, Repr

namespace OptionName

/-- The word of an option, behind two hyphens. -/
def word : OptionName → String
  | vault => "vault"
  | config => "config"
  | json => "json"
  | yaml => "yaml"
  | toml => "toml"
  | quiet => "quiet"
  | verbose => "verbose"
  | caseSensitive => "case-sensitive"
  | spaceReplacement => "space-replacement"
  | help => "help"
  | version => "version"
  | name => "name"
  | tag => "tag"
  | countsOnly => "counts-only"
  | check => "check"
  | debounce => "debounce-ms"

/-- The letter of an option, behind one hyphen. -/
def letter? : OptionName → Option Char
  | quiet => some 'q'
  | verbose => some 'v'
  | help => some 'h'
  | version => some 'V'
  | _ => none

/-- Whether an option takes a value. -/
def takesValue : OptionName → Bool
  | vault | config | spaceReplacement | name | tag | debounce => true
  | _ => false

/-- The options that are understood everywhere. -/
def globals : List OptionName :=
  [vault, config, json, yaml, toml, quiet, verbose, caseSensitive, spaceReplacement, help]

/-- The options for the format of the output, of which only one may be given. -/
def formats : List OptionName := [json, yaml, toml]

/-- The greatest number that an option may have. -/
def greatestNumber : Nat := Nat.pow 2 64 - 1

/-- The number that a text spells in decimal digits; a plus may stand in front. -/
def number? (text : String) : Option Nat :=
  let cs := text.toList
  let digits := if cs.head? = some '+' then cs.tail else cs
  if digits.isEmpty || !digits.all Char.isDigit then none
  else
    let n := digits.foldl (fun n c => n * 10 + (c.toNat - '0'.toNat)) 0
    if n ≤ greatestNumber then some n else none

/-- What is wrong with a value of an option, if anything. -/
def issueOf? (option : OptionName) (value : String) : Option UsageIssue :=
  match option with
  | vault | config => if value.isEmpty then some .invalidValue else none
  | spaceReplacement => if (SpaceRule.ofWord? value).isNone then some .invalidValue else none
  | debounce => if (number? value).isNone then some .malformedValue else none
  | _ => none

end OptionName

/-- How many operands are understood besides the options. -/
inductive OperandRule where
  | none
  /-- One or none. -/
  | optional
  /-- Exactly one. -/
  | required
deriving DecidableEq, Repr

/-- The commands by name. -/
inductive CommandName where
  | list
  | resolve
  | backlinks
  | tags
  | search
  | headings
  | graph
  | brokenLinks
  | info
  | watch
deriving DecidableEq, Repr

namespace CommandName

/-- All commands. -/
def all : List CommandName :=
  [list, resolve, backlinks, tags, search, headings, graph, brokenLinks, info, watch]

/-- The word of a command. -/
def word : CommandName → String
  | list => "list"
  | resolve => "resolve"
  | backlinks => "backlinks"
  | tags => "tags"
  | search => "search"
  | headings => "headings"
  | graph => "graph"
  | brokenLinks => "broken-links"
  | info => "info"
  | watch => "watch"

/-- The command that a word names. -/
def ofWord? (word : String) : Option CommandName := all.find? fun command => command.word = word

/-- The options of a command besides those that are understood everywhere. -/
def options : CommandName → List OptionName
  | list => [.name, .tag]
  | tags => [.countsOnly]
  | brokenLinks => [.check]
  | watch => [.debounce]
  | _ => []

/-- The operands of a command. -/
def operandRule : CommandName → OperandRule
  | resolve | backlinks | search | headings => .required
  | tags => .optional
  | _ => .none

end CommandName

end WikiNotes
