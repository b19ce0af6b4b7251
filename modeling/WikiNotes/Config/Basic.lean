import WikiNotes.Toml.Document
import WikiNotes.Vault.Settings

/-! # The configuration file

A configuration is a TOML text with three tables, each of which may be missing: `vault` with the
root, `links` with the naming policy, and `logging`.  Keys that are not known are passed over, but
a known key must have a value of its type.  A table of known keys may also be written as an array
of their values in order. -/

namespace WikiNotes

/-- What is logged, and where to. -/
structure LogSettings where
  /-- The level of the messages on the terminal. -/
  level : String := "warn"
  /-- The log file, if there is one. -/
  file : Option Path := none
  /-- The level of the messages in the log file. -/
  fileLevel : Option String := none
deriving DecidableEq, Repr

/-- A configuration. -/
structure Config where
  /-- The root as it is written. -/
  root : Option Path := none
  policy : NamingPolicy := {}
  logging : LogSettings := {}
deriving DecidableEq, Repr

namespace Config

open Toml

/-! ### Values of a type -/

/-- The fields of a value that is read as a table with the given keys, by key.  Of an array the
    items are the fields in the order of the keys; a date has none of them. -/
def fields? (keys : List String) : Node → Option (String → Option Node)
  | .table _ entries => some (Entries.find? entries)
  | .dateTime _ => some fun _ => none
  | .array items => some (Entries.find? (keys.zip items))
  | .tables elements => some (Entries.find? (keys.zip (elements.map (.table .opened))))
  | _ => none

/-- A text. -/
def text? : Node → Option String
  | .string text => some text
  | _ => none

/-- A path. -/
def path? (node : Node) : Option Path := (text? node).map Path.mk

/-- A truth value. -/
def boolean? : Node → Option Bool
  | .boolean b => some b
  | _ => none

/-- Whether a value is an array or table without content. -/
def isVacant : Node → Bool
  | .array items => items.isEmpty
  | .table _ entries => entries.isEmpty
  | .tables elements => elements.isEmpty
  | _ => false

/-- A rule on blanks: its word, or a table with the word as its first key and nothing for it.  In
    braces it must be the only key. -/
def spaceRule? : Node → Option SpaceRule
  | .string word => SpaceRule.ofWord? word
  | .table kind ((word, node) :: others) =>
    if isVacant node && (kind != .inlined || others.isEmpty) then SpaceRule.ofWord? word else none
  | _ => none

/-- A field of its type, or the default if it is missing. -/
def fieldOr {α : Type} (fields : String → Option Node) (key : String) (default : α)
    (read? : Node → Option α) : Option α :=
  match fields key with
  | some node => read? node
  | none => some default

/-! ### Tables -/

/-- The root in the table of the vault. -/
def vaultRoot? (node : Node) : Option (Option Path) := do
  let fields ← fields? ["root"] node
  fieldOr fields "root" none fun node => (path? node).map some

/-- The naming policy in the table of the links. -/
def policy? (node : Node) : Option NamingPolicy := do
  let fields ← fields? ["case_sensitive", "space_replacement"] node
  let caseSensitive ← fieldOr fields "case_sensitive" false boolean?
  let spaces ← fieldOr fields "space_replacement" .keep spaceRule?
  some { caseSensitive, spaces }

/-- The settings in the table of the logging. -/
def logSettings? (node : Node) : Option LogSettings := do
  let fields ← fields? ["level", "file", "file_level"] node
  let level ← fieldOr fields "level" "warn" text?
  let file ← fieldOr fields "file" none fun node => (path? node).map some
  let fileLevel ← fieldOr fields "file_level" none fun node => (text? node).map some
  some { level, file, fileLevel }

/-- The configuration that a text is, if it is well-formed. -/
def ofText? (text : String) : Option Config := do
  let entries ← Entries.ofText? text
  let root ← fieldOr (Entries.find? entries) "vault" none vaultRoot?
  let policy ← fieldOr (Entries.find? entries) "links" {} policy?
  let logging ← fieldOr (Entries.find? entries) "logging" {} logSettings?
  some { root, policy, logging }

/-! ### Settings -/

/-- A path in which a leading tilde stands for the home directory. -/
def expandHome (home : Option Path) (path : Path) : Path :=
  match home, path.stripBase? ⟨"~"⟩ with
  | some home, some rest => home.join rest
  | _, _ => path

/-- The settings of the vault that is configured.  A root that is given otherwise counts in place of
    the configured one, and is taken as it is written. -/
def settings (config : Config) (home otherRoot : Option Path) : Settings :=
  -- Only a configured root may be written with a tilde.
  { root := otherRoot.or (config.root.map (expandHome home)), policy := config.policy }

end Config

end WikiNotes
