import WikiNotes.Storage.FileSystem

/-! # What a vault cannot do

The index itself never fails.  What can fail is to find the vault or a note that was asked for, to
read the configuration, and to write the log. -/

namespace WikiNotes

/-- Why a request fails. -/
inductive VaultError where
  /-- No note has the name that was asked for. -/
  | noteNotFound (name : String)
  /-- No root is set. -/
  | notConfigured
  /-- The root is not a directory. -/
  | vaultNotFound (root : Path)
  /-- The front matter of a note is malformed. -/
  | invalidFrontMatter (path : Path)
  /-- The configuration cannot be read. -/
  | unreadableConfig (path : Path) (cause : ReadError)
  /-- The configuration is malformed. -/
  | malformedConfig
  /-- The log file cannot be created. -/
  | uncreatableLog (path : Path) (cause : ReadError)
deriving DecidableEq, Repr

namespace VaultError

/-- What is said about a failure. -/
def message : VaultError → String
  | noteNotFound name => "Note not found: " ++ name
  | notConfigured => "No vault configured (pass --vault or set vault.root in the config file)"
  | vaultNotFound root => "Vault not found at: " ++ root.text
  | invalidFrontMatter path => "Invalid frontmatter in " ++ path.text ++ ": malformed YAML"
  | unreadableConfig path cause =>
    "Config error: cannot read " ++ path.text ++ ": " ++ cause.message
  | malformedConfig => "TOML parse error: malformed configuration"
  | uncreatableLog path cause =>
    "Config error: cannot create log file " ++ path.text ++ ": " ++ cause.message

/-- The exit code of a run that fails. -/
def exitCode : VaultError → Nat
  | noteNotFound _ => 2
  | notConfigured => 3
  | vaultNotFound _ => 3
  | _ => 1

end VaultError

end WikiNotes
