import WikiNotes.Text.Blank
import WikiNotes.Text.Lowercase

/-! # Log levels

How much is logged, from nothing to everything. -/

namespace WikiNotes

/-- How much is logged. -/
inductive LogLevel where
  | off
  | error
  | warn
  | info
  | debug
  | trace
deriving DecidableEq, Repr

namespace LogLevel

/-- The word for a level. -/
def word : LogLevel → String
  | off => "off"
  | error => "error"
  | warn => "warn"
  | info => "info"
  | debug => "debug"
  | trace => "trace"

/-- All levels. -/
def all : List LogLevel := [off, error, warn, info, debug, trace]

/-- The level that a word names in any case, blanks around it aside. -/
def parse? (text : String) : Option LogLevel :=
  let lower := String.ofList (Text.lowerChars (Text.trimChars text.toList))
  all.find? fun level => level.word = lower

end LogLevel

end WikiNotes
