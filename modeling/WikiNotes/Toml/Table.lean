/-! # TOML tables

The values of a TOML text, and the rules by which its lines build tables.  A table is opened by a
header, implied by a longer header, spelled by dotted keys, or written in braces, and each kind may
be added to in its own way only: a header may open an implied table but none that has been opened
or spelled, and dotted keys may go on with spelled tables but not with opened ones.  Whatever
breaks the rules makes the whole text malformed. -/

namespace WikiNotes.Toml

/-- How a table came to be. -/
inductive TableKind where
  /-- A header opened it. -/
  | opened
  /-- A longer header implies it. -/
  | implied
  /-- Dotted keys spell it. -/
  | dotted
  /-- It was written in braces. -/
  | inlined
deriving DecidableEq, Repr

/-- A value. -/
inductive Node where
  | string (text : String)
  | integer (n : Int)
  /-- A floating-point number, as written. -/
  | float (text : String)
  | boolean (b : Bool)
  /-- A date, a time or both, as written. -/
  | dateTime (text : String)
  | array (items : List Node)
  | table (kind : TableKind) (entries : List (String × Node))
  /-- The tables that headers in double brackets open, one after the other. -/
  | tables (elements : List (List (String × Node)))

/-- The entries of a table in the order of their first mention. -/
abbrev Entries := List (String × Node)

namespace Entries

/-- The value of a key. -/
def find? (entries : Entries) (key : String) : Option Node := entries.lookup key

/-- Give a key a value, in its place if it has one. -/
def set (entries : Entries) (key : String) (node : Node) : Entries :=
  if (entries.find? key).isSome then
    entries.map fun (other, old) => (other, if other = key then node else old)
  else entries ++ [(key, node)]

/-- Edit the table at the end of a path of keys; tables on the way that are missing are made.
    `dotted` says that the path is a dotted key and no header.  Of tables opened by headers in
    double brackets the last one counts. -/
def descend (dotted : Bool) (edit : TableKind → Entries → Option Entries) :
    List String → TableKind → Entries → Option Entries
  | [], kind, entries => edit kind entries
  | key :: keys, _, entries =>
    match entries.find? key with
    | none =>
      let kind := if dotted then .dotted else .implied
      (descend dotted edit keys kind []).map fun inner => entries.set key (.table kind inner)
    | some (.table kind inner) =>
      -- Nothing is added to a table in braces, and dotted keys keep away from opened tables.
      if kind = .inlined ∨ (dotted ∧ kind = .opened) then none
      else
        (descend dotted edit keys kind inner).map fun inner => entries.set key (.table kind inner)
    | some (.tables elements) =>
      match elements.getLast? with
      | none => none
      | some last =>
        (descend dotted edit keys .opened last).map fun last =>
          entries.set key (.tables (elements.dropLast ++ [last]))
    | some _ => none

/-- Add a value under a dotted key.  A key may be given only once, and a single key may not add to
    a table that dotted keys spell, nor a dotted one to any other. -/
def add (path : List String) (key : String) (node : Node) (kind : TableKind) (entries : Entries) :
    Option Entries :=
  descend true (fun kind entries =>
    if (kind == .dotted) == path.isEmpty || (entries.find? key).isSome then none
    else some (entries.set key node)) path kind entries

/-- Open a table by a header. -/
def openTable (key : String) (_ : TableKind) (entries : Entries) : Option Entries :=
  match entries.find? key with
  | none => some (entries.set key (.table .opened []))
  | some (.table .implied inner) => some (entries.set key (.table .opened inner))
  | some _ => none

/-- Open one more table by a header in double brackets. -/
def openElement (key : String) (_ : TableKind) (entries : Entries) : Option Entries :=
  match entries.find? key with
  | none => some (entries.set key (.tables [[]]))
  | some (.tables elements) => some (entries.set key (.tables (elements ++ [[]])))
  | some _ => none

end Entries

/-- A dotted key or header: the keys in front and the last one. -/
structure Key where
  path : List String
  last : String
deriving DecidableEq, Repr

/-- What a line of a text does. -/
inductive Line where
  /-- Open a table. -/
  | table (key : Key)
  /-- Open one more table of several. -/
  | element (key : Key)
  /-- Add a value to the open table. -/
  | pair (key : Key) (node : Node)

namespace Line

/-- Carry out a line, given the path of the table that is open and all entries so far. -/
def run : Line → List String × Entries → Option (List String × Entries)
  | table key, (_, root) =>
    (Entries.descend false (Entries.openTable key.last) key.path .opened root).map fun root =>
      (key.path ++ [key.last], root)
  | element key, (_, root) =>
    (Entries.descend false (Entries.openElement key.last) key.path .opened root).map fun root =>
      (key.path ++ [key.last], root)
  | pair key node, (current, root) =>
    let add := Entries.add key.path key.last node
    (Entries.descend false add current .opened root).map fun root => (current, root)

/-- The entries that lines build. -/
def runAll (lines : List Line) : Option Entries :=
  (lines.foldlM (fun state line => run line state) (([] : List String), ([] : Entries))).map
    Prod.snd

end Line

mutual

/-- A value whose tables are all written in braces, dotted keys or not. -/
def Node.sealed : Node → Node
  | .table _ entries => .table .inlined (Entries.sealed entries)
  | node => node

/-- Entries whose tables are all written in braces. -/
def Entries.sealed : List (String × Node) → List (String × Node)
  | [] => []
  | (key, node) :: entries => (key, node.sealed) :: Entries.sealed entries

end

/-- The entries of a table in braces. -/
def inlineEntries? (pairs : List (Key × Node)) : Option Entries := do
  let entries ← pairs.foldlM (fun (entries : Entries) (key, node) =>
    Entries.add key.path key.last node .opened entries) []
  some (Entries.sealed entries)

end WikiNotes.Toml
