import WikiNotes.Yaml.Token

/-! # YAML nodes

The tokens of a text are read as a tree of nodes: scalars, sequences and mappings with their tags,
and aliases for nodes that carry an anchor.  An alias is kept as a reference, since a node may hold
an alias for itself; `Document.target?` says what a reference stands for.

A text that front matter is read from must hold at most one document. -/

namespace WikiNotes.Yaml

/-- A node of a document. -/
inductive Node where
  /-- A scalar, with its tag and whether it was written plainly. -/
  | scalar (tag : Option String) (style : ScalarStyle) (text : String)
  | sequence (tag : Option String) (items : List Node)
  | mapping (tag : Option String) (entries : List (Node × Node))
  /-- The node with the given anchor number. -/
  | alias (number : Nat)

/-- A document that has been read. -/
structure Document where
  /-- Its root; a document without content has none. -/
  root : Option Node
  /-- The anchor numbers in the order in which their nodes start, with the places of the nodes. -/
  anchors : List (Nat × Nat)
  /-- The anchored nodes by their places. -/
  nodes : List (Nat × Node)
  /-- How many places there are: one for a scalar or an alias, two for a collection. -/
  size : Nat

/-- The node that an anchor number stands for: the last one that was given the number. -/
def Document.target? (d : Document) (number : Nat) : Option Node :=
  (d.anchors.reverse.lookup number).bind fun place => d.nodes.lookup place

/-- The state of reading: the tokens left and what is known of the anchors. -/
structure Reading where
  tokens : List Token
  /-- Tag handles and what they stand for. -/
  handles : List (String × String)
  /-- Names of anchors and their numbers. -/
  names : List (String × Nat)
  document : Document

/-- Reading nodes from tokens. -/
abbrev Reader := StateT Reading Option

namespace Reader

/-- The next token. -/
def peek : Reader (Option Token) := return (← get).tokens.head?

/-- Go behind the next token. -/
def advance : Reader Unit := modify fun r => { r with tokens := r.tokens.tail }

/-- Go behind a token if it is the next one; says whether it was. -/
def accept (token : Token) : Reader Bool := do
  if (← peek) == some token then
    advance
    return true
  return false

/-- Go behind a token, which must be the next one. -/
def expect (token : Token) : Reader Unit := do
  if !(← accept token) then failure

/-- Take the next place for a node that may have an anchor.  An anchor gets as its number how many
    names there are; a name that is used again is bound anew. -/
def place (anchor : Option String) : Reader Nat := do
  let r ← get
  let place := r.document.size
  let document := { r.document with size := place + 1 }
  match anchor with
  | none => set { r with document }
  | some name =>
    -- The count includes the name itself if it is bound already.
    let number := r.names.length
    let names := (name, number) :: r.names.filter fun bound => bound.1 != name
    let anchors := r.document.anchors ++ [(number, place)]
    set { r with names, document := { document with anchors } }
  return place

/-- Take a place that holds no node, as for the end of a collection. -/
def closePlace : Reader Unit :=
  modify fun r => { r with document := { r.document with size := r.document.size + 1 } }

/-- Remember a node that has an anchor. -/
def keep (anchor : Option String) (place : Nat) (node : Node) : Reader Node := do
  if anchor.isSome then
    modify fun r =>
      { r with document := { r.document with nodes := (place, node) :: r.document.nodes } }
  return node

/-- A scalar without text, where a node is missing. -/
def missing : Reader Node := do
  closePlace
  return .scalar none .plain ""

/-- The tag that a handle and a suffix write. -/
def resolveTag (handle suffix : String) : Reader String := do
  if handle.isEmpty then return suffix
  match (← get).handles.lookup handle with
  | some start => return start ++ suffix
  | none => failure

/-- The properties in front of a node: an anchor and a tag, in either order, each at most once. -/
def properties : Reader (Option String × Option String) := do
  let anchor? : Reader (Option String) := do
    match ← peek with
    | some (.anchor name) =>
      advance
      return some name
    | _ => return none
  let tag? : Reader (Option String) := do
    match ← peek with
    | some (.tag handle suffix) =>
      advance
      return some (← resolveTag handle suffix)
    | _ => return none
  match ← anchor? with
  | some name => return (some name, ← tag?)
  | none =>
    match ← tag? with
    | some tag => return (← anchor?, some tag)
    | none => return (none, none)

/-- Whether one of some tokens is the next one. -/
def nextIsOneOf (tokens : List Token) : Reader Bool := do
  match ← peek with
  | some token => return tokens.contains token
  | none => return false

mutual

/-- Read a node.  `block` allows a block collection and `compact` a sequence whose entries stand in
    the column of the mapping around it. -/
def node (block compact : Bool) : (fuel : Nat) → Reader Node
  | 0 => failure
  | fuel + 1 => do
    if let some (.alias name) := ← peek then
      advance
      let _ ← place none
      match (← get).names.lookup name with
      | some number => return .alias number
      | none => failure
    let (anchor, tag) ← properties
    match ← peek with
    | some (.scalar style text) =>
      advance
      let place ← place anchor
      keep anchor place <|
        if tag == some "!" then .scalar none .plain text
        else .scalar tag style text
    | some .openSequence =>
      advance
      let place ← place anchor
      let items ← flowItems true fuel
      closePlace
      keep anchor place (.sequence tag items)
    | some .openMapping =>
      advance
      let place ← place anchor
      let entries ← flowEntries true fuel
      closePlace
      keep anchor place (.mapping tag entries)
    | some .blockEntry =>
      if compact then
        let place ← place anchor
        let items ← compactItems fuel
        closePlace
        keep anchor place (.sequence tag items)
      else emptyNode anchor tag
    | some .blockSequence =>
      if block then
        advance
        let place ← place anchor
        let items ← blockItems fuel
        closePlace
        keep anchor place (.sequence tag items)
      else emptyNode anchor tag
    | some .blockMapping =>
      if block then
        advance
        let place ← place anchor
        let entries ← blockEntries fuel
        closePlace
        keep anchor place (.mapping tag entries)
      else emptyNode anchor tag
    | _ => emptyNode anchor tag
where
  /-- A node of which only properties are there. -/
  emptyNode (anchor tag : Option String) : Reader Node := do
    if anchor.isNone && tag.isNone then failure
    let place ← place anchor
    keep anchor place (.scalar tag .plain "")

/-- A node, or a missing one if one of some tokens is the next one. -/
def nodeUnless (ends : List Token) (block compact : Bool) : (fuel : Nat) → Reader Node
  | 0 => failure
  | fuel + 1 => do
    if ← nextIsOneOf ends then missing else node block compact fuel

/-- The items of a block sequence up to its end. -/
def blockItems : (fuel : Nat) → Reader (List Node)
  | 0 => failure
  | fuel + 1 => do
    if ← accept .blockEntry then
      let item ← nodeUnless [.blockEntry, .blockEnd] true false fuel
      return item :: (← blockItems fuel)
    expect .blockEnd
    return []

/-- The items of a sequence in the column of the mapping around it. -/
def compactItems : (fuel : Nat) → Reader (List Node)
  | 0 => failure
  | fuel + 1 => do
    if ← accept .blockEntry then
      let item ← nodeUnless [.blockEntry, .key, .value, .blockEnd] true false fuel
      return item :: (← compactItems fuel)
    return []

/-- The entries of a block mapping up to its end.  A key or a value may be missing. -/
def blockEntries : (fuel : Nat) → Reader (List (Node × Node))
  | 0 => failure
  | fuel + 1 => do
    if ← accept .key then
      let key ← nodeUnless [.key, .value, .blockEnd] true true fuel
      let value ←
        if ← accept .value then nodeUnless [.key, .value, .blockEnd] true true fuel else missing
      return (key, value) :: (← blockEntries fuel)
    expect .blockEnd
    return []

/-- The items of a flow sequence up to and with its end.  An item may be a single entry of a
    mapping without braces. -/
def flowItems (first : Bool) : (fuel : Nat) → Reader (List Node)
  | 0 => failure
  | fuel + 1 => do
    if ← accept .closeSequence then return []
    if !first then expect .flowEntry
    if ← accept .closeSequence then return []
    let item ←
      if ← accept .key then
        let _ ← place none
        let entry ← singleEntry fuel
        closePlace
        pure (.mapping none [entry])
      else node false false fuel
    return item :: (← flowItems false fuel)

/-- The key and value of a mapping entry in a flow sequence, whose key mark has been read.  Behind
    a missing key one token is passed over. -/
def singleEntry : (fuel : Nat) → Reader (Node × Node)
  | 0 => failure
  | fuel + 1 => do
    let key ←
      if ← nextIsOneOf [.value, .flowEntry, .closeSequence] then
        advance
        missing
      else node false false fuel
    let value ←
      if ← accept .value then nodeUnless [.flowEntry, .closeSequence] false false fuel else missing
    return (key, value)

/-- The entries of a flow mapping up to and with its end. -/
def flowEntries (first : Bool) : (fuel : Nat) → Reader (List (Node × Node))
  | 0 => failure
  | fuel + 1 => do
    if ← accept .closeMapping then return []
    if !first then expect .flowEntry
    if ← accept .closeMapping then return []
    let entry ←
      if ← accept .key then
        let key ← nodeUnless [.value, .flowEntry, .closeMapping] false false fuel
        let value ←
          if ← accept .value then nodeUnless [.flowEntry, .closeMapping] false false fuel
          else missing
        pure (key, value)
      else
        let key ← node false false fuel
        pure (key, ← missing)
    return entry :: (← flowEntries false fuel)

end

/-- The directives in front of a document: at most one version, which must be 1.1 or 1.2, and tag
    handles, none defined twice. -/
def directives : (versionSeen : Bool) → (fuel : Nat) → Reader Unit
  | _, 0 => failure
  | versionSeen, fuel + 1 => do
    match ← peek with
    | some (.version major minor) =>
      if versionSeen || major != 1 || (minor != 1 && minor != 2) then failure
      advance
      directives true fuel
    | some (.handle name start) =>
      if ((← get).handles.lookup name).isSome then failure
      modify fun r => { r with handles := (name, start) :: r.handles }
      advance
      directives versionSeen fuel
    | _ =>
      modify fun r => { r with handles := r.handles ++ [("!", "!"), ("!!", "tag:yaml.org,2002:")] }

/-- Pass over marks that end a document. -/
def documentEnds : (fuel : Nat) → Reader Unit
  | 0 => failure
  | fuel + 1 => do
    if ← accept .documentEnd then documentEnds fuel

/-- The only document of a text; nothing may follow it. -/
def document (fuel : Nat) : Reader Unit := do
  let opening ← peek
  let explicit := match opening with
    | some (.version ..) | some (.handle ..) | some .documentStart => true
    | _ => false
  if opening.isSome then
    directives false fuel
    if explicit then expect .documentStart
    let empty ← if explicit then documentBorder else pure false
    let root ← if empty then missing else node true false fuel
    modify fun r => { r with document := { r.document with root := some root } }
    documentEnds fuel
  if (← peek).isSome then failure
where
  /-- Whether the next token is outside of documents. -/
  documentBorder : Reader Bool := do
    match ← peek with
    | none | some (.version ..) | some (.handle ..) | some .documentStart | some .documentEnd =>
      return true
    | _ => return false

end Reader

/-- The only document of a list of tokens. -/
def Document.ofTokens? (tokens : List Token) : Option Document :=
  (Reader.document (4 * tokens.length + 4)
    ⟨tokens, [], [], ⟨none, [], [], 0⟩⟩).map fun (_, r) => r.document

end WikiNotes.Yaml
