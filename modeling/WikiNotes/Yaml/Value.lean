import WikiNotes.Text.Blank
import WikiNotes.Yaml.Node

/-! # YAML values

What a document says once its tags, aliases and plain scalars are understood.  A plain scalar is
null, a truth value, a number, or else a string; a number beyond 64 bits that still fits into 128
is refused.  A mapping may not hold a key twice, collections nest at most 128 deep, and a document
may not follow aliases more than a hundred times as often as it has nodes.

`Value.ofText?` reads a text, and gives nothing if it is malformed in any of these ways. -/

namespace WikiNotes.Yaml

/-- A number. -/
inductive Number where
  | integer (n : Int)
  | float (x : Float)

/-- A value. -/
inductive Value where
  | null
  | bool (b : Bool)
  | number (n : Number)
  | string (s : String)
  | sequence (items : List Value)
  | mapping (entries : List (Value × Value))
  | tagged (tag : String) (value : Value)

/-! ### Plain scalars -/

namespace Number

/-- The value of a digit in bases up to sixteen. -/
def digit? (base : Nat) (c : Char) : Option Nat :=
  (hexDigit? c).filter (· < base)

/-- The number that digits write in a base; there must be one at least. -/
def ofDigits? (base : Nat) (digits : List Char) : Option Nat :=
  if digits.isEmpty then none
  else digits.foldlM (fun n c => (digit? base c).map (n * base + ·)) 0

/-- Whether a text is a zero and further digits, with or without a sign, which is no number. -/
def hasLeadingZero (cs : List Char) : Bool :=
  match (match cs with | '-' :: rest => rest | '+' :: rest => rest | rest => rest) with
  | '0' :: d :: rest => (d :: rest).all Char.isDigit
  | _ => false

/-- The magnitude of an integer without sign: hexadecimal, octal, binary or decimal. -/
def magnitude? (cs : List Char) : Option Nat :=
  match cs with
  | '0' :: 'x' :: rest => ofDigits? 16 rest
  | '0' :: 'o' :: rest => ofDigits? 8 rest
  | '0' :: 'b' :: rest => ofDigits? 2 rest
  | _ => if hasLeadingZero cs then none else ofDigits? 10 cs

/-- The integer that a text writes. -/
def integer? (cs : List Char) : Option Int :=
  match cs with
  | '-' :: rest => (magnitude? rest).map fun n => -(n : Int)
  | '+' :: rest => (magnitude? rest).map fun n => (n : Int)
  | _ => (magnitude? cs).map fun n => (n : Int)

/-- The finite number that a decimal text with digits, a point and an exponent writes.  An exponent
    far outside of the range of floating-point numbers is replaced by one that is just outside. -/
def decimal? (cs : List Char) : Option Float :=
  let (negative, cs) := match cs with
    | '-' :: rest => (true, rest)
    | '+' :: rest => (false, rest)
    | rest => (false, rest)
  let whole := cs.takeWhile Char.isDigit
  let cs := cs.drop whole.length
  let (fraction, cs) := match cs with
    | '.' :: rest =>
      let digits := rest.takeWhile Char.isDigit
      (digits, rest.drop digits.length)
    | rest => ([], rest)
  let exponent? : Option Int := match cs with
    | [] => some 0
    | e :: rest =>
      if e = 'e' ∨ e = 'E' then
        match rest with
        | '-' :: digits => (ofDigits? 10 digits).map fun n => -(n : Int)
        | '+' :: digits => (ofDigits? 10 digits).map fun n => (n : Int)
        | digits => (ofDigits? 10 digits).map fun n => (n : Int)
      else none
  (ofDigits? 10 (whole ++ fraction)).bind fun mantissa =>
    exponent?.bind fun exponent =>
      -- Digits shift the point by their count at most, so beyond this the answer is the same.
      let far : Int := 400 + (whole ++ fraction).length
      let exponent := max (-far) (min far exponent) - fraction.length
      let x := Float.ofScientific mantissa (exponent < 0) exponent.natAbs
      if x.isFinite then some (if negative then -x else x) else none

/-- The floating-point number that a text writes. -/
def float? (cs : List Char) : Option Float :=
  let text := String.ofList cs
  let unsigned := match cs with | '+' :: rest => rest | rest => rest
  if cs.head? = some '+' && (unsigned.head? = some '+' || unsigned.head? = some '-') then none
  else if [".inf", ".Inf", ".INF"].contains (String.ofList unsigned) then some (1.0 / 0.0)
  else if ["-.inf", "-.Inf", "-.INF"].contains text then some (-1.0 / 0.0)
  else if [".nan", ".NaN", ".NAN"].contains text then some (0.0 / 0.0)
  else if unsigned.isEmpty then none
  else decimal? unsigned

end Number

namespace Value

/-- The truth value that a text writes. -/
def bool? (text : String) : Option Bool :=
  if ["true", "True", "TRUE"].contains text then some true
  else if ["false", "False", "FALSE"].contains text then some false
  else none

/-- Whether a text writes null. -/
def isNull (text : String) : Bool := ["null", "Null", "NULL", "~"].contains text

/-- The integer that a text writes.  The inner option is none for one that is refused since it
    needs more than 64 bits; one that needs more than 128 is not taken for an integer. -/
def integer? (text : String) : Option (Option Value) :=
  (Number.integer? text.toList).bind fun n =>
    if -(Int.pow 2 63) ≤ n && n < Int.pow 2 64 then some (some (.number (.integer n)))
    else if -(Int.pow 2 127) ≤ n && n < Int.pow 2 128 then some none
    else none

/-- The value of a plain scalar; none if it is refused. -/
def ofPlain? (text : String) : Option Value :=
  if text.isEmpty || isNull text then some .null
  else
    match bool? text with
    | some b => some (.bool b)
    | none =>
      match integer? text with
      | some value => value
      | none =>
        if Number.hasLeadingZero text.toList then some (.string text)
        else
          match Number.float? text.toList with
          | some x => some (.number (.float x))
          | none => some (.string text)

/-- The local tag that a tag writes, if it is one: what stands behind its exclamation mark. -/
def localTag? (tag : Option String) : Option String :=
  tag.bind fun tag =>
    match tag.toList with
    | ['!'] => some "!"
    | '!' :: rest => some (String.ofList rest)
    | _ => none

/-- The value of a scalar with a tag that is not local: one of the standard types, which the text
    must then write, or a string. -/
def ofStandardTag? (tag text : String) : Option Value :=
  if tag = "tag:yaml.org,2002:bool" then (bool? text).map .bool
  else if tag = "tag:yaml.org,2002:int" then (integer? text).join
  else if tag = "tag:yaml.org,2002:float" then (Number.float? text.toList).map (.number ∘ .float)
  else if tag = "tag:yaml.org,2002:null" then if isNull text then some .null else none
  else some (.string text)

/-- The value of a scalar; none if it is refused. -/
def ofScalar? (tag : Option String) (style : ScalarStyle) (text : String) : Option Value :=
  let untagged := if style = .plain then ofPlain? text else some (.string text)
  match localTag? tag, tag with
  | some name, _ => untagged.map (.tagged name)
  | none, some tag => ofStandardTag? tag text
  | none, none => untagged

/-! ### Equality -/

/-- Whether two numbers are equal; a number that is not one equals itself here. -/
def sameNumber : Number → Number → Bool
  | .integer m, .integer n => m == n
  | .float x, .float y => x == y || (x.isNaN && y.isNaN)
  | _, _ => false

/-- Whether two values are equal, where the order of a mapping's entries does not matter.  `depth`
    bounds how deep they nest. -/
def same : (depth : Nat) → Value → Value → Bool
  | 0, _, _ => false
  | depth + 1, a, b =>
    match a, b with
    | .null, .null => true
    | .bool a, .bool b => a == b
    | .number a, .number b => sameNumber a b
    | .string a, .string b => a == b
    | .sequence as, .sequence bs =>
      as.length == bs.length && (as.zip bs).all fun (a, b) => same depth a b
    | .mapping as, .mapping bs =>
      as.length == bs.length
        && as.all fun (k, v) => bs.any fun (k', v') => same depth k k' && same depth v v'
    | .tagged s a, .tagged t b => s == t && same depth a b
    | _, _ => false

/-! ### Values of nodes -/

/-- How deep collections may nest. -/
def maxDepth : Nat := 128

/-- Put a local tag around a value. -/
def withTag (tag : Option String) (value : Value) : Value :=
  match localTag? tag with
  | some name => .tagged name value
  | none => value

/-- Whether a key occurs among entries.  Nesting is at most doubled by tags. -/
def hasKey (entries : List (Value × Value)) (key : Value) : Bool :=
  entries.any fun entry => same (2 * maxDepth + 2) entry.1 key

/-- The node that an alias stands for; any other node stands for itself.  The state counts the
    aliases that were followed. -/
def follow (d : Document) (node : Node) : StateT Nat Option Node := do
  match node with
  | .alias anchor =>
    let followed := (← get) + 1
    if 100 * d.size < followed then failure
    set followed
    match d.target? anchor with
    | some target => return target
    | none => failure
  | node => return node

/-- The value of a node, in a place where collections may nest `depth` deep. -/
def ofNode (d : Document) : (depth : Nat) → Node → StateT Nat Option Value
  | 0, node => do
    match ← follow d node with
    | .scalar tag style text => ofScalar? tag style text
    | _ => failure
  | depth + 1, node => do
    match ← follow d node with
    | .scalar tag style text => ofScalar? tag style text
    | .sequence tag items => return withTag tag (.sequence (← items.mapM (ofNode d depth)))
    | .mapping tag entries =>
      let entries ← entries.foldlM (fun done (entry : Node × Node) => do
        -- A repeated key is refused before its value is looked at.
        let key ← ofNode d depth entry.1
        if hasKey done key then failure
        return (key, ← ofNode d depth entry.2) :: done) []
      return withTag tag (.mapping entries.reverse)
    | .alias _ => failure

/-- The value of a document; null if it is empty. -/
def ofDocument? (d : Document) : Option Value :=
  match d.root with
  | some root => ((ofNode d maxDepth root).run 0).map Prod.fst
  | none => some .null

/-- The value of a text; none if the text is malformed. -/
def ofChars? (cs : List Char) : Option Value :=
  ((Token.ofChars? cs).bind Document.ofTokens?).bind ofDocument?

/-! ### Access -/

/-- The value below all tags. -/
def untagged : Value → Value
  | .tagged _ value => untagged value
  | value => value

/-- The text of a string below all tags. -/
def string? (value : Value) : Option String :=
  match value.untagged with
  | .string s => some s
  | _ => none

/-- The value of a key that is a string, in a mapping below all tags. -/
def get? (value : Value) (key : String) : Option Value :=
  match value.untagged with
  | .mapping entries =>
    let isNamed (entry : Value × Value) : Bool :=
      match entry.1 with
      | .string s => s == key
      | _ => false
    (entries.find? isNamed).map Prod.snd
  | _ => none

end Value

end WikiNotes.Yaml
