/-! # TOML scalars

Readers take a list of characters and give what they read together with the rest; none if the text
is malformed.  This module reads the parts of a TOML text that hold no other values: blanks and
comments, strings in their four notations, numbers, dates and times. -/

namespace WikiNotes.Toml

/-! ### Blanks and line ends -/

/-- Whether a character is a space or a tab. -/
def isSpace (c : Char) : Bool := c == ' ' || c == '\t'

/-- Whether a character may stand in comments and strings as it is: all but controls. -/
def isPlain (c : Char) : Bool := c == '\t' || (0x20 ≤ c.toNat && c.toNat != 0x7F)

/-- The text behind spaces and tabs. -/
def skipSpaces (cs : List Char) : List Char := cs.dropWhile isSpace

/-- The text behind a line feed, with or without a carriage return in front. -/
def afterNewline? : List Char → Option (List Char)
  | '\n' :: rest => some rest
  | '\r' :: '\n' :: rest => some rest
  | _ => none

/-- The text behind the end of a line, before which spaces and a comment may stand.  The end of the
    text ends a line, too. -/
def afterLine? (cs : List Char) : Option (List Char) :=
  let cs := skipSpaces cs
  let cs := if cs.head? = some '#' then cs.tail.dropWhile isPlain else cs
  if cs.isEmpty then some [] else afterNewline? cs

/-- The text behind blanks, line ends and comments; `inComment` says that a comment is being read,
    which must end with its line. -/
def skipBlanks (inComment : Bool) : List Char → Option (List Char)
  | [] => if inComment then none else some []
  | c :: cs =>
    if c = '\n' then skipBlanks false cs
    -- The carriage return of a line end counts with the line feed behind it.
    else if c = '\r' ∧ cs.head? = some '\n' then skipBlanks inComment cs
    else if inComment then if isPlain c then skipBlanks true cs else none
    else if isSpace c then skipBlanks false cs
    else if c = '#' then skipBlanks true cs
    else some (c :: cs)

/-! ### Strings -/

/-- The value of a hexadecimal digit. -/
def hexDigit? (c : Char) : Option Nat :=
  if c.isDigit then some (c.toNat - '0'.toNat)
  else if 'a' ≤ c ∧ c ≤ 'f' then some (c.toNat - 'a'.toNat + 10)
  else if 'A' ≤ c ∧ c ≤ 'F' then some (c.toNat - 'A'.toNat + 10)
  else none

/-- The character with a code point written in hexadecimal digits. -/
def charOfHex? (digits : List Char) : Option Char := do
  let values ← digits.mapM hexDigit?
  let code := values.foldl (fun n d => n * 16 + d) 0
  if code.isValidChar then some (Char.ofNat code) else none

/-- The character that a letter behind a backslash stands for. -/
def escapedChar? : Char → Option Char
  | 'b' => some '\x08'
  | 't' => some '\t'
  | 'n' => some '\n'
  | 'f' => some '\x0c'
  | 'r' => some '\r'
  | '"' => some '"'
  | '\\' => some '\\'
  | _ => none

/-- Put a character in front of what was read. -/
def prepend (c : Option Char) (read : Option (List Char × List Char)) :
    Option (List Char × List Char) := do
  let c ← c
  let (cs, rest) ← read
  some (c :: cs, rest)

/-- A basic string behind its opening quote. -/
def basicString : List Char → Option (List Char × List Char)
  | [] => none
  | '"' :: cs => some ([], cs)
  | '\\' :: 'u' :: a :: b :: c :: d :: cs => prepend (charOfHex? [a, b, c, d]) (basicString cs)
  | '\\' :: 'U' :: a :: b :: c :: d :: e :: f :: g :: h :: cs =>
    prepend (charOfHex? [a, b, c, d, e, f, g, h]) (basicString cs)
  | '\\' :: c :: cs => prepend (escapedChar? c) (basicString cs)
  | c :: cs => if isPlain c then prepend (some c) (basicString cs) else none

/-- A literal string behind its opening quote. -/
def literalString : List Char → Option (List Char × List Char)
  | [] => none
  | c :: cs =>
    if c = '\'' then some ([], cs)
    else if isPlain c then prepend (some c) (literalString cs)
    else none

/-- The end of a string of several lines behind three quotes: up to two more belong to it. -/
def closeQuotes (quote : Char) : List Char → List Char × List Char
  | c :: d :: cs =>
    if c = quote then if d = quote then ([c, d], cs) else ([c], d :: cs) else ([], c :: d :: cs)
  | [c] => if c = quote then ([c], []) else ([], [c])
  | [] => ([], [])

/-- Whether a text starts with three quotes. -/
def startsTriple (quote : Char) (cs : List Char) : Bool := cs.take 3 == [quote, quote, quote]

/-- Whether there is nothing but spaces up to the end of the line. -/
def startsBlankLine (cs : List Char) : Bool := (afterNewline? (skipSpaces cs)).isSome

/-- A basic string of several lines behind its opening quotes and the line end there.  `skipping`
    says that a backslash at the end of a line lets blanks and line ends be passed over. -/
def basicLines (skipping : Bool) : List Char → Option (List Char × List Char)
  | [] => none
  | '\\' :: 'u' :: a :: b :: c :: d :: cs => prepend (charOfHex? [a, b, c, d]) (basicLines false cs)
  | '\\' :: 'U' :: a :: b :: c :: d :: e :: f :: g :: h :: cs =>
    prepend (charOfHex? [a, b, c, d, e, f, g, h]) (basicLines false cs)
  | '\\' :: c :: cs =>
    -- A backslash at the end of a line joins it with what comes next in a later line.
    if startsBlankLine (c :: cs) then basicLines true cs
    else prepend (escapedChar? c) (basicLines false cs)
  | c :: cs =>
    if startsTriple '"' (c :: cs) then some (closeQuotes '"' (cs.drop 2))
    else if c = '\r' then
      if cs.head? = some '\n' then basicLines skipping cs else none
    else if c = '\n' then
      if skipping then basicLines true cs else prepend (some c) (basicLines false cs)
    else if skipping && isSpace c then basicLines true cs
    else if isPlain c then prepend (some c) (basicLines false cs)
    else none

/-- A literal string of several lines behind its opening quotes and the line end there. -/
def literalLines : List Char → Option (List Char × List Char)
  | [] => none
  | c :: cs =>
    if startsTriple '\'' (c :: cs) then some (closeQuotes '\'' (cs.drop 2))
    else if c = '\r' then if cs.head? = some '\n' then literalLines cs else none
    else if c = '\n' || isPlain c then prepend (some c) (literalLines cs)
    else none

/-- The text behind a line end that may stand there. -/
def skipNewline (cs : List Char) : List Char := (afterNewline? cs).getD cs

/-- A string in any notation. -/
def string? (cs : List Char) : Option (String × List Char) :=
  let chars :=
    if startsTriple '"' cs then basicLines false (skipNewline (cs.drop 3))
    else if startsTriple '\'' cs then literalLines (skipNewline (cs.drop 3))
    else
      match cs with
      | '"' :: rest => basicString rest
      | '\'' :: rest => literalString rest
      | _ => none
  chars.map fun (text, rest) => (String.ofList text, rest)

/-! ### Numbers -/

/-- Whether underscores stand only between other characters. -/
def underscoresInside : List Char → Bool
  | [] => false
  | [c] => c != '_'
  | '_' :: _ => false
  | c :: '_' :: cs => c != '_' && underscoresInside cs
  | _ :: cs => underscoresInside cs

/-- A run of digits, where an underscore may stand between two of them; gives the digits alone. -/
def digits? (isDigit : Char → Bool) (cs : List Char) : Option (List Char × List Char) :=
  let isPart (c : Char) : Bool := isDigit c || c == '_'
  let run := cs.takeWhile isPart
  if underscoresInside run then some (run.filter (· ≠ '_'), cs.dropWhile isPart) else none

/-- A run of decimal digits without a needless zero in front. -/
def decimalDigits? (cs : List Char) : Option (List Char × List Char) := do
  let (digits, rest) ← digits? Char.isDigit cs
  if digits.head? = some '0' ∧ digits ≠ ['0'] then none else some (digits, rest)

/-- A sign that may stand in front of a number: whether it is a minus. -/
def sign : List Char → Bool × List Char
  | '-' :: cs => (true, cs)
  | '+' :: cs => (false, cs)
  | cs => (false, cs)

/-- The number that digits spell in a base. -/
def numberOf (base : Nat) (digits : List Char) : Nat :=
  digits.foldl (fun n c => n * base + (hexDigit? c).getD 0) 0

/-- The bound that integers keep to on both sides. -/
def integerBound : Nat := Nat.pow 2 63

/-- An integer of the size that is kept. -/
def bounded? (negative : Bool) (n : Nat) : Option Int :=
  if negative then if n ≤ integerBound then some (-(n : Int)) else none
  else if n < integerBound then some n else none

/-- Whether a character is a digit of a base up to sixteen. -/
def isDigitOf (base : Nat) (c : Char) : Bool := (hexDigit? c).any (· < base)

/-- An integer behind the mark of a base other than ten. -/
def basedInteger? (base : Nat) (cs : List Char) : Option (Int × List Char) := do
  let (digits, rest) ← digits? (isDigitOf base) cs
  let n ← bounded? false (numberOf base digits)
  some (n, rest)

/-- An integer in any notation. -/
def integer? : List Char → Option (Int × List Char)
  | '0' :: 'x' :: cs => basedInteger? 16 cs
  | '0' :: 'o' :: cs => basedInteger? 8 cs
  | '0' :: 'b' :: cs => basedInteger? 2 cs
  | cs => do
    let (negative, cs) := sign cs
    let (digits, rest) ← decimalDigits? cs
    let n ← bounded? negative (numberOf 10 digits)
    some (n, rest)

/-- An exponent. -/
def exponent? : List Char → Option (Int × List Char)
  | c :: cs =>
    if c = 'e' ∨ c = 'E' then do
      let (negative, cs) := sign cs
      let (digits, rest) ← digits? Char.isDigit cs
      let n := numberOf 10 digits
      some (if negative then -(n : Int) else n, rest)
    else none
  | [] => none

/-- What a decimal fraction must stay below to be nearer to a finite number of double precision
    than to the next power of two. -/
def floatBound : Nat := Nat.pow 2 1024 - Nat.pow 2 970

/-- Whether digits, the last of which stands for the given power of ten, spell too great a number.
    A number of more than 400 digits is, and one with none in front of its point is not. -/
def isTooGreat (digits : List Char) (power : Int) : Bool :=
  let digits := digits.dropWhile (· = '0')
  let width := digits.length + power
  if digits.isEmpty || width ≤ 0 then false
  else if 400 < width then true
  else numberOf 10 digits * Nat.pow 10 power.toNat ≥ floatBound * Nat.pow 10 (-power).toNat

/-- The text behind a floating-point number.  One without a minus must not be too great. -/
def afterFloat? (cs : List Char) : Option (List Char) := do
  let (negative, cs) := sign cs
  match cs with
  | 'i' :: 'n' :: 'f' :: rest => some rest
  | 'n' :: 'a' :: 'n' :: rest => some rest
  | _ =>
    let (whole, rest) ← decimalDigits? cs
    let (digits, places, power, rest) ←
      match rest with
      | '.' :: rest => do
        let (fraction, rest) ← digits? Char.isDigit rest
        let (power, rest) := (exponent? rest).getD (0, rest)
        some (whole ++ fraction, fraction.length, power, rest)
      | _ => do
        let (power, rest) ← exponent? rest
        some (whole, 0, power, rest)
    if !negative && isTooGreat digits (power - (places : Int)) then none else some rest

/-! ### Dates and times -/

/-- A number of so many digits within bounds. -/
def fixedNumber? (width least greatest : Nat) (cs : List Char) : Option (Nat × List Char) :=
  let digits := cs.take width
  let n := numberOf 10 digits
  if digits.length = width ∧ digits.all Char.isDigit ∧ least ≤ n ∧ n ≤ greatest then
    some (n, cs.drop width)
  else none

/-- The text behind a character. -/
def afterChar? (c : Char) : List Char → Option (List Char)
  | d :: cs => if c = d then some cs else none
  | [] => none

/-- How many days a month has. -/
def daysInMonth (year month : Nat) : Nat :=
  if month = 2 then
    if year % 4 = 0 ∧ (year % 100 ≠ 0 ∨ year % 400 = 0) then 29 else 28
  else if [4, 6, 9, 11].contains month then 30
  else 31

/-- The text behind a date. -/
def afterDate? (cs : List Char) : Option (List Char) := do
  let (year, cs) ← fixedNumber? 4 0 9999 cs
  let cs ← afterChar? '-' cs
  let (month, cs) ← fixedNumber? 2 1 12 cs
  let cs ← afterChar? '-' cs
  let (_, cs) ← fixedNumber? 2 1 (daysInMonth year month) cs
  some cs

/-- The text behind an hour and a minute. -/
def afterMinute? (cs : List Char) : Option (List Char) := do
  let (_, cs) ← fixedNumber? 2 0 23 cs
  let cs ← afterChar? ':' cs
  let (_, cs) ← fixedNumber? 2 0 59 cs
  some cs

/-- The text behind a time; the seconds may have a fraction. -/
def afterTime? (cs : List Char) : Option (List Char) := do
  let cs ← afterMinute? cs
  let cs ← afterChar? ':' cs
  let (_, cs) ← fixedNumber? 2 0 60 cs
  match cs with
  | '.' :: d :: rest => some (if d.isDigit then rest.dropWhile Char.isDigit else cs)
  | _ => some cs

/-- The text behind an offset from universal time. -/
def afterOffset? : List Char → Option (List Char)
  | [] => none
  | c :: cs =>
    if c = 'Z' ∨ c = 'z' then some cs
    else if c = '+' ∨ c = '-' then afterMinute? cs
    else none

/-- The text behind a time that may stand behind a date. -/
def afterDayTime? : List Char → Option (List Char)
  | [] => none
  | c :: cs =>
    if c = 'T' ∨ c = 't' ∨ c = ' ' then
      (afterTime? cs).map fun rest => (afterOffset? rest).getD rest
    else none

/-- The text behind a date, a time or both. -/
def afterDateTime? (cs : List Char) : Option (List Char) :=
  match afterDate? cs with
  | some rest => some ((afterDayTime? rest).getD rest)
  | none => afterTime? cs

end WikiNotes.Toml
