import WikiNotes.SortedMap

/-! # Paths

A path is kept as it was spelled and compared by its components: repeated and trailing slashes and
inner dots make no difference, so `/v//A.md` and `/v/./A.md/` name the same place as `/v/A.md`.
Two dots are a component of their own and are not folded away, and a leading dot is one too.

`Path.location` is the list of components, the key that places are looked up by; it has a linear
order in which a directory's contents follow the directory and precede its later siblings. -/

namespace WikiNotes

/-- A component of a path. -/
inductive Component where
  /-- The root directory, in front of an absolute path. -/
  | root
  /-- A dot in front of a relative path. -/
  | current
  /-- Two dots. -/
  | parent
  /-- The name of an entry of a directory. -/
  | name (text : String)
deriving DecidableEq, Repr

namespace Component

/-- The kinds of components in their order. -/
def rank : Component → Nat
  | root => 0
  | current => 1
  | parent => 2
  | name _ => 3

/-- How a component is written. -/
def text : Component → String
  | root => "/"
  | current => "."
  | parent => ".."
  | name text => text

/-- Components are ordered by kind, names among themselves by their characters. -/
instance : Ord Component := ⟨compareLex (compareOn rank) (compareOn text)⟩

instance : Std.TransOrd Component :=
  inferInstanceAs (Std.TransCmp (compareLex (compareOn rank) (compareOn text)))

theorem eq_of_rank_text {a b : Component} (hrank : a.rank = b.rank) (htext : a.text = b.text) :
    a = b := by
  cases a <;> cases b <;> simp_all [rank, text]

instance : Std.LawfulEqOrd Component where
  eq_of_compare {a b} h := by
    change compareLex (compareOn rank) (compareOn text) a b = .eq at h
    simp only [compareLex_eq_eq, compareOn] at h
    exact eq_of_rank_text (Std.LawfulEqCmp.eq_of_compare h.1) (Std.LawfulEqCmp.eq_of_compare h.2)
  compare_self := Std.ReflCmp.compare_self

end Component

/-- A place in a file system: the components that lead to it. -/
abbrev Location := List Component

/-- A path as it was spelled. -/
structure Path where
  text : String
deriving DecidableEq, Repr, Inhabited

namespace Path

/-! ### Components -/

/-- The parts of a text between its slashes; a text without one is its only part. -/
def splitSlash : List Char → List (List Char)
  | [] => [[]]
  | c :: rest =>
    if c = '/' then [] :: splitSlash rest
    else
      match splitSlash rest with
      | [] => [[c]]
      | part :: parts => (c :: part) :: parts

/-- The component that a part after a slash stands for; empty parts and dots stand for none. -/
def innerComponent (part : List Char) : Option Component :=
  if part = [] ∨ part = ['.'] then none
  else if part = ['.', '.'] then some .parent
  else some (.name (String.ofList part))

/-- The component that the first part stands for: nothing before the first slash is the root, and
    a dot in front is kept. -/
def firstComponent (part : List Char) (isLast : Bool) : Option Component :=
  if part = [] then if isLast then none else some .root
  else if part = ['.'] then some .current
  else innerComponent part

/-- The parts of a path, each with the component that it stands for. -/
def parts (p : Path) : List (List Char × Option Component) :=
  match splitSlash p.text.toList with
  | [] => []
  | first :: rest =>
    (first, firstComponent first rest.isEmpty) :: rest.map fun part => (part, innerComponent part)

/-- The place that a path names. -/
def location (p : Path) : Location := p.parts.filterMap Prod.snd

/-- Whether two paths name the same place. -/
def same (p q : Path) : Bool := p.location == q.location

/-- The order of paths: component by component. -/
def order (p q : Path) : Ordering := compare p.location q.location

/-- Whether a path starts at the root. -/
def isAbsolute (p : Path) : Bool := p.text.toList.head? == some '/'

/-- Whether a path lies at or beneath another one. -/
def isUnder (p base : Path) : Bool := base.location.isPrefixOf p.location

/-! ### Stripping and joining -/

/-- What follows the given components in the parts of a path, if it starts with them. -/
def partsAfter : Location → List (List Char × Option Component) →
    Option (List (List Char × Option Component))
  | [], parts => some parts
  | _ :: _, [] => none
  | c :: cs, (_, none) :: parts => partsAfter (c :: cs) parts
  | c :: cs, (_, some c') :: parts => if c = c' then partsAfter cs parts else none

/-- Drop the parts at the end that stand for no component. -/
def dropIdleEnd (parts : List (List Char × Option Component)) :
    List (List Char × Option Component) :=
  (parts.reverse.dropWhile fun part => part.2.isNone).reverse

/-- The parts with slashes between them. -/
def joinSlash : List (List Char) → List Char
  | [] => []
  | [part] => part
  | part :: parts => part ++ '/' :: joinSlash parts

/-- The path that a list of parts spells. -/
def ofParts (parts : List (List Char × Option Component)) : Path :=
  match parts with
  | [(_, some .root)] => ⟨"/"⟩
  | _ => ⟨String.ofList (joinSlash (parts.map Prod.fst))⟩

/-- The rest of a path beneath a base, as it was spelled, without idle slashes and dots at its
    ends; nothing if the path does not lie at or beneath the base. -/
def stripBase? (p base : Path) : Option Path :=
  match base.location with
  -- Every path lies beneath the empty one, and dots in front of it stay.
  | [] => some (ofParts (dropIdleEnd p.parts))
  | cs =>
    (partsAfter cs p.parts).map fun parts =>
      ofParts (dropIdleEnd (parts.dropWhile fun part => part.2.isNone))

/-- A path relative to a directory; an absolute one stays itself. -/
def join (dir p : Path) : Path :=
  if p.isAbsolute then p
  else if dir.text.isEmpty || dir.text.toList.getLast? == some '/' then ⟨dir.text ++ p.text⟩
  else ⟨dir.text ++ "/" ++ p.text⟩

/-- A path that names a place. -/
def ofLocation : Location → Path
  | [] => ⟨""⟩
  | component :: components => components.foldl (fun dir c => dir.join ⟨c.text⟩) ⟨component.text⟩

/-! ### File names -/

/-- The name of the entry that a path leads to; none if it ends at the root or with dots. -/
def fileName? (p : Path) : Option String :=
  match p.location.getLast? with
  | some (.name text) => some text
  | _ => none

/-- A file name cut at its last dot.  A name without a dot, or whose only dot is its first
    character, has no second half. -/
def cutExtension (name : List Char) : List Char × Option (List Char) :=
  let suffix := (name.reverse.takeWhile (· ≠ '.')).reverse
  -- Without a dot the suffix is the whole name, and then the stem plays no part.
  let stem := name.take (name.length - suffix.length - 1)
  if suffix.length = name.length || stem.isEmpty then (name, none) else (stem, some suffix)

/-- The file name without its extension; empty if there is no file name. -/
def stem (p : Path) : String :=
  match p.fileName? with
  | some name => String.ofList (cutExtension name.toList).1
  | none => ""

/-- The extension of the file name: what follows its last dot. -/
def extension? (p : Path) : Option String :=
  p.fileName?.bind fun name => (cutExtension name.toList).2.map String.ofList

end Path

end WikiNotes
