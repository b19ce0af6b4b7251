import WikiNotes.Naming
import WikiNotes.Path

/-! # Settings of a vault

Which directory a vault keeps track of, and how names in it become canonical. -/

namespace WikiNotes

/-- Settings of a vault. -/
structure Settings where
  /-- The directory of the notes, if one is set. -/
  root : Option Path := none
  policy : NamingPolicy := {}
deriving DecidableEq, Repr

namespace Settings

/-- Whether two settings say the same; the spelling of the root does not matter. -/
def same (a b : Settings) : Bool :=
  a.root.map Path.location == b.root.map Path.location && a.policy == b.policy

/-- Settings with the root as the disk knows it; a root that is not on the disk stays as it is. -/
def canonicalized (canonical? : Path → Option Path) (s : Settings) : Settings :=
  { s with root := s.root.map fun root => (canonical? root).getD root }

end Settings

end WikiNotes
