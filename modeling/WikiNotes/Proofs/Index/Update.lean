import WikiNotes.Index.Update
import WikiNotes.Proofs.Index.Consistency
import WikiNotes.Proofs.Scan
import WikiNotes.Vault.Settings

/-! # What an update does to what is tracked

Two notes at one place say the same if they have one gist; the spelling of the path is not part of
it.  `gistAt?` gives the gist of what an index tracks at a place.  The operations that updates are
made of have one lemma that tells `gistAt?` afterwards; every update keeps the index consistent and
leaves its root and policy (`settings`) as they are.  So whatever a store may hold (`Stored`) is
consistent (`Stored.consistent`). -/

namespace WikiNotes

/-! ### Gists -/

/-- What a record says, without the spelling of its path. -/
structure Gist where
  place : Location
  name : String
  displayName : String
  note : Note
deriving DecidableEq

/-- What a record says. -/
def Record.gist (r : Record) : Gist := ⟨r.place, r.name, r.displayName, r.note⟩

theorem Record.same_iff {a b : Record} : a.same b = true ↔ a.gist = b.gist := by
  simp [same, gist, and_assoc]

theorem Record.name_eq_of_gist_eq {a b : Record} (h : a.gist = b.gist) : a.name = b.name :=
  congrArg Gist.name h

/-- What is read at a place goes by the place. -/
theorem Record.map_gist_read_congr {files : FileSystem} (h : files.Lawful) (policy : NamingPolicy)
    {p q : Path} (hplace : p.location = q.location) :
    (read files policy p).map gist = (read files policy q).map gist := by
  rw [read, read, h.readText_congr hplace]
  cases files.readText q with
  | error error => rfl
  | ok content =>
    have hgist : (ofContent policy p content).gist = (ofContent policy q content).gist := by
      simp only [ofContent, gist, place, Path.stem_congr hplace, hplace]
    exact congrArg Except.ok hgist

theorem Record.place_of_read_ok {files : FileSystem} {policy : NamingPolicy} {path : Path}
    {r : Record} (h : read files policy path = .ok r) : r.place = path.location := by
  rw [read] at h
  cases hread : files.readText path with
  | error error =>
    rw [hread] at h
    exact nomatch h
  | ok content =>
    rw [hread] at h
    rw [← Except.ok.inj h]
    rfl

/-- A path is missing if it is that of a note and nothing is found there. -/
def Path.Missing (files : FileSystem) (settings : Settings) (path : Path) : Prop :=
  settings.root.any (isEligible · path) = true ∧
    ∃ error, files.readText path = .error error ∧ error.kind = .notFound

namespace Index

variable {index : Index}

/-- The gist of the note at a place, visible or shadowed. -/
def gistAt? (index : Index) (place : Location) : Option Gist :=
  (index.tracked? place).map Record.gist

/-- The root and the policy of an index. -/
def settings (index : Index) : Settings := ⟨index.root, index.policy⟩

/-! ### Settings -/

theorem settings_detach (index : Index) (place : Location) :
    (index.detach place).1.settings = index.settings := by
  cases hat : index.at? place with
  | none => rw [detach_of_at?_eq_none hat]
  | some r =>
    rw [detach_of_at?_eq_some hat]
    rfl

theorem settings_promote (index : Index) (name : String) :
    (index.promote name).settings = index.settings := by
  rw [promote]
  cases index.heir? name <;> rfl

theorem settings_put (index : Index) (r : Record) : (index.put r).settings = index.settings := by
  have hevict : ((index.clear r.place).evict r.name).settings = (index.clear r.place).settings := by
    rw [evict]
    cases (index.clear r.place).named? r.name with
    | none => rfl
    | some holder => exact settings_detach ..
  exact hevict.trans (settings_detach ..)

@[simp] theorem settings_insert (index : Index) (r : Record) :
    (index.insert r).1.settings = index.settings := by
  rcases insert_cases index r with ⟨-, h⟩ | ⟨-, h, -⟩ | ⟨-, _, -, -, h⟩
  · rw [h]
  · rw [h, settings_put]
  · rw [h, settings_promote, settings_put]

@[simp] theorem settings_remove (index : Index) (place : Location) :
    (index.remove place).1.settings = index.settings := by
  simp only [remove]
  split
  case isTrue => rfl
  case isFalse =>
    cases hat : index.at? place with
    | none => rw [detach_of_at?_eq_none hat]
    | some r =>
      have hdetach := settings_detach index place
      rw [detach_of_at?_eq_some hat] at hdetach ⊢
      rw [settings_promote, hdetach]

@[simp] theorem settings_removeEach (index : Index) (places : List Location) :
    (index.removeEach places).1.settings = index.settings := by
  induction places generalizing index with
  | nil => rfl
  | cons place places ih => rw [removeEach, ih, settings_remove]

@[simp] theorem settings_removeUnder (index : Index) (base : Location) :
    (index.removeUnder base).1.settings = index.settings :=
  settings_removeEach ..

theorem gistAt?_of_tracked? {place : Location} {r : Record} (h : index.tracked? place = some r) :
    index.gistAt? place = some r.gist :=
  congrArg (Option.map Record.gist) h

theorem gistAt?_eq_none_iff {place : Location} :
    index.gistAt? place = none ↔ index.tracked? place = none :=
  Option.map_eq_none_iff

theorem tracked?_eq_none_iff {place : Location} :
    index.tracked? place = none ↔
      index.at? place = none ∧ index.shadowed.find? place = none :=
  Option.or_eq_none_iff

theorem at?_of_gistAt?_eq_none {place : Location} (h : index.gistAt? place = none) :
    index.at? place = none :=
  (tracked?_eq_none_iff.mp (gistAt?_eq_none_iff.mp h)).1

/-- What is tracked is tracked at the place of a path. -/
theorem Coherent.exists_path (h : index.Coherent) {place : Location}
    (hne : index.gistAt? place ≠ none) : ∃ path : Path, path.location = place := by
  cases htracked : index.tracked? place with
  | none =>
    rw [gistAt?, htracked] at hne
    exact absurd rfl hne
  | some r => exact ⟨r.path, h.tracked?_place htracked⟩

/-- Indexes that track the same at the places of paths do so everywhere. -/
theorem gistAt?_eq_of_paths {other : Index} (h : index.Coherent) (h' : other.Coherent)
    (hpaths : ∀ path : Path, index.gistAt? path.location = other.gistAt? path.location)
    (place : Location) : index.gistAt? place = other.gistAt? place := by
  by_cases hplace : ∃ path : Path, path.location = place
  · obtain ⟨path, rfl⟩ := hplace
    exact hpaths path
  · have hnone : index.gistAt? place = none :=
      Decidable.byContradiction fun hne => hplace (h.exists_path hne)
    have hnone' : other.gistAt? place = none :=
      Decidable.byContradiction fun hne => hplace (h'.exists_path hne)
    rw [hnone, hnone']

/-! ### Names -/

/-- A name is held if something with it is tracked. -/
theorem Consistent.isSome_named?_iff (h : index.Consistent) {name : String} :
    (index.named? name).isSome = true ↔
      ∃ place r, index.tracked? place = some r ∧ r.name = name := by
  rw [Option.isSome_iff_exists]
  constructor
  · rintro ⟨r, hr⟩
    exact ⟨r.place, r, h.tracked?_of_named? hr, h.name_eq hr⟩
  · rintro ⟨place, r, hr, rfl⟩
    exact h.held hr

section Agree

variable {other : Index} (h : index.Consistent) (h' : other.Consistent)
  (hgist : ∀ place, index.gistAt? place = other.gistAt? place)

include hgist in
theorem exists_tracked?_of_gistAt?_eq {place : Location} {r : Record}
    (hr : index.tracked? place = some r) :
    ∃ r', other.tracked? place = some r' ∧ r'.gist = r.gist := by
  have hplace := hgist place
  rw [gistAt?, hr, Option.map_some] at hplace
  exact Option.map_eq_some_iff.mp hplace.symm

include h h' hgist in
/-- Indexes that track the same hold the same names. -/
theorem Consistent.isSome_named?_eq (name : String) :
    (index.named? name).isSome = (other.named? name).isSome := by
  have hflip (place : Location) : other.gistAt? place = index.gistAt? place := (hgist place).symm
  rw [Bool.eq_iff_iff, h.isSome_named?_iff, h'.isSome_named?_iff]
  constructor
  · rintro ⟨place, r, hr, rfl⟩
    obtain ⟨r', hr', heq⟩ := exists_tracked?_of_gistAt?_eq hgist hr
    exact ⟨place, r', hr', Record.name_eq_of_gist_eq heq⟩
  · rintro ⟨place, r, hr, rfl⟩
    obtain ⟨r', hr', heq⟩ := exists_tracked?_of_gistAt?_eq hflip hr
    exact ⟨place, r', hr', Record.name_eq_of_gist_eq heq⟩

include h h' hgist in
/-- Indexes that track the same agree on who holds a name that only one note has. -/
theorem Consistent.map_gist_named?_eq {name : String}
    (hone : ∀ place place' r r', index.tracked? place = some r → index.tracked? place' = some r' →
      r.name = name → r'.name = name → place = place') :
    (index.named? name).map Record.gist = (other.named? name).map Record.gist := by
  have hsome := h.isSome_named?_eq h' hgist name
  cases hr : index.named? name with
  | none =>
    cases hr' : other.named? name with
    | none => rfl
    | some r' =>
      rw [hr, hr'] at hsome
      exact nomatch hsome
  | some r =>
    rw [hr, Option.isSome_some] at hsome
    obtain ⟨r', hr'⟩ := Option.isSome_iff_exists.mp hsome.symm
    have hflip (place : Location) : other.gistAt? place = index.gistAt? place := (hgist place).symm
    -- Both indexes track both holders, so as the only note with the name they are one.
    have htracked := h.tracked?_of_named? hr
    have htracked' := h'.tracked?_of_named? hr'
    obtain ⟨s, hs, hsame⟩ := exists_tracked?_of_gistAt?_eq hflip htracked'
    have hplace : r.place = r'.place := hone _ _ _ _ htracked hs (h.name_eq hr)
      ((Record.name_eq_of_gist_eq hsame).trans (h'.name_eq hr'))
    rw [← hplace, htracked] at hs
    rw [hr', Option.map_some, Option.map_some, Option.some.inj hs, hsame]

end Agree

/-! ### Notes of a file system -/

/-- The eligible note at a path, if it can be read. -/
def noteAt? (files : FileSystem) (settings : Settings) (path : Path) : Option Record :=
  if settings.root.any (isEligible · path) then
    (Record.read files settings.policy path).toOption
  else none

theorem any_isEligible_congr {p q : Path} (h : p.location = q.location) (root : Option Path) :
    root.any (isEligible · p) = root.any (isEligible · q) := by
  cases root with
  | none => rfl
  | some root => exact isEligible_congr h

theorem noteAt?_of_ineligible {files : FileSystem} {settings : Settings} {path : Path}
    (h : settings.root.any (isEligible · path) = false) : noteAt? files settings path = none := by
  simp [noteAt?, h]

theorem noteAt?_of_not_readable {files : FileSystem} {settings : Settings} {path : Path}
    {error : ReadError} (h : files.readText path = .error error) :
    noteAt? files settings path = none := by
  rw [noteAt?, Record.read, h]
  split <;> rfl

/-- At a missing path there is no note. -/
theorem noteAt?_of_missing {files : FileSystem} {settings : Settings} {path : Path}
    (h : path.Missing files settings) : noteAt? files settings path = none := by
  obtain ⟨-, error, hread, -⟩ := h
  exact noteAt?_of_not_readable hread

theorem noteAt?_place {files : FileSystem} {settings : Settings} {path : Path} {r : Record}
    (h : noteAt? files settings path = some r) : r.place = path.location := by
  rw [noteAt?] at h
  split at h
  case isFalse => exact nomatch h
  case isTrue =>
    cases hread : Record.read files settings.policy path with
    | error error =>
      rw [hread] at h
      exact nomatch h
    | ok r' =>
      rw [hread] at h
      obtain rfl := Option.some.inj h
      exact Record.place_of_read_ok hread

/-- The note at a place goes by the place. -/
theorem map_gist_noteAt?_congr {files : FileSystem} (hfiles : files.Lawful) (settings : Settings)
    {p q : Path} (hplace : p.location = q.location) :
    (noteAt? files settings p).map Record.gist = (noteAt? files settings q).map Record.gist := by
  have hoption (read : Except ReadError Record) :
      read.toOption.map Record.gist = (read.map Record.gist).toOption := by
    cases read <;> rfl
  rw [noteAt?, noteAt?, any_isEligible_congr hplace]
  split
  case isFalse => rfl
  case isTrue => rw [hoption, hoption, Record.map_gist_read_congr hfiles settings.policy hplace]

/-- What is read at an eligible path is the note at its place. -/
theorem map_gist_noteAt?_of_read {files : FileSystem} (hfiles : files.Lawful)
    {settings : Settings} {path p : Path} {r : Record}
    (heligible : settings.root.any (isEligible · path) = true)
    (hread : Record.read files settings.policy path = .ok r)
    (hplace : p.location = path.location) :
    (noteAt? files settings p).map Record.gist = some r.gist := by
  rw [map_gist_noteAt?_congr hfiles settings hplace, noteAt?, if_pos heligible, hread]
  rfl

/-! ### Inserting and removing -/

theorem Coherent.gistAt?_insert (h : index.Coherent) (r : Record) (place : Location) :
    (index.insert r).1.gistAt? place =
      if place = r.place then some r.gist else index.gistAt? place := by
  cases hnew : (index.tracked? r.place).any r.same with
  | false =>
    rw [gistAt?, h.tracked?_insert hnew]
    split <;> rfl
  | true =>
    rw [insert_of_same hnew]
    split
    case isTrue hplace =>
      rw [Option.any_eq_true] at hnew
      obtain ⟨old, hold, hsame⟩ := hnew
      rw [gistAt?, hplace, hold, Option.map_some, Record.same_iff.mp hsame]
    case isFalse => rfl

theorem Coherent.gistAt?_remove (h : index.Coherent) (place place' : Location) :
    (index.remove place).1.gistAt? place' =
      if place' = place then none else index.gistAt? place' := by
  rw [gistAt?, h.tracked?_remove]
  split <;> rfl

theorem Consistent.gistAt?_removeUnder (h : index.Consistent) (base place : Location) :
    (index.removeUnder base).1.gistAt? place =
      if base.isPrefixOf place then none else index.gistAt? place := by
  rw [gistAt?, h.tracked?_removeUnder]
  split <;> rfl

/-! ### Discarding -/

theorem discard_of_visible (h : index.Coherent) {path : Path} {r : Record}
    (hat : index.at? path.location = some r) :
    index.discard path = ((index.remove path.location).1, true) := by
  have hsnd := h.snd_remove path.location
  rw [hat] at hsnd
  rw [discard]
  split
  case h_1 removed hremove => rw [hremove]
  case h_2 removed hremove =>
    rw [hremove] at hsnd
    exact nomatch hsnd

theorem discard_of_not_visible (h : index.Coherent) {path : Path}
    (hat : index.at? path.location = none) :
    index.discard path = (index.remove path.location).1.removeUnder path.location := by
  have hsnd := h.snd_remove path.location
  rw [hat] at hsnd
  rw [discard]
  split
  case h_1 removed hremove =>
    rw [hremove] at hsnd
    exact nomatch hsnd
  case h_2 removed hremove => rw [hremove]

@[simp] theorem settings_discard (index : Index) (path : Path) :
    (index.discard path).1.settings = index.settings := by
  have hremove := settings_remove index path.location
  rw [discard]
  split
  case h_1 removed heq =>
    rw [heq] at hremove
    exact hremove
  case h_2 removed heq =>
    rw [heq] at hremove
    rw [settings_removeUnder]
    exact hremove

theorem Consistent.discard (h : index.Consistent) (path : Path) :
    (index.discard path).1.Consistent := by
  cases hat : index.at? path.location with
  | some r =>
    rw [discard_of_visible h.toCoherent hat]
    exact h.remove _
  | none =>
    rw [discard_of_not_visible h.toCoherent hat]
    exact (h.remove _).removeUnder _

/-- Where a note is visible only that goes, elsewhere everything at and beneath the place. -/
theorem Consistent.gistAt?_discard (h : index.Consistent) (path : Path) (place : Location) :
    (index.discard path).1.gistAt? place =
      if place = path.location ∨
          index.at? path.location = none ∧ path.location.isPrefixOf place = true then none
      else index.gistAt? place := by
  cases hat : index.at? path.location with
  | some r =>
    rw [discard_of_visible h.toCoherent hat, h.gistAt?_remove]
    simp
  | none =>
    rw [discard_of_not_visible h.toCoherent hat, (h.remove _).gistAt?_removeUnder,
      h.gistAt?_remove]
    by_cases hplace : place = path.location <;> simp [hplace]

/-- If nothing is tracked beneath a note, everything at and beneath the place goes. -/
theorem Consistent.gistAt?_discard_of_leaf (h : index.Consistent) {path : Path} {place : Location}
    (hleaf : index.gistAt? path.location ≠ none → path.location <+: place →
      place ≠ path.location → index.gistAt? place = none) :
    (index.discard path).1.gistAt? place =
      if path.location <+: place then none else index.gistAt? place := by
  rw [h.gistAt?_discard]
  by_cases hbelow : path.location <+: place
  · rw [if_pos hbelow]
    split
    case isTrue => rfl
    case isFalse hkept =>
      simp only [List.isPrefixOf_iff_prefix, hbelow, and_true, not_or] at hkept
      refine hleaf (fun hnone => hkept.2 ?_) hbelow hkept.1
      exact at?_of_gistAt?_eq_none hnone
  · have hne : place ≠ path.location := fun heq => hbelow (heq ▸ List.prefix_rfl)
    simp [hne, List.isPrefixOf_iff_prefix, hbelow]

/-! ### Refreshing -/

section Refresh

variable {files : FileSystem} {path : Path}

theorem refresh_of_ineligible (h : index.root.any (isEligible · path) = false) :
    index.refresh files path = (index, false) := by
  simp [refresh, h]

theorem refresh_of_ok (h : index.root.any (isEligible · path) = true) {r : Record}
    (hread : Record.read files index.policy path = .ok r) :
    index.refresh files path = index.insert r := by
  simp [refresh, h, hread]

theorem refresh_of_error (h : index.root.any (isEligible · path) = true) {error : ReadError}
    (hread : Record.read files index.policy path = .error error) :
    index.refresh files path =
      if error.kind = .notFound then index.discard path else (index, false) := by
  simp [refresh, h, hread]

/-- Refreshing ignores a path, inserts what is read there, or discards what is gone. -/
theorem refresh_cases (index : Index) (files : FileSystem) (path : Path) :
    index.refresh files path = (index, false) ∨
    (index.root.any (isEligible · path) = true ∧ ∃ r,
      Record.read files index.policy path = .ok r ∧ index.refresh files path = index.insert r) ∨
    index.refresh files path = index.discard path := by
  cases heligible : index.root.any (isEligible · path) with
  | false => exact .inl (refresh_of_ineligible heligible)
  | true =>
    cases hread : Record.read files index.policy path with
    | ok r => exact .inr (.inl ⟨rfl, r, rfl, refresh_of_ok heligible hread⟩)
    | error error =>
      rw [refresh_of_error heligible hread]
      split
      case isTrue => exact .inr (.inr rfl)
      case isFalse => exact .inl rfl

@[simp] theorem settings_refresh (index : Index) (files : FileSystem) (path : Path) :
    (index.refresh files path).1.settings = index.settings := by
  rcases refresh_cases index files path with h | ⟨-, r, -, h⟩ | h
  · rw [h]
  · rw [h, settings_insert]
  · rw [h, settings_discard]

theorem Consistent.refresh (h : index.Consistent) (files : FileSystem) (path : Path) :
    (index.refresh files path).1.Consistent := by
  rcases refresh_cases index files path with heq | ⟨-, r, -, heq⟩ | heq
  · rwa [heq]
  · rw [heq]
    exact h.insert r
  · rw [heq]
    exact h.discard path

@[simp] theorem settings_refreshEach (index : Index) (files : FileSystem) (paths : List Path) :
    (index.refreshEach files paths).1.settings = index.settings := by
  induction paths generalizing index with
  | nil => rfl
  | cons path paths ih => rw [refreshEach, ih, settings_refresh]

theorem Consistent.refreshEach (h : index.Consistent) (files : FileSystem) (paths : List Path) :
    (index.refreshEach files paths).1.Consistent := by
  induction paths generalizing index with
  | nil => exact h
  | cons path paths ih => exact ih (h.refresh files path)

end Refresh

end Index

/-! ### Changes -/

/-- The paths that a change has read again. -/
def Change.rereads (files : FileSystem) (settings : Settings) (change : Change) : List Path :=
  match change.kind with
  | .deleted => []
  | .added | .updated =>
    if hasNoteExtension change.path then [change.path]
    else if settings.root.any (isEligibleDirectory · change.path) &&
        (files.listDirectory change.path).toOption.isSome then
      (scan files change.path).notes
    else []

section Change

variable {files : FileSystem} {settings : Settings} {change : Change}

theorem Change.rereads_of_deleted (h : change.kind = .deleted) :
    change.rereads files settings = [] := by
  simp only [rereads, h]

theorem Change.rereads_of_not_deleted (h : change.kind ≠ .deleted) :
    change.rereads files settings =
      if hasNoteExtension change.path then [change.path]
      else if settings.root.any (isEligibleDirectory · change.path) &&
          (files.listDirectory change.path).toOption.isSome then
        (scan files change.path).notes
      else [] := by
  cases hkind : change.kind with
  | deleted => exact absurd hkind h
  | added => simp only [rereads, hkind]
  | updated => simp only [rereads, hkind]

end Change

namespace Index

variable {index : Index}

/-- A deletion discards its path. -/
theorem apply_of_deleted {files : FileSystem} {change : Change} (h : change.kind = .deleted) :
    index.apply files change = index.discard change.path := by
  simp only [apply, h]

/-- Any other change refreshes what it has read again. -/
theorem apply_of_not_deleted {files : FileSystem} {change : Change} (h : change.kind ≠ .deleted) :
    index.apply files change =
      index.refreshEach files (change.rereads files index.settings) := by
  have hroot : index.settings.root = index.root := rfl
  have happly : index.apply files change =
      if hasNoteExtension change.path then index.refresh files change.path
      else index.refreshUnder files change.path := by
    cases hkind : change.kind with
    | deleted => exact absurd hkind h
    | added => simp only [apply, hkind]
    | updated => simp only [apply, hkind]
  rw [happly, Change.rereads_of_not_deleted h, refreshUnder, hroot]
  split
  case isTrue => simp only [refreshEach, Bool.or_false, Prod.eta]
  case isFalse =>
    split
    case isTrue => rfl
    case isFalse => rfl

@[simp] theorem settings_apply (index : Index) (files : FileSystem) (change : Change) :
    (index.apply files change).1.settings = index.settings := by
  by_cases hkind : change.kind = .deleted
  · rw [apply_of_deleted hkind, settings_discard]
  · rw [apply_of_not_deleted hkind, settings_refreshEach]

/-- Bringing an index up to date keeps it consistent. -/
theorem Consistent.applyChange (h : index.Consistent) (files : FileSystem) (change : Change) :
    (index.apply files change).1.Consistent := by
  by_cases hkind : change.kind = .deleted
  · rw [apply_of_deleted hkind]
    exact h.discard _
  · rw [apply_of_not_deleted hkind]
    exact h.refreshEach files _

/-- Bring an index up to date with several changes, one after the other. -/
def applyEach (files : FileSystem) (index : Index) (changes : List Change) : Index :=
  changes.foldl (fun index change => (index.apply files change).1) index

theorem Consistent.applyEach (h : index.Consistent) (files : FileSystem)
    (changes : List Change) : (index.applyEach files changes).Consistent := by
  induction changes generalizing index with
  | nil => exact h
  | cons change changes ih => exact ih (h.applyChange files change)

@[simp] theorem settings_applyEach (index : Index) (files : FileSystem)
    (changes : List Change) : (index.applyEach files changes).settings = index.settings := by
  induction changes generalizing index with
  | nil => rfl
  | cons change changes ih => exact (ih _).trans (settings_apply ..)

/-! ### Building -/

theorem insertReadable_of_ok {files : FileSystem} {path : Path} {paths : List Path} {r : Record}
    (hread : Record.read files index.policy path = .ok r) :
    index.insertReadable files (path :: paths) =
      (index.insert r).1.insertReadable files paths := by
  simp [insertReadable, hread]

theorem insertReadable_of_error {files : FileSystem} {path : Path} {paths : List Path}
    {error : ReadError} (hread : Record.read files index.policy path = .error error) :
    index.insertReadable files (path :: paths) = index.insertReadable files paths := by
  simp [insertReadable, hread]

theorem settings_insertReadable (index : Index) (files : FileSystem) (paths : List Path) :
    (index.insertReadable files paths).settings = index.settings := by
  induction paths generalizing index with
  | nil => rfl
  | cons path paths ih =>
    cases hread : Record.read files index.policy path with
    | ok r => rw [insertReadable_of_ok hread, ih, settings_insert]
    | error error => rw [insertReadable_of_error hread, ih]

theorem Consistent.insertReadable (h : index.Consistent) (files : FileSystem)
    (paths : List Path) : (index.insertReadable files paths).Consistent := by
  induction paths generalizing index with
  | nil => exact h
  | cons path paths ih =>
    cases hread : Record.read files index.policy path with
    | ok r =>
      rw [insertReadable_of_ok hread]
      exact ih (h.insert r)
    | error error =>
      rw [insertReadable_of_error hread]
      exact ih h

/-- Inserting notes leaves the gist of every one that can be read at its place. -/
theorem Consistent.gistAt?_insertReadable (h : index.Consistent) {files : FileSystem}
    (hfiles : files.Lawful) (paths : List Path) (path : Path) :
    (index.insertReadable files paths).gistAt? path.location =
      if ∃ p ∈ paths, p.location = path.location then
        ((Record.read files index.policy path).toOption.map Record.gist).or
          (index.gistAt? path.location)
      else index.gistAt? path.location := by
  induction paths generalizing index with
  | nil => simp [Index.insertReadable]
  | cons first rest ih =>
    -- Paths of one place read the same, so it does not matter which of them comes last.
    have hcongr (hplace : first.location = path.location) :
        (Record.read files index.policy first).map Record.gist =
          (Record.read files index.policy path).map Record.gist :=
      Record.map_gist_read_congr hfiles index.policy hplace
    cases hread : Record.read files index.policy first with
    | error error =>
      rw [insertReadable_of_error hread, ih h]
      by_cases hplace : first.location = path.location
      · have hpath := hcongr hplace
        rw [hread] at hpath
        cases hread' : Record.read files index.policy path with
        | ok r => cases hpath.trans (congrArg (Except.map Record.gist) hread')
        | error error' => simp [Except.toOption]
      · simp [hplace]
    | ok r =>
      have hpolicy : (index.insert r).1.policy = index.policy :=
        congrArg Settings.policy (settings_insert index r)
      rw [insertReadable_of_ok hread, ih (h.insert r), hpolicy, h.gistAt?_insert,
        Record.place_of_read_ok hread]
      by_cases hplace : first.location = path.location
      · have hpath := hcongr hplace
        rw [hread] at hpath
        cases hread' : Record.read files index.policy path with
        | error error => cases hpath.trans (congrArg (Except.map Record.gist) hread')
        | ok r' =>
          rw [hread'] at hpath
          have hgist : r.gist = r'.gist := Except.ok.inj hpath
          simp [hplace, Except.toOption, hgist]
      · simp [hplace, Ne.symm hplace]

theorem settings_build (files : FileSystem) (time : String) (root : Option Path)
    (policy : NamingPolicy) : (build files time root policy).settings = ⟨root, policy⟩ :=
  settings_insertReadable ..

theorem consistent_build (files : FileSystem) (time : String) (root : Option Path)
    (policy : NamingPolicy) : (build files time root policy).Consistent := by
  have h := (consistent_empty root policy).insertReadable files
    ((root.map (scan files)).getD .empty).notes
  exact { h with }

/-! ### Every index of a store -/

/-- The indexes that a store may hold: those that are empty or built from scratch, with any notes
    inserted and removed and any changes applied, each change in a file system of its own. -/
inductive Stored : Index → Prop where
  | empty (root : Option Path) (policy : NamingPolicy) : Stored { root, policy }
  | build (files : FileSystem) (time : String) (root : Option Path) (policy : NamingPolicy) :
      Stored (Index.build files time root policy)
  | operate {index : Index} (h : Stored index) (op : Operation) : Stored (op.apply index).1
  | apply {index : Index} (h : Stored index) (files : FileSystem) (change : Change) :
      Stored (index.apply files change).1

theorem Stored.consistent (h : index.Stored) : index.Consistent := by
  induction h with
  | empty root policy => exact consistent_empty root policy
  | build files time root policy => exact consistent_build files time root policy
  | operate _ op ih => exact ih.apply op
  | apply _ files change ih => exact ih.applyChange files change

/-- A store may hold whatever becomes of its index by operations. -/
theorem Stored.run (h : index.Stored) (ops : List Operation) :
    (Operation.run index ops).Stored := by
  induction ops generalizing index with
  | nil => exact h
  | cons op ops ih => exact ih (h.operate op)

end Index

end WikiNotes
