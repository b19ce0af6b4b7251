import WikiNotes.Proofs.Index.Effect
import WikiNotes.Proofs.Index.Notice

/-! # Changes that are applied again

A change that is applied again right away should do nothing more.  It reads the same notes, which
are tracked by then (`Current`), but a path that it discards takes what is beneath it along only
where no note is visible at the path itself.  So what is beneath a visible note outlives the first
application and not the second one: the repetition does nothing exactly if nothing is left beneath
the paths that the change discards, and after it there is nothing left to do
(`Reached.apply_again_iff`).

`Consistent.emptyBeneath_apply` says when nothing is left beneath a path that is discarded, and
`Current.refreshEach_eq_self` when reading several notes again does nothing. -/

namespace WikiNotes

/-- A change discards its own path if it is a deletion, and else the missing ones of those that it
    has read again. -/
def Change.Discards (files : FileSystem) (settings : Settings) (path : Path) (change : Change) :
    Prop :=
  change.kind = .deleted ∧ path = change.path ∨
    change.kind ≠ .deleted ∧ path ∈ change.rereads files settings ∧ path.Missing files settings

namespace Index

variable {index : Index} {files : FileSystem} {path : Path} {paths : List Path}

/-- The indexes that are reached by building from scratch and by any changes, each in a file system
    of its own. -/
inductive Reached : Index → Prop where
  | empty (root : Option Path) (policy : NamingPolicy) : Reached { root, policy }
  | build (files : FileSystem) (time : String) (root : Option Path) (policy : NamingPolicy) :
      Reached (Index.build files time root policy)
  | apply {index : Index} (h : Reached index) (files : FileSystem) (change : Change) :
      Reached (index.apply files change).1

/-- A store may hold every index that is reached. -/
theorem Reached.stored (h : index.Reached) : index.Stored := by
  induction h with
  | empty root policy => exact .empty root policy
  | build files time root policy => exact .build files time root policy
  | apply _ files change ih => exact ih.apply files change

theorem Reached.consistent (h : index.Reached) : index.Consistent := h.stored.consistent

/-- Nothing is tracked beneath a place. -/
def EmptyBeneath (place : Location) (index : Index) : Prop :=
  ∀ other, place <+: other → other ≠ place → index.tracked? other = none

/-! ### Removing what is not there -/

theorem remove_of_untracked {place : Location} (h : index.tracked? place = none) :
    index.remove place = (index, false) := by
  obtain ⟨hat, hfind⟩ := tracked?_eq_none_iff.mp h
  have hshadowed : index.shadowed.contains place = false :=
    SortedMap.contains_eq_false_iff.mpr hfind
  simp only [Index.remove, hshadowed, Bool.false_eq_true, if_false, detach_of_at?_eq_none hat]

theorem Coherent.removeUnder_of_untracked (h : index.Coherent) {base : Location}
    (hnone : ∀ other, base <+: other → index.tracked? other = none) :
    index.removeUnder base = (index, false) := by
  have hplaces : index.placesUnder base = [] := by
    refine List.eq_nil_iff_forall_not_mem.mpr fun place hmem => ?_
    obtain ⟨hbelow, r, hat⟩ := (mem_placesUnder h).mp hmem
    have hnothing := hnone place (List.isPrefixOf_iff_prefix.mp hbelow)
    exact nomatch (tracked?_eq_none_iff.mp hnothing).1.symm.trans hat
  have hshadowed : index.shadowed.filter (fun place _ => !base.isPrefixOf place) =
      index.shadowed := by
    refine SortedMap.ext_find? fun place => ?_
    rw [SortedMap.find?_filter]
    cases hfind : index.shadowed.find? place with
    | none => rfl
    | some r =>
      -- What is shadowed is tracked, so it is not at or beneath the place.
      have hnot : base.isPrefixOf place = false := by
        rw [← Bool.not_eq_true, List.isPrefixOf_iff_prefix]
        intro hbelow
        exact nomatch hfind.symm.trans (tracked?_eq_none_iff.mp (hnone place hbelow)).2
      simp [hnot]
  rw [Index.removeUnder, hplaces, unshadowUnder, hshadowed]
  rfl

/-- Discarding a path does nothing if nothing is tracked at or beneath it. -/
theorem Coherent.discard_of_untracked (h : index.Coherent)
    (hnone : index.tracked? path.location = none) (hempty : index.EmptyBeneath path.location) :
    index.discard path = (index, false) := by
  rw [discard_of_not_visible h (tracked?_eq_none_iff.mp hnone).1, remove_of_untracked hnone]
  refine h.removeUnder_of_untracked fun other hbelow => ?_
  by_cases hplace : other = path.location
  · rw [hplace, hnone]
  · exact hempty other hbelow hplace

/-! ### Discarding -/

theorem Consistent.tracked?_discard (h : index.Consistent) (path : Path) :
    (index.discard path).1.tracked? path.location = none := by
  rw [← gistAt?_eq_none_iff, h.gistAt?_discard, if_pos (.inl rfl)]

/-- Nothing is left beneath a path that is discarded exactly if no note is visible there or there
    was nothing beneath it. -/
theorem Consistent.emptyBeneath_discard_iff (h : index.Consistent) (path : Path) :
    (index.discard path).1.EmptyBeneath path.location ↔
      index.at? path.location = none ∨ index.EmptyBeneath path.location := by
  cases hat : index.at? path.location with
  | none =>
    refine iff_of_true (fun other hbelow hne => ?_) (.inl rfl)
    have hgone : other = path.location ∨ index.at? path.location = none ∧
        path.location.isPrefixOf other = true :=
      .inr ⟨hat, List.isPrefixOf_iff_prefix.mpr hbelow⟩
    rw [← gistAt?_eq_none_iff, h.gistAt?_discard, if_pos hgone]
  | some r =>
    -- Only the visible note itself goes.
    have hkept {other : Location} (hne : other ≠ path.location) :
        (index.discard path).1.tracked? other = index.tracked? other := by
      rw [discard_of_visible h.toCoherent hat, h.tracked?_remove, if_neg hne]
    constructor
    · intro hempty
      exact .inr fun other hbelow hne => hkept hne ▸ hempty other hbelow hne
    · rintro (hnone | hempty)
      · exact nomatch hnone
      · exact fun other hbelow hne => (hkept hne).trans (hempty other hbelow hne)

/-! ### Reading several notes again -/

theorem insert_of_gistAt? {r : Record} (h : index.gistAt? r.place = some r.gist) :
    index.insert r = (index, false) := by
  obtain ⟨old, hold, hsame⟩ := Option.map_eq_some_iff.mp h
  refine insert_of_same ?_
  rw [hold, Option.any_some, Record.same_iff, hsame]

/-- Of several paths the notes are tracked as they can be read now, and at the missing ones nothing
    is tracked. -/
structure Current (files : FileSystem) (paths : List Path) (index : Index) : Prop where
  note {path : Path} {r : Record} : path ∈ paths →
    noteAt? files index.settings path = some r → index.gistAt? path.location = some r.gist
  missing {path : Path} : path ∈ paths →
    path.Missing files index.settings → index.tracked? path.location = none

/-- Reading notes again does nothing if they are tracked as they are and nothing is left beneath the
    missing ones. -/
theorem Current.refreshEach_eq_self (hcurrent : index.Current files paths) (h : index.Coherent)
    (hempty : ∀ path ∈ paths, path.Missing files index.settings →
      index.EmptyBeneath path.location) :
    index.refreshEach files paths = (index, false) := by
  induction paths with
  | nil => rfl
  | cons path rest ih =>
    have hstep : index.refresh files path = (index, false) := by
      rcases refresh_noteAt?_cases index files path with
        ⟨-, heq⟩ | ⟨r, hnote, heq⟩ | ⟨hmissing, heq⟩
      · exact heq
      · rw [heq]
        refine insert_of_gistAt? ?_
        rw [noteAt?_place hnote]
        exact hcurrent.note (List.mem_cons_self ..) hnote
      · rw [heq]
        exact h.discard_of_untracked (hcurrent.missing (List.mem_cons_self ..) hmissing)
          (hempty path (List.mem_cons_self ..) hmissing)
    have hrest : index.refreshEach files rest = (index, false) := by
      refine ih ⟨fun hmem => hcurrent.note (List.mem_cons_of_mem _ hmem),
        fun hmem => hcurrent.missing (List.mem_cons_of_mem _ hmem)⟩ fun p hp => ?_
      exact hempty p (List.mem_cons_of_mem _ hp)
    simp only [refreshEach, hstep, hrest, Bool.or_false]

section RefreshEach

variable (h : index.Consistent) (hfiles : files.Lawful) (hapart : Path.Apart paths)
include h hfiles hapart

/-- Notes none of which lies beneath another one are current after they were read again. -/
theorem Consistent.current_refreshEach : (index.refreshEach files paths).1.Current files paths := by
  constructor
  · intro path r hpath hnote
    rw [settings_refreshEach] at hnote
    refine h.gistAt?_refreshEach_of_note hfiles ⟨path, hpath, rfl⟩ (fun above habove hmissing => ?_)
      hnote
    intro hbelow
    -- A missing path above would be at the place of the note, where something can be read.
    have hplace := hapart above habove path hpath hbelow
    have hcongr := map_gist_noteAt?_congr hfiles index.settings hplace
    rw [noteAt?_of_missing hmissing, hnote] at hcongr
    exact nomatch hcongr
  · intro path hpath hmissing
    rw [settings_refreshEach] at hmissing
    have hdrop := h.drop_mem_refreshEffects hfiles hpath hmissing (.inl rfl)
    rw [← gistAt?_eq_none_iff, h.gistAt?_refreshEach hfiles, noteAt?_of_missing hmissing]
    cases hoverall : Effect.overall (index.refreshEffects files path.location paths) with
    | keep => exact nomatch Effect.overall_eq_keep_iff.mp hoverall _ hdrop
    | put => rfl
    | drop => rfl

/-- Nothing is left beneath a missing path if nothing is tracked at it or beneath it. -/
theorem Consistent.emptyBeneath_refreshEach (hpath : path ∈ paths)
    (hmissing : path.Missing files index.settings)
    (hfree : index.tracked? path.location = none ∨ index.EmptyBeneath path.location) :
    (index.refreshEach files paths).1.EmptyBeneath path.location := by
  intro other hbelow hne
  refine gistAt?_eq_none_iff.mp (Decidable.byContradiction fun htracked => ?_)
  obtain ⟨p, rfl⟩ := (h.refreshEach files paths).toCoherent.exists_path htracked
  have hput : Effect.put ∉ index.refreshEffects files p.location paths := by
    rw [put_mem_refreshEffects_iff]
    rintro ⟨q, hq, hplace, -⟩
    exact hne ((hapart path hpath q hq (hplace ▸ hbelow)).trans hplace).symm
  rw [h.gistAt?_refreshEach hfiles] at htracked
  cases hoverall : Effect.overall (index.refreshEffects files p.location paths) with
  | put => exact hput (Effect.mem_of_overall_eq hoverall nofun)
  | drop =>
    rw [hoverall] at htracked
    exact htracked rfl
  | keep =>
    rw [hoverall] at htracked
    rcases hfree with hnone | hempty
    · have hdrop := h.drop_mem_refreshEffects hfiles hpath hmissing
        (.inr ⟨gistAt?_eq_none_iff.mpr hnone, hbelow⟩)
      exact nomatch Effect.overall_eq_keep_iff.mp hoverall _ hdrop
    · exact htracked (gistAt?_eq_none_iff.mpr (hempty _ hbelow hne))

end RefreshEach

/-! ### Changes -/

section Apply

variable (h : index.Consistent) (hfiles : files.IsTree) {change : Change}
include h hfiles

/-- Nothing is tracked any more at a path that a change discards. -/
theorem Consistent.tracked?_apply_of_discards
    (hdiscards : change.Discards files index.settings path) :
    (index.apply files change).1.tracked? path.location = none := by
  rcases hdiscards with ⟨hkind, rfl⟩ | ⟨hkind, hpath, hmissing⟩
  · rw [apply_of_deleted hkind]
    exact h.tracked?_discard change.path
  · have hcurrent := h.current_refreshEach hfiles.toLawful
      (apart_rereads hfiles index.settings change)
    rw [apply_of_not_deleted hkind]
    exact hcurrent.missing hpath (by rwa [settings_refreshEach])

/-- Nothing is left beneath a path that a change discards if nothing is tracked at it or beneath
    it. -/
theorem Consistent.emptyBeneath_apply (hdiscards : change.Discards files index.settings path)
    (hfree : index.tracked? path.location = none ∨ index.EmptyBeneath path.location) :
    (index.apply files change).1.EmptyBeneath path.location := by
  rcases hdiscards with ⟨hkind, rfl⟩ | ⟨hkind, hpath, hmissing⟩
  · rw [apply_of_deleted hkind]
    refine (h.emptyBeneath_discard_iff change.path).mpr (hfree.imp_left fun hnone => ?_)
    exact (tracked?_eq_none_iff.mp hnone).1
  · rw [apply_of_not_deleted hkind]
    exact h.emptyBeneath_refreshEach hfiles.toLawful (apart_rereads hfiles index.settings change)
      hpath hmissing hfree

/-- A change that leaves nothing beneath the paths that it discards does nothing more when it is
    applied again. -/
theorem Consistent.apply_again_of_empty (hempty : ∀ path,
      change.Discards files index.settings path →
        (index.apply files change).1.EmptyBeneath path.location) :
    (index.apply files change).1.apply files change = ((index.apply files change).1, false) := by
  have hafter := (h.applyChange files change).toCoherent
  by_cases hkind : change.kind = .deleted
  · have hgone : change.Discards files index.settings change.path := .inl ⟨hkind, rfl⟩
    have hnone := h.tracked?_apply_of_discards hfiles hgone
    rw [apply_of_deleted hkind]
    exact hafter.discard_of_untracked hnone (hempty _ hgone)
  · have hcurrent := h.current_refreshEach hfiles.toLawful
      (apart_rereads hfiles index.settings change)
    rw [← apply_of_not_deleted hkind] at hcurrent
    rw [apply_of_not_deleted hkind, settings_apply]
    refine hcurrent.refreshEach_eq_self hafter fun path hpath hmissing => hempty path ?_
    rw [settings_apply] at hmissing
    exact .inr ⟨hkind, hpath, hmissing⟩

end Apply

/-- A change that is applied again does nothing more exactly if nothing is left beneath the paths
    that it discards.  For a deletion that is so exactly if no note was visible at its path or
    nothing was tracked beneath it, and for any change it is so if at every path that it discards
    nothing was tracked or nothing beneath it.  A change that is applied for the third time never
    does anything. -/
theorem Reached.apply_again_iff (hindex : index.Reached) (hfiles : files.IsTree)
    (change : Change) :
    let first := (index.apply files change).1
    let second := (first.apply files change).1
    (first.apply files change = (first, false) ↔ ∀ path,
      change.Discards files index.settings path → first.EmptyBeneath path.location) ∧
    (change.kind = .deleted → (first.apply files change = (first, false) ↔
      index.at? change.path.location = none ∨ index.EmptyBeneath change.path.location)) ∧
    ((∀ path, change.Discards files index.settings path →
      index.tracked? path.location = none ∨ index.EmptyBeneath path.location) →
        first.apply files change = (first, false)) ∧
    second.apply files change = (second, false) := by
  intro first second
  have h := hindex.consistent
  have hfirst : first.Consistent := h.applyChange files change
  have hsettings : first.settings = index.settings := settings_apply ..
  -- What a change discards is not tracked after it, so that the next time all beneath it goes.
  have hsecond (path : Path) (hdiscards : change.Discards files index.settings path) :
      second.EmptyBeneath path.location :=
    hfirst.emptyBeneath_apply hfiles (hsettings.symm ▸ hdiscards)
      (.inl (h.tracked?_apply_of_discards hfiles hdiscards))
  have hiff : first.apply files change = (first, false) ↔ ∀ path,
      change.Discards files index.settings path → first.EmptyBeneath path.location := by
    refine ⟨fun hnothing path hdiscards => ?_, h.apply_again_of_empty hfiles⟩
    have hsame : second = first := by
      show (first.apply files change).1 = first
      rw [hnothing]
    exact hsame ▸ hsecond path hdiscards
  refine ⟨hiff, fun hkind => ?_, fun hfree => ?_, ?_⟩
  · have hdiscard : first = (index.discard change.path).1 := by
      simp only [first, apply_of_deleted hkind]
    rw [hiff, ← h.emptyBeneath_discard_iff, ← hdiscard]
    constructor
    · exact fun hall => hall _ (.inl ⟨hkind, rfl⟩)
    · rintro hempty path (⟨-, rfl⟩ | ⟨hnot, -⟩)
      · exact hempty
      · exact absurd hkind hnot
  · exact h.apply_again_of_empty hfiles fun path hdiscards =>
      h.emptyBeneath_apply hfiles hdiscards (hfree path hdiscards)
  · exact hfirst.apply_again_of_empty hfiles fun path hdiscards =>
      hsecond path (hsettings ▸ hdiscards)

/-- A directory of two notes with one name is gone: its deletion takes both of them, and a second
    report of it changes nothing. -/
theorem apply_again_iff_directory :
    let m : Memory := (({} : Memory).write ⟨"/v/d/a.md"⟩ (.text "#x")).write ⟨"/v/d/e/a.md"⟩
      (.text "y")
    let index := Index.build m.fileSystem "now" (some ⟨"/v"⟩) {}
    let files := (m.delete ⟨"/v/d"⟩).fileSystem
    let change : Change := ⟨.deleted, ⟨"/v/d"⟩⟩
    let first := (index.apply files change).1
    index.Reached ∧ files.IsTree ∧ index.tracked? (Path.location ⟨"/v/d/a.md"⟩) ≠ none ∧
      first.tracked? (Path.location ⟨"/v/d/a.md"⟩) = none ∧
      first.apply files change = (first, false) := by
  intro m index files change first
  have hplain : m.IsPlain := by decide +kernel
  have hindex : index.Reached := .build ..
  have hfiles : files.IsTree := (hplain.legible.toIsTree.delete ⟨"/v/d"⟩).fileSystem
  have hnone : index.at? change.path.location = none := by decide +kernel
  obtain ⟨-, hdeletion, -, -⟩ := hindex.apply_again_iff hfiles change
  exact ⟨hindex, hfiles, by decide +kernel, by decide +kernel, (hdeletion rfl).mpr (.inl hnone)⟩

/-- A note was replaced by a directory of the same name with a note in it.  The deletion of the old
    note, reported twice, takes the new one along the second time, though it is still there. -/
theorem apply_again_drops_note :
    let m : Memory := ({} : Memory).write ⟨"/v/d.md"⟩ (.text "x")
    let replaced := (m.delete ⟨"/v/d.md"⟩).write ⟨"/v/d.md/x.md"⟩ (.text "y")
    let files := replaced.fileSystem
    let index := ((Index.build m.fileSystem "now" (some ⟨"/v"⟩) {}).apply files
      ⟨.added, ⟨"/v/d.md/x.md"⟩⟩).1
    let change : Change := ⟨.deleted, ⟨"/v/d.md"⟩⟩
    let first := (index.apply files change).1
    let second := (first.apply files change).1
    index.Reached ∧ files.IsTree ∧ first.sortedRecords.map Record.path = [⟨"/v/d.md/x.md"⟩] ∧
      (first.apply files change).2 = true ∧ second.sortedRecords = [] := by
  intro m replaced files index change first second
  have hplain : replaced.IsPlain := by decide +kernel
  exact ⟨.apply (.build ..) .., hplain.legible.toIsTree.fileSystem, by decide +kernel⟩

end Index

end WikiNotes
