import WikiNotes.Proofs.Index.View
import WikiNotes.Proofs.Tree

/-! # What updates tell

Every update of an index says whether what is visible changed.  If it says no, the index shows the
same as before (`Consistent.view_apply_of_untold`); if it says yes, other documents are listed
(`Consistent.documents_apply_of_told`).

One insertion or removal is easily seen to tell the truth.  An update that reads several notes tells
of every step, so its steps must not undo each other.  They do not in a tree, where none of the
notes lies beneath another one: `Noted` is what then holds after any number of steps, and a `Sign`
of the difference to the start outlives the steps behind it. -/

namespace WikiNotes

namespace Index

variable {index : Index}

/-! ### Inserting and removing -/

section Edits

variable {r : Record} {place other base : Location}

theorem insert_of_untold (huntold : (index.insert r).2 = false) :
    (index.insert r).1 = index := by
  rw [snd_insert, Bool.not_eq_false'] at huntold
  rw [insert_of_same huntold]

/-- What was inserted is visible, and something else was tracked at its place. -/
theorem Coherent.insert_of_told (h : index.Coherent) (htold : (index.insert r).2 = true) :
    (index.insert r).1.at? r.place = some r ∧ index.gistAt? r.place ≠ some r.gist := by
  rw [snd_insert, Bool.not_eq_true'] at htold
  refine ⟨(h.insert r).at?_place (h.named?_insert_self htold), fun hgist => ?_⟩
  obtain ⟨old, hold, hsame⟩ := Option.map_eq_some_iff.mp hgist
  rw [hold, Option.any_some, Record.same_iff.mpr hsame.symm] at htold
  exact nomatch htold

/-- Where nothing is visible a removal is not seen. -/
theorem Coherent.view_remove (h : index.Coherent) (hat : index.at? place = none) :
    (index.remove place).1.view = index.view := by
  have hpolicy : (index.remove place).1.policy = index.policy :=
    congrArg Settings.policy (settings_remove index place)
  refine (h.remove place).view_eq h hpolicy fun name => h.named?_remove_kept fun r hr => ?_
  exact nomatch hat.symm.trans hr

/-- What is visible at another place than the removed one stays visible. -/
theorem Coherent.at?_remove_kept (h : index.Coherent) (hne : other ≠ place)
    (hat : index.at? other = some r) : (index.remove place).1.at? other = some r := by
  obtain ⟨hname, hplace⟩ := h.at?_eq_some_iff.mp hat
  refine (h.remove place).at?_eq_some_iff.mpr ⟨?_, hplace⟩
  rw [h.named?_remove_kept, hname]
  intro old hold heq
  -- Only one visible note has the name.
  have hheld := h.named?_name hold
  rw [heq, hname] at hheld
  obtain rfl := Option.some.inj hheld
  exact hne (hplace.symm.trans (h.place_eq hold))

theorem Coherent.at?_removeEach_kept (h : index.Coherent) {places : List Location}
    (hnot : other ∉ places) (hat : index.at? other = some r) :
    (index.removeEach places).1.at? other = some r := by
  induction places generalizing index with
  | nil => exact hat
  | cons place places ih =>
    rw [List.mem_cons, not_or] at hnot
    exact ih (h.remove place) hnot.2 (h.at?_remove_kept hnot.1 hat)

/-- What is visible outside a place stays visible when everything at and beneath that is removed. -/
theorem Consistent.at?_removeUnder_kept (h : index.Consistent) (hbelow : ¬ base <+: other)
    (hat : index.at? other = some r) : (index.removeUnder base).1.at? other = some r := by
  have hnot : other ∉ index.placesUnder base := fun hmem =>
    hbelow (List.isPrefixOf_iff_prefix.mp ((mem_placesUnder h.toCoherent).mp hmem).1)
  exact (h.unshadowUnder base).at?_removeEach_kept hnot hat

/-- Removing everything at and beneath a place tells whether something was visible there. -/
theorem Consistent.snd_removeUnder (h : index.Consistent) (base : Location) :
    (index.removeUnder base).2 = !(index.placesUnder base).isEmpty := by
  have hunshadowed := h.unshadowUnder base
  rw [Index.removeUnder]
  cases hplaces : index.placesUnder base with
  | nil => rfl
  | cons place places =>
    obtain ⟨-, r, hr⟩ := (mem_placesUnder h.toCoherent).mp (hplaces ▸ List.mem_cons_self ..)
    have hremove : ((index.unshadowUnder base).remove place).2 = true :=
      (hunshadowed.snd_remove place).trans (Option.isSome_iff_exists.mpr ⟨r, hr⟩)
    simp [Index.removeEach, hremove]

theorem view_removeUnder (hplaces : index.placesUnder base = []) :
    (index.removeUnder base).1.view = index.view := by
  rw [removeUnder, hplaces]
  rfl

end Edits

/-! ### Discarding -/

section Discard

variable {path : Path} {r : Record} {place : Location}

theorem Consistent.at?_discard_kept (h : index.Consistent) (hbelow : ¬ path.location <+: place)
    (hat : index.at? place = some r) : (index.discard path).1.at? place = some r := by
  have hne : place ≠ path.location := fun heq => hbelow (heq ▸ List.prefix_rfl)
  have hremoved := h.at?_remove_kept hne hat
  cases hvisible : index.at? path.location with
  | some old =>
    rw [discard_of_visible h.toCoherent hvisible]
    exact hremoved
  | none =>
    rw [discard_of_not_visible h.toCoherent hvisible]
    exact (h.remove _).at?_removeUnder_kept hbelow hremoved

/-- Discarding that tells of nothing is not seen. -/
theorem Consistent.view_discard_of_untold (h : index.Consistent)
    (huntold : (index.discard path).2 = false) : (index.discard path).1.view = index.view := by
  cases hvisible : index.at? path.location with
  | some old =>
    rw [discard_of_visible h.toCoherent hvisible] at huntold
    exact nomatch huntold
  | none =>
    rw [discard_of_not_visible h.toCoherent hvisible] at huntold ⊢
    rw [(h.remove _).snd_removeUnder, Bool.not_eq_false', List.isEmpty_iff] at huntold
    exact (view_removeUnder huntold).trans (h.view_remove hvisible)

/-- Discarding that tells of something leaves a place empty at which a note was visible. -/
theorem Consistent.exists_of_discard_told (h : index.Consistent)
    (htold : (index.discard path).2 = true) :
    ∃ place r, index.at? place = some r ∧ (index.discard path).1.gistAt? place = none := by
  cases hvisible : index.at? path.location with
  | some old =>
    refine ⟨path.location, old, hvisible, ?_⟩
    rw [h.gistAt?_discard, if_pos (.inl rfl)]
  | none =>
    rw [discard_of_not_visible h.toCoherent hvisible, (h.remove _).snd_removeUnder,
      Bool.not_eq_true', List.isEmpty_eq_false_iff_exists_mem] at htold
    obtain ⟨place, hmem⟩ := htold
    obtain ⟨hbelow, r, hr⟩ := (mem_placesUnder (h.remove _).toCoherent).mp hmem
    rw [at?_eq_of_view_eq (h.view_remove hvisible)] at hr
    refine ⟨place, r, hr, ?_⟩
    rw [h.gistAt?_discard, if_pos (.inr ⟨hvisible, hbelow⟩)]

end Discard

/-! ### Refreshing -/

section Refresh

variable {files : FileSystem} {path : Path}

/-- Refreshing does nothing, inserts the note at the path, or discards a missing path. -/
theorem refresh_noteAt?_cases (index : Index) (files : FileSystem) (path : Path) :
    ¬ path.Missing files index.settings ∧ index.refresh files path = (index, false) ∨
    (∃ r, noteAt? files index.settings path = some r ∧
      index.refresh files path = index.insert r) ∨
    (path.Missing files index.settings ∧ index.refresh files path = index.discard path) := by
  have hroot : index.settings.root = index.root := rfl
  rw [noteAt?, Path.Missing, hroot]
  cases heligible : index.root.any (isEligible · path) with
  | false => exact .inl ⟨fun h => Bool.false_ne_true h.1, refresh_of_ineligible heligible⟩
  | true =>
    rw [if_pos rfl]
    have hread : Record.read files index.policy path =
        (files.readText path).map (Record.ofContent index.policy path) := rfl
    cases htext : files.readText path with
    | ok content =>
      rw [htext] at hread
      have hnote : (Record.read files index.settings.policy path).toOption =
          some (Record.ofContent index.policy path content) := congrArg Except.toOption hread
      exact .inr (.inl ⟨_, hnote, refresh_of_ok heligible hread⟩)
    | error error =>
      rw [htext] at hread
      rw [refresh_of_error heligible hread]
      by_cases hkind : error.kind = .notFound
      · rw [if_pos hkind]
        exact .inr (.inr ⟨⟨rfl, error, rfl, hkind⟩, rfl⟩)
      · rw [if_neg hkind]
        refine .inl ⟨?_, rfl⟩
        rintro ⟨-, error', herror, hkind'⟩
        exact hkind (Except.error.inj herror ▸ hkind')

theorem Consistent.view_refresh_of_untold (h : index.Consistent)
    (huntold : (index.refresh files path).2 = false) :
    (index.refresh files path).1.view = index.view := by
  rcases refresh_noteAt?_cases index files path with ⟨-, heq⟩ | ⟨r, -, heq⟩ | ⟨-, heq⟩
  · rw [heq]
  · rw [heq] at huntold ⊢
    rw [insert_of_untold huntold]
  · rw [heq] at huntold ⊢
    exact h.view_discard_of_untold huntold

theorem Consistent.view_refreshEach_of_untold (h : index.Consistent) {paths : List Path}
    (huntold : (index.refreshEach files paths).2 = false) :
    (index.refreshEach files paths).1.view = index.view := by
  induction paths generalizing index with
  | nil => rfl
  | cons path paths ih =>
    rw [Index.refreshEach, Bool.or_eq_false_iff] at huntold
    exact (ih (h.refresh files path) huntold.2).trans (h.view_refresh_of_untold huntold.1)

/-- An update that tells of nothing is not seen. -/
theorem Consistent.view_apply_of_untold (h : index.Consistent) {change : Change}
    (huntold : (index.apply files change).2 = false) :
    (index.apply files change).1.view = index.view := by
  by_cases hkind : change.kind = .deleted
  · rw [apply_of_deleted hkind] at huntold ⊢
    exact h.view_discard_of_untold huntold
  · rw [apply_of_not_deleted hkind] at huntold ⊢
    exact h.view_refreshEach_of_untold huntold

end Refresh

/-! ### Signs of a difference -/

/-- What tells two indexes apart: a note that was visible is not tracked any more as it was, or a
    note that is visible at a path that can be read was not tracked as it is. -/
inductive Sign (files : FileSystem) (paths : List Path) (start now : Index) : Prop where
  | gone {place : Location} {r : Record} : start.at? place = some r →
      now.gistAt? place ≠ some r.gist → Sign files paths start now
  | come {path : Path} {r : Record} : path ∈ paths → noteAt? files start.settings path ≠ none →
      now.at? path.location = some r → start.gistAt? path.location ≠ some r.gist →
      Sign files paths start now

theorem gistAt?_of_at? {place : Location} {r : Record} (hat : index.at? place = some r) :
    index.gistAt? place = some r.gist :=
  gistAt?_of_tracked? (by rw [tracked?, hat, Option.some_or])

/-- A sign shows in the documents. -/
theorem Sign.documents_ne {files : FileSystem} {paths : List Path} {start now : Index}
    (hsign : Sign files paths start now) (h : start.Coherent) (h' : now.Coherent) :
    now.sortedRecords.map Record.gist ≠ start.sortedRecords.map Record.gist := by
  -- What is visible in one of the indexes would be visible in the other one too.
  have hlisted {index other : Index} {place : Location} {r : Record} (h : index.Coherent)
      (h' : other.Coherent)
      (heq : other.sortedRecords.map Record.gist = index.sortedRecords.map Record.gist)
      (hat : index.at? place = some r) : other.gistAt? place = some r.gist := by
    have hgist : (index.at? r.gist.place).map Record.gist = some r.gist := by
      have hplace : r.gist.place = place := h.place_eq hat
      rw [hplace, hat, Option.map_some]
    have hmem := h.mem_documents_iff.mpr hgist
    rw [← heq, h'.mem_documents_iff] at hmem
    obtain ⟨r', hr', hsame⟩ := Option.map_eq_some_iff.mp hmem
    have hplace : r.gist.place = place := h.place_eq hat
    rw [← hplace, ← hsame]
    exact gistAt?_of_at? (hsame ▸ hr')
  intro heq
  cases hsign with
  | gone hat hne => exact hne (hlisted h h' heq hat)
  | come _ _ hat hne => exact hne (hlisted h' h heq.symm hat)

/-! ### Refreshing several notes -/

/-- What holds after some of several notes were read again: an index that was told to have changed
    has a sign of it, and one that was not shows the same as at the start.  The notes that were
    tracked at the start as they can be read now still are. -/
structure Noted (files : FileSystem) (paths : List Path) (start now : Index) (told : Bool) :
    Prop where
  consistent : now.Consistent
  settings : now.settings = start.settings
  kept {path : Path} {r : Record} : path ∈ paths → noteAt? files start.settings path = some r →
    start.gistAt? path.location = some r.gist → now.gistAt? path.location = some r.gist
  quiet : told = false → now.view = start.view
  sign : told = true → Sign files paths start now

namespace Noted

variable {files : FileSystem} {paths : List Path} {start now : Index} {told : Bool} {path : Path}

theorem refl (h : start.Consistent) : Noted files paths start start false where
  consistent := h
  settings := rfl
  kept _ _ hgist := hgist
  quiet _ := rfl
  sign := nofun

theorem insert (h : Noted files paths start now told) (hfiles : files.Lawful) {r : Record}
    (hpath : path ∈ paths) (hnote : noteAt? files start.settings path = some r) :
    Noted files paths start (now.insert r).1 (told || (now.insert r).2) := by
  cases htold : (now.insert r).2 with
  | false =>
    rw [Bool.or_false, insert_of_untold htold]
    exact h
  | true =>
    have hplace : r.place = path.location := noteAt?_place hnote
    obtain ⟨hat, hdiffers⟩ := h.consistent.insert_of_told htold
    rw [hplace] at hat hdiffers
    rw [Bool.or_true]
    refine ⟨h.consistent.insert r, (settings_insert now r).trans h.settings, ?_, nofun, fun _ => ?_⟩
    · intro p s hp hs hgist
      rw [h.consistent.gistAt?_insert, hplace]
      split
      case isTrue hsame =>
        have hcongr := map_gist_noteAt?_congr hfiles start.settings hsame
        rw [hs, hnote, Option.map_some, Option.map_some] at hcongr
        exact hcongr.symm
      case isFalse => exact h.kept hp hs hgist
    · -- Had the note been tracked like this at the start, it would have been so until now.
      refine .come hpath (fun hnone => nomatch hnone.symm.trans hnote) hat fun hgist => ?_
      exact hdiffers (h.kept hpath hnote hgist)

theorem discard (h : Noted files paths start now told) (hfiles : files.Lawful)
    (hapart : Path.Apart paths) (hpath : path ∈ paths)
    (hnote : noteAt? files start.settings path = none) :
    Noted files paths start (now.discard path).1 (told || (now.discard path).2) := by
  -- A path that can be read is neither the discarded one nor beneath it.
  have houtside {p : Path} (hp : p ∈ paths) (hread : noteAt? files start.settings p ≠ none) :
      ¬ path.location <+: p.location := fun hbelow => by
    have hcongr := map_gist_noteAt?_congr hfiles start.settings (hapart path hpath p hp hbelow)
    rw [hnote, Option.map_none, eq_comm, Option.map_eq_none_iff] at hcongr
    exact hread hcongr
  refine ⟨h.consistent.discard path, (settings_discard now path).trans h.settings, ?_, ?_, ?_⟩
  · intro p r hp hr hgist
    have hnot := houtside hp (fun hnone => nomatch hnone.symm.trans hr)
    rw [h.consistent.gistAt?_discard, if_neg, h.kept hp hr hgist]
    rintro (heq | ⟨-, hbelow⟩)
    · exact hnot (heq ▸ List.prefix_rfl)
    · exact hnot (List.isPrefixOf_iff_prefix.mp hbelow)
  · intro huntold
    rw [Bool.or_eq_false_iff] at huntold
    exact (h.consistent.view_discard_of_untold huntold.2).trans (h.quiet huntold.1)
  · intro htold
    cases hbefore : told with
    | false =>
      rw [hbefore, Bool.false_or] at htold
      obtain ⟨place, r, hat, hgone⟩ := h.consistent.exists_of_discard_told htold
      rw [at?_eq_of_view_eq (h.quiet hbefore)] at hat
      exact .gone hat (fun hgist => nomatch hgone.symm.trans hgist)
    | true =>
      cases h.sign hbefore with
      | gone hat hne =>
        refine .gone hat ?_
        rw [h.consistent.gistAt?_discard]
        split
        case isTrue => exact nofun
        case isFalse => exact hne
      | come hp hread hat hne =>
        exact .come hp hread (h.consistent.at?_discard_kept (houtside hp hread) hat) hne

theorem refresh (h : Noted files paths start now told) (hfiles : files.Lawful)
    (hapart : Path.Apart paths) (hpath : path ∈ paths) :
    Noted files paths start (now.refresh files path).1 (told || (now.refresh files path).2) := by
  rcases refresh_noteAt?_cases now files path with ⟨-, heq⟩ | ⟨r, hnote, heq⟩ | ⟨hmissing, heq⟩
  · rw [heq, Bool.or_false]
    exact h
  · rw [heq]
    exact h.insert hfiles hpath (h.settings ▸ hnote)
  · rw [heq]
    exact h.discard hfiles hapart hpath (h.settings ▸ noteAt?_of_missing hmissing)

theorem refreshEach (h : Noted files paths start now told) (hfiles : files.Lawful)
    (hapart : Path.Apart paths) {rest : List Path} (hrest : rest ⊆ paths) :
    Noted files paths start (now.refreshEach files rest).1
      (told || (now.refreshEach files rest).2) := by
  induction rest generalizing now told with
  | nil =>
    rw [Index.refreshEach, Bool.or_false]
    exact h
  | cons path rest ih =>
    have hstep := h.refresh hfiles hapart (hrest (List.mem_cons_self ..))
    have hfinal := ih hstep fun p hp => hrest (List.mem_cons_of_mem _ hp)
    rw [Bool.or_assoc] at hfinal
    exact hfinal

end Noted

/-! ### Updates -/

/-- None of the paths that a change has read again lies beneath another one. -/
theorem apart_rereads {files : FileSystem} (hfiles : files.IsTree) (settings : Settings)
    (change : Change) : Path.Apart (change.rereads files settings) := by
  by_cases hkind : change.kind = .deleted
  · rw [Change.rereads_of_deleted hkind]
    exact fun p hp => nomatch hp
  · rw [Change.rereads_of_not_deleted hkind]
    split
    case isTrue =>
      intro p hp q hq _
      rw [List.mem_singleton.mp hp, List.mem_singleton.mp hq]
    case isFalse =>
      split
      case isTrue => exact hfiles.apart_scan change.path
      case isFalse => exact fun p hp => nomatch hp

/-- After an update that tells of something other documents are listed. -/
theorem Consistent.documents_apply_of_told (h : index.Consistent) {files : FileSystem}
    (hfiles : files.IsTree) {change : Change} (htold : (index.apply files change).2 = true) :
    (index.apply files change).1.sortedRecords.map Record.gist ≠
      index.sortedRecords.map Record.gist := by
  by_cases hkind : change.kind = .deleted
  · rw [apply_of_deleted hkind] at htold ⊢
    obtain ⟨place, r, hat, hgone⟩ := h.exists_of_discard_told htold
    have hsign : Sign files [] index (index.discard change.path).1 :=
      .gone hat fun hgist => nomatch hgone.symm.trans hgist
    exact hsign.documents_ne h.toCoherent (h.discard _).toCoherent
  · rw [apply_of_not_deleted hkind] at htold ⊢
    have hnoted := (Noted.refl h).refreshEach hfiles.toLawful
      (apart_rereads hfiles index.settings change) (List.Subset.refl _)
    rw [Bool.false_or] at hnoted
    exact (hnoted.sign htold).documents_ne h.toCoherent hnoted.consistent.toCoherent

end Index

end WikiNotes
