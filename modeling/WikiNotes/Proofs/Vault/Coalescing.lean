import WikiNotes.Proofs.Index.Agreement
import WikiNotes.Proofs.Index.Effect
import WikiNotes.Proofs.Index.Mirror
import WikiNotes.Proofs.Vault.Reachable

/-! # Changes taken up at once and one at a time

Of the changes in a batch a vault drops those that a later change of the same path supersedes.  What
is there both ways is the same (`Index.overall_effects_latest`), but what a dropped change would
have removed may still be there: a deleted directory takes everything beneath it along, and when it
is reported as added again only what is there now is read.

The answers of a vault are the same both ways exactly if the same notes are gone
(`Vault.handleChanges_alike_iff`).  They are if no note lies beneath another one and nothing that is
reported as deleted is reported as added or updated later
(`Vault.handleChanges_alike_of_no_return`). -/

namespace WikiNotes

/-! ### The changes of a batch -/

namespace Change

theorem latest_sublist (changes : List Change) : (latest changes).Sublist changes := by
  induction changes with
  | nil => exact .slnil
  | cons change changes ih =>
    rw [latest]
    split
    case isTrue => exact ih.cons change
    case isFalse => exact ih.cons_cons change

/-- For every change one of the same path is in the batch. -/
theorem exists_mem_latest {changes : List Change} {change : Change} (h : change ∈ changes) :
    ∃ later ∈ latest changes, change.path.location = later.path.location := by
  induction changes generalizing change with
  | nil => exact nomatch h
  | cons first rest ih =>
    rw [latest]
    split
    case isTrue hlater =>
      rcases List.mem_cons.mp h with rfl | hrest
      · obtain ⟨later, hmem, hplace⟩ := List.any_eq_true.mp hlater
        obtain ⟨last, hlast, hsame⟩ := ih hmem
        exact ⟨last, hlast, (eq_of_beq hplace).symm.trans hsame⟩
      · exact ih hrest
    case isFalse =>
      rcases List.mem_cons.mp h with rfl | hrest
      · exact ⟨change, List.mem_cons_self .., rfl⟩
      · obtain ⟨later, hmem, hplace⟩ := ih hrest
        exact ⟨later, List.mem_cons_of_mem _ hmem, hplace⟩

end Change

namespace Index

variable {index : Index} {files : FileSystem} {place : Location} {changes : List Change}

/-- A note that is put was read by a change. -/
theorem exists_reads_of_overall_eq_put
    (h : Effect.overall (index.effects files place changes) = .put) :
    ∃ change ∈ changes, change.Reads files index.settings place := by
  have hput := Effect.mem_of_overall_eq h nofun
  obtain ⟨before, change, after, rfl, heffect⟩ := mem_effects.mp hput
  have hreads := reads_of_effect_eq_put heffect.symm
  rw [settings_applyEach] at hreads
  exact ⟨change, List.mem_append_right _ (List.mem_cons_self ..), hreads⟩

section Latest

variable (h : index.Consistent) (hnotes : index.OnlyNotes) (hfiles : files.Lawful)

include h hnotes hfiles

/-- Changes do something to a place that one of the same path as theirs reads. -/
theorem overall_effects_ne_keep {change later : Change} (hlater : later ∈ changes)
    (hreads : change.Reads files index.settings place)
    (hplace : change.path.location = later.path.location) :
    Effect.overall (index.effects files place changes) ≠ .keep := by
  obtain ⟨before, after, hsplit⟩ := List.append_of_mem hlater
  intro hkeep
  refine effect_ne_keep_of_later (hnotes.applyEach h files before) hfiles ?_ hplace
    (Effect.overall_eq_keep_iff.mp hkeep _ (mem_effects.mpr ⟨before, later, after, hsplit, rfl⟩))
  rwa [settings_applyEach]

/-- Changes and the latest of them do the same to a place that neither drops. -/
theorem overall_effects_latest
    (hall : Effect.overall (index.effects files place changes) ≠ .drop)
    (hlatest : Effect.overall (index.effects files place (Change.latest changes)) ≠ .drop) :
    Effect.overall (index.effects files place (Change.latest changes)) =
      Effect.overall (index.effects files place changes) := by
  cases hputAll : Effect.overall (index.effects files place changes) with
  | drop => exact absurd hputAll hall
  | put =>
    -- Whatever the batch has for the path of a change that reads a place does not keep it.
    obtain ⟨change, hmem, hreads⟩ := exists_reads_of_overall_eq_put hputAll
    obtain ⟨later, hlater, hplace⟩ := Change.exists_mem_latest hmem
    have hne := overall_effects_ne_keep h hnotes hfiles hlater hreads hplace
    cases hputLatest : Effect.overall (index.effects files place (Change.latest changes)) with
    | keep => exact absurd hputLatest hne
    | put => rfl
    | drop => exact absurd hputLatest hlatest
  | keep =>
    cases hputLatest : Effect.overall (index.effects files place (Change.latest changes)) with
    | keep => rfl
    | drop => exact absurd hputLatest hlatest
    | put =>
      -- What the batch puts is read by one of the changes, which then do not all keep it.
      obtain ⟨change, hmem, hreads⟩ := exists_reads_of_overall_eq_put hputLatest
      have hmem' := (Change.latest_sublist changes).subset hmem
      exact absurd hputAll (overall_effects_ne_keep h hnotes hfiles hmem' hreads rfl)

end Latest

/-! ### What is gone -/

/-- A place is gone after changes: one of them dropped what was tracked there, and no later one read
    the note there again. -/
def Gone (files : FileSystem) (index : Index) (changes : List Change) (place : Location) : Prop :=
  ∃ before change after, changes = before ++ change :: after ∧
    (index.applyEach files before).effect files place change = .drop ∧
    ∀ later ∈ after, ¬ later.Reads files index.settings place

theorem gone_iff :
    Gone files index changes place ↔
      Effect.overall (index.effects files place changes) = .drop := by
  constructor
  · rintro ⟨before, change, after, rfl, hdrop, hafter⟩
    rw [effects_append, Effect.overall_append, effects, hdrop, Effect.overall_drop_cons]
    · cases Effect.overall (index.effects files place before) <;> rfl
    · -- No later change reads the place, so none puts a note there.
      rintro e he rfl
      obtain ⟨between, later, rest, rfl, hput⟩ := mem_effects.mp he
      have hreads := reads_of_effect_eq_put hput.symm
      rw [settings_applyEach, settings_apply, settings_applyEach] at hreads
      exact hafter later (List.mem_append_right _ (List.mem_cons_self ..)) hreads
  · intro hdrop
    induction changes generalizing index with
    | nil => cases hdrop
    | cons change changes ih =>
      rw [effects, Effect.overall_cons] at hdrop
      cases hrest : Effect.overall ((index.apply files change).1.effects files place changes) with
      | put =>
        rw [hrest] at hdrop
        cases hdrop
      | drop =>
        obtain ⟨before, deletion, after, rfl, heffect, hafter⟩ := ih hrest
        rw [settings_apply] at hafter
        exact ⟨change :: before, deletion, after, rfl, heffect, hafter⟩
      | keep =>
        -- The first change dropped the place; the others all keep it, so none of them reads it.
        rw [hrest] at hdrop
        refine ⟨[], change, changes, rfl, hdrop, fun later hlater hreads => ?_⟩
        obtain ⟨between, rest, hsplit⟩ := List.append_of_mem hlater
        refine effect_ne_keep_of_reads ?_ (Effect.overall_eq_keep_iff.mp hrest _
          (mem_effects.mpr ⟨between, later, rest, hsplit, rfl⟩))
        rwa [settings_applyEach, settings_apply]

/-- A place is known to an index that takes up changes if something is tracked there or a change
    reads it. -/
def Known (files : FileSystem) (index : Index) (changes : List Change) (place : Location) : Prop :=
  index.gistAt? place ≠ none ∨ ∃ change ∈ changes, change.Reads files index.settings place

/-- Of what is known nothing is tracked exactly if it is gone. -/
theorem Known.gistAt?_eq_none_iff {path : Path} (hknown : Known files index changes path.location)
    (h : index.Consistent) (hnotes : index.OnlyNotes) (hfiles : files.Lawful)
    {taken : List Change} (htaken : ∀ change ∈ changes, ∃ later ∈ taken,
      change.path.location = later.path.location) :
    (index.applyEach files taken).gistAt? path.location = none ↔
      Gone files index taken path.location := by
  rw [h.gistAt?_applyEach hfiles, gone_iff]
  refine Effect.act_eq_none_iff (fun hput => ?_) fun hkeep => ?_
  · obtain ⟨-, -, found, -, hplace, hnote⟩ := exists_reads_of_overall_eq_put hput
    rw [← map_gist_noteAt?_congr hfiles _ hplace]
    exact fun hnone => hnote (Option.map_eq_none_iff.mp hnone)
  · rcases hknown with htracked | ⟨change, hmem, hreads⟩
    · exact htracked
    · obtain ⟨later, hlater, hplace⟩ := htaken change hmem
      exact absurd hkeep (overall_effects_ne_keep h hnotes hfiles hlater hreads hplace)

/-- Where nothing is known nothing is tracked. -/
theorem gistAt?_eq_none_of_not_known {path : Path}
    (hunknown : ¬ Known files index changes path.location) (h : index.Consistent)
    (hfiles : files.Lawful) {taken : List Change} (htaken : taken ⊆ changes) :
    (index.applyEach files taken).gistAt? path.location = none := by
  rw [Known, not_or, Decidable.not_not] at hunknown
  rw [h.gistAt?_applyEach hfiles, hunknown.1]
  cases hoverall : Effect.overall (index.effects files path.location taken) with
  | keep => rfl
  | drop => rfl
  | put =>
    obtain ⟨change, hmem, hreads⟩ := exists_reads_of_overall_eq_put hoverall
    exact absurd ⟨change, htaken hmem, hreads⟩ hunknown.2

/-- An index tracks the same after the latest changes as after all of them exactly if of what is
    known the same is gone. -/
theorem Consistent.applyEach_latest_iff (h : index.Consistent) (hnotes : index.OnlyNotes)
    (hfiles : files.Lawful) (changes : List Change) :
    (∀ place, (index.applyEach files (Change.latest changes)).gistAt? place =
        (index.applyEach files changes).gistAt? place) ↔
      ∀ path : Path, Known files index changes path.location →
        (Gone files index (Change.latest changes) path.location ↔
          Gone files index changes path.location) := by
  have hall {path : Path} (hknown : Known files index changes path.location) :=
    hknown.gistAt?_eq_none_iff h hnotes hfiles fun change hmem => ⟨change, hmem, rfl⟩
  have hlatest {path : Path} (hknown : Known files index changes path.location) :=
    hknown.gistAt?_eq_none_iff h hnotes hfiles fun _ => Change.exists_mem_latest
  constructor
  · intro hsame path hknown
    rw [← hall hknown, ← hlatest hknown, hsame]
  · intro hgone
    refine gistAt?_eq_of_paths (h.applyEach ..).toCoherent (h.applyEach ..).toCoherent
      fun path => ?_
    by_cases hknown : Known files index changes path.location
    · by_cases hdrop : Gone files index changes path.location
      · rw [(hall hknown).mpr hdrop, (hlatest hknown).mpr ((hgone path hknown).mpr hdrop)]
      · have hdrop' := fun hlatest => hdrop ((hgone path hknown).mp hlatest)
        rw [gone_iff] at hdrop hdrop'
        rw [h.gistAt?_applyEach hfiles, h.gistAt?_applyEach hfiles,
          overall_effects_latest h hnotes hfiles hdrop hdrop']
    · rw [gistAt?_eq_none_of_not_known hknown h hfiles (List.Subset.refl _),
        gistAt?_eq_none_of_not_known hknown h hfiles (Change.latest_sublist changes).subset]

/-! ### Documents -/

/-- What an index tracks, and what is a note of the files. -/
def IsDocument (files : FileSystem) (index : Index) (g : Gist) : Prop :=
  index.gistAt? g.place = some g ∨
    ∃ path, (noteAt? files index.settings path).map Record.gist = some g

/-- No two notes of the files or of an index have one name. -/
def Unambiguous (files : FileSystem) (index : Index) : Prop :=
  ∀ g g', IsDocument files index g → IsDocument files index g' → g.name = g'.name →
    g.place = g'.place

/-- No note of the files or of an index lies beneath another one. -/
def Apart (files : FileSystem) (index : Index) : Prop :=
  ∀ g g', IsDocument files index g → IsDocument files index g' → g.place <+: g'.place →
    g.place = g'.place

theorem Coherent.gistAt?_place (h : index.Coherent) {g : Gist}
    (hg : index.gistAt? place = some g) : g.place = place := by
  obtain ⟨r, hr, rfl⟩ := Option.map_eq_some_iff.mp hg
  exact h.tracked?_place hr

/-- What is tracked after changes was tracked before, or is a note of the files. -/
theorem Consistent.isDocument_of_applyEach (h : index.Consistent) (hfiles : files.Lawful)
    {g : Gist} (hg : (index.applyEach files changes).gistAt? place = some g) :
    IsDocument files index g := by
  obtain ⟨path, rfl⟩ := (h.applyEach files changes).exists_path
    fun hnone => nomatch hg.symm.trans hnone
  rw [h.gistAt?_applyEach hfiles] at hg
  cases heffect : Effect.overall (index.effects files path.location changes) with
  | keep =>
    rw [heffect] at hg
    exact .inl ((h.gistAt?_place hg).symm ▸ hg)
  | put =>
    rw [heffect] at hg
    exact .inr ⟨path, hg⟩
  | drop =>
    rw [heffect] at hg
    exact nomatch hg

theorem Unambiguous.namesDistinct (hnames : Unambiguous files index) (h : index.Consistent)
    (hfiles : files.Lawful) (changes : List Change) :
    (index.applyEach files changes).NamesDistinct := by
  intro place place' r r' hr hr' hname
  have hafter := h.applyEach files changes
  have hdocument := h.isDocument_of_applyEach hfiles (gistAt?_of_tracked? hr)
  have hdocument' := h.isDocument_of_applyEach hfiles (gistAt?_of_tracked? hr')
  rw [← hafter.tracked?_place hr, ← hafter.tracked?_place hr']
  exact hnames r.gist r'.gist hdocument hdocument' hname

/-! ### Notes apart -/

/-- What is known is a document. -/
theorem Known.exists_isDocument (hknown : Known files index changes place)
    (h : index.Coherent) : ∃ g, IsDocument files index g ∧ g.place = place := by
  rcases hknown with htracked | ⟨change, -, path, -, rfl, hnote⟩
  · obtain ⟨g, hg⟩ := Option.ne_none_iff_exists'.mp htracked
    have hplace := h.gistAt?_place hg
    exact ⟨g, .inl (hplace.symm ▸ hg), hplace⟩
  · obtain ⟨r, hr⟩ := Option.ne_none_iff_exists'.mp hnote
    exact ⟨r.gist, .inr ⟨path, congrArg (Option.map Record.gist) hr⟩, noteAt?_place hr⟩

/-- If notes are apart, none is above what is known. -/
theorem Apart.clear (hapart : Apart files index) (h : index.Coherent)
    (hknown : Known files index changes place) : index.Clear files place := by
  obtain ⟨g', hg', rfl⟩ := hknown.exists_isDocument h
  refine fun path hbelow hne => ⟨?_, ?_⟩
  · cases hg : index.gistAt? path.location with
    | none => rfl
    | some g =>
      have hplace := h.gistAt?_place hg
      exact absurd (hplace ▸ hapart g g' (.inl (hplace.symm ▸ hg)) hg' (hplace.symm ▸ hbelow)) hne
  · cases hr : noteAt? files index.settings path with
    | none => rfl
    | some r =>
      have hplace : r.gist.place = path.location := noteAt?_place hr
      have hg : IsDocument files index r.gist := .inr ⟨path, congrArg (Option.map Record.gist) hr⟩
      exact absurd (hplace ▸ hapart r.gist g' hg hg' (hplace.symm ▸ hbelow)) hne

/-- At a clear place a change keeps what a later one of its path keeps, unless it is a deletion and
    the later one is none. -/
theorem Clear.effect_of_superseded (hclear : index.Clear files place) (h : index.Consistent)
    (hfiles : files.Lawful) {change later : Change}
    (hplace : later.path.location = change.path.location)
    (hreturn : change.kind = .deleted → later.kind = .deleted)
    (hkeep : index.effect files place later = .keep) :
    index.effect files place change = .keep := by
  by_cases hkind : later.kind = .deleted
  · -- A deletion keeps a place only if it is not beneath the path, and then so do all changes.
    refine Decidable.byContradiction fun hne => ?_
    have hbelow := below_of_effect_ne_keep hfiles hne
    rw [effect, if_pos hkind, hclear.discardEffect, hplace, if_pos hbelow] at hkeep
    cases hkeep
  · have hsame : change.kind = .deleted ↔ later.kind = .deleted :=
      ⟨hreturn, fun hlater => absurd hlater hkind⟩
    rw [hclear.effect_congr hfiles hclear h h rfl hsame hplace.symm]
    exact hkeep

/-- At a clear place changes and the latest of them do the same if nothing that was deleted is added
    or updated later. -/
theorem Clear.overall_latest (hclear : index.Clear files place) (h : index.Consistent)
    (hfiles : files.Lawful) (hreturn : changes.Pairwise fun earlier later =>
      earlier.kind = .deleted → later.path.location = earlier.path.location →
        later.kind = .deleted) :
    Effect.overall (index.effects files place (Change.latest changes)) =
      Effect.overall (index.effects files place changes) := by
  rw [hclear.effects_eq hfiles h, hclear.effects_eq hfiles h]
  induction changes with
  | nil => rfl
  | cons change changes ih =>
    rw [List.pairwise_cons] at hreturn
    have hsame := ih hreturn.2
    rw [Change.latest, List.map_cons, Effect.overall_cons]
    split
    case isFalse => rw [List.map_cons, Effect.overall_cons, hsame]
    case isTrue hlater =>
      rw [hsame]
      cases hrest : Effect.overall (changes.map (index.effect files place)) with
      | put => rfl
      | drop => rfl
      | keep =>
        obtain ⟨later, hmem, hat⟩ := List.any_eq_true.mp hlater
        have hplace : later.path.location = change.path.location := eq_of_beq hat
        have hkeep := Effect.overall_eq_keep_iff.mp hrest _ (List.mem_map_of_mem hmem)
        rw [hclear.effect_of_superseded h hfiles hplace
          (fun hkind => hreturn.1 later hmem hkind hplace) hkeep]
        rfl

/-! ### Documents of a plain memory -/

/-- What an index tracks and what are notes of a memory, one after the other. -/
def documentsIn (m : Memory) (index : Index) : List Gist :=
  (index.byName.values ++ index.shadowed.values).map Record.gist ++
    m.files.keys.filterMap fun place =>
      (noteAt? m.fileSystem index.settings (.ofLocation place)).map Record.gist

theorem mem_documentsIn {m : Memory} (hm : m.IsPlain) {g : Gist}
    (hg : IsDocument m.fileSystem index g) : g ∈ documentsIn m index := by
  rw [documentsIn, List.mem_append]
  rcases hg with hg | ⟨path, hpath⟩
  · left
    obtain ⟨r, hr, rfl⟩ := Option.map_eq_some_iff.mp hg
    refine List.mem_map_of_mem (List.mem_append.mpr ?_)
    rw [tracked?, Option.or_eq_some_iff] at hr
    rcases hr with hat | ⟨-, hshadowed⟩
    · obtain ⟨name, -, hname⟩ := Option.bind_eq_some_iff.mp hat
      exact .inl (SortedMap.mem_values.mpr ⟨name, hname⟩)
    · exact .inr (SortedMap.mem_values.mpr ⟨_, hshadowed⟩)
  · right
    obtain ⟨r, hr, -⟩ := Option.map_eq_some_iff.mp hpath
    have hfile := (noteAt?_eq_some hr).2
    have hplace : (Path.ofLocation path.location).location = path.location :=
      hm.1 _ (Memory.mem_places.mpr (.inl hfile))
    refine List.mem_filterMap.mpr ⟨path.location, ?_, ?_⟩
    · exact SortedMap.mem_keys.mpr (SortedMap.contains_eq_true_iff.mp hfile)
    · rw [map_gist_noteAt?_congr hm.legible.lawful _ hplace, hpath]

/-- Names are unambiguous if they are among all that are listed. -/
theorem unambiguous_of_documentsIn {m : Memory} (hm : m.IsPlain)
    (h : ∀ g ∈ documentsIn m index, ∀ g' ∈ documentsIn m index, g.name = g'.name →
      g.place = g'.place) : Unambiguous m.fileSystem index :=
  fun _ _ hg hg' => h _ (mem_documentsIn hm hg) _ (mem_documentsIn hm hg')

end Index

namespace Vault

variable {seen : Surroundings → Prop} {vault : Vault} {s : Surroundings}

/-! ### A directory that is replaced -/

/-- The files before a directory is replaced. -/
def beforeReplacing : Memory := ({} : Memory).write ⟨"/v/d/x.md"⟩ (.text "x")

/-- The files after the directory was deleted and made again with another note in it. -/
def afterReplacing : Memory :=
  (beforeReplacing.delete ⟨"/v/d"⟩).write ⟨"/v/d/y.md"⟩ (.text "y")

/-- Surroundings with the files of a memory. -/
def seeing (m : Memory) : Surroundings := ⟨m.fileSystem, fun _ => none, fun _ => false, "now"⟩

/-- A vault that knows the files before the directory is replaced. -/
def replacingVault : Vault := new (seeing beforeReplacing) { root := some ⟨"/v"⟩ }

/-- The directory is reported as deleted and then as added. -/
def replacing : List Change := [⟨.deleted, ⟨"/v/d"⟩⟩, ⟨.added, ⟨"/v/d"⟩⟩]

theorem isPlain_afterReplacing : afterReplacing.IsPlain := by decide +kernel

theorem replacing_unambiguous :
    Index.Unambiguous afterReplacing.fileSystem replacingVault.index :=
  Index.unambiguous_of_documentsIn isPlain_afterReplacing (by decide +kernel)

/-! ### Answers -/

/-- A vault that takes changes up at once answers like one that takes them up one at a time exactly
    if the indexes track the same. -/
theorem Settled.answersAlike_iff (h : vault.Settled) (hfiles : s.files.Lawful)
    (hnames : Index.Unambiguous s.files vault.index) (changes : List Change) :
    Index.AnswersAlike (vault.handleChanges s changes).index
        (changes.foldl (handleChange s) vault).index ↔
      ∀ place, (vault.index.applyEach s.files (Change.latest changes)).gistAt? place =
        (vault.index.applyEach s.files changes).gistAt? place := by
  have hsettings (changes : List Change) :
      (vault.index.applyEach s.files changes).settings = vault.index.settings :=
    Index.settings_applyEach ..
  rw [index_handleChanges h.idle, (h.foldl_handleChange s changes).2]
  exact (h.consistent.applyEach ..).answersAlike_iff (h.consistent.applyEach ..)
    (hnames.namesDistinct h.consistent hfiles _) (hnames.namesDistinct h.consistent hfiles _)
    ((hsettings _).trans (hsettings _).symm)

/-- Taking changes up at once gives the same answers as taking them up one at a time exactly if the
    same notes are gone, of those that were tracked or that a change reads. -/
theorem handleChanges_alike_iff (hvault : vault.Reachable seen) (hfiles : s.files.Lawful)
    (hnames : Index.Unambiguous s.files vault.index) (changes : List Change) :
    Index.AnswersAlike (vault.handleChanges s changes).index
        (changes.foldl (handleChange s) vault).index ↔
      ∀ path : Path, Index.Known s.files vault.index changes path.location →
        (Index.Gone s.files vault.index (Change.latest changes) path.location ↔
          Index.Gone s.files vault.index changes path.location) := by
  have h := hvault.settled
  rw [h.answersAlike_iff hfiles hnames]
  exact h.consistent.applyEach_latest_iff h.onlyNotes hfiles changes

theorem handleChanges_alike_iff_replacing :
    replacingVault.Reachable (fun _ => True) ∧ afterReplacing.fileSystem.Lawful ∧
      Index.Unambiguous afterReplacing.fileSystem replacingVault.index ∧
      (Index.AnswersAlike (replacingVault.handleChanges (seeing afterReplacing) replacing).index
          (replacing.foldl (handleChange (seeing afterReplacing)) replacingVault).index ↔
        ∀ path : Path,
          Index.Known afterReplacing.fileSystem replacingVault.index replacing path.location →
          (Index.Gone afterReplacing.fileSystem replacingVault.index (Change.latest replacing)
              path.location ↔
            Index.Gone afterReplacing.fileSystem replacingVault.index replacing path.location)) :=
  have hvault : replacingVault.Reachable (fun _ => True) := .new trivial _
  have hfiles : afterReplacing.fileSystem.Lawful := isPlain_afterReplacing.legible.lawful
  ⟨hvault, hfiles, replacing_unambiguous,
    handleChanges_alike_iff (s := seeing afterReplacing) hvault hfiles replacing_unambiguous
      replacing⟩

/-- The note of a directory that was replaced is still answered with if both changes are taken up at
    once, although its deletion was reported. -/
theorem handleChanges_keeps_replaced_note :
    replacingVault.Reachable (fun _ => True) ∧ afterReplacing.Legible ∧
      Index.Unambiguous afterReplacing.fileSystem replacingVault.index ∧
      ¬ Index.AnswersAlike (replacingVault.handleChanges (seeing afterReplacing) replacing).index
        (replacing.foldl (handleChange (seeing afterReplacing)) replacingVault).index := by
  refine ⟨.new trivial _, isPlain_afterReplacing.legible, replacing_unambiguous, fun halike => ?_⟩
  have hdocuments := halike.documents
  revert hdocuments
  decide +kernel

/-- If no note lies beneath another one and nothing that is reported as deleted is reported as added
    or updated later, taking changes up at once gives the same answers as taking them up one at a
    time. -/
theorem handleChanges_alike_of_no_return (hvault : vault.Reachable seen)
    (hfiles : s.files.Lawful) (hnames : Index.Unambiguous s.files vault.index)
    (hapart : Index.Apart s.files vault.index) {changes : List Change}
    (hreturn : changes.Pairwise fun earlier later =>
      earlier.kind = .deleted → later.path.location = earlier.path.location →
        later.kind = .deleted) :
    Index.AnswersAlike (vault.handleChanges s changes).index
      (changes.foldl (handleChange s) vault).index := by
  have h := hvault.settled
  rw [h.answersAlike_iff hfiles hnames, h.consistent.applyEach_latest_iff h.onlyNotes hfiles]
  intro path hknown
  have hclear := hapart.clear h.consistent.toCoherent hknown
  rw [Index.gone_iff, Index.gone_iff, hclear.overall_latest h.consistent hfiles hreturn]

end Vault

end WikiNotes
