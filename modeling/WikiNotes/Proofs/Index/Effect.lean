import WikiNotes.Proofs.Index.Every

/-! # What changes do to a place

To a place a change does one of three things: it keeps what is tracked there, puts the note that is
read there, or drops what is tracked (`Effect`).  Of the effects on one place the last that does not
keep decides (`Effect.overall`), so what is tracked after several changes can be told place by place
(`Consistent.gistAt?_applyEach`).

Whether a change drops a place depends on the index that it meets, since a visible note keeps what
is tracked beneath it from being dropped.  Which notes it reads depends on the files only
(`Change.Reads`).  Where no note is above a place its effects depend on the files only as well
(`Clear`). -/

namespace WikiNotes

/-- What a change does to a place. -/
inductive Effect where
  /-- Leave what is tracked there. -/
  | keep
  /-- Track the note that is read there. -/
  | put
  /-- Track nothing. -/
  | drop
deriving DecidableEq

namespace Effect

/-- What is at a place after an effect, given the note there and what was tracked before. -/
def act {α : Type} (note old : Option α) : Effect → Option α
  | keep => old
  | put => note
  | drop => none

/-- One effect after another. -/
def andThen : Effect → Effect → Effect
  | effect, keep => effect
  | _, later => later

/-- Several effects one after the other. -/
def overall (effects : List Effect) : Effect := effects.foldr andThen keep

theorem act_andThen {α : Type} (note old : Option α) (a b : Effect) :
    (a.andThen b).act note old = b.act note (a.act note old) := by
  cases b <;> rfl

/-- Where there is no note and nothing is tracked, nothing is after any effect. -/
theorem act_none {α : Type} (effect : Effect) : effect.act (none : Option α) none = none := by
  cases effect <;> rfl

/-- If a note that is put is there, and what is kept is, then nothing is there only if it was
    dropped. -/
theorem act_eq_none_iff {α : Type} {note old : Option α} {effect : Effect}
    (hput : effect = put → note ≠ none) (hkeep : effect = keep → old ≠ none) :
    effect.act note old = none ↔ effect = drop := by
  cases effect with
  | keep => exact iff_of_false (hkeep rfl) nofun
  | put => exact iff_of_false (hput rfl) nofun
  | drop => exact iff_of_true rfl rfl

theorem keep_andThen (a : Effect) : keep.andThen a = a := by
  cases a <;> rfl

theorem andThen_assoc (a b c : Effect) : (a.andThen b).andThen c = a.andThen (b.andThen c) := by
  cases c <;> rfl

theorem overall_cons (a : Effect) (effects : List Effect) :
    overall (a :: effects) = a.andThen (overall effects) := rfl

theorem overall_append (as bs : List Effect) :
    overall (as ++ bs) = (overall as).andThen (overall bs) := by
  induction as with
  | nil => exact (keep_andThen _).symm
  | cons a as ih => rw [List.cons_append, overall_cons, overall_cons, ih, andThen_assoc]

theorem overall_eq_keep_iff {effects : List Effect} :
    overall effects = keep ↔ ∀ effect ∈ effects, effect = keep := by
  induction effects with
  | nil => simp [overall]
  | cons a as ih =>
    rw [overall_cons, List.forall_mem_cons, ← ih]
    cases a <;> cases overall as <;> simp [andThen]

/-- The effect that decides is one of them. -/
theorem mem_of_overall_eq {effects : List Effect} {e : Effect} (h : overall effects = e)
    (hne : e ≠ keep) : e ∈ effects := by
  induction effects with
  | nil => exact absurd h.symm hne
  | cons a as ih =>
    rw [overall_cons] at h
    -- The first effect decides only if all others keep.
    cases hrest : overall as with
    | keep =>
      rw [hrest] at h
      exact h ▸ List.mem_cons_self ..
    | put =>
      rw [hrest] at h
      exact List.mem_cons_of_mem _ (ih (hrest.trans h))
    | drop =>
      rw [hrest] at h
      exact List.mem_cons_of_mem _ (ih (hrest.trans h))

/-- What was dropped stays dropped if it is not put again. -/
theorem overall_drop_cons {effects : List Effect} (h : ∀ effect ∈ effects, effect ≠ put) :
    overall (drop :: effects) = drop := by
  rw [overall_cons]
  cases hrest : overall effects with
  | keep => rfl
  | put => exact absurd rfl (h put (mem_of_overall_eq hrest nofun))
  | drop => rfl

/-- A note that is put stays if nothing is dropped. -/
theorem overall_eq_put {effects : List Effect} (hput : put ∈ effects)
    (hdrop : drop ∉ effects) : overall effects = put := by
  cases hoverall : overall effects with
  | keep => exact nomatch overall_eq_keep_iff.mp hoverall put hput
  | put => rfl
  | drop => exact absurd (mem_of_overall_eq hoverall nofun) hdrop

end Effect

/-! ### What a change reads -/

namespace Change

variable {files : FileSystem} {settings : Settings} {place : Location}

/-- A change reads a place if it has the note there read again. -/
def Reads (files : FileSystem) (settings : Settings) (place : Location) (change : Change) : Prop :=
  ∃ path ∈ change.rereads files settings, path.location = place ∧
    Index.noteAt? files settings path ≠ none

/-- What is read again is the path itself, or lies beneath a directory. -/
theorem mem_rereads (h : files.Lawful) {change : Change} {path : Path}
    (hpath : path ∈ change.rereads files settings) :
    path = change.path ∨
      hasNoteExtension change.path = false ∧ change.path.location <+: path.location := by
  by_cases hkind : change.kind = .deleted
  · rw [rereads_of_deleted hkind] at hpath
    exact nomatch hpath
  · rw [rereads_of_not_deleted hkind] at hpath
    cases hnote : hasNoteExtension change.path with
    | true =>
      rw [hnote, if_pos rfl] at hpath
      exact .inl (List.mem_singleton.mp hpath)
    | false =>
      rw [hnote, if_neg Bool.false_ne_true] at hpath
      split at hpath
      case isFalse => exact nomatch hpath
      case isTrue =>
        obtain ⟨beneath, hbeneath, -⟩ := beneath_of_mem_scanFrom h.listsInside (mem_scan.mp hpath)
        exact .inr ⟨rfl, hbeneath ▸ List.prefix_append ..⟩

theorem not_deleted_of_reads {change : Change} (h : change.Reads files settings place) :
    change.kind ≠ .deleted := by
  obtain ⟨path, hpath, -⟩ := h
  intro hkind
  rw [rereads_of_deleted hkind] at hpath
  exact nomatch hpath

/-- Two changes that are no deletions read the same places again if they are about one place. -/
theorem locations_rereads_congr (h : files.Lawful) {a b : Change} (ha : a.kind ≠ .deleted)
    (hb : b.kind ≠ .deleted) (hplace : a.path.location = b.path.location) :
    (a.rereads files settings).map Path.location =
      (b.rereads files settings).map Path.location := by
  have hdirectory : settings.root.any (isEligibleDirectory · a.path) =
      settings.root.any (isEligibleDirectory · b.path) := by
    cases settings.root with
    | none => rfl
    | some root => exact isEligibleDirectory_congr hplace
  have hlistable : (files.listDirectory a.path).toOption.isSome =
      (files.listDirectory b.path).toOption.isSome := by
    have hentries := congrArg Option.isSome (h.entries?_congr hplace)
    simpa only [FileSystem.entries?, Option.isSome_map] using hentries
  rw [rereads_of_not_deleted ha, rereads_of_not_deleted hb, hasNoteExtension_congr hplace,
    hdirectory, hlistable]
  split
  case isTrue => rw [List.map_singleton, List.map_singleton, hplace]
  case isFalse =>
    split
    case isTrue => exact locations_scan_congr h.toLawfulListing hplace
    case isFalse => rfl

theorem Reads.congr (h : files.Lawful) {a b : Change} (hreads : a.Reads files settings place)
    (hb : b.kind ≠ .deleted) (hplace : a.path.location = b.path.location) :
    b.Reads files settings place := by
  obtain ⟨path, hpath, rfl, hnote⟩ := id hreads
  have hmem : path.location ∈ (b.rereads files settings).map Path.location := by
    rw [← locations_rereads_congr h (not_deleted_of_reads hreads) hb hplace]
    exact List.mem_map_of_mem hpath
  obtain ⟨path', hpath', hsame⟩ := List.mem_map.mp hmem
  refine ⟨path', hpath', hsame, fun hnone => hnote ?_⟩
  rwa [← Option.map_eq_none_iff (f := Record.gist), Index.map_gist_noteAt?_congr h settings hsame,
    Option.map_eq_none_iff] at hnone

end Change

namespace Index

variable {index : Index} {files : FileSystem} {place : Location}

/-! ### Effects on an index -/

/-- What discarding a path does to a place. -/
def discardEffect (index : Index) (path : Path) (place : Location) : Effect :=
  if place = path.location ∨ index.at? path.location = none ∧ path.location <+: place then .drop
  else .keep

/-- What refreshing a path does to a place. -/
def refreshEffect (files : FileSystem) (place : Location) (index : Index) (path : Path) : Effect :=
  if index.root.any (isEligible · path) then
    match files.readText path with
    | .ok _ => if place = path.location then .put else .keep
    | .error error => if error.kind = .notFound then index.discardEffect path place else .keep
  else .keep

/-- What refreshing several paths does to a place, each path in the index that the ones before it
    leave. -/
def refreshEffects (files : FileSystem) (place : Location) (index : Index) : List Path → List Effect
  | [] => []
  | path :: paths =>
    index.refreshEffect files place path ::
      refreshEffects files place (index.refresh files path).1 paths

/-- What a change does to a place. -/
def effect (files : FileSystem) (place : Location) (index : Index) (change : Change) : Effect :=
  if change.kind = .deleted then index.discardEffect change.path place
  else .overall (index.refreshEffects files place (change.rereads files index.settings))

/-- What several changes do to a place, each in the index that the ones before it leave. -/
def effects (files : FileSystem) (place : Location) (index : Index) : List Change → List Effect
  | [] => []
  | change :: changes =>
    index.effect files place change ::
      effects files place (index.apply files change).1 changes

theorem Consistent.gistAt?_discard_act (h : index.Consistent) (path : Path) (note : Option Gist) :
    (index.discard path).1.gistAt? place =
      (index.discardEffect path place).act note (index.gistAt? place) := by
  rw [h.gistAt?_discard, discardEffect]
  simp only [List.isPrefixOf_iff_prefix]
  split <;> rfl

theorem Consistent.gistAt?_refresh (h : index.Consistent) (hfiles : files.Lawful)
    (path p : Path) :
    (index.refresh files path).1.gistAt? p.location =
      (index.refreshEffect files p.location path).act
        ((noteAt? files index.settings p).map Record.gist) (index.gistAt? p.location) := by
  rw [refreshEffect]
  cases heligible : index.root.any (isEligible · path) with
  | false =>
    rw [refresh_of_ineligible heligible, if_neg Bool.false_ne_true]
    rfl
  | true =>
    rw [if_pos rfl]
    cases htext : files.readText path with
    | ok content =>
      have hread : Record.read files index.policy path =
          .ok (Record.ofContent index.policy path content) := by
        rw [Record.read, htext]
        rfl
      rw [refresh_of_ok heligible hread, h.gistAt?_insert, Record.place_of_read_ok hread]
      simp only
      split
      case isTrue hplace => exact (map_gist_noteAt?_of_read hfiles heligible hread hplace).symm
      case isFalse => rfl
    | error error =>
      have hread : Record.read files index.policy path = .error error := by
        rw [Record.read, htext]
        rfl
      rw [refresh_of_error heligible hread]
      simp only
      split
      case isTrue => exact h.gistAt?_discard_act path _
      case isFalse => rfl

theorem Consistent.gistAt?_refreshEach (h : index.Consistent) (hfiles : files.Lawful)
    (paths : List Path) (p : Path) :
    (index.refreshEach files paths).1.gistAt? p.location =
      (Effect.overall (index.refreshEffects files p.location paths)).act
        ((noteAt? files index.settings p).map Record.gist) (index.gistAt? p.location) := by
  induction paths generalizing index with
  | nil => rfl
  | cons path paths ih =>
    have hrest := ih (h.refresh files path)
    rw [settings_refresh, h.gistAt?_refresh hfiles path p] at hrest
    rw [refreshEffects, Effect.overall_cons, Effect.act_andThen]
    exact hrest

theorem Consistent.gistAt?_apply (h : index.Consistent) (hfiles : files.Lawful)
    (change : Change) (p : Path) :
    (index.apply files change).1.gistAt? p.location =
      (index.effect files p.location change).act
        ((noteAt? files index.settings p).map Record.gist) (index.gistAt? p.location) := by
  rw [effect]
  split
  case isTrue hkind =>
    rw [apply_of_deleted hkind]
    exact h.gistAt?_discard_act _ _
  case isFalse hkind =>
    rw [apply_of_not_deleted hkind]
    exact h.gistAt?_refreshEach hfiles _ p

/-- What is tracked after several changes goes by their effects. -/
theorem Consistent.gistAt?_applyEach (h : index.Consistent) (hfiles : files.Lawful)
    (changes : List Change) (p : Path) :
    (index.applyEach files changes).gistAt? p.location =
      (Effect.overall (index.effects files p.location changes)).act
        ((noteAt? files index.settings p).map Record.gist) (index.gistAt? p.location) := by
  induction changes generalizing index with
  | nil => rfl
  | cons change changes ih =>
    have hrest := ih (h.applyChange files change)
    rw [settings_apply, h.gistAt?_apply hfiles change p] at hrest
    rw [effects, Effect.overall_cons, Effect.act_andThen]
    exact hrest

theorem effects_append (index : Index) (before after : List Change) :
    index.effects files place (before ++ after) =
      index.effects files place before ++
        (index.applyEach files before).effects files place after := by
  induction before generalizing index with
  | nil => rfl
  | cons change before ih =>
    rw [List.cons_append, effects, effects, ih, List.cons_append]
    rfl

/-- An effect is that of a change in the index that the changes before it leave. -/
theorem mem_effects {changes : List Change} {e : Effect} :
    e ∈ index.effects files place changes ↔
      ∃ before change after, changes = before ++ change :: after ∧
        e = (index.applyEach files before).effect files place change := by
  induction changes generalizing index with
  | nil => simp [effects]
  | cons first rest ih =>
    rw [effects, List.mem_cons, ih]
    constructor
    · rintro (rfl | ⟨before, change, after, rfl, rfl⟩)
      · exact ⟨[], first, rest, rfl, rfl⟩
      · exact ⟨first :: before, change, after, rfl, rfl⟩
    · rintro ⟨before, change, after, hsplit, rfl⟩
      cases before with
      | nil =>
        obtain ⟨rfl, rfl⟩ := List.cons.inj hsplit
        exact .inl rfl
      | cons first' before =>
        obtain ⟨rfl, rfl⟩ := List.cons.inj hsplit
        exact .inr ⟨before, change, after, rfl, rfl⟩

/-- Only at and beneath a path anything happens when it is discarded. -/
theorem below_of_discardEffect_ne_keep {path : Path}
    (h : index.discardEffect path place ≠ .keep) : path.location <+: place := by
  rw [discardEffect] at h
  split at h
  case isFalse => exact absurd rfl h
  case isTrue hgone =>
    rcases hgone with rfl | ⟨-, hbelow⟩
    · exact List.prefix_rfl
    · exact hbelow

theorem below_of_refreshEffect_ne_keep {path : Path}
    (h : index.refreshEffect files place path ≠ .keep) : path.location <+: place := by
  rw [refreshEffect] at h
  split at h
  case isFalse => exact absurd rfl h
  case isTrue =>
    split at h
    case h_1 =>
      split at h
      case isTrue hplace => exact hplace ▸ List.prefix_rfl
      case isFalse => exact absurd rfl h
    case h_2 =>
      split at h
      case isTrue => exact below_of_discardEffect_ne_keep h
      case isFalse => exact absurd rfl h

theorem below_of_refreshEffects_ne_keep {paths : List Path} {e : Effect}
    (he : e ∈ index.refreshEffects files place paths) (hne : e ≠ .keep) :
    ∃ path ∈ paths, path.location <+: place := by
  induction paths generalizing index with
  | nil => exact nomatch he
  | cons path paths ih =>
    rcases List.mem_cons.mp he with rfl | hrest
    · exact ⟨path, List.mem_cons_self .., below_of_refreshEffect_ne_keep hne⟩
    · obtain ⟨below, hmem, hbelow⟩ := ih hrest
      exact ⟨below, List.mem_cons_of_mem _ hmem, hbelow⟩

/-- Only at and beneath the path of a change anything happens. -/
theorem below_of_effect_ne_keep (hfiles : files.Lawful) {change : Change}
    (h : index.effect files place change ≠ .keep) : change.path.location <+: place := by
  rw [effect] at h
  split at h
  case isTrue => exact below_of_discardEffect_ne_keep h
  case isFalse =>
    obtain ⟨path, hpath, hbelow⟩ :=
      below_of_refreshEffects_ne_keep (Effect.mem_of_overall_eq rfl h) h
    rcases Change.mem_rereads hfiles hpath with rfl | ⟨-, habove⟩
    · exact hbelow
    · exact habove.trans hbelow

/-! ### Effects of reading -/

theorem discardEffect_ne_put (index : Index) (path : Path) :
    index.discardEffect path place ≠ .put := by
  rw [discardEffect]
  split <;> exact nofun

/-- Refreshing a path puts the note there, at its own place. -/
theorem refreshEffect_eq_put_iff {path : Path} :
    index.refreshEffect files place path = .put ↔
      path.location = place ∧ noteAt? files index.settings path ≠ none := by
  have hroot : index.settings.root = index.root := rfl
  rw [refreshEffect, noteAt?, Record.read, hroot]
  cases index.root.any (isEligible · path) with
  | false => simp
  | true =>
    cases files.readText path with
    | ok content =>
      simp only [if_true]
      split
      case isTrue hplace => simp [hplace, Except.map, Except.toOption]
      case isFalse hplace => simp [Ne.symm hplace]
    | error error =>
      simp only [if_true]
      split
      case isTrue =>
        exact iff_of_false (discardEffect_ne_put _ _) fun h => h.2 rfl
      case isFalse => exact iff_of_false (by decide) fun h => h.2 rfl

theorem put_mem_refreshEffects_iff {paths : List Path} :
    .put ∈ index.refreshEffects files place paths ↔
      ∃ path ∈ paths, path.location = place ∧ noteAt? files index.settings path ≠ none := by
  induction paths generalizing index with
  | nil => simp [refreshEffects]
  | cons path paths ih =>
    rw [refreshEffects, List.mem_cons, ih, settings_refresh, eq_comm, refreshEffect_eq_put_iff]
    simp

/-- Only a missing path drops anything when it is refreshed. -/
theorem missing_of_refreshEffect_eq_drop {path : Path}
    (h : index.refreshEffect files place path = .drop) : path.Missing files index.settings := by
  rw [refreshEffect] at h
  split at h
  case isFalse => exact nomatch h
  case isTrue heligible =>
    split at h
    case h_1 => split at h <;> exact nomatch h
    case h_2 error hread =>
      split at h
      case isTrue hkind => exact ⟨heligible, error, hread, hkind⟩
      case isFalse => exact nomatch h

theorem refreshEffect_of_missing {path : Path} (h : path.Missing files index.settings) :
    index.refreshEffect files place path = index.discardEffect path place := by
  obtain ⟨heligible, error, hread, hkind⟩ := h
  have hroot : index.root.any (isEligible · path) = true := heligible
  simp only [refreshEffect, hroot, if_true, hread, hkind]

/-- What several paths drop lies at or beneath a missing one of them. -/
theorem missing_of_drop_mem_refreshEffects {paths : List Path}
    (h : .drop ∈ index.refreshEffects files place paths) :
    ∃ path ∈ paths, path.Missing files index.settings ∧ path.location <+: place := by
  induction paths generalizing index with
  | nil => exact nomatch h
  | cons path paths ih =>
    rcases List.mem_cons.mp h with hdrop | hrest
    · have hne : index.refreshEffect files place path ≠ .keep := hdrop ▸ nofun
      have hbelow := below_of_refreshEffect_ne_keep hne
      exact ⟨path, List.mem_cons_self .., missing_of_refreshEffect_eq_drop hdrop.symm, hbelow⟩
    · obtain ⟨below, hmem, hmissing, hbelow⟩ := ih hrest
      rw [settings_refresh] at hmissing
      exact ⟨below, List.mem_cons_of_mem _ hmem, hmissing, hbelow⟩

/-- Of several paths that are refreshed a note is tracked at the place of one if none at or above
    that place is missing. -/
theorem Consistent.gistAt?_refreshEach_of_note (h : index.Consistent) (hfiles : files.Lawful)
    {paths : List Path} {path : Path} (hfound : ∃ found ∈ paths, found.location = path.location)
    (hclear : ∀ above ∈ paths, above.Missing files index.settings →
      ¬ above.location <+: path.location)
    {r : Record} (hnote : noteAt? files index.settings path = some r) :
    (index.refreshEach files paths).1.gistAt? path.location = some r.gist := by
  obtain ⟨found, hmem, hplace⟩ := hfound
  have hput : Effect.put ∈ index.refreshEffects files path.location paths := by
    refine put_mem_refreshEffects_iff.mpr ⟨found, hmem, hplace, fun hnone => ?_⟩
    have hcongr := map_gist_noteAt?_congr hfiles index.settings hplace
    rw [hnone, hnote] at hcongr
    exact nomatch hcongr
  have hdrop : Effect.drop ∉ index.refreshEffects files path.location paths := fun hdrop => by
    obtain ⟨above, habove, hmissing, hbelow⟩ := missing_of_drop_mem_refreshEffects hdrop
    exact hclear above habove hmissing hbelow
  rw [h.gistAt?_refreshEach hfiles, Effect.overall_eq_put hput hdrop, hnote]
  rfl

/-- A missing path drops what is tracked at its place, and if that is nothing also what is beneath
    it. -/
theorem Consistent.drop_mem_refreshEffects (h : index.Consistent) (hfiles : files.Lawful)
    {paths : List Path} {path : Path} (hpath : path ∈ paths)
    (hmissing : path.Missing files index.settings)
    (hdrop : place = path.location ∨
      index.gistAt? path.location = none ∧ path.location <+: place) :
    .drop ∈ index.refreshEffects files place paths := by
  induction paths generalizing index with
  | nil => exact nomatch hpath
  | cons first rest ih =>
    rw [refreshEffects, List.mem_cons]
    rcases List.mem_cons.mp hpath with rfl | hrest
    · left
      rw [refreshEffect_of_missing hmissing, discardEffect, if_pos]
      exact hdrop.imp_right (And.imp_left at?_of_gistAt?_eq_none)
    · right
      refine ih (h.refresh files first) hrest (by rwa [settings_refresh]) ?_
      refine hdrop.imp_right (And.imp_left fun hnone => ?_)
      -- Nothing can be put at the place of a missing path.
      rw [h.gistAt?_refresh hfiles, hnone, noteAt?_of_missing hmissing, Option.map_none,
        Effect.act_none]

/-- A change that puts the note at a place reads it. -/
theorem reads_of_effect_eq_put {change : Change}
    (h : index.effect files place change = .put) : change.Reads files index.settings place := by
  rw [effect] at h
  split at h
  case isTrue => exact absurd h (discardEffect_ne_put _ _)
  case isFalse => exact put_mem_refreshEffects_iff.mp (Effect.mem_of_overall_eq h nofun)

/-- A change that reads a place does not keep what is tracked there. -/
theorem effect_ne_keep_of_reads {change : Change}
    (h : change.Reads files index.settings place) :
    index.effect files place change ≠ .keep := by
  rw [effect, if_neg (Change.not_deleted_of_reads h)]
  intro hkeep
  have hput := put_mem_refreshEffects_iff.mpr h
  exact nomatch Effect.overall_eq_keep_iff.mp hkeep _ hput

/-- A later change of the same path does not keep what an earlier one reads either. -/
theorem effect_ne_keep_of_later (hnotes : index.OnlyNotes) (hfiles : files.Lawful)
    {change later : Change} (h : change.Reads files index.settings place)
    (hplace : change.path.location = later.path.location) :
    index.effect files place later ≠ .keep := by
  by_cases hkind : later.kind = .deleted
  · rw [effect, if_pos hkind, discardEffect, if_pos]
    · exact nofun
    · obtain ⟨path, hpath, rfl, -⟩ := h
      rcases Change.mem_rereads hfiles hpath with rfl | ⟨hdirectory, hbelow⟩
      · exact .inl hplace
      · -- No note is visible where a directory is.
        refine .inr ⟨?_, hplace ▸ hbelow⟩
        refine hnotes.at?_eq_none ?_
        rw [← hasNoteExtension_congr hplace]
        exact hdirectory
  · exact effect_ne_keep_of_reads (h.congr hfiles hkind hplace)

/-! ### Places with no note above -/

/-- Nothing is a note or tracked above a place. -/
def Clear (files : FileSystem) (place : Location) (index : Index) : Prop :=
  ∀ path : Path, path.location <+: place → path.location ≠ place →
    index.gistAt? path.location = none ∧ noteAt? files index.settings path = none

theorem Clear.discardEffect (h : index.Clear files place) (path : Path) :
    index.discardEffect path place = if path.location <+: place then .drop else .keep := by
  rw [Index.discardEffect]
  by_cases hbelow : path.location <+: place
  · rw [if_pos hbelow, if_pos]
    by_cases hplace : place = path.location
    · exact .inl hplace
    · refine .inr ⟨?_, hbelow⟩
      have hnone := (h path hbelow (Ne.symm hplace)).1
      exact at?_of_gistAt?_eq_none hnone
  · rw [if_neg hbelow, if_neg]
    rintro (rfl | ⟨-, hbelow'⟩)
    · exact hbelow List.prefix_rfl
    · exact hbelow hbelow'

/-- A place stays clear if what is tracked goes by effects. -/
theorem Clear.of_act (h : index.Clear files place) {after : Index}
    (hsettings : after.settings = index.settings)
    (hact : ∀ p : Path, ∃ e : Effect, after.gistAt? p.location =
      e.act ((noteAt? files index.settings p).map Record.gist) (index.gistAt? p.location)) :
    after.Clear files place := by
  intro p hbelow hne
  obtain ⟨hgist, hnote⟩ := h p hbelow hne
  obtain ⟨e, he⟩ := hact p
  refine ⟨?_, hsettings ▸ hnote⟩
  rw [he, hgist, hnote, Option.map_none, Effect.act_none]

theorem Clear.refresh (hclear : index.Clear files place) (h : index.Consistent)
    (hfiles : files.Lawful) (path : Path) : (index.refresh files path).1.Clear files place :=
  hclear.of_act (settings_refresh ..) fun p => ⟨_, h.gistAt?_refresh hfiles path p⟩

theorem Clear.apply (hclear : index.Clear files place) (h : index.Consistent)
    (hfiles : files.Lawful) (change : Change) : (index.apply files change).1.Clear files place :=
  hclear.of_act (settings_apply ..) fun p => ⟨_, h.gistAt?_apply hfiles change p⟩

section Clear

variable {other : Index} (hfiles : files.Lawful)

include hfiles

/-- At a clear place refreshing goes by the place of a path, and not by the index. -/
theorem Clear.refreshEffect_congr (hclear : index.Clear files place)
    (hclear' : other.Clear files place) (hsettings : index.settings = other.settings)
    {path path' : Path} (hplace : path.location = path'.location) :
    index.refreshEffect files place path = other.refreshEffect files place path' := by
  have hroot : index.root = other.root := congrArg Settings.root hsettings
  rw [refreshEffect, refreshEffect, hroot, any_isEligible_congr hplace,
    hfiles.readText_congr hplace, hclear.discardEffect, hclear'.discardEffect, hplace]

theorem Clear.refreshEffects_congr (hclear : index.Clear files place)
    (hclear' : other.Clear files place) (h : index.Consistent) (h' : other.Consistent)
    (hsettings : index.settings = other.settings) {paths paths' : List Path}
    (hplaces : paths.map Path.location = paths'.map Path.location) :
    index.refreshEffects files place paths = other.refreshEffects files place paths' := by
  induction paths generalizing index other paths' with
  | nil =>
    obtain rfl := List.map_eq_nil_iff.mp hplaces.symm
    rfl
  | cons path paths ih =>
    cases paths' with
    | nil => exact nomatch hplaces
    | cons path' paths' =>
      rw [List.map_cons, List.map_cons, List.cons.injEq] at hplaces
      have hafter : (index.refresh files path).1.settings =
          (other.refresh files path').1.settings := by
        rw [settings_refresh, settings_refresh, hsettings]
      rw [refreshEffects, refreshEffects,
        hclear.refreshEffect_congr hfiles hclear' hsettings hplaces.1,
        ih (hclear.refresh h hfiles path) (hclear'.refresh h' hfiles path')
          (h.refresh files path) (h'.refresh files path') hafter hplaces.2]

/-- At a clear place changes of one path do the same whatever the index, if both or none are
    deletions. -/
theorem Clear.effect_congr (hclear : index.Clear files place)
    (hclear' : other.Clear files place) (h : index.Consistent) (h' : other.Consistent)
    (hsettings : index.settings = other.settings) {a b : Change}
    (hkind : a.kind = .deleted ↔ b.kind = .deleted) (hplace : a.path.location = b.path.location) :
    index.effect files place a = other.effect files place b := by
  rw [effect, effect]
  by_cases hdeleted : a.kind = .deleted
  · rw [if_pos hdeleted, if_pos (hkind.mp hdeleted), hclear.discardEffect,
      hclear'.discardEffect, hplace]
  · have hdeleted' : b.kind ≠ .deleted := fun hb => hdeleted (hkind.mpr hb)
    rw [if_neg hdeleted, if_neg hdeleted', hsettings]
    exact congrArg _ (hclear.refreshEffects_congr hfiles hclear' h h' hsettings
      (Change.locations_rereads_congr hfiles hdeleted hdeleted' hplace))

/-- At a clear place every change does what it would do on its own. -/
theorem Clear.effects_eq (hclear : index.Clear files place) (h : index.Consistent)
    (changes : List Change) :
    index.effects files place changes = changes.map (index.effect files place) := by
  -- The index that a change meets is another one than that from which the effects are told.
  suffices hother : ∀ other : Index, other.Clear files place → other.Consistent →
      other.settings = index.settings →
      other.effects files place changes = changes.map (index.effect files place) from
    hother index hclear h rfl
  induction changes with
  | nil => exact fun _ _ _ _ => rfl
  | cons change changes ih =>
    intro other hclear' h' hsettings
    rw [effects, List.map_cons,
      hclear'.effect_congr hfiles hclear h' h hsettings Iff.rfl rfl,
      ih _ (hclear'.apply h' hfiles change) (h'.applyChange files change)
        ((settings_apply ..).trans hsettings)]

end Clear

end Index

end WikiNotes
