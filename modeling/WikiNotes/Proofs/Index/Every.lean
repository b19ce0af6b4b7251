import WikiNotes.Proofs.Index.Update

/-! # What holds of every tracked note

A property of records that all inserted notes have is one that all tracked notes have
(`Every.run`).  Updates insert nothing but what they read at eligible paths, so whatever is true of
that is true of everything an updated index tracks (`Every.applyEach`, `Every.build`).  In particular
these are notes with the extension of a note (`OnlyNotes`). -/

namespace WikiNotes

theorem Record.exists_content_of_read_ok {files : FileSystem} {policy : NamingPolicy}
    {path : Path} {r : Record} (h : read files policy path = .ok r) :
    ∃ content, ofContent policy path content = r := by
  rw [read] at h
  cases hread : files.readText path with
  | error error =>
    rw [hread] at h
    cases h
  | ok content =>
    rw [hread] at h
    exact ⟨content, Except.ok.inj h⟩

/-- A record is that of what was read at a path with the extension of a note. -/
def Record.WasRead (policy : NamingPolicy) (r : Record) : Prop :=
  hasNoteExtension r.path = true ∧ ∃ content, ofContent policy r.path content = r

theorem Record.wasRead_ofContent {policy : NamingPolicy} {path : Path}
    (h : hasNoteExtension path = true) (content : String) :
    (ofContent policy path content).WasRead policy :=
  ⟨h, content, rfl⟩

namespace Index

/-- Every tracked note has a property. -/
def Every (P : Record → Prop) (index : Index) : Prop :=
  ∀ place r, index.tracked? place = some r → P r

variable {P : Record → Prop} {index : Index}

theorem every_empty (root : Option Path) (policy : NamingPolicy) :
    Every P { root, policy } :=
  fun _ _ h => nomatch h

theorem Every.of_mem_records (hevery : index.Every P) (h : index.Coherent) {r : Record}
    (hr : r ∈ index.records) : P r := by
  obtain ⟨name, hname⟩ := SortedMap.mem_values.mp hr
  exact hevery _ _ (h.tracked?_of_named? hname)

/-- What tracks no other notes tracks none without the property. -/
theorem Every.mono {other : Index} (hevery : index.Every P)
    (hless : ∀ place r, other.tracked? place = some r → index.tracked? place = some r) :
    other.Every P :=
  fun place r h => hevery place r (hless place r h)

/-! ### Inserting and removing -/

theorem Every.insert (hevery : index.Every P) (h : index.Coherent) {r : Record} (hr : P r) :
    (index.insert r).1.Every P := by
  intro place s hs
  cases hnew : (index.tracked? r.place).any r.same with
  | true =>
    rw [insert_of_same hnew] at hs
    exact hevery place s hs
  | false =>
    rw [h.tracked?_insert hnew] at hs
    split at hs
    case isTrue => exact Option.some.inj hs ▸ hr
    case isFalse => exact hevery place s hs

theorem Every.remove (hevery : index.Every P) (h : index.Coherent) (place : Location) :
    (index.remove place).1.Every P := by
  refine hevery.mono fun place' r hr => ?_
  rw [h.tracked?_remove] at hr
  split at hr
  case isTrue => exact nomatch hr
  case isFalse => exact hr

theorem Every.removeUnder (hevery : index.Every P) (h : index.Consistent) (base : Location) :
    (index.removeUnder base).1.Every P := by
  refine hevery.mono fun place r hr => ?_
  rw [h.tracked?_removeUnder] at hr
  split at hr
  case isTrue => exact nomatch hr
  case isFalse => exact hr

/-- If every note that is inserted has a property, every tracked note has it. -/
theorem Every.run (hevery : index.Every P) (h : index.Consistent) {ops : List Operation}
    (hops : ∀ r, .edit (.insert r) ∈ ops → P r) : (Operation.run index ops).Every P := by
  induction ops generalizing index with
  | nil => exact hevery
  | cons op ops ih =>
    have hrest : ∀ r, .edit (.insert r) ∈ ops → P r := fun r hr =>
      hops r (List.mem_cons_of_mem _ hr)
    refine ih ?_ (h.apply op) hrest
    cases op with
    | edit e =>
      cases e with
      | insert r => exact hevery.insert h.toCoherent (hops r (List.mem_cons_self ..))
      | remove place => exact hevery.remove h.toCoherent place
    | removeUnder base => exact hevery.removeUnder h base

/-! ### Updates -/

theorem Every.discard (hevery : index.Every P) (h : index.Consistent) (path : Path) :
    (index.discard path).1.Every P := by
  cases hat : index.at? path.location with
  | some r =>
    rw [discard_of_visible h.toCoherent hat]
    exact hevery.remove h.toCoherent _
  | none =>
    rw [discard_of_not_visible h.toCoherent hat]
    exact (hevery.remove h.toCoherent _).removeUnder (h.remove _) _

/-- What is read at an eligible path has a property. -/
def ReadsOnly (P : Record → Prop) (settings : Settings) : Prop :=
  ∀ (path : Path) (content : String), settings.root.any (isEligible · path) = true →
    P (Record.ofContent settings.policy path content)

theorem Every.refresh (hevery : index.Every P) (h : index.Consistent)
    (hreads : ReadsOnly P index.settings) (files : FileSystem) (path : Path) :
    (index.refresh files path).1.Every P := by
  rcases refresh_cases index files path with heq | ⟨heligible, r, hread, heq⟩ | heq
  · rwa [heq]
  · rw [heq]
    obtain ⟨content, rfl⟩ := Record.exists_content_of_read_ok hread
    exact hevery.insert h.toCoherent (hreads path content heligible)
  · rw [heq]
    exact hevery.discard h path

theorem Every.refreshEach (hevery : index.Every P) (h : index.Consistent)
    (hreads : ReadsOnly P index.settings) (files : FileSystem) (paths : List Path) :
    (index.refreshEach files paths).1.Every P := by
  induction paths generalizing index with
  | nil => exact hevery
  | cons path paths ih =>
    have hkept : ReadsOnly P (index.refresh files path).1.settings := by rwa [settings_refresh]
    exact ih (hevery.refresh h hreads files path) (h.refresh files path) hkept

theorem Every.apply (hevery : index.Every P) (h : index.Consistent)
    (hreads : ReadsOnly P index.settings) (files : FileSystem) (change : Change) :
    (index.apply files change).1.Every P := by
  by_cases hkind : change.kind = .deleted
  · rw [apply_of_deleted hkind]
    exact hevery.discard h _
  · rw [apply_of_not_deleted hkind]
    exact hevery.refreshEach h hreads files _

/-- An index that is brought up to date tracks nothing else than it did and what it reads. -/
theorem Every.applyEach (hevery : index.Every P) (h : index.Consistent)
    (hreads : ReadsOnly P index.settings) (files : FileSystem) (changes : List Change) :
    (index.applyEach files changes).Every P := by
  induction changes generalizing index with
  | nil => exact hevery
  | cons change changes ih =>
    have hkept : ReadsOnly P (index.apply files change).1.settings := by rwa [settings_apply]
    exact ih (hevery.apply h hreads files change) (h.applyChange files change) hkept

theorem Every.insertReadable (hevery : index.Every P) (h : index.Consistent) (files : FileSystem)
    {paths : List Path}
    (hpaths : ∀ path ∈ paths, ∀ content, P (Record.ofContent index.policy path content)) :
    (index.insertReadable files paths).Every P := by
  induction paths generalizing index with
  | nil => exact hevery
  | cons path paths ih =>
    rw [List.forall_mem_cons] at hpaths
    cases hread : Record.read files index.policy path with
    | ok r =>
      obtain ⟨content, rfl⟩ := Record.exists_content_of_read_ok hread
      have hpolicy : (index.insert (Record.ofContent index.policy path content)).1.policy =
          index.policy :=
        congrArg Settings.policy (settings_insert ..)
      rw [insertReadable_of_ok hread]
      exact ih (hevery.insert h.toCoherent (hpaths.1 content)) (h.insert _)
        (by rw [hpolicy]; exact hpaths.2)
    | error error =>
      rw [insertReadable_of_error hread]
      exact ih hevery h hpaths.2

/-- An index that is built from scratch tracks nothing but what it reads at scanned paths. -/
theorem Every.build {root : Option Path} {policy : NamingPolicy} {files : FileSystem}
    (hpaths : ∀ dir ∈ root, ∀ path ∈ (scan files dir).notes, ∀ content,
      P (Record.ofContent policy path content)) (time : String) :
    (Index.build files time root policy).Every P := by
  refine (every_empty root policy).insertReadable (consistent_empty root policy) files
    fun path hpath => ?_
  cases root with
  | none => exact nomatch hpath
  | some dir => exact hpaths dir rfl path hpath

/-! ### Notes that were read -/

theorem readsOnly_wasRead (settings : Settings) :
    ReadsOnly (Record.WasRead settings.policy) settings := by
  intro path content heligible
  rw [Option.any_eq_true] at heligible
  obtain ⟨dir, -, hdir⟩ := heligible
  exact Record.wasRead_ofContent (isEligible_iff.mp hdir).1 content

theorem every_wasRead_build (files : FileSystem) (time : String) (root : Option Path)
    (policy : NamingPolicy) :
    (Index.build files time root policy).Every (Record.WasRead policy) :=
  .build (fun _ _ _ hpath content =>
    Record.wasRead_ofContent (hasNoteExtension_of_mem_scanFrom (mem_scan.mp hpath)) content) time

/-! ### Only notes -/

/-- An index tracks nothing but paths with the extension of a note. -/
def OnlyNotes (index : Index) : Prop :=
  ∀ path : Path, index.gistAt? path.location ≠ none → hasNoteExtension path = true

/-- That is, every tracked note has a path with the extension. -/
theorem onlyNotes_iff_every (h : index.Coherent) :
    index.OnlyNotes ↔ index.Every fun r => hasNoteExtension r.path = true := by
  constructor
  · intro hnotes place r hr
    refine hnotes r.path ?_
    rw [show r.path.location = place from h.tracked?_place hr, gistAt?_of_tracked? hr]
    exact Option.some_ne_none _
  · intro hevery path hne
    rw [gistAt?, ne_eq, Option.map_eq_none_iff] at hne
    obtain ⟨r, hr⟩ := Option.ne_none_iff_exists'.mp hne
    exact (hasNoteExtension_congr (h.tracked?_place hr).symm).trans (hevery _ r hr)

/-- Where a path does not have the extension of a note nothing is visible. -/
theorem OnlyNotes.at?_eq_none (hnotes : index.OnlyNotes) {path : Path}
    (h : hasNoteExtension path = false) : index.at? path.location = none := by
  have hnone : index.gistAt? path.location = none :=
    Decidable.byContradiction fun hne => nomatch h.symm.trans (hnotes path hne)
  exact at?_of_gistAt?_eq_none hnone

/-- An index that is brought up to date still tracks only notes. -/
theorem OnlyNotes.applyEach (hnotes : index.OnlyNotes) (h : index.Consistent)
    (files : FileSystem) (changes : List Change) :
    (index.applyEach files changes).OnlyNotes := by
  have hreads : ReadsOnly (fun r => hasNoteExtension r.path = true) index.settings :=
    fun path content heligible => (readsOnly_wasRead _ path content heligible).1
  have hevery := (onlyNotes_iff_every h.toCoherent).mp hnotes
  exact (onlyNotes_iff_every (h.applyEach files changes).toCoherent).mpr
    (hevery.applyEach h hreads files changes)

/-- An index that is built from scratch tracks only notes. -/
theorem onlyNotes_build (files : FileSystem) (time : String) (root : Option Path)
    (policy : NamingPolicy) : (build files time root policy).OnlyNotes :=
  (onlyNotes_iff_every (consistent_build files time root policy).toCoherent).mpr
    fun place r hr => (every_wasRead_build files time root policy place r hr).1

end Index

end WikiNotes
