import WikiNotes.Proofs.Index.Mirror
import WikiNotes.Proofs.Vault.Reachable
import WikiNotes.Vault.Event

/-! # A vault that follows its files

A `FileStep` changes the files of a memory and is reported by an event.  A vault that is told of
every step right after it tracks at any time what an index built from scratch would track
(`FileStep.follow_agrees_with_rebuild`): it starts as a mirror of the files, and each kind of step
leaves it one (`Mirroring.write`, `Mirroring.delete`, `Mirroring.rename`). -/

namespace WikiNotes

/-- A change of the files. -/
inductive FileStep where
  /-- Write a file, which is reported as new or as modified. -/
  | write (path : Path) (content : FileContent) (isNew : Bool)
  /-- Delete a file, or a directory with everything beneath it. -/
  | delete (path : Path)
  /-- Rename a file. -/
  | rename (source target : Path)

namespace FileStep

/-- The files after a step. -/
def apply (m : Memory) : FileStep → Memory
  | write path content _ => m.write path content
  | delete path => m.delete path
  | rename source target =>
    match m.files.find? source.location with
    | some content => (m.delete source).write target content
    | none => m

/-- The event that reports a step. -/
def event : FileStep → FileEvent
  | write path _ isNew => ⟨if isNew then .created else .modified, [path]⟩
  | delete path => ⟨.removed, [path]⟩
  | rename source target => ⟨.renamed .both, [source, target]⟩

/-- A step is possible if what it writes has a place in the tree and can be read there, and if it
    renames what is a file. -/
def Possible (m : Memory) : FileStep → Prop
  | write path content isNew => (apply m (write path content isNew)).Legible
  | delete _ => True
  | rename source target =>
    m.files.contains source.location = true ∧ (apply m (rename source target)).Legible

/-- Each of several steps is possible when its turn comes. -/
def Passable (m : Memory) : List FileStep → Prop
  | [] => True
  | step :: steps => step.Possible m ∧ Passable (step.apply m) steps

/-- A possible step leaves a legible tree. -/
theorem Possible.legible {m : Memory} {step : FileStep} (hm : m.Legible) (h : step.Possible m) :
    (step.apply m).Legible := by
  cases step with
  | write path content isNew => exact h
  | delete path => exact hm.delete path
  | rename source target => exact h.2

/-- Take a step and tell a vault of it. -/
def follow (s : Surroundings) (state : Memory × Vault) (step : FileStep) : Memory × Vault :=
  let m := step.apply state.1
  let changes := step.event.changes fun path => m.files.contains path.location
  (m, state.2.handleChanges { s with files := m.fileSystem } changes)

end FileStep

/-- A settled vault whose index mirrors the files of a memory. -/
structure Mirroring (m : Memory) (settings : Settings) (vault : Vault) : Prop
    extends vault.Settled where
  settings_eq : vault.settings = settings
  mirrors : vault.index.Mirrors m.fileSystem

namespace Mirroring

variable {m m' : Memory} {settings : Settings} {vault : Vault} {s : Surroundings}

/-- A vault that takes up changes mirrors the files if its index does. -/
theorem handleChanges (h : Mirroring m settings vault) {changes : List Change}
    (hmirrors : (vault.index.applyEach s.files (Change.latest changes)).Mirrors m'.fileSystem) :
    Mirroring m' settings (vault.handleChanges s changes) where
  toSettled := h.toSettled.handleChanges s changes
  settings_eq := (Vault.settings_submit h.idle _).trans h.settings_eq
  mirrors := by
    rw [Vault.index_handleChanges h.idle]
    exact hmirrors

/-- A new vault mirrors the files. -/
theorem new (h : m.Legible) (hs : s.files = m.fileSystem) (settings : Settings) :
    Mirroring m settings (Vault.new s settings) := by
  obtain ⟨-, hsettings, hindex⟩ := Vault.new_eq s settings
  refine ⟨Vault.settled_new s settings, hsettings, ?_⟩
  rw [hindex, hs]
  exact Index.mirrors_build h _ _ _

theorem write (h : Mirroring m settings vault) {path : Path} {content : FileContent}
    (hm' : (m.write path content).Legible) {kind : ChangeKind} (hkind : kind ≠ .deleted)
    (hs : s.files = (m.write path content).fileSystem) :
    Mirroring (m.write path content) settings (vault.handleChanges s [⟨kind, path⟩]) := by
  refine h.handleChanges ?_
  rw [hs]
  refine Index.mirrors_written hm' h.consistent hkind (Memory.contains_files_write ..)
    h.mirrors.gistAt?_of_ineligible fun p hp => ?_
  rw [h.mirrors p, Index.noteAt?_eq_of_readText_eq (Memory.readText_write_of_ne content hp)]

theorem delete (h : Mirroring m settings vault) (hm : m.Legible) (path : Path) :
    Mirroring (m.delete path) settings (vault.handleChanges s [⟨.deleted, path⟩]) :=
  h.handleChanges (h.mirrors.delete h.consistent hm.toIsTree path)

theorem rename (h : Mirroring m settings vault) (hm : m.Legible) {source target : Path}
    {content : FileContent} (hsource : m.files.contains source.location = true)
    (hm' : ((m.delete source).write target content).Legible)
    (hs : s.files = ((m.delete source).write target content).fileSystem) :
    Mirroring ((m.delete source).write target content) settings
      (vault.handleChanges s [⟨.deleted, source⟩, ⟨.added, target⟩]) := by
  refine h.handleChanges ?_
  rw [hs]
  have hunread (settings : Settings) {p : Path} (hp : p.location ≠ target.location) :
      Index.noteAt? ((m.delete source).write target content).fileSystem settings p =
        Index.noteAt? (m.delete source).fileSystem settings p :=
    Index.noteAt?_eq_of_readText_eq (Memory.readText_write_of_ne content hp)
  have hadded : ChangeKind.added ≠ .deleted := by decide
  by_cases hplace : target.location = source.location
  · -- The vault hears of the new file only; the old one was at the same place.
    have hlatest : Change.latest [⟨.deleted, source⟩, ⟨.added, target⟩] = [⟨.added, target⟩] := by
      simp [Change.latest, Change.isAt, hplace]
    rw [hlatest]
    refine Index.mirrors_written hm' h.consistent hadded (Memory.contains_files_write ..)
      h.mirrors.gistAt?_of_ineligible fun p hp => ?_
    rw [h.mirrors.others hm.toIsTree hsource (hplace ▸ hp), hunread _ hp]
  · have hlatest : Change.latest [⟨.deleted, source⟩, ⟨.added, target⟩] =
        [⟨.deleted, source⟩, ⟨.added, target⟩] := by
      simp [Change.latest, Change.isAt, hplace]
    have hdeleted := h.mirrors.delete h.consistent hm.toIsTree source
    rw [hlatest]
    refine Index.mirrors_written hm' (h.consistent.discard source) hadded
      (Memory.contains_files_write ..) hdeleted.gistAt?_of_ineligible fun p hp => ?_
    rw [hunread _ hp]
    exact hdeleted p

/-- A vault that is told of a possible step mirrors the files after it. -/
theorem follow (h : Mirroring m settings vault) (hm : m.Legible) {step : FileStep}
    (hstep : step.Possible m) (s : Surroundings) :
    Mirroring (step.follow s (m, vault)).1 settings (step.follow s (m, vault)).2 := by
  have hm' := hstep.legible hm
  cases step with
  | write path content isNew =>
    cases isNew with
    | true => exact h.write hm' nofun rfl
    | false => exact h.write hm' nofun rfl
  | delete path => exact h.delete hm path
  | rename source target =>
    obtain ⟨content, hcontent⟩ := SortedMap.contains_eq_true_iff.mp hstep.1
    have happly : (FileStep.rename source target).apply m =
        (m.delete source).write target content := by
      simp only [FileStep.apply, hcontent]
    rw [happly] at hm'
    simp only [FileStep.follow, happly]
    exact h.rename hm hstep.1 hm' rfl

/-- A vault that is told of every step mirrors the files after any number of them. -/
theorem run (h : Mirroring m settings vault) (hm : m.Legible) {steps : List FileStep}
    (hsteps : FileStep.Passable m steps) (s : Surroundings) :
    let final := steps.foldl (FileStep.follow s) (m, vault)
    Mirroring final.1 settings final.2 ∧ final.1.Legible := by
  induction steps generalizing m vault with
  | nil => exact ⟨h, hm⟩
  | cons step steps ih =>
    obtain ⟨hstep, hrest⟩ := hsteps
    exact ih (h.follow hm hstep s) (hstep.legible hm) hrest

end Mirroring

/-! ### Agreement -/

/-- At most one note of a file system has a name. -/
def AtMostOne (files : FileSystem) (settings : Settings) (name : String) : Prop :=
  ∀ p q r r', Index.noteAt? files settings p = some r → Index.noteAt? files settings q = some r' →
    r.name = name → r'.name = name → p.location = q.location

/-- Two indexes of one file system track the same notes, and know the same names. -/
structure AgreeOn (files : FileSystem) (settings : Settings) (index other : Index) : Prop where
  /-- The same notes are tracked. -/
  tracked (place : Location) : index.gistAt? place = other.gistAt? place
  /-- The same names are held. -/
  held (name : String) : (index.named? name).isSome = (other.named? name).isSome
  /-- A name that only one note has is held by the same note. -/
  holder (name : String) : AtMostOne files settings name →
    (index.named? name).map Record.gist = (other.named? name).map Record.gist

/-- A mirror agrees with an index that is built from scratch. -/
theorem Mirroring.agreeOn_build {m : Memory} {settings : Settings} {vault : Vault}
    (h : Mirroring m settings vault) (hm : m.Legible) (time : String) :
    AgreeOn m.fileSystem settings vault.index
      (Index.build m.fileSystem time settings.root settings.policy) := by
  have hbuilt := Index.consistent_build m.fileSystem time settings.root settings.policy
  have hgist (place : Location) : vault.index.gistAt? place =
      (Index.build m.fileSystem time settings.root settings.policy).gistAt? place := by
    refine h.mirrors.gistAt?_eq (Index.mirrors_build hm _ _ _) h.consistent.toCoherent
      hbuilt.toCoherent ?_ place
    rw [h.index_settings, h.settings_eq, Index.settings_build]
  refine ⟨hgist, h.consistent.isSome_named?_eq hbuilt hgist, fun name hone => ?_⟩
  refine h.consistent.map_gist_named?_eq hbuilt hgist fun place place' r r' hr hr' hn hn' => ?_
  obtain ⟨p, t, rfl, hp, ht⟩ := h.mirrors.exists_noteAt? h.consistent.toCoherent hr
  obtain ⟨q, t', rfl, hq, ht'⟩ := h.mirrors.exists_noteAt? h.consistent.toCoherent hr'
  rw [h.index_settings, h.settings_eq] at hp hq
  exact hone p q t t' hp hq ((Record.name_eq_of_gist_eq ht).trans hn)
    ((Record.name_eq_of_gist_eq ht').trans hn')

namespace FileStep

/-- A vault that is told of every step of the files agrees after any number of them with one that
    builds its index from scratch. -/
theorem follow_agrees_with_rebuild (s : Surroundings) (settings : Settings) (m : Memory)
    (hm : m.Legible) (steps : List FileStep) (hsteps : Passable m steps) :
    let start := Vault.new { s with files := m.fileSystem } settings
    let final := steps.foldl (follow s) (m, start)
    AgreeOn final.1.fileSystem settings final.2.index
      (final.2.rebuild { s with files := final.1.fileSystem }).index := by
  intro start final
  obtain ⟨h, hlegible⟩ :=
    (Mirroring.new (s := { s with files := m.fileSystem }) hm rfl settings).run hm hsteps s
  rw [Vault.index_rebuild h.idle, h.settings_eq]
  exact h.agreeOn_build hlegible s.time

/-- A note is renamed so that it takes the name of another one, which is left as the only one when
    the directory of the first is deleted. -/
theorem follow_agrees_with_rebuild_renamed :
    let m : Memory := ({} : Memory).write ⟨"/v/a.md"⟩ (.text "#x")
    let s : Surroundings := ⟨m.fileSystem, fun _ => none, fun _ => false, "now"⟩
    let settings : Settings := { root := some ⟨"/v"⟩ }
    let steps : List FileStep :=
      [write ⟨"/v/b.md"⟩ (.text "b") true, rename ⟨"/v/b.md"⟩ ⟨"/v/d/a.md"⟩, delete ⟨"/v/d"⟩]
    let final := steps.foldl (follow s) (m, Vault.new { s with files := m.fileSystem } settings)
    m.Legible ∧ Passable m steps ∧
      AgreeOn final.1.fileSystem settings final.2.index
        (final.2.rebuild { s with files := final.1.fileSystem }).index := by
  intro m s settings steps final
  have hm : m.Legible := Memory.IsPlain.legible (by decide +kernel)
  have hsteps : Passable m steps := by
    refine ⟨Memory.IsPlain.legible ?_, ⟨?_, Memory.IsPlain.legible ?_⟩, trivial, trivial⟩
    all_goals decide +kernel
  exact ⟨hm, hsteps, follow_agrees_with_rebuild s settings m hm steps hsteps⟩

end FileStep

end WikiNotes
