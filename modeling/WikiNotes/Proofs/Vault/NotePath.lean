import WikiNotes.Proofs.Index.Agreement
import WikiNotes.Proofs.Path.Beneath
import WikiNotes.Proofs.Text.Blank
import WikiNotes.Proofs.Vault.Eligibility

/-! # Notes and their printed paths

The path of a note as it is shown, beneath the root and without it, leads to the note when it is
given back (`Vault.Reachable.locateNote_printed`).  Every visible note lies beneath the root and has
the extension of a note, so what is shown is taken as a path before it is taken as a name; trimming
leaves it alone unless it starts with a blank, since a path with such an extension does not end in
one. -/

namespace WikiNotes

/-- A path with the extension of a note does not end in a blank. -/
theorem isBlank_of_hasNoteExtension {path : Path} (h : hasNoteExtension path = true) {c : Char}
    (hc : path.text.toList.getLast? = some c) : Text.isBlank c = false := by
  by_contra hblank
  rw [Bool.not_eq_false] at hblank
  have hslash : c ≠ '/' := by
    rintro rfl
    exact absurd hblank (by decide)
  have hdot : c ≠ '.' := by
    rintro rfl
    exact absurd hblank (by decide)
  -- A blank at the end would end the last part, and with it the name of the file.
  obtain ⟨front, hfront⟩ := List.getLast?_eq_some_iff.mp hc
  obtain ⟨parts, part, hsplit⟩ := Path.exists_splitSlash_concat front hslash
  rw [← hfront] at hsplit
  have hname : Path.innerComponent (part ++ [c]) = some (.name (String.ofList (part ++ [c]))) := by
    have hmem : c ∈ part ++ [c] := List.mem_append_right _ (List.mem_singleton_self c)
    rw [Path.innerComponent, if_neg, if_neg]
    · intro h
      simp [h, hdot] at hmem
    · rintro (h | h) <;> simp [h, hdot] at hmem
  rw [hasNoteExtension, Path.extension?, Path.fileName?_of_splitSlash hsplit hname,
    Option.bind_some, Option.any_map, Option.any_eq_true, String.toList_ofList] at h
  obtain ⟨suffix, hcut, hknown⟩ := h
  -- The name ends in its extension, and both extensions of notes end in a letter.
  obtain ⟨stem, hstem⟩ := Path.suffix_of_cutExtension (Prod.ext rfl hcut)
  have hlast := congrArg List.getLast? hstem
  have hextension : suffix = ['m', 'd'] ∨ suffix = ['m', 'a', 'r', 'k', 'd', 'o', 'w', 'n'] := by
    simpa [noteExtensions, ← String.toList_inj] using hknown
  rcases hextension with rfl | rfl
  · obtain rfl : 'd' = c := by simpa using hlast
    exact absurd hblank (by decide)
  · obtain rfl : 'n' = c := by simpa using hlast
    exact absurd hblank (by decide)

/-- Trimming leaves a path with the extension of a note alone if it does not start with a blank. -/
theorem trim_of_hasNoteExtension {path : Path} (h : hasNoteExtension path = true)
    (hstart : ∀ c, path.text.toList.head? = some c → Text.isBlank c = false) :
    Text.trim path.text = path.text :=
  Text.trim_eq_self_iff.mpr
    (Text.stripWhile_eq_self_iff.mpr ⟨hstart, fun _ => isBlank_of_hasNoteExtension h⟩)

namespace Vault

variable {vault : Vault} {root : Path} {r : Record}

/-- Whatever a reachable vault shows is eligible under its settings. -/
theorem Reachable.isEligible_path (h : vault.Reachable fun s => s.files.JoinsNames)
    (hroot : vault.settings.root = some root) (hr : r ∈ vault.documents) :
    isEligible root r.path = true := by
  have hevery : vault.index.Every (Record.WellFormed vault.settings) :=
    h.every (fun s hs settings => Index.every_wellFormed_build hs s.time settings)
      Index.readsOnly_wellFormed
  obtain ⟨name, hname⟩ := Index.mem_sortedRecords.mp hr
  obtain ⟨root', hroot', heligible⟩ :=
    (hevery _ _ (h.settled.consistent.tracked?_of_named? hname)).eligible
  obtain rfl := Option.some.inj (hroot.symm.trans hroot')
  exact heligible

/-- A path to a visible note leads to it if trimming leaves the path alone. -/
theorem Settled.locateNote_eq_ok (h : vault.Settled) (hroot : vault.settings.root = some root)
    (hr : r ∈ vault.documents) {path : Path} (hnote : hasNoteExtension path = true)
    (htrim : Text.trim path.text = path.text)
    (hplace : (root.join path).location = r.path.location) :
    vault.locateNote path.text = .ok r := by
  have hat : vault.documentAt? (root.join path) = some r := by
    rw [documentAt?, hplace]
    exact h.consistent.mem_sortedRecords_iff.mp hr
  unfold locateNote
  simp only [htrim, hnote, if_true, hroot, Option.bind_some, hat, Option.some_or]

/-- What is shown of the path of a visible note leads to the note unless it starts with a blank, and
    so does its whole path if the root is absolute. -/
theorem Reachable.locateNote_printed (h : vault.Reachable fun s => s.files.JoinsNames)
    (hroot : vault.settings.root = some root) (hr : r ∈ vault.documents) :
    ((∀ c, (vault.relativePath r.path).text.toList.head? = some c → Text.isBlank c = false) →
        vault.locateNote (vault.relativePath r.path).text = .ok r) ∧
      (root.isAbsolute = true → vault.locateNote r.path.text = .ok r) := by
  obtain ⟨hnote, beneath, hplace, hne, -⟩ := isEligible_iff.mp (h.isEligible_path hroot hr)
  constructor
  · intro hstart
    obtain ⟨shown, hstrip, hshown, hjoin⟩ := Path.exists_stripBase? hplace hne
    have hrelative : vault.relativePath r.path = shown := by
      rw [relativePath, hroot, Option.bind_some, hstrip, Option.getD_some]
    -- The root cannot give the note its extension: something is left beneath it.
    have hfile : r.path.fileName? = shown.fileName? :=
      Path.fileName?_of_location_append (hshown ▸ hplace) (hshown ▸ hne)
    have hnote' : hasNoteExtension shown = true := by
      rwa [hasNoteExtension, Path.extension?, hfile] at hnote
    rw [hrelative] at hstart ⊢
    exact h.settled.locateNote_eq_ok hroot hr hnote' (trim_of_hasNoteExtension hnote' hstart) hjoin
  · intro habsolute
    -- A path beneath an absolute root is absolute, so the root has no part in looking it up.
    have habsolute' : r.path.isAbsolute = true := by
      rw [Path.isAbsolute_iff] at habsolute ⊢
      rw [hplace, List.head?_append, habsolute, Option.some_or]
    have hstart : ∀ c, r.path.text.toList.head? = some c → Text.isBlank c = false := by
      intro c hc
      rw [Path.isAbsolute, hc, beq_iff_eq, Option.some.injEq] at habsolute'
      rw [habsolute']
      decide
    refine h.settled.locateNote_eq_ok hroot hr hnote (trim_of_hasNoteExtension hnote hstart) ?_
    rw [Path.join_of_isAbsolute root habsolute']

/-- A note appears at an oddly spelled path where another note has the name that is shown of it and
    a third one has what is shown of its path as its name. -/
theorem locateNote_printed_taken_name :
    let m : Memory := (({} : Memory).write ⟨"/v/a/b.md"⟩ (.text "x")).write ⟨"/v/b.md.md"⟩
      (.text "y")
    let seeing (m : Memory) : Surroundings := ⟨m.fileSystem, fun _ => none, fun _ => false, "now"⟩
    let vault := (new (seeing m) { root := some ⟨"/v/"⟩ }).handleChanges
      (seeing (m.write ⟨"/v/b.md"⟩ (.text "z"))) [⟨.added, ⟨"/v//./b.md"⟩⟩]
    let r := Record.ofContent {} ⟨"/v//./b.md"⟩ "z"
    let colliding := Record.ofContent {} ⟨"/v/a/b.md"⟩ "x"
    let named := Record.ofContent {} ⟨"/v/b.md.md"⟩ "y"
    vault.Reachable (fun s => s.files.JoinsNames) ∧ vault.documents = [r, named] ∧
      vault.index.shadowed.values = [colliding] ∧ colliding.displayName = r.displayName ∧
      vault.findByName? "b.md" = some named ∧ (vault.relativePath r.path).text = "b.md" ∧
      vault.locateNote "b.md" = .ok r ∧ vault.locateNote "/v//./b.md" = .ok r := by
  intro m seeing vault r colliding named
  have hm : m.IsPlain := by decide +kernel
  have hm' : (m.write ⟨"/v/b.md"⟩ (.text "z")).IsPlain := by decide +kernel
  have hvault : vault.Reachable (fun s => s.files.JoinsNames) :=
    .handleChanges hm'.legible.toIsTree.joinsNames (.new hm.legible.toIsTree.joinsNames _) _
  have hshown : vault.documents = [r, named] ∧ vault.index.shadowed.values = [colliding] ∧
      colliding.displayName = r.displayName ∧ vault.findByName? "b.md" = some named ∧
      (vault.relativePath r.path).text = "b.md" := by
    decide +kernel
  obtain ⟨hdocuments, hshadowed, hsame, hfound, hrelative⟩ := hshown
  have hr : r ∈ vault.documents := hdocuments ▸ List.mem_cons_self ..
  obtain ⟨hback, habsolute⟩ := hvault.locateNote_printed rfl hr
  rw [hrelative] at hback
  have hstart : ∀ c, "b.md".toList.head? = some c → Text.isBlank c = false := by
    intro c hc
    obtain rfl : 'b' = c := Option.some.inj hc
    decide
  exact ⟨hvault, hdocuments, hshadowed, hsame, hfound, hrelative, hback hstart, habsolute rfl⟩

end Vault

end WikiNotes
