import WikiNotes.Proofs.Index.Mirror
import WikiNotes.Proofs.Index.Search
import WikiNotes.Proofs.Text.Sigma
import WikiNotes.Proofs.Vault.OwnName

/-! # What is found as it stands

A search and a suggestion put both sides in lower case before they compare them.  An occurrence of
the query as it stands is found wherever lower case treats its capital sigmas as it treats those of
the query (`mem_search_of_keepsSigmas`, `mem_suggest_of_keepsSigmas`).

So a query finds all notes in which it stands exactly if it has no open sigma: for any other there
is a vault with a single note that contains it and is not found
(`findsLiterally_iff`). -/

namespace WikiNotes

open Text

/-! ### A vault with one note -/

namespace Path

/-- Nothing but the extension is cut off from the name of a note. -/
theorem cutExtension_note {name : List Char} (hne : name ≠ []) :
    cutExtension (name ++ ['.', 'm', 'd']) = (name, some ['m', 'd']) := by
  simp [cutExtension, hne]

/-- A stem is part of a name, and a name has no slash. -/
theorem slash_not_mem_stem (path : Path) : '/' ∉ path.stem.toList := by
  rw [stem]
  cases hname : path.fileName? with
  | none => simp
  | some name =>
    have hentry : IsEntryName name := by
      refine isEntryName_of_mem_location (p := path) ?_
      rw [fileName?] at hname
      split at hname
      case h_1 text hlast => exact Option.some.inj hname ▸ List.mem_of_getLast? hlast
      case h_2 => cases hname
    have hpart : (cutExtension name.toList).1 ⊆ name.toList := by
      rw [cutExtension]
      split
      case isTrue => exact List.Subset.refl _
      case isFalse => exact List.take_subset ..
    rw [String.toList_ofList]
    exact fun hmem => hentry.2.2.2 (hpart hmem)

end Path

/-- The path of a note right beneath the root `/v`. -/
def singlePath (name : List Char) : Path :=
  Path.join ⟨"/v"⟩ ⟨String.ofList (name ++ ['.', 'm', 'd'])⟩

/-- A memory with that note alone. -/
def singleNote (name : List Char) (content : String) : Memory :=
  ({} : Memory).write (singlePath name) (.text content)

section Single

variable {name : List Char} {content : String}

theorem contains_singleNote {place : Location} :
    (singleNote name content).files.contains place = true ↔ place = (singlePath name).location := by
  simp [SortedMap.contains, singleNote, Memory.write, SortedMap.find?_insert_eq]

theorem mem_places_singleNote {place : Location} :
    place ∈ (singleNote name content).places ↔ place = (singlePath name).location := by
  rw [Memory.mem_places, contains_singleNote]
  simp [singleNote, Memory.write, SortedMap.contains]

theorem readText_singleNote {path : Path} (h : path.location = (singlePath name).location) :
    (singleNote name content).fileSystem.readText path = .ok content := by
  simp [Memory.fileSystem, Memory.readText, singleNote, Memory.write, SortedMap.find?_insert_eq, h]

theorem isTree_singleNote (name : List Char) (content : String) :
    (singleNote name content).IsTree where
  spelled hmem := ⟨_, (mem_places_singleNote.mp hmem).symm⟩
  file_leaf {place} hfile := by
    rw [← Bool.not_eq_true, Memory.hasDirectory_iff]
    rintro (⟨beneath, hne, hmem⟩ | hdir)
    · rw [contains_singleNote.mp hfile, mem_places_singleNote] at hmem
      exact hne (by simpa using hmem)
    · exact nomatch hdir

theorem legible_singleNote (name : List Char) (content : String) :
    (singleNote name content).Legible where
  toIsTree := isTree_singleNote name content
  listable {dir} hdir := by
    refine Memory.exists_listDirectory_iff.mpr ⟨rfl, ?_, hdir⟩
    rw [← Bool.not_eq_true]
    exact fun hfile => nomatch hdir.symm.trans ((isTree_singleNote name content).file_leaf hfile)
  readable hfile _ := .inl ⟨content, readText_singleNote (contains_singleNote.mp hfile)⟩

variable (hne : name ≠ []) (hslash : '/' ∉ name) (hhidden : name.head? ≠ some '.')
include hne hslash

theorem location_singlePath :
    (singlePath name).location =
      Path.location ⟨"/v"⟩ ++ [.name (String.ofList (name ++ ['.', 'm', 'd']))] := by
  have hlong (cs : List Char) (hcs : cs.length ≤ 2) :
      String.ofList (name ++ ['.', 'm', 'd']) ≠ String.ofList cs := by
    intro heq
    have hlength := congrArg List.length (String.ofList_injective heq)
    simp only [List.length_append, List.length_cons, List.length_nil] at hlength
    have hpos := List.length_pos_iff.mpr hne
    omega
  refine Path.location_join _ ⟨hlong [] (by simp), hlong ['.'] (by simp),
    hlong ['.', '.'] (by simp), ?_⟩
  simp [hslash]

theorem fileName?_singlePath :
    (singlePath name).fileName? = some (String.ofList (name ++ ['.', 'm', 'd'])) := by
  rw [Path.fileName?, location_singlePath hne hslash, List.getLast?_concat]

theorem stem_singlePath : (singlePath name).stem = String.ofList name := by
  rw [Path.stem, fileName?_singlePath hne hslash]
  simp [Path.cutExtension_note hne]

include hhidden

theorem isEligible_singlePath : isEligible ⟨"/v"⟩ (singlePath name) = true := by
  have hextension : hasNoteExtension (singlePath name) = true := by
    rw [hasNoteExtension, Path.extension?, fileName?_singlePath hne hslash]
    simp [Path.cutExtension_note hne, noteExtensions]
  refine isEligible_iff.mpr ⟨hextension, _, location_singlePath hne hslash,
    List.cons_ne_nil _ _, ?_⟩
  have hshown : (name ++ ['.', 'm', 'd']).head? ≠ some '.' := by
    rwa [List.head?_append_of_ne_nil _ hne]
  simpa [isShown, isHiddenName] using hshown

theorem noteAt?_singlePath :
    Index.noteAt? (singleNote name content).fileSystem ⟨some ⟨"/v"⟩, {}⟩ (singlePath name) =
      some (Record.ofContent {} (singlePath name) content) := by
  have hcontent : (singleNote name content).fileSystem.readText (singlePath name) = .ok content :=
    readText_singleNote (Eq.refl (singlePath name).location)
  simp only [Index.noteAt?, Option.any_some, isEligible_singlePath hne hslash hhidden, if_true,
    Record.read, hcontent, Except.map, Except.toOption]

/-- In the vault of a single note that note is visible under its name. -/
theorem exists_vault_single :
    ∃ vault : Vault, vault.Reachable (fun _ => True) ∧ ∃ r ∈ vault.documents,
      r.displayName = String.ofList name ∧
        (singleNote name content).fileSystem.readText r.path = .ok content := by
  let settings : Settings := { root := some ⟨"/v"⟩ }
  let s : Surroundings :=
    ⟨(singleNote name content).fileSystem, fun _ => none, fun _ => false, "now"⟩
  have hvault : (Vault.new s settings).Reachable fun _ => True := .new trivial settings
  have hindex := (Vault.new_eq s settings).2.2
  have hmirrors := Index.mirrors_build (legible_singleNote name content) "now" (some ⟨"/v"⟩) {}
  have hconsistent :=
    Index.consistent_build (singleNote name content).fileSystem "now" (some ⟨"/v"⟩) {}
  -- The note is tracked, so its name is held by a visible note, and all notes are at its place.
  have htracked := hmirrors (singlePath name)
  rw [Index.settings_build, noteAt?_singlePath hne hslash hhidden] at htracked
  obtain ⟨_, hr, -⟩ := Option.map_eq_some_iff.mp htracked
  obtain ⟨holder, hholder⟩ := hconsistent.held hr
  obtain ⟨path, _, hpath, hpathNote, -⟩ := hmirrors.exists_noteAt? hconsistent.toCoherent
    (hconsistent.tracked?_of_named? hholder)
  have hplace : holder.path.location = (singlePath name).location :=
    hpath.symm.trans (contains_singleNote.mp (Index.noteAt?_eq_some hpathNote).2)
  rw [← hindex] at hholder
  have hrecord : holder ∈ (Vault.new s settings).index.records :=
    SortedMap.mem_values.mpr ⟨_, hholder⟩
  refine ⟨_, hvault, holder, Index.mem_sortedRecords.mpr ⟨_, hholder⟩, ?_,
    readText_singleNote hplace⟩
  rw [hvault.displayName_eq hrecord, Path.stem_congr hplace, stem_singlePath hne hslash]

end Single

/-! ### Searching and suggesting -/

namespace Index

variable {index : Index} {files : FileSystem} {query partialName content : String} {r : Record}

/-- A query is found where lower case treats its capital sigmas as it does in the query alone. -/
theorem mem_search_of_keepsSigmas (hquery : isBlankText query = false) (hr : r ∈ index.records)
    (hread : files.readText r.path = .ok content) {lead trail : List Char}
    (hoccurs : content.toList = lead ++ query.toList ++ trail)
    (hkeeps : KeepsSigmas lead query.toList trail) :
    .ofRecord r ∈ (index.search files query none).hits :=
  (mem_search_none hquery).mpr ⟨r, hr, ⟨content, hread, hoccurs ▸ hkeeps.infix_lowerChars⟩, rfl⟩

/-- What is found by a search contains the query in any case. -/
theorem infix_of_mem_search (hquery : isBlankText query = false)
    (hread : files.readText r.path = .ok content)
    (hfound : .ofRecord r ∈ (index.search files query none).hits) :
    lowerChars query.toList <:+: lowerChars content.toList := by
  obtain ⟨r', -, ⟨content', hread', hpart⟩, hhit⟩ := (mem_search_none hquery).mp hfound
  have hpath : r'.path = r.path := congrArg SearchHit.path hhit
  rw [hpath, hread] at hread'
  rwa [Except.ok.inj hread']

theorem mem_suggest :
    r ∈ index.suggest partialName ↔ r ∈ index.records ∧
      lowerChars (trimChars partialName.toList) <:+: lowerChars r.displayName.toList := by
  simp [suggest, suggestAmong, inDisplayOrder, occursIn_iff]

/-- A name is suggested for a part of it where lower case treats the capital sigmas of the part as it
    does in the part alone. -/
theorem mem_suggest_of_keepsSigmas (hr : r ∈ index.records) {lead trail : List Char}
    (hoccurs : r.displayName.toList = lead ++ trimChars partialName.toList ++ trail)
    (hkeeps : KeepsSigmas lead (trimChars partialName.toList) trail) :
    r ∈ index.suggest partialName :=
  mem_suggest.mpr ⟨hr, hoccurs ▸ hkeeps.infix_lowerChars⟩

end Index

namespace Vault

/-- A search for a query finds every visible note whose text contains the query as it stands. -/
def FindsLiterally (query : String) : Prop :=
  ∀ vault : Vault, vault.Reachable (fun _ => True) → ∀ r ∈ vault.documents,
    ∀ (files : FileSystem) (content : String), files.readText r.path = .ok content →
      query.toList <:+: content.toList → .ofRecord r ∈ (vault.index.search files query none).hits

/-- Every visible note whose shown name contains a text, trimmed and otherwise as it stands, is
    suggested for it. -/
def SuggestsLiterally (partialName : String) : Prop :=
  ∀ vault : Vault, vault.Reachable (fun _ => True) → ∀ r ∈ vault.documents,
    trimChars partialName.toList <:+: r.displayName.toList → r ∈ vault.index.suggest partialName

/-- A query is found in every text in which it stands exactly if it has no open sigma. -/
theorem findsLiterally_iff {query : String} (hquery : isBlankText query = false) :
    FindsLiterally query ↔ ¬ HasOpenSigma query.toList := by
  constructor
  · intro hfinds hopen
    obtain ⟨lead, -, trail, -, hhidden⟩ := hopen.exists_hiding
    obtain ⟨vault, hvault, r, hr, -, hread⟩ := @exists_vault_single ['a']
      (String.ofList (lead :: (query.toList ++ trail))) (by simp) (by simp) (by simp)
    have hoccurs : query.toList <:+: (String.ofList (lead :: (query.toList ++ trail))).toList :=
      ⟨[lead], trail, by simp⟩
    have hpart := Index.infix_of_mem_search hquery hread (hfinds vault hvault r hr _ _ hread hoccurs)
    rw [String.toList_ofList] at hpart
    exact hhidden hpart
  · intro hclosed vault _ r hr files content hread hoccurs
    obtain ⟨lead, trail, hcontent⟩ := hoccurs
    exact Index.mem_search_of_keepsSigmas hquery (mem_sortBy.mp hr) hread hcontent.symm
      (keepsSigmas_of_not_hasOpenSigma hclosed lead trail)

/-- A part of a name is suggested wherever it stands exactly if it has no open sigma.  No name has a
    slash in it. -/
theorem suggestsLiterally_iff (partialName : String) :
    SuggestsLiterally partialName ↔
      ¬ HasOpenSigma (trimChars partialName.toList) ∨ '/' ∈ trimChars partialName.toList := by
  constructor
  · intro hsuggests
    by_contra hboth
    obtain ⟨hopen, hslash⟩ := not_or.mp hboth
    obtain ⟨lead, hlead, trail, htrail, hhidden⟩ := (not_not.mp hopen).exists_hiding
    obtain ⟨vault, hvault, r, hr, hname, -⟩ := @exists_vault_single
      (lead :: (trimChars partialName.toList ++ trail)) "" (by simp)
      (by
        simp only [List.mem_cons, List.not_mem_nil, or_false] at hlead htrail
        rcases hlead with rfl | rfl <;> rcases htrail with rfl | rfl <;> simp [hslash])
      (by
        simp only [List.mem_cons, List.not_mem_nil, or_false] at hlead
        rcases hlead with rfl | rfl <;> simp)
    have hoccurs : trimChars partialName.toList <:+: r.displayName.toList :=
      ⟨[lead], trail, by simp [hname]⟩
    have hpart := (Index.mem_suggest.mp (hsuggests vault hvault r hr hoccurs)).2
    rw [hname, String.toList_ofList] at hpart
    exact hhidden hpart
  · intro hclosed vault hvault r hr hoccurs
    have hrecord : r ∈ vault.index.records := mem_sortBy.mp hr
    rcases hclosed with hclosed | hslash
    · obtain ⟨lead, trail, hname⟩ := hoccurs
      exact Index.mem_suggest_of_keepsSigmas hrecord hname.symm
        (keepsSigmas_of_not_hasOpenSigma hclosed lead trail)
    · rw [hvault.displayName_eq hrecord] at hoccurs
      exact absurd (hoccurs.subset hslash) r.path.slash_not_mem_stem

/-- An uncancelled search for a query finds every visible note with an occurrence of it at which
    lower case treats its capital sigmas as in the query alone; it finds all notes in which the query
    stands exactly if none of these sigmas is open.  The same holds of suggestions and trimmed parts
    of names, but for parts with a slash, which stand in no name. -/
theorem literal_matches_iff {query : String} (hquery : isBlankText query = false)
    (partialName : String) :
    ((∀ (index : Index) (files : FileSystem) (r : Record) (content : String)
        (lead trail : List Char), r ∈ index.records → files.readText r.path = .ok content →
        content.toList = lead ++ query.toList ++ trail → KeepsSigmas lead query.toList trail →
        .ofRecord r ∈ (index.search files query none).hits) ∧
      (FindsLiterally query ↔ ¬ HasOpenSigma query.toList)) ∧
    (∀ (index : Index) (r : Record) (lead trail : List Char), r ∈ index.records →
        r.displayName.toList = lead ++ trimChars partialName.toList ++ trail →
        KeepsSigmas lead (trimChars partialName.toList) trail → r ∈ index.suggest partialName) ∧
      (SuggestsLiterally partialName ↔
        ¬ HasOpenSigma (trimChars partialName.toList) ∨ '/' ∈ trimChars partialName.toList) :=
  ⟨⟨fun _ _ _ _ _ _ hr hread hoccurs => Index.mem_search_of_keepsSigmas hquery hr hread hoccurs,
      findsLiterally_iff hquery⟩,
    fun _ _ _ _ hr hoccurs => Index.mem_suggest_of_keepsSigmas hr hoccurs,
    suggestsLiterally_iff partialName⟩

/-- A capital sigma in front of a letter is no open one, one behind the last letter is. -/
theorem literal_matches_iff_ends :
    isBlankText "ΣΟΦΙΑ" = false ∧ FindsLiterally "ΣΟΦΙΑ" ∧ ¬ SuggestsLiterally " ΦΩΣ " := by
  have hquery : isBlankText "ΣΟΦΙΑ" = false := by decide +kernel
  have hclosed : ¬ HasOpenSigma "ΣΟΦΙΑ".toList := by decide +kernel
  have hopen : ¬ (¬ HasOpenSigma (trimChars " ΦΩΣ ".toList) ∨ '/' ∈ trimChars " ΦΩΣ ".toList) := by
    decide +kernel
  obtain ⟨⟨-, hfinds⟩, -, hsuggests⟩ := literal_matches_iff hquery " ΦΩΣ "
  exact ⟨hquery, hfinds.mpr hclosed, mt hsuggests.mp hopen⟩

/-- The one note whose name and text start with the query is neither found nor suggested. -/
theorem literal_match_is_missed :
    let m : Memory := ({} : Memory).write ⟨"/v/ΦΩΣΦΟΡΟΣ.md"⟩ (.text "ΦΩΣΦΟΡΟΣ")
    let s : Surroundings := ⟨m.fileSystem, fun _ => none, fun _ => false, "now"⟩
    let vault := new s { root := some ⟨"/v"⟩ }
    let r := Record.ofContent {} ⟨"/v/ΦΩΣΦΟΡΟΣ.md"⟩ "ΦΩΣΦΟΡΟΣ"
    vault.Reachable (fun _ => True) ∧ r ∈ vault.documents ∧
      s.files.readText r.path = .ok "ΦΩΣΦΟΡΟΣ" ∧ r.displayName = "ΦΩΣΦΟΡΟΣ" ∧
      "ΦΩΣ".toList <:+: "ΦΩΣΦΟΡΟΣ".toList ∧ isBlankText "ΦΩΣ" = false ∧
      (vault.index.search s.files "ΦΩΣ" none).hits = [] ∧ vault.index.suggest "ΦΩΣ" = [] := by
  intro m s vault r
  exact ⟨.new trivial _, by decide +kernel⟩

end Vault

end WikiNotes
