import WikiNotes.Proofs.Index.View

/-! # The order in which notes are inserted

`insertEach` inserts notes one after the other.  If they are at different places, all of them are
tracked afterwards and every name is held by the note with it that came last
(`Consistent.tracked?_insertEach`, `Consistent.named?_insertEach`).  So the order plays a part, but
for nothing else than which of the notes with one name comes last: an order leads to the same
answers as the order of the places, in which an index is built from scratch, exactly if the last of
the notes with any name is the one at the greatest place (`sameAnswers_insertEach_iff`). -/

namespace WikiNotes

/-- Elements with different values are told apart by their values. -/
theorem eq_of_nodup_map {α β : Type} {f : α → β} {xs : List α} (h : (xs.map f).Nodup) {a b : α}
    (ha : a ∈ xs) (hb : b ∈ xs) (heq : f a = f b) : a = b := by
  induction xs with
  | nil => exact nomatch ha
  | cons x xs ih =>
    rw [List.map_cons, List.nodup_cons] at h
    -- The value of the first element is not that of a later one.
    rcases List.mem_cons.mp ha with rfl | ha'
    · rcases List.mem_cons.mp hb with rfl | hb'
      · rfl
      · exact absurd (heq ▸ List.mem_map_of_mem hb') h.1
    · rcases List.mem_cons.mp hb with rfl | hb'
      · exact absurd (heq ▸ List.mem_map_of_mem ha') h.1
      · exact ih h.2 ha' hb'

/-! ### The last note with a name -/

/-- The last of several notes with a name. -/
def lastNamed? (records : List Record) (name : String) : Option Record :=
  records.reverse.find? (·.name == name)

theorem lastNamed?_cons (r : Record) (records : List Record) (name : String) :
    lastNamed? (r :: records) name =
      (lastNamed? records name).or (if name = r.name then some r else none) := by
  rw [lastNamed?, List.reverse_cons, List.find?_append, lastNamed?]
  by_cases hname : name = r.name
  · simp [hname]
  · simp [hname, Ne.symm hname]

theorem lastNamed?_eq_some_iff {records : List Record} {name : String} {r : Record} :
    lastNamed? records name = some r ↔ r.name = name ∧
      ∃ before after, records = before ++ r :: after ∧ ∀ s ∈ after, s.name ≠ name := by
  rw [lastNamed?, List.find?_eq_some_iff_append, beq_iff_eq]
  refine and_congr_right fun _ => ⟨?_, ?_⟩
  · rintro ⟨after, before, hsplit, hafter⟩
    refine ⟨before.reverse, after.reverse, ?_, fun s hs => ?_⟩
    · rw [← List.reverse_reverse records, hsplit]
      simp
    · simpa using hafter s (List.mem_reverse.mp hs)
  · rintro ⟨before, after, rfl, hafter⟩
    refine ⟨after.reverse, before.reverse, by simp, fun s hs => ?_⟩
    simpa using hafter s (List.mem_reverse.mp hs)

theorem lastNamed?_eq_none_iff {records : List Record} {name : String} :
    lastNamed? records name = none ↔ ∀ s ∈ records, s.name ≠ name := by
  simp [lastNamed?]

theorem lastNamed?_mem {records : List Record} {name : String} {r : Record}
    (h : lastNamed? records name = some r) : r ∈ records ∧ r.name = name := by
  obtain ⟨hname, before, after, rfl, -⟩ := lastNamed?_eq_some_iff.mp h
  exact ⟨by simp, hname⟩

/-- Of the notes with any name the last one is at the greatest place. -/
def GreatestLast (records : List Record) : Prop :=
  ∀ name r, lastNamed? records name = some r →
    ∀ s ∈ records, s.name = name → (compare s.place r.place).isLE

instance (records : List Record) : Decidable (GreatestLast records) :=
  -- Only the names of the notes themselves have a last note.
  decidable_of_iff (∀ t ∈ records, ∀ r, lastNamed? records t.name = some r →
      ∀ s ∈ records, s.name = t.name → (compare s.place r.place).isLE) <| by
    constructor
    · intro h name r hlast
      obtain ⟨hmem, rfl⟩ := lastNamed?_mem hlast
      exact h r hmem r hlast
    · exact fun h t _ r hlast => h t.name r hlast

instance : Std.TransCmp fun a b : Record => compare a.place b.place :=
  inferInstanceAs (Std.TransCmp (compareOn Record.place))

/-- In the order of the places the last note with any name is at the greatest place. -/
theorem greatestLast_inPlaceOrder (records : List Record) :
    GreatestLast (Index.inPlaceOrder records) := by
  intro name r hlast s hs hname
  obtain ⟨hr, before, after, hsplit, hafter⟩ := lastNamed?_eq_some_iff.mp hlast
  have hsorted := pairwise_sortBy (fun a b : Record => compare a.place b.place) records
  rw [Index.inPlaceOrder] at hs hsplit
  rw [hsplit] at hs hsorted
  obtain ⟨-, -, hcross⟩ := List.pairwise_append.mp hsorted
  rcases List.mem_append.mp hs with hs | hs
  · exact hcross s hs r (List.mem_cons_self ..)
  · rcases List.mem_cons.mp hs with rfl | hs
    · simp
    · exact absurd hname (hafter s hs)

/-- Two orders of the same notes at different places, in both of which the last note with any name
    is at the greatest place, have the same last notes. -/
theorem GreatestLast.lastNamed?_eq {records order : List Record} (h : GreatestLast records)
    (h' : GreatestLast order) (hperm : order.Perm records)
    (hplaces : (records.map Record.place).Nodup) (name : String) :
    lastNamed? order name = lastNamed? records name := by
  cases hr : lastNamed? records name with
  | none =>
    rw [lastNamed?_eq_none_iff] at hr ⊢
    exact fun s hs => hr s (hperm.mem_iff.mp hs)
  | some r =>
    obtain ⟨hmem, hname⟩ := lastNamed?_mem hr
    cases hs : lastNamed? order name with
    | none => exact absurd hname (lastNamed?_eq_none_iff.mp hs r (hperm.mem_iff.mpr hmem))
    | some s =>
      obtain ⟨hmem', hname'⟩ := lastNamed?_mem hs
      have hle := h name r hr s (hperm.mem_iff.mp hmem') hname'
      have hle' := h' name s hs r (hperm.mem_iff.mpr hmem) hname
      have hplace : s.place = r.place :=
        Std.LawfulEqCmp.compare_eq_iff_eq.mp (Std.OrientedCmp.isLE_antisymm hle hle')
      -- There is only one note at that place.
      have hsame : s = r := eq_of_nodup_map hplaces (hperm.mem_iff.mp hmem') hmem hplace
      rw [hsame]

/-- What the last notes are says whether they are at the greatest places. -/
theorem GreatestLast.of_lastNamed?_eq {records order : List Record} (h : GreatestLast records)
    (hperm : order.Perm records)
    (hlast : ∀ name, lastNamed? order name = lastNamed? records name) : GreatestLast order := by
  intro name r hr s hs hname
  rw [hlast] at hr
  exact h name r hr s (hperm.mem_iff.mp hs) hname

namespace Index

variable {index : Index} {records : List Record}

/-! ### Inserting notes one after the other -/

/-- Insert notes one after the other. -/
def insertEach (index : Index) (records : List Record) : Index :=
  records.foldl (fun index r => (index.insert r).1) index

theorem insertEach_cons (index : Index) (r : Record) (records : List Record) :
    index.insertEach (r :: records) = (index.insert r).1.insertEach records := rfl

@[simp] theorem settings_insertEach (index : Index) (records : List Record) :
    (index.insertEach records).settings = index.settings := by
  induction records generalizing index with
  | nil => rfl
  | cons r records ih => rw [insertEach_cons, ih, settings_insert]

theorem Consistent.insertEach (h : index.Consistent) (records : List Record) :
    (index.insertEach records).Consistent := by
  induction records generalizing index with
  | nil => exact h
  | cons r records ih => exact ih (h.insert r)

/-- Notes are new to an index if they are at different places where nothing is tracked. -/
structure New (index : Index) (records : List Record) : Prop where
  places : (records.map Record.place).Nodup
  untracked (r : Record) : r ∈ records → index.tracked? r.place = none

theorem New.of_empty (root : Option Path) (policy : NamingPolicy)
    (hplaces : (records.map Record.place).Nodup) : New { root, policy } records :=
  ⟨hplaces, fun _ _ => rfl⟩

section New

variable {r : Record} (hnew : index.New (r :: records))

include hnew

/-- The first of several new notes is another one than what is at its place. -/
theorem New.differs : (index.tracked? r.place).any r.same = false := by
  rw [hnew.untracked r (List.mem_cons_self ..)]
  rfl

/-- After the first of several new notes was inserted the others are still new. -/
theorem New.rest (h : index.Consistent) : (index.insert r).1.New records := by
  obtain ⟨hplaces, huntracked⟩ := hnew
  rw [List.map_cons, List.nodup_cons] at hplaces
  refine ⟨hplaces.2, fun s hs => ?_⟩
  have hplace : s.place ≠ r.place := fun heq =>
    hplaces.1 (heq ▸ List.mem_map_of_mem hs)
  rw [h.tracked?_insert (New.differs ⟨List.nodup_cons.mpr hplaces, huntracked⟩), if_neg hplace]
  exact huntracked s (List.mem_cons_of_mem _ hs)

/-- A new note takes its name, and all other names stay with their holders. -/
theorem New.named?_insert (h : index.Consistent) (name : String) :
    (index.insert r).1.named? name = if name = r.name then some r else index.named? name := by
  split
  case isTrue hname => rw [hname, h.named?_insert_self hnew.differs]
  case isFalse hname =>
    refine h.named?_insert_kept hname fun old hold => ?_
    -- Nothing was visible at the place of the new note.
    have hnone := hnew.untracked r (List.mem_cons_self ..)
    rw [tracked?, hold, Option.some_or] at hnone
    cases hnone

end New

/-- New notes are all tracked. -/
theorem New.tracked?_insertEach (hnew : index.New records) (h : index.Consistent)
    (place : Location) :
    (index.insertEach records).tracked? place =
      (records.find? (·.place == place)).or (index.tracked? place) := by
  induction records generalizing index with
  | nil => rfl
  | cons r records ih =>
    rw [insertEach_cons, ih (hnew.rest h) (h.insert r), h.tracked?_insert hnew.differs]
    by_cases hplace : r.place = place
    · -- None of the later notes is at the place of the first one.
      have hlater : records.find? (·.place == place) = none := by
        have hplaces := hnew.places
        rw [List.map_cons, List.nodup_cons] at hplaces
        refine List.find?_eq_none.mpr fun s hs heq => hplaces.1 ?_
        rw [hplace, ← eq_of_beq heq]
        exact List.mem_map_of_mem hs
      rw [hlater, if_pos hplace.symm, List.find?_cons_of_pos (by simp [hplace])]
      rfl
    · rw [if_neg (Ne.symm hplace), List.find?_cons_of_neg (by simp [hplace])]

/-- Of new notes with one name the last one holds it. -/
theorem New.named?_insertEach (hnew : index.New records) (h : index.Consistent) (name : String) :
    (index.insertEach records).named? name =
      (lastNamed? records name).or (index.named? name) := by
  induction records generalizing index with
  | nil => rfl
  | cons r records ih =>
    rw [insertEach_cons, ih (hnew.rest h) (h.insert r), hnew.named?_insert h, lastNamed?_cons,
      Option.or_assoc]
    by_cases hname : name = r.name <;> simp [hname]

/-! ### The order of the places -/

section Order

variable {order : List Record} (root : Option Path) (policy : NamingPolicy)

theorem find?_place_eq_some_iff (hplaces : (records.map Record.place).Nodup) {place : Location}
    {r : Record} : records.find? (·.place == place) = some r ↔ r ∈ records ∧ r.place = place := by
  constructor
  · intro hfind
    exact ⟨List.mem_of_find?_eq_some hfind, by simpa using List.find?_some hfind⟩
  · rintro ⟨hmem, rfl⟩
    cases hfind : records.find? (·.place == r.place) with
    | none => simpa using List.find?_eq_none.mp hfind r hmem
    | some s =>
      have hplace : s.place = r.place := by simpa using List.find?_some hfind
      rw [eq_of_nodup_map hplaces (List.mem_of_find?_eq_some hfind) hmem hplace]

/-- Of notes at different places that are inserted into an empty index the last one with a name
    holds it. -/
theorem named?_insertEach_of_empty (hplaces : (records.map Record.place).Nodup) (name : String) :
    (insertEach { root, policy } records).named? name = lastNamed? records name :=
  ((New.of_empty root policy hplaces).named?_insertEach (consistent_empty root policy) name).trans
    Option.or_none

/-- The same notes are tracked in whatever order they are inserted. -/
theorem tracked?_insertEach_perm (hplaces : (records.map Record.place).Nodup)
    (hperm : order.Perm records) (place : Location) :
    (insertEach { root, policy } order).tracked? place =
      (insertEach { root, policy } records).tracked? place := by
  have hplaces' : (order.map Record.place).Nodup := (hperm.map _).nodup_iff.mpr hplaces
  have hempty := consistent_empty root policy
  rw [(New.of_empty root policy hplaces).tracked?_insertEach hempty,
    (New.of_empty root policy hplaces').tracked?_insertEach hempty]
  congr 1
  refine Option.ext fun r => ?_
  rw [find?_place_eq_some_iff hplaces, find?_place_eq_some_iff hplaces', hperm.mem_iff]

/-- Orders with the same last notes lead to the same answers. -/
theorem sameAnswers_insertEach (hplaces : (records.map Record.place).Nodup)
    (hplaces' : (order.map Record.place).Nodup)
    (hlast : ∀ name, lastNamed? order name = lastNamed? records name) :
    SameAnswers (insertEach { root, policy } order) (insertEach { root, policy } records) := by
  have hempty := consistent_empty root policy
  have hsettings : (insertEach { root, policy } order).settings =
      (insertEach { root, policy } records).settings := by
    rw [settings_insertEach, settings_insertEach]
  refine sameAnswers_of_view_eq ((hempty.insertEach order).view_eq
    (hempty.insertEach records).toCoherent (congrArg Settings.policy hsettings) fun name => ?_)
  rw [named?_insertEach_of_empty root policy hplaces, named?_insertEach_of_empty root policy hplaces',
    hlast]

/-- Orders that lead to the same documents have the same last notes. -/
theorem lastNamed?_eq_of_documents_eq (hplaces : (records.map Record.place).Nodup)
    (hplaces' : (order.map Record.place).Nodup)
    (hdocuments : (insertEach { root, policy } order).sortedRecords =
      (insertEach { root, policy } records).sortedRecords) (name : String) :
    lastNamed? order name = lastNamed? records name := by
  have hempty := consistent_empty root policy
  rw [← named?_insertEach_of_empty root policy hplaces,
    ← named?_insertEach_of_empty root policy hplaces']
  exact (hempty.insertEach order).named?_eq_of_documents_eq (hempty.insertEach records).toCoherent
    hdocuments name

end Order

/-! ### Building -/

/-- The notes at the given paths that can be read. -/
def readable (files : FileSystem) (policy : NamingPolicy) (paths : List Path) : List Record :=
  paths.filterMap fun path => (Record.read files policy path).toOption

theorem insertReadable_eq_insertEach (files : FileSystem) (index : Index) (paths : List Path) :
    index.insertReadable files paths = index.insertEach (readable files index.policy paths) := by
  induction paths generalizing index with
  | nil => rfl
  | cons path paths ih =>
    cases hread : Record.read files index.policy path with
    | error error =>
      rw [insertReadable_of_error hread, ih, readable, readable, List.filterMap_cons_none]
      rw [hread]
      rfl
    | ok r =>
      have hpolicy : (index.insert r).1.policy = index.policy :=
        congrArg Settings.policy (settings_insert index r)
      have hcons : readable files index.policy (path :: paths) =
          r :: readable files index.policy paths := by
        rw [readable, List.filterMap_cons_some (b := r)]
        · rfl
        · rw [hread]
          rfl
      rw [insertReadable_of_ok hread, ih, hpolicy, hcons, insertEach_cons]

/-- The notes that a scan finds are read in the order of their places. -/
theorem inPlaceOrder_readable_scan (files : FileSystem) (policy : NamingPolicy) (dir : Path) :
    inPlaceOrder (readable files policy (scan files dir).notes) =
      readable files policy (scan files dir).notes := by
  have hsorted : (scan files dir).notes.Pairwise fun p q => (p.order q).isLE :=
    pairwise_sortBy Path.order _
  refine sortBy_eq_self (List.Pairwise.filterMap _ (fun p q hle a ha b hb => ?_) hsorted)
  have hplace {p : Path} {r : Record} (hr : (Record.read files policy p).toOption = some r) :
      r.place = p.location := by
    cases hread : Record.read files policy p with
    | error error => simp [hread, Except.toOption] at hr
    | ok r' =>
      simp only [hread, Except.toOption, Option.some.injEq] at hr
      exact hr ▸ Record.place_of_read_ok hread
  rw [hplace ha, hplace hb]
  exact hle

/-- An index that is built from scratch answers as if the notes had been inserted in the order of
    their places. -/
theorem sameAnswers_build (files : FileSystem) (time : String) (root : Option Path)
    (policy : NamingPolicy) :
    SameAnswers (build files time root policy) (insertEach { root, policy } <| inPlaceOrder <|
      readable files policy ((root.map (scan files)).getD .empty).notes) := by
  refine sameAnswers_of_view_eq ?_
  cases root with
  | none => rfl
  | some root =>
    rw [Option.map_some, Option.getD_some, inPlaceOrder_readable_scan,
      ← insertReadable_eq_insertEach files { root := some root, policy }]
    rfl

/-! ### Which orders lead to the same answers -/

section Answers

variable {order : List Record} (root : Option Path) (policy : NamingPolicy)
  (hplaces : (records.map Record.place).Nodup) (hperm : order.Perm records)

include hplaces hperm

/-- An order leads to the answers, and to the documents, of the order of the places exactly if the
    last of the notes with any name is the one at the greatest place. -/
theorem sameAnswers_insertEach_iff :
    let index := insertEach { root, policy } order
    let sorted := insertEach { root, policy } (inPlaceOrder records)
    (SameAnswers index sorted ↔ GreatestLast order) ∧
      (index.sortedRecords = sorted.sortedRecords ↔ GreatestLast order) := by
  intro index sorted
  have hsorted : (inPlaceOrder records).Perm records := perm_sortBy _ records
  have hplacesOrder : (order.map Record.place).Nodup := (hperm.map _).nodup_iff.mpr hplaces
  have hplacesSorted : ((inPlaceOrder records).map Record.place).Nodup :=
    (hsorted.map _).nodup_iff.mpr hplaces
  have hpermSorted : order.Perm (inPlaceOrder records) := hperm.trans hsorted.symm
  have hgreatest := greatestLast_inPlaceOrder records
  have hsame (h : GreatestLast order) : SameAnswers index sorted :=
    sameAnswers_insertEach root policy hplacesSorted hplacesOrder
      (hgreatest.lastNamed?_eq h hpermSorted hplacesSorted)
  have hlast (hdocuments : index.sortedRecords = sorted.sortedRecords) : GreatestLast order :=
    hgreatest.of_lastNamed?_eq hpermSorted
      (lastNamed?_eq_of_documents_eq root policy hplacesSorted hplacesOrder hdocuments)
  exact ⟨⟨fun h => hlast h.documents, hsame⟩, hlast, fun h => (hsame h).documents⟩

/-- If no two notes have one name the order of insertion plays no part. -/
theorem sameAnswers_insertEach_of_names (hnames : (records.map Record.name).Nodup) :
    SameAnswers (insertEach { root, policy } order) (insertEach { root, policy } records) := by
  have hplaces' : (order.map Record.place).Nodup := (hperm.map _).nodup_iff.mpr hplaces
  refine sameAnswers_insertEach root policy hplaces hplaces' fun name => Option.ext fun r => ?_
  have hiff {notes : List Record} (h : (notes.map Record.name).Nodup) :
      lastNamed? notes name = some r ↔ r ∈ notes ∧ r.name = name := by
    refine ⟨lastNamed?_mem, ?_⟩
    rintro ⟨hmem, rfl⟩
    cases hlast : lastNamed? notes r.name with
    | none => exact absurd rfl (lastNamed?_eq_none_iff.mp hlast r hmem)
    | some s =>
      obtain ⟨hs, hname⟩ := lastNamed?_mem hlast
      rw [eq_of_nodup_map h hs hmem hname]
  rw [hiff hnames, hiff ((hperm.map _).nodup_iff.mpr hnames), hperm.mem_iff]

end Answers

/-- Notes at different places are all tracked in whatever order they are inserted into an empty
    index, and of those with one name the last one holds it.  So the answers are those of the order
    of the places, in which an index is built from scratch, exactly if the last of the notes with
    any name is the one at the greatest place, which is no condition if their names differ. -/
theorem insertEach_last_holds (root : Option Path) (policy : NamingPolicy)
    {records order : List Record} (hplaces : (records.map Record.place).Nodup)
    (hperm : order.Perm records) :
    let index := insertEach { root, policy } order
    let sorted := insertEach { root, policy } (inPlaceOrder records)
    (∀ place, index.tracked? place = sorted.tracked? place) ∧
      (∀ name, index.named? name = lastNamed? order name) ∧
      (SameAnswers index sorted ↔ GreatestLast order) ∧
      (index.sortedRecords = sorted.sortedRecords ↔ GreatestLast order) ∧
      ((records.map Record.name).Nodup → SameAnswers index sorted) ∧
      ∀ files time, SameAnswers (build files time root policy) (insertEach { root, policy } <|
        inPlaceOrder <| readable files policy ((root.map (scan files)).getD .empty).notes) := by
  intro index sorted
  have hsorted : (inPlaceOrder records).Perm records := perm_sortBy _ records
  have hplacesSorted : ((inPlaceOrder records).map Record.place).Nodup :=
    (hsorted.map _).nodup_iff.mpr hplaces
  obtain ⟨hanswers, hdocuments⟩ := sameAnswers_insertEach_iff root policy hplaces hperm
  have hpermSorted : order.Perm (inPlaceOrder records) := hperm.trans hsorted.symm
  refine ⟨fun place => ?_, fun name => ?_, hanswers, hdocuments, fun hnames => ?_,
    fun files time => sameAnswers_build files time root policy⟩
  · exact tracked?_insertEach_perm root policy hplacesSorted hpermSorted place
  · exact named?_insertEach_of_empty root policy ((hperm.map _).nodup_iff.mpr hplaces) name
  · have hnamesSorted : ((inPlaceOrder records).map Record.name).Nodup :=
      (hsorted.map _).nodup_iff.mpr hnames
    exact sameAnswers_insertEach_of_names root policy hplacesSorted hpermSorted hnamesSorted

/-- Two notes with one name and one with another, of which the greatest comes last although they
    are not in the order of their places. -/
theorem insertEach_last_holds_three :
    let a := Record.ofContent {} ⟨"/v/a/Note.md"⟩ "#x"
    let b := Record.ofContent {} ⟨"/v/b/note.md"⟩ "#y"
    let c := Record.ofContent {} ⟨"/v/c/Other.md"⟩ "[[Note]]"
    let index := insertEach { root := some ⟨"/v"⟩, policy := {} } [c, a, b]
    let sorted := insertEach { root := some ⟨"/v"⟩, policy := {} } (inPlaceOrder [b, a, c])
    ([b, a, c].map Record.place).Nodup ∧ [c, a, b].Perm [b, a, c] ∧
      SameAnswers index sorted ∧ (∀ place, index.tracked? place = sorted.tracked? place) ∧
      index.named? "note" = some b := by
  intro a b c index sorted
  have hplaces : ([b, a, c].map Record.place).Nodup := by decide +kernel
  have hperm : [c, a, b].Perm [b, a, c] := by decide +kernel
  obtain ⟨htracked, hnamed, hanswers, -⟩ :=
    insertEach_last_holds (some ⟨"/v"⟩) {} hplaces hperm
  have hgreatest : GreatestLast [c, a, b] := by decide +kernel
  refine ⟨hplaces, hperm, hanswers.mpr hgreatest, htracked, (hnamed "note").trans ?_⟩
  decide +kernel

/-- Of two notes with one name the one at the lesser place is the document if it is inserted last,
    while the order of the places makes the other one the document. -/
theorem insertEach_order_matters :
    let a := Record.ofContent {} ⟨"/v/a/Note.md"⟩ ""
    let b := Record.ofContent {} ⟨"/v/b/Note.md"⟩ ""
    let index := insertEach { root := some ⟨"/v"⟩ } [b, a]
    let sorted := insertEach { root := some ⟨"/v"⟩ } (inPlaceOrder [a, b])
    ([a, b].map Record.place).Nodup ∧ [b, a].Perm [a, b] ∧
      index.sortedRecords ≠ sorted.sortedRecords ∧
      index.resolve? "Note" ≠ sorted.resolve? "Note" := by
  decide +kernel

end Index

end WikiNotes
