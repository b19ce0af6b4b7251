import WikiNotes.Proofs.Index.Links

/-! # The order in which notes are listed

Questions that go through all visible notes take them in whatever order the notes are listed in, and
sort what they find.  Each sorts by keys that tell apart all that it can find, up to repetitions
that are equal in every respect, so that the answer is the same in every order
(`Operation.listing_order`).

In the end this rests on there being one visible note at a place (`Coherent.eq_of_place_eq`): notes
with one shown name are told apart by their places, and of two broken links with one source, target
and line the sources are spelled alike. -/

namespace WikiNotes

instance : Std.TransCmp BrokenLink.order :=
  inferInstanceAs (Std.TransCmp (compareLex (compareLex
    (compareOn fun b : BrokenLink => b.source.location) (compareOn BrokenLink.target))
    (compareOn BrokenLink.line)))

theorem BrokenLink.order_eq_eq_iff {a b : BrokenLink} :
    a.order b = .eq ↔
      a.source.location = b.source.location ∧ a.target = b.target ∧ a.line = b.line := by
  simp only [order, Path.order, Ordering.then_eq_eq, Std.LawfulEqCmp.compare_eq_iff_eq, and_assoc]

namespace Index

variable {index : Index} {records others : List Record}

/-! ### Sorting visible notes -/

/-- Visible notes come out in the order of their places however they are listed. -/
theorem Coherent.inPlaceOrder_eq (h : index.Coherent) (hperm : records.Perm others)
    (hvisible : ∀ r ∈ records, r ∈ index.records) :
    inPlaceOrder records = inPlaceOrder others := by
  have : Std.TransCmp fun r s : Record => compare r.place s.place :=
    inferInstanceAs (Std.TransCmp (compareOn Record.place))
  refine sortBy_eq_of_perm_of_eq hperm fun r hr s hs heq => ?_
  exact h.eq_of_place_eq (hvisible r hr) (hvisible s hs) (Std.LawfulEqCmp.eq_of_compare heq)

/-- Visible notes come out in the order of their shown names however they are listed. -/
theorem Coherent.inDisplayOrder_eq (h : index.Coherent) (hperm : records.Perm others)
    (hvisible : ∀ r ∈ records, r ∈ index.records) :
    inDisplayOrder records = inDisplayOrder others := by
  have : Std.TransCmp fun r s : Record =>
      (compare r.displayName s.displayName).then (compare r.place s.place) :=
    inferInstanceAs (Std.TransCmp (compareLex (compareOn Record.displayName)
      (compareOn Record.place)))
  refine sortBy_eq_of_perm_of_eq hperm fun r hr s hs heq => ?_
  -- Notes with one shown name are told apart by their places.
  have hplace : compare r.place s.place = .eq := (Ordering.then_eq_eq.mp heq).2
  exact h.eq_of_place_eq (hvisible r hr) (hvisible s hs) (Std.LawfulEqCmp.eq_of_compare hplace)

/-- The broken links of visible notes come out in one order however the notes are listed. -/
theorem Coherent.brokenAmong_eq (h : index.Coherent) (hperm : records.Perm others)
    (hvisible : ∀ r ∈ records, r ∈ index.records) :
    index.brokenAmong records = index.brokenAmong others := by
  refine sortBy_eq_of_perm_of_eq (hperm.flatMap_right _) fun a ha b hb heq => ?_
  obtain ⟨r, hr, ha⟩ := List.mem_flatMap.mp ha
  obtain ⟨s, hs, hb⟩ := List.mem_flatMap.mp hb
  obtain ⟨link, -, -, -, rfl⟩ := mem_brokenFrom.mp ha
  obtain ⟨other, -, -, -, rfl⟩ := mem_brokenFrom.mp hb
  -- Links from one place are links of one note, so the spelling of the source is the same.
  obtain ⟨hsource, htarget, hline⟩ := BrokenLink.order_eq_eq_iff.mp heq
  obtain rfl := h.eq_of_place_eq (hvisible r hr) (hvisible s hs) hsource
  exact congrArg₂ (BrokenLink.mk r.path) htarget hline

/-! ### All questions -/

/-- Two listings of notes give the same answers to the questions that go through all notes. -/
structure ListedAlike (index : Index) (records others : List Record) : Prop where
  /-- The notes are the same in the order of their places. -/
  documents : inPlaceOrder records = inPlaceOrder others
  /-- The same notes are suggested for every part of a name. -/
  suggested (partialName : String) :
    suggestAmong records partialName = suggestAmong others partialName
  /-- The same notes link to every place. -/
  backlinks (place : Location) :
    index.backlinksAmong records place = index.backlinksAmong others place
  /-- The same notes and links are in the graph. -/
  graph : index.graphAmong records = index.graphAmong others
  /-- The same links are broken, each as often. -/
  brokenLinks : index.brokenAmong records = index.brokenAmong others
  /-- There are as many links. -/
  linkCount : linkCountAmong records = linkCountAmong others

theorem Coherent.listedAlike (h : index.Coherent) (hperm : records.Perm others)
    (hvisible : ∀ r ∈ records, r ∈ index.records) : index.ListedAlike records others where
  documents := h.inPlaceOrder_eq hperm hvisible
  suggested partialName :=
    h.inDisplayOrder_eq (hperm.filter _) fun r hr => hvisible r (List.mem_filter.mp hr).1
  backlinks place := by
    rw [backlinksAmong, backlinksAmong]
    cases index.at? place with
    | none => rfl
    | some target =>
      refine h.inDisplayOrder_eq ((hperm.filter _).filter _) fun r hr => ?_
      exact hvisible r (List.mem_filter.mp (List.mem_filter.mp hr).1).1
  graph := by simp only [graphAmong, h.inPlaceOrder_eq hperm hvisible]
  brokenLinks := h.brokenAmong_eq hperm hvisible
  linkCount := (hperm.map _).sum_nat

/-- After any operations the questions that go through all visible notes are answered alike in any
    two orders in which the notes by name may be listed. -/
theorem Operation.listing_order (root : Option Path) (policy : NamingPolicy)
    (ops : List Operation) (hrecords : records.Perm (run { root, policy } ops).records)
    (hothers : others.Perm (run { root, policy } ops).records) :
    (run { root, policy } ops).ListedAlike records others :=
  (consistent_run root policy ops).listedAlike (hrecords.trans hothers.symm)
    fun _ hr => hrecords.mem_iff.mp hr

/-- Two notes are shown under one name, and one of them has a broken link twice on one line. -/
theorem Operation.listing_order_same_name :
    let a := Record.ofContent {} ⟨"/v/a/Note.md"⟩ "[[Other]] [[Gone]] [[Gone]]"
    let b := { Record.ofContent {} ⟨"/v/b/Note.md"⟩ "[[Other]]" with name := "second" }
    let c := Record.ofContent {} ⟨"/v/Other.md"⟩ "[[Note]]"
    let index := run { root := some ⟨"/v"⟩, policy := {} }
      ([a, b, c].map fun r => .edit (.insert r))
    [a, b, c].Perm index.records ∧ [b, c, a].Perm index.records ∧
      index.ListedAlike [a, b, c] [b, c, a] ∧ suggestAmong [b, c, a] "note" = [a, b] ∧
      index.brokenAmong [b, c, a] = [⟨a.path, "Gone", 1⟩, ⟨a.path, "Gone", 1⟩] := by
  intro a b c index
  have hrecords : [a, b, c].Perm index.records := by decide +kernel
  have hothers : [b, c, a].Perm index.records := by decide +kernel
  have hlisted : index.ListedAlike [a, b, c] [b, c, a] :=
    listing_order (some ⟨"/v"⟩) {} _ hrecords hothers
  have hanswers : suggestAmong [a, b, c] "note" = [a, b] ∧
      index.brokenAmong [a, b, c] = [⟨a.path, "Gone", 1⟩, ⟨a.path, "Gone", 1⟩] := by
    decide +kernel
  exact ⟨hrecords, hothers, hlisted, (hlisted.suggested "note").symm.trans hanswers.1,
    hlisted.brokenLinks.symm.trans hanswers.2⟩

end Index

end WikiNotes
