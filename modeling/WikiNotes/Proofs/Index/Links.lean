import WikiNotes.Index.LinkGraph
import WikiNotes.Proofs.Index.Agreement
import WikiNotes.Proofs.Index.Every
import WikiNotes.Proofs.Note.Link

/-! # The views of the links agree

Backlinks are found by comparing names, the edges of the graph and the broken links by looking
targets up.  Where the links were read from texts these come to the same, because a target that was
read is trimmed and not empty: a note is a backlink exactly if the graph has an edge from it
(`Coherent.mem_backlinks_iff`), and every link resolves, is meant for a media file, or is counted
once among the broken ones (`LinksAgree.classified`).  `Operation.linksAgree_run` says so of every
index that is reached. -/

namespace WikiNotes

/-! ### Dropping what repeats -/

section DropRepeated

variable {α κ : Type} [DecidableEq κ] {key : α → κ} {a : α} {xs : List α}

theorem dropRepeated_cons_cons (key : α → κ) (a b : α) (rest : List α) :
    dropRepeated key (a :: b :: rest) =
      if key a = key b then dropRepeated key (b :: rest)
      else a :: dropRepeated key (b :: rest) := by
  rw [dropRepeated]

theorem mem_of_mem_dropRepeated (h : a ∈ dropRepeated key xs) : a ∈ xs := by
  induction xs with
  | nil => exact h
  | cons b rest ih =>
    cases rest with
    | nil => exact h
    | cons c rest =>
      rw [dropRepeated_cons_cons] at h
      split at h
      case isTrue => exact List.mem_cons_of_mem _ (ih h)
      case isFalse =>
        rcases List.mem_cons.mp h with rfl | h
        · exact List.mem_cons_self ..
        · exact List.mem_cons_of_mem _ (ih h)

/-- Of every element one with its key is kept. -/
theorem exists_mem_dropRepeated (key : α → κ) (h : a ∈ xs) :
    ∃ b ∈ dropRepeated key xs, key b = key a := by
  induction xs generalizing a with
  | nil => exact nomatch h
  | cons b rest ih =>
    cases rest with
    | nil => exact ⟨a, h, rfl⟩
    | cons c rest =>
      rw [dropRepeated_cons_cons]
      rcases List.mem_cons.mp h with rfl | h
      · split
        case isTrue hkey =>
          obtain ⟨d, hd, hdkey⟩ := ih (List.mem_cons_self ..)
          exact ⟨d, hd, hdkey.trans hkey.symm⟩
        case isFalse => exact ⟨a, List.mem_cons_self .., rfl⟩
      · obtain ⟨d, hd, hdkey⟩ := ih h
        split
        case isTrue => exact ⟨d, hd, hdkey⟩
        case isFalse => exact ⟨d, List.mem_cons_of_mem _ hd, hdkey⟩

/-- Where elements with one key are equal nothing but repetitions is dropped. -/
theorem mem_dropRepeated (hkey : ∀ b ∈ xs, ∀ c ∈ xs, key b = key c → b = c) :
    a ∈ dropRepeated key xs ↔ a ∈ xs := by
  refine ⟨mem_of_mem_dropRepeated, fun h => ?_⟩
  obtain ⟨b, hb, hba⟩ := exists_mem_dropRepeated key h
  rwa [← hkey b (mem_of_mem_dropRepeated hb) a h hba]

/-- What is left of a list in order is in strict order, if the order tells all keys apart. -/
theorem pairwise_dropRepeated {cmp : α → α → Ordering} [Std.TransCmp cmp]
    (hkey : ∀ a b, cmp a b = .eq → key a = key b) (h : xs.Pairwise fun a b => (cmp a b).isLE) :
    (dropRepeated key xs).Pairwise fun a b => cmp a b = .lt := by
  induction xs with
  | nil => exact .nil
  | cons a rest ih =>
    cases rest with
    | nil => exact List.pairwise_singleton ..
    | cons b rest =>
      obtain ⟨hhead, hrest⟩ := List.pairwise_cons.mp h
      rw [dropRepeated_cons_cons]
      split
      case isTrue => exact ih hrest
      case isFalse hne =>
        have hab : cmp a b = .lt := by
          have hle := hhead b (List.mem_cons_self ..)
          cases hcmp : cmp a b with
          | lt => rfl
          | eq => exact absurd (hkey a b hcmp) hne
          | gt => simp [hcmp] at hle
        refine List.pairwise_cons.mpr ⟨fun c hc => ?_, ih hrest⟩
        -- Whatever is kept behind is not before `b`.
        rcases List.mem_cons.mp (mem_of_mem_dropRepeated hc) with rfl | hc
        · exact hab
        · exact Std.TransCmp.lt_of_lt_of_isLE hab ((List.pairwise_cons.mp hrest).1 c hc)

end DropRepeated

instance : Std.TransCmp Edge.order :=
  inferInstanceAs (Std.TransCmp (compareLex (compareOn fun e : Edge => e.source.location)
    (compareOn fun e : Edge => e.target.location)))

theorem Edge.key_eq_of_order_eq {a b : Edge} (h : a.order b = .eq) : a.key = b.key := by
  obtain ⟨hsource, htarget⟩ := Ordering.then_eq_eq.mp h
  exact Prod.ext (Std.LawfulEqCmp.eq_of_compare hsource) (Std.LawfulEqCmp.eq_of_compare htarget)

namespace Index

variable {index : Index} {r s t : Record} {link : Link}

/-! ### Visible notes and what leads to them -/

theorem Coherent.mem_records (h : index.Coherent) :
    r ∈ index.records ↔ index.named? r.name = some r := by
  rw [records, SortedMap.mem_values]
  constructor
  · rintro ⟨name, hname⟩
    rwa [h.name_eq hname]
  · exact fun hname => ⟨r.name, hname⟩

/-- At one place there is one visible note. -/
theorem Coherent.eq_of_place_eq (h : index.Coherent) (hr : r ∈ index.records)
    (hs : s ∈ index.records) (hplace : r.place = s.place) : r = s := by
  have hat := h.at?_place (h.mem_records.mp hr)
  rw [hplace, h.at?_place (h.mem_records.mp hs)] at hat
  exact (Option.some.inj hat).symm

/-- Visible notes are at different places. -/
theorem Coherent.places_differ (h : index.Coherent) :
    index.records.Pairwise fun r s => r.place ≠ s.place := by
  have hname {e : String × Record} (he : e ∈ index.byName.entries) : e.2.name = e.1 :=
    h.name_eq (SortedMap.find?_eq_some_iff.mpr he)
  have hentries : index.byName.entries.Pairwise fun a b => a.2.place ≠ b.2.place := by
    refine index.byName.ascending.imp_of_mem fun {a b} ha hb hlt hplace => ?_
    have heq := h.eq_of_place_eq (List.mem_map_of_mem ha) (List.mem_map_of_mem hb) hplace
    -- One note has one name, but the names of different entries differ.
    rw [← hname ha, ← hname hb, heq] at hlt
    exact nomatch hlt.symm.trans (Std.ReflCmp.compare_self (a := b.2.name))
  exact List.pairwise_map.mpr hentries

/-- What resolves leads to a visible note. -/
theorem mem_records_of_resolve? {target : String} (h : index.resolve? target = some r) :
    r ∈ index.records := by
  simp only [resolve?] at h
  split at h
  case isTrue => cases h
  case isFalse => exact SortedMap.mem_values.mpr ⟨_, h⟩

/-- A trimmed target that is not empty is looked up as it is. -/
theorem resolve?_of_trimmed {target : String} (htrim : Text.trim target = target)
    (hne : target ≠ "") :
    index.resolve? target = index.named? (index.policy.canonicalName target) := by
  have hempty : target.isEmpty = false := by simpa using hne
  simp [resolve?, htrim, hempty]

/-- The links of every visible note were read from a text. -/
def LinksRead (index : Index) : Prop :=
  ∀ r ∈ index.records, ∃ content, r.note.links = Link.ofText content

/-- A link that was read leads to the note whose name is its canonical target. -/
theorem Coherent.resolve?_eq_some_iff (h : index.Coherent) (hread : index.LinksRead)
    (hs : s ∈ index.records) (hlink : link ∈ s.note.links) (ht : t ∈ index.records) :
    index.resolve? link.target = some t ↔ index.policy.canonicalName link.target = t.name := by
  obtain ⟨content, hcontent⟩ := hread s hs
  obtain ⟨htrim, hne⟩ := Link.target_of_mem_ofText (hcontent ▸ hlink)
  rw [resolve?_of_trimmed htrim hne]
  constructor
  · exact fun hname => (h.name_eq hname).symm
  · intro hname
    rw [hname]
    exact h.mem_records.mp ht

/-! ### Backlinks and edges -/

theorem mem_backlinks {place : Location} :
    s ∈ index.backlinks place ↔
      ∃ t, index.at? place = some t ∧ s ∈ index.records ∧ s.place ≠ t.place ∧
        ∃ link ∈ s.note.links, index.policy.canonicalName link.target = t.name := by
  rw [backlinks, backlinksAmong]
  cases index.at? place with
  | none => simp
  | some t =>
    simp only [inDisplayOrder, mem_sortBy, List.mem_filter, linksTo, List.any_eq_true, beq_iff_eq,
      bne_iff_ne, and_assoc, Option.some.injEq, exists_eq_left']

theorem mem_edgesFrom {e : Edge} :
    e ∈ index.edgesFrom s ↔
      ∃ link ∈ s.note.links, ∃ t, index.resolve? link.target = some t ∧ t.place ≠ s.place ∧
        e = ⟨s.path, t.path⟩ := by
  rw [edgesFrom, List.mem_filterMap]
  refine exists_congr fun link => and_congr_right fun _ => ?_
  cases index.resolve? link.target with
  | none => simp
  | some t =>
    by_cases hplace : t.place = s.place
    · simp [hplace]
    · simp only [if_false, Option.some.injEq, exists_eq_left', ne_eq, hplace,
        not_false_iff, true_and, @eq_comm _ e]

theorem graph_nodes (index : Index) : index.graph.nodes = index.sortedRecords := rfl

theorem Coherent.mem_edges (h : index.Coherent) {e : Edge} :
    e ∈ index.graph.edges ↔ ∃ s ∈ index.records, e ∈ index.edgesFrom s := by
  have hsorted (e : Edge) :
      e ∈ sortBy Edge.order ((inPlaceOrder index.records).flatMap index.edgesFrom) ↔
        ∃ s ∈ index.records, e ∈ index.edgesFrom s := by
    simp [inPlaceOrder]
  -- Edges between the same places are between the same notes, so their paths are spelled alike.
  have hkey (a b : Edge) (ha : ∃ s ∈ index.records, a ∈ index.edgesFrom s)
      (hb : ∃ s ∈ index.records, b ∈ index.edgesFrom s) (hab : a.key = b.key) : a = b := by
    obtain ⟨s, hs, ha⟩ := ha
    obtain ⟨s', hs', hb⟩ := hb
    obtain ⟨_, _, t, ht, _, rfl⟩ := mem_edgesFrom.mp ha
    obtain ⟨_, _, t', ht', _, rfl⟩ := mem_edgesFrom.mp hb
    obtain ⟨hsource, htarget⟩ := Prod.mk.inj hab
    rw [h.eq_of_place_eq hs hs' hsource,
      h.eq_of_place_eq (mem_records_of_resolve? ht) (mem_records_of_resolve? ht') htarget]
  refine (mem_dropRepeated fun a ha b hb => ?_).trans (hsorted e)
  exact hkey a b ((hsorted a).mp ha) ((hsorted b).mp hb)

theorem Coherent.mem_edges_iff (h : index.Coherent) (hs : s ∈ index.records)
    (ht : t ∈ index.records) :
    ⟨s.path, t.path⟩ ∈ index.graph.edges ↔
      t.place ≠ s.place ∧ ∃ link ∈ s.note.links, index.resolve? link.target = some t := by
  rw [h.mem_edges]
  constructor
  · rintro ⟨s', hs', he⟩
    obtain ⟨link, hlink, t', ht', hne, heq⟩ := mem_edgesFrom.mp he
    obtain ⟨hsource, htarget⟩ := Edge.mk.inj heq
    obtain rfl := h.eq_of_place_eq hs hs' (congrArg Path.location hsource)
    obtain rfl := h.eq_of_place_eq ht (mem_records_of_resolve? ht') (congrArg Path.location htarget)
    exact ⟨hne, link, hlink, ht'⟩
  · rintro ⟨hne, link, hlink, hresolve⟩
    exact ⟨s, hs, mem_edgesFrom.mpr ⟨link, hlink, t, hresolve, hne, rfl⟩⟩

/-- A note links back to another one exactly if the graph has an edge between them. -/
theorem Coherent.mem_backlinks_iff (h : index.Coherent) (hread : index.LinksRead)
    (hs : s ∈ index.records) (ht : t ∈ index.records) :
    s ∈ index.backlinks t.place ↔ ⟨s.path, t.path⟩ ∈ index.graph.edges := by
  have hat : index.at? t.place = some t := h.at?_place (h.mem_records.mp ht)
  have hresolve : (∃ link ∈ s.note.links, index.policy.canonicalName link.target = t.name) ↔
      ∃ link ∈ s.note.links, index.resolve? link.target = some t :=
    exists_congr fun _ => and_congr_right fun hlink =>
      (h.resolve?_eq_some_iff hread hs hlink ht).symm
  rw [mem_backlinks, h.mem_edges_iff hs ht, ← hresolve, hat]
  constructor
  · rintro ⟨t', ht', -, hne, hlinks⟩
    obtain rfl := Option.some.inj ht'
    exact ⟨Ne.symm hne, hlinks⟩
  · exact fun ⟨hne, hlinks⟩ => ⟨t, rfl, hs, Ne.symm hne, hlinks⟩

/-! ### Broken links -/

/-- What a note's link is listed as if it is broken. -/
def brokenAt (r : Record) (link : Link) : BrokenLink := ⟨r.path, link.target, link.line⟩

/-- How many links of a note have the target and the line of a given one. -/
def alike (r : Record) (link : Link) : Nat :=
  r.note.links.countP fun other => other.target == link.target && other.line == link.line

theorem mem_brokenFrom {b : BrokenLink} :
    b ∈ index.brokenFrom r ↔ ∃ link ∈ r.note.links, isMediaTarget link.target = false ∧
      index.resolve? link.target = none ∧ b = brokenAt r link := by
  simp only [brokenFrom, brokenAt, List.mem_map, List.mem_filter, Bool.and_eq_true,
    Bool.not_eq_true', Option.isNone_iff_eq_none, and_assoc, @eq_comm _ b]

theorem mem_brokenLinks {b : BrokenLink} :
    b ∈ index.brokenLinks ↔ ∃ r ∈ index.records, b ∈ index.brokenFrom r := by
  simp [brokenLinks, brokenAmong]

/-- A link that leads nowhere is listed among the broken links of its note as often as it occurs
    there. -/
theorem count_brokenFrom (hmedia : isMediaTarget link.target = false)
    (hnone : index.resolve? link.target = none) :
    (index.brokenFrom r).count (brokenAt r link) = alike r link := by
  rw [brokenFrom, List.count, List.countP_map, List.countP_filter, alike]
  refine List.countP_congr fun other _ => ?_
  -- A link with the same target is broken as well.
  have hsame : other.target = link.target →
      isMediaTarget other.target = false ∧ index.resolve? other.target = none := by
    intro heq
    rw [heq]
    exact ⟨hmedia, hnone⟩
  simp only [Function.comp_apply, brokenAt, Bool.and_eq_true, beq_iff_eq, BrokenLink.mk.injEq,
    true_and, Bool.not_eq_true', Option.isNone_iff_eq_none]
  exact ⟨fun hother => hother.1, fun hother => ⟨hother, hsame hother.1⟩⟩

/-- The broken links of a note are listed once for every note. -/
theorem Coherent.count_brokenLinks (h : index.Coherent) (hr : r ∈ index.records) (link : Link) :
    index.brokenLinks.count (brokenAt r link) = (index.brokenFrom r).count (brokenAt r link) := by
  have hplaces := h.places_differ
  obtain ⟨before, behind, hsplit⟩ := List.append_of_mem hr
  -- No other visible note has the path.
  have hother (s : Record) (hs : s ∈ index.records) (hne : s ≠ r) :
      (index.brokenFrom s).count (brokenAt r link) = 0 := by
    refine List.count_eq_zero.mpr fun hmem => hne ?_
    obtain ⟨_, _, _, _, heq⟩ := mem_brokenFrom.mp hmem
    exact (h.eq_of_place_eq hr hs (congrArg (Path.location ∘ BrokenLink.source) heq)).symm
  have hzero (part : List Record) (hpart : ∀ s ∈ part, s ∈ index.records ∧ s ≠ r) :
      (part.flatMap index.brokenFrom).count (brokenAt r link) = 0 := by
    refine List.count_eq_zero.mpr fun hmem => ?_
    obtain ⟨s, hs, hbroken⟩ := List.mem_flatMap.mp hmem
    exact absurd hbroken (List.count_eq_zero.mp (hother s (hpart s hs).1 (hpart s hs).2))
  rw [hsplit, List.pairwise_append, List.pairwise_cons] at hplaces
  obtain ⟨-, ⟨hbehind, -⟩, hbefore⟩ := hplaces
  have hmem {s : Record} (hs : s ∈ before ∨ s ∈ behind) : s ∈ index.records := by
    rw [hsplit, List.mem_append, List.mem_cons]
    exact hs.imp_right .inr
  rw [brokenLinks, brokenAmong, (perm_sortBy _ _).count_eq, hsplit, List.flatMap_append,
    List.flatMap_cons, List.count_append, List.count_append, hzero before, hzero behind,
    Nat.zero_add, Nat.add_zero]
  · exact fun s hs => ⟨hmem (.inr hs), fun heq => hbehind s hs (heq ▸ rfl)⟩
  · exact fun s hs => ⟨hmem (.inl hs), fun heq => hbefore s hs r (List.mem_cons_self ..) (heq ▸ rfl)⟩

/-! ### Agreement -/

/-- Backlinks, graph and broken links tell one story about the links of the visible notes. -/
structure LinksAgree (index : Index) : Prop where
  /-- A note links back to another one exactly if there is an edge from it. -/
  backlink_iff {s t : Record} : s ∈ index.records → t ∈ index.records →
    (s ∈ index.backlinks t.place ↔ ⟨s.path, t.path⟩ ∈ index.graph.edges)
  /-- Only visible notes link back, and none to itself. -/
  backlink_visible {s : Record} {place : Location} : s ∈ index.backlinks place →
    s ∈ index.records ∧ s.place ≠ place
  /-- Every edge leads from one node to another. -/
  edge_nodes {e : Edge} : e ∈ index.graph.edges →
    ∃ s ∈ index.graph.nodes, ∃ t ∈ index.graph.nodes, s.place ≠ t.place ∧ e = ⟨s.path, t.path⟩
  /-- The nodes are the visible notes. -/
  mem_nodes {r : Record} : r ∈ index.graph.nodes ↔ index.at? r.place = some r
  /-- The nodes are in order, each once. -/
  nodes_ascending : index.graph.nodes.Pairwise fun s t => compare s.place t.place = .lt
  /-- The edges are in order, each once. -/
  edges_ascending : index.graph.edges.Pairwise fun a b => a.order b = .lt
  /-- A link of a visible note leads to the note itself or along an edge and is not listed as
      broken; or it leads nowhere, is meant for a media file and is not listed either; or it leads
      nowhere and is listed with its line, as often as the note has it there. -/
  classified {r : Record} {link : Link} : r ∈ index.records → link ∈ r.note.links →
    (∃ t, index.resolve? link.target = some t ∧
        (t = r ∨ ⟨r.path, t.path⟩ ∈ index.graph.edges) ∧ brokenAt r link ∉ index.brokenLinks) ∨
    (index.resolve? link.target = none ∧ isMediaTarget link.target = true ∧
        brokenAt r link ∉ index.brokenLinks) ∨
    (index.resolve? link.target = none ∧ isMediaTarget link.target = false ∧
        index.brokenLinks.count (brokenAt r link) = alike r link)
  /-- Nothing but links of visible notes is listed as broken. -/
  broken_visible {b : BrokenLink} : b ∈ index.brokenLinks →
    ∃ r ∈ index.records, ∃ link ∈ r.note.links, b = brokenAt r link

/-- Where a link resolves or is meant for a media file it is not listed as broken. -/
theorem Coherent.not_mem_brokenLinks (h : index.Coherent) (hr : r ∈ index.records)
    (hlink : (index.resolve? link.target).isSome ∨ isMediaTarget link.target = true) :
    brokenAt r link ∉ index.brokenLinks := by
  rw [← List.count_eq_zero, h.count_brokenLinks hr, List.count_eq_zero]
  intro hmem
  obtain ⟨other, -, hmedia, hnone, heq⟩ := mem_brokenFrom.mp hmem
  have htarget : link.target = other.target := congrArg BrokenLink.target heq
  rw [htarget, hmedia, hnone] at hlink
  simp at hlink

theorem Coherent.nodes_ascending (h : index.Coherent) :
    index.graph.nodes.Pairwise fun s t => compare s.place t.place = .lt := by
  have : Std.TransCmp fun s t : Record => compare s.place t.place :=
    inferInstanceAs (Std.TransCmp (compareOn Record.place))
  exact pairwise_lt_sortBy (h.places_differ.imp fun hne heq =>
    hne (Std.LawfulEqCmp.eq_of_compare heq))

/-- In a coherent index with links that were read the views of the links agree. -/
theorem Coherent.linksAgree (h : index.Coherent) (hread : index.LinksRead) :
    index.LinksAgree where
  backlink_iff := h.mem_backlinks_iff hread
  backlink_visible {s place} hs := by
    obtain ⟨t, hat, hrecord, hne, -⟩ := mem_backlinks.mp hs
    exact ⟨hrecord, h.place_eq hat ▸ hne⟩
  edge_nodes {e} he := by
    obtain ⟨s, hs, he⟩ := h.mem_edges.mp he
    obtain ⟨link, -, t, ht, hne, rfl⟩ := mem_edgesFrom.mp he
    simp only [graph_nodes, sortedRecords, inPlaceOrder, mem_sortBy]
    exact ⟨s, hs, t, mem_records_of_resolve? ht, Ne.symm hne, rfl⟩
  mem_nodes := h.mem_sortedRecords_iff
  nodes_ascending := h.nodes_ascending
  edges_ascending := pairwise_dropRepeated (fun _ _ => Edge.key_eq_of_order_eq)
    (pairwise_sortBy Edge.order _)
  classified {r link} hr hlink := by
    cases hresolve : index.resolve? link.target with
    | some t =>
      have hbroken : brokenAt r link ∉ index.brokenLinks :=
        h.not_mem_brokenLinks hr (.inl (by simp [hresolve]))
      refine .inl ⟨t, rfl, ?_, hbroken⟩
      have ht := mem_records_of_resolve? hresolve
      by_cases hplace : t.place = r.place
      · exact .inl (h.eq_of_place_eq ht hr hplace)
      · exact .inr ((h.mem_edges_iff hr ht).mpr ⟨hplace, link, hlink, hresolve⟩)
    | none =>
      cases hmedia : isMediaTarget link.target with
      | true => exact .inr (.inl ⟨rfl, rfl, h.not_mem_brokenLinks hr (.inr hmedia)⟩)
      | false =>
        refine .inr (.inr ⟨rfl, rfl, ?_⟩)
        rw [h.count_brokenLinks hr, count_brokenFrom hmedia hresolve]
  broken_visible {b} hb := by
    obtain ⟨r, hr, hb⟩ := mem_brokenLinks.mp hb
    obtain ⟨link, hlink, -, -, rfl⟩ := mem_brokenFrom.mp hb
    exact ⟨r, hr, link, hlink, rfl⟩

/-- In every index that is reached, if the links of its visible notes were read from texts, the
    backlinks are the edges of the graph, no edge and no backlink leads from a note to itself, the
    nodes are the visible notes, and every link is in one of three classes: it resolves, it is
    meant for a media file, or it is counted once among the broken links. -/
theorem Operation.linksAgree_run (root : Option Path) (policy : NamingPolicy)
    (ops : List Operation) (hread : (Operation.run { root, policy } ops).LinksRead) :
    (Operation.run { root, policy } ops).LinksAgree :=
  (consistent_run root policy ops).toCoherent.linksAgree hread

/-- Two notes with one name, the second of which shadows the first, and a third that links to the
    name, to itself, to a picture, and twice on one line to a note that is missing. -/
theorem Operation.linksAgree_run_three :
    let a := Record.ofContent {} ⟨"/v/a/Note.md"⟩ "[[Other]]"
    let b := Record.ofContent {} ⟨"/v/b/note.md"⟩ "[[ other #x]]"
    let c := Record.ofContent {} ⟨"/v/Other.md"⟩ "[[NOTE]] [[other]]\n![[x.PNG]] [[Gone]] [[Gone]]"
    let index := Operation.run { root := some ⟨"/v"⟩ }
      [.edit (.insert a), .edit (.insert c), .edit (.insert b)]
    index.LinksRead ∧ index.LinksAgree ∧ index.records = [b, c] ∧
      index.backlinks b.place = [c] ∧ index.backlinks c.place = [b] ∧
      index.graph.edges = [⟨c.path, b.path⟩, ⟨b.path, c.path⟩] ∧
      index.brokenLinks = [⟨c.path, "Gone", 2⟩, ⟨c.path, "Gone", 2⟩] := by
  intro a b c index
  have hevery : index.Every fun r => ∃ content, r.note.links = Link.ofText content := by
    refine (every_empty _ _).run (consistent_empty _ _) fun r hr => ?_
    simp only [List.mem_cons, List.not_mem_nil, or_false, Operation.edit.injEq,
      Edit.insert.injEq] at hr
    rcases hr with rfl | rfl | rfl <;> exact ⟨_, rfl⟩
  have hread : index.LinksRead := fun r hr =>
    hevery.of_mem_records (consistent_run _ _ _).toCoherent hr
  exact ⟨hread, linksAgree_run _ _ _ hread, by decide +kernel⟩

end Index

end WikiNotes
