import Mathlib.Data.List.Sort
import WikiNotes.Index.Search
import WikiNotes.Proofs.Index.Links
import WikiNotes.Storage.Memory

/-! # What a search finds

A search that is cancelled during its `n`-th read has looked at the first `n` notes in the order of
their places and at no others (`searchFrom_some`), whichever of them could be read and whichever it
found.  Its hits come in another order, but in one that tells all notes apart, so a search that is
cancelled later finds the same hits and more in between.  `Stored.search_cancelled` says so of every
index that a store may hold; two notes may be shown under one name there, and then their places
decide. -/

namespace WikiNotes

/-- A note can be read, and its text contains a query in any case. -/
def Record.Matches (files : FileSystem) (query : String) (r : Record) : Prop :=
  ∃ content, files.readText r.path = .ok content ∧
    Text.lowerChars query.toList <:+: Text.lowerChars content.toList

theorem noteMatches_iff {files : FileSystem} {query : String} {r : Record} :
    noteMatches files (Text.lowerChars query.toList) r = true ↔ r.Matches files query := by
  rw [noteMatches, Record.Matches]
  cases files.readText r.path with
  | error error => simp
  | ok content => simp [textMatches, Text.occursIn_iff]

/-! ### The loop -/

section Loop

variable {files : FileSystem} {needle : List Char} {cancelAt : Option Nat}

/-- Once it is cancelled a search reads nothing more. -/
theorem searchFrom_of_cancelled {begun : Nat} (h : isCancelled cancelAt begun = true)
    (records : List Record) : searchFrom files needle cancelAt begun records = ⟨[], begun⟩ := by
  cases records with
  | nil => rfl
  | cons r rest => rw [searchFrom, if_pos h]

/-- Until then it reads one more note, which is a hit or not. -/
theorem searchFrom_cons {begun : Nat} (h : isCancelled cancelAt begun = false) (r : Record)
    (rest : List Record) :
    searchFrom files needle cancelAt begun (r :: rest) =
      let outcome := searchFrom files needle cancelAt (begun + 1) rest
      ⟨(if noteMatches files needle r then [.ofRecord r] else []) ++ outcome.hits,
        outcome.reads⟩ := by
  rw [searchFrom, h]
  cases noteMatches files needle r <;> rfl

/-- A search that is cancelled during a read finds what matches among the notes up to that read. -/
theorem searchFrom_some {begun n : Nat} (hle : begun ≤ n) (records : List Record) :
    searchFrom files needle (some n) begun records =
      ⟨((records.take (n - begun)).filter (noteMatches files needle)).map .ofRecord,
        begun + (records.take (n - begun)).length⟩ := by
  induction records generalizing begun with
  | nil => simp [searchFrom]
  | cons r rest ih =>
    rcases Nat.eq_or_lt_of_le hle with rfl | hlt
    · rw [searchFrom_of_cancelled (by simp [isCancelled])]
      simp
    · have hgoing : isCancelled (some n) begun = false := by simpa [isCancelled] using hlt
      have htake : (r :: rest).take (n - begun) = r :: rest.take (n - (begun + 1)) := by
        rw [← List.take_succ_cons, Nat.sub_add_eq, Nat.sub_add_cancel (Nat.sub_pos_of_lt hlt)]
      rw [searchFrom_cons hgoing, ih hlt, htake]
      cases hr : noteMatches files needle r <;> simp [hr, Nat.add_assoc, Nat.add_comm 1]

/-- A search that would be cancelled behind its last read is as one that is not cancelled. -/
theorem searchFrom_none {begun n : Nat} {records : List Record} (hle : begun + records.length ≤ n) :
    searchFrom files needle none begun records =
      searchFrom files needle (some n) begun records := by
  induction records generalizing begun with
  | nil => rfl
  | cons r rest ih =>
    rw [List.length_cons] at hle
    have hgoing : isCancelled (some n) begun = false := by
      simp only [isCancelled, Option.any_some, decide_eq_false_iff_not]
      omega
    rw [searchFrom_cons rfl, searchFrom_cons hgoing, ih (by omega)]

end Loop

/-! ### The order of the hits -/

instance : Std.TransCmp SearchHit.order :=
  inferInstanceAs (Std.TransCmp (compareLex (compareOn SearchHit.displayName)
    (compareOn fun hit : SearchHit => hit.path.location)))

theorem SearchHit.place_eq_of_order_eq {a b : SearchHit} (h : a.order b = .eq) :
    a.path.location = b.path.location :=
  Std.LawfulEqCmp.eq_of_compare (Ordering.then_eq_eq.mp h).2

/-- Of two lists in strict order one is part of the other if all that is in it is in the other. -/
theorem sublist_of_pairwise_lt {α : Type} {cmp : α → α → Ordering} [Std.TransCmp cmp]
    {xs ys : List α} (hxs : xs.Pairwise fun a b => cmp a b = .lt)
    (hys : ys.Pairwise fun a b => cmp a b = .lt) (hsubset : xs ⊆ ys) : xs.Sublist ys := by
  have hirrefl : Std.Irrefl fun a b : α => cmp a b = .lt :=
    ⟨fun a h => nomatch h.symm.trans (Std.ReflCmp.compare_self : cmp a a = .eq)⟩
  have hantisymm : Std.Antisymm fun a b : α => cmp a b = .lt :=
    ⟨fun a b hab hba => nomatch hba.symm.trans (Std.OrientedCmp.gt_iff_lt.mpr hab)⟩
  exact List.sublist_of_subperm_of_pairwise (List.subperm_of_subset hxs.nodup hsubset) hxs hys

namespace Index

variable {index : Index} {files : FileSystem} {query : String}

/-- The visible notes are listed in strict order of their places. -/
theorem Coherent.pairwise_sortedRecords (h : index.Coherent) :
    index.sortedRecords.Pairwise fun r s => compare r.place s.place = .lt := by
  have : Std.TransCmp fun r s : Record => compare r.place s.place :=
    inferInstanceAs (Std.TransCmp (compareOn Record.place))
  refine pairwise_lt_sortBy (h.places_differ.imp fun {r s} hplace heq => ?_)
  exact hplace (Std.LawfulEqCmp.eq_of_compare heq)

/-! ### Searching the visible notes -/

/-- What is blank is found nowhere. -/
theorem search_of_blank (h : Text.isBlankText query = true) (cancelAt : Option Nat) :
    index.search files query cancelAt = ⟨[], 0⟩ := by
  rw [search, if_pos h]

/-- Anything else is sought in the notes up to the read during which the search is cancelled. -/
theorem search_some (h : Text.isBlankText query = false) (n : Nat) :
    index.search files query (some n) =
      ⟨sortBy SearchHit.order (((index.sortedRecords.take n).filter
          (noteMatches files (Text.lowerChars query.toList))).map .ofRecord),
        (index.sortedRecords.take n).length⟩ := by
  simp only [search, h, Bool.false_eq_true, if_false, searchFrom_some (Nat.zero_le n),
    Nat.sub_zero, Nat.zero_add]

theorem length_sortedRecords (index : Index) : index.sortedRecords.length = index.size :=
  ((perm_sortBy _ _).length_eq).trans (List.length_map ..)

/-- A search that is to be cancelled when all notes have been read is one that is not cancelled. -/
theorem search_of_size_le {n : Nat} (hle : index.size ≤ n) :
    index.search files query (some n) = index.search files query none := by
  have hlast : 0 + index.sortedRecords.length ≤ n := by rwa [Nat.zero_add, length_sortedRecords]
  simp only [search, searchFrom_none hlast]

theorem mem_search_some {hit : SearchHit} (h : Text.isBlankText query = false) (n : Nat) :
    hit ∈ (index.search files query (some n)).hits ↔
      ∃ r ∈ index.sortedRecords.take n, r.Matches files query ∧ .ofRecord r = hit := by
  simp only [search_some h, mem_sortBy, List.mem_map, List.mem_filter, noteMatches_iff, and_assoc]

/-- A search that is not cancelled finds every visible note that matches. -/
theorem mem_search_none {hit : SearchHit} (h : Text.isBlankText query = false) :
    hit ∈ (index.search files query none).hits ↔
      ∃ r ∈ index.records, r.Matches files query ∧ .ofRecord r = hit := by
  have hall : index.sortedRecords.take index.size = index.sortedRecords := by
    rw [← length_sortedRecords, List.take_length]
  have hrecords (r : Record) : r ∈ index.sortedRecords ↔ r ∈ index.records := mem_sortBy
  rw [← search_of_size_le (Nat.le_refl index.size), mem_search_some h, hall]
  simp only [hrecords]

/-- Hits are in strict order, as no two of them are at one place. -/
theorem Coherent.pairwise_search_some (hindex : index.Coherent)
    (h : Text.isBlankText query = false) (n : Nat) :
    (index.search files query (some n)).hits.Pairwise fun a b => a.order b = .lt := by
  rw [search_some h]
  refine pairwise_lt_sortBy (List.pairwise_map.mpr ?_)
  have hplaces := (hindex.pairwise_sortedRecords.sublist (List.take_sublist n _)).filter
    (noteMatches files (Text.lowerChars query.toList))
  refine hplaces.imp fun {r s} hlt heq => ?_
  have hsame : r.place = s.place := SearchHit.place_eq_of_order_eq heq
  rw [hsame] at hlt
  exact nomatch hlt.symm.trans (Std.ReflCmp.compare_self (a := s.place))

/-- A search that is cancelled later finds all that it finds when cancelled earlier. -/
theorem Coherent.sublist_search_some (hindex : index.Coherent)
    (h : Text.isBlankText query = false) {n m : Nat} (hle : n ≤ m) :
    (index.search files query (some n)).hits.Sublist
      (index.search files query (some m)).hits := by
  refine sublist_of_pairwise_lt (hindex.pairwise_search_some h n) (hindex.pairwise_search_some h m)
    fun hit hhit => ?_
  obtain ⟨r, hr, hmatch⟩ := (mem_search_some h n).mp hhit
  exact (mem_search_some h m).mpr ⟨r, (List.take_subset_take_left _ hle) hr, hmatch⟩

/-- A blank query finds nothing.  With any other a search that is cancelled during its `n`-th read
    finds those of the first `n` visible notes, in the order of their places, that can be read and
    contain the query in any case, each once and in the order of hits; with no fewer reads than
    notes it is not cancelled at all, and the later it is cancelled the more it finds. -/
theorem Stored.search_cancelled (h : index.Stored) (files : FileSystem) (query : String) :
    index.sortedRecords.Pairwise (fun r s => compare r.place s.place = .lt) ∧
    (Text.isBlankText query = true → ∀ cancelAt, (index.search files query cancelAt).hits = []) ∧
    (Text.isBlankText query = false → ∀ n,
      (∀ hit, hit ∈ (index.search files query (some n)).hits ↔
        ∃ r ∈ index.sortedRecords.take n, r.Matches files query ∧ .ofRecord r = hit) ∧
      (index.search files query (some n)).hits.Pairwise (fun a b => a.order b = .lt) ∧
      (index.size ≤ n → index.search files query (some n) = index.search files query none) ∧
      (∀ m, n ≤ m → (index.search files query (some n)).hits.Sublist
        (index.search files query (some m)).hits) ∧
      (index.search files query (some n)).hits.Sublist (index.search files query none).hits) := by
  have hindex := h.consistent.toCoherent
  refine ⟨hindex.pairwise_sortedRecords, fun hblank cancelAt => ?_, fun hquery n => ?_⟩
  · rw [search_of_blank hblank]
  · -- A search that is not cancelled is one that is cancelled behind its last read.
    have hfull : index.search files query (some (max n index.size)) =
        index.search files query none := search_of_size_le (Nat.le_max_right n index.size)
    refine ⟨fun _ => mem_search_some hquery n, hindex.pairwise_search_some hquery n,
      search_of_size_le, fun m hle => hindex.sublist_search_some hquery hle, ?_⟩
    rw [← hfull]
    exact hindex.sublist_search_some hquery (Nat.le_max_left n index.size)

/-- Of five notes, two of which are shown under one name and one of which cannot be read, a search
    that is cancelled during its fourth read finds three.  The one that was read third comes first,
    and of the two with one name the one whose place comes first, though it was inserted later. -/
theorem search_cancelled_same_name :
    let a := Record.ofContent {} ⟨"/v/a/Note.md"⟩ "a match"
    let b := Record.ofContent {} ⟨"/v/b/Gone.md"⟩ "match"
    let c := Record.ofContent {} ⟨"/v/c/Alpha.md"⟩ "MATCHES"
    let d := { Record.ofContent {} ⟨"/v/d/Note.md"⟩ "Match" with name := "second" }
    let e := Record.ofContent {} ⟨"/v/e/Last.md"⟩ "match"
    let index := Operation.run { root := some ⟨"/v"⟩, policy := {} }
      ([e, d, c, b, a].map fun r => .edit (.insert r))
    let m : Memory := ((((({} : Memory).write a.path (.text "a match")).write b.path
      (.text "match")).write c.path (.text "MATCHES")).write d.path (.text "Match")).write e.path
      (.text "match")
    let files := (m.fail b.path ⟨.permissionDenied, "denied"⟩).fileSystem
    index.Stored ∧ Text.isBlankText "Match" = false ∧
      (index.search files "Match" (some 4)).hits =
        [⟨⟨"/v/c/Alpha.md"⟩, "Alpha"⟩, ⟨⟨"/v/a/Note.md"⟩, "Note"⟩, ⟨⟨"/v/d/Note.md"⟩, "Note"⟩] ∧
      (index.search files "Match" (some 4)).hits.Pairwise (fun a b => a.order b = .lt) ∧
      (index.search files "Match" (some 4)).hits.Sublist (index.search files "Match" none).hits := by
  intro a b c d e index m files
  have hindex : index.Stored := (Stored.empty ..).run _
  have hquery : Text.isBlankText "Match" = false := by decide
  obtain ⟨-, hascending, -, -, hpart⟩ := (hindex.search_cancelled files "Match").2.2 hquery 4
  exact ⟨hindex, hquery, by decide +kernel, hascending, hpart⟩

end Index

end WikiNotes
