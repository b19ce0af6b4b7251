import Mathlib.Data.List.Sort
import WikiNotes.Note.CodeSpan
import WikiNotes.Proofs.SortedMap
import WikiNotes.Proofs.Text.Blank
import WikiNotes.Proofs.Text.Matches

/-! # Where code starts and ends

What the patterns take for code (`singleSpan?_eq_some_iff`, `doubleSpan?_sound`), which of it is kept
(`mem_findAll`), that what is kept lies one behind the other (`pairwise_findAll`) and at which
characters it starts and ends (`framed_of_mem_findAll`). -/

namespace WikiNotes

open Text

namespace CodeSpan

/-! ### Code between backticks -/

/-- Between single backticks stands a text on one line without backticks. -/
theorem singleSpan?_eq_some_iff {cs : List Char} {found : Match Unit} :
    singleSpan? cs = some found ↔
      ∃ code rest, cs = tick :: (code ++ tick :: rest) ∧ code ≠ [] ∧ tick ∉ code ∧ '\n' ∉ code ∧
        found.length = code.length + 2 := by
  constructor
  · intro h
    cases cs with
    | nil => exact nomatch h
    | cons c cs =>
      obtain ⟨code, rest, rfl, hcode, hstop⟩ :=
        exists_longest (fun c => decide (c ≠ tick ∧ c ≠ '\n')) cs
      simp only [singleSpan?, takeWhile_append_of_stop hcode hstop, List.drop_left] at h
      split at h
      case isFalse => exact nomatch h
      case isTrue hspan =>
        obtain ⟨rfl, hne, hclose⟩ := hspan
        obtain ⟨rest, rfl⟩ := List.head?_eq_some_iff.mp hclose
        obtain rfl := Option.some.inj h
        refine ⟨code, rest, rfl, by simpa using hne, fun hmem => ?_, fun hmem => ?_, rfl⟩
        · exact (of_decide_eq_true (hcode _ hmem)).1 rfl
        · exact (of_decide_eq_true (hcode _ hmem)).2 rfl
  · rintro ⟨code, rest, rfl, hne, htick, hbreak, hlength⟩
    have hcode : ∀ c ∈ code, decide (c ≠ tick ∧ c ≠ '\n') = true := fun c hc =>
      decide_eq_true ⟨fun heq => htick (heq ▸ hc), fun heq => hbreak (heq ▸ hc)⟩
    have hstop : ∀ c, (tick :: rest).head? = some c → decide (c ≠ tick ∧ c ≠ '\n') = false := by
      rintro c ⟨⟩
      exact decide_eq_false fun hc => hc.1 rfl
    simp only [singleSpan?, takeWhile_append_of_stop hcode hstop, List.drop_left]
    simp [hne, ← hlength]

theorem doubleTail?_of_ne {c : Char} (hc : c ≠ tick) (cs : List Char) :
    doubleTail? (c :: cs) = (doubleTail? cs).map (· + 1) := by
  rw [doubleTail?.eq_def]
  exact if_pos hc

theorem doubleTail?_pair (cs : List Char) : doubleTail? (tick :: tick :: cs) = some 2 := by
  simp [doubleTail?.eq_def]

theorem doubleTail?_tick_of_ne {c : Char} (hc : c ≠ tick) (cs : List Char) :
    doubleTail? (tick :: c :: cs) = (doubleTail? cs).map (· + 2) := by
  rw [doubleTail?.eq_def]
  simp [hc]

/-- The text from a pair of backticks on is double backtick code if another pair follows. -/
theorem doubleSpan?_pair (cs : List Char) :
    doubleSpan? (tick :: tick :: cs) = (doubleTail? cs).map fun n => ⟨(), n + 2⟩ := by
  simp [doubleSpan?]

/-- What stands between double backticks ends with a pair of them. -/
theorem doubleTail?_sound {cs : List Char} {n : Nat} (h : doubleTail? cs = some n) :
    ∃ code rest, cs = code ++ tick :: tick :: rest ∧ n = code.length + 2 := by
  induction cs using doubleTail?.induct generalizing n with
  | case1 => exact nomatch h
  | case2 c cs hc ih =>
    rw [doubleTail?_of_ne hc, Option.map_eq_some_iff] at h
    obtain ⟨m, hm, rfl⟩ := h
    obtain ⟨code, rest, rfl, rfl⟩ := ih hm
    exact ⟨c :: code, rest, rfl, rfl⟩
  | case3 c hc =>
    obtain rfl := Decidable.not_not.mp hc
    exact nomatch h
  | case4 c hc cs =>
    obtain rfl := Decidable.not_not.mp hc
    rw [doubleTail?_pair] at h
    exact ⟨[], cs, rfl, (Option.some.inj h).symm⟩
  | case5 c hc c' cs hc' ih =>
    obtain rfl := Decidable.not_not.mp hc
    rw [doubleTail?_tick_of_ne hc', Option.map_eq_some_iff] at h
    obtain ⟨m, hm, rfl⟩ := h
    obtain ⟨code, rest, rfl, rfl⟩ := ih hm
    exact ⟨tick :: c' :: code, rest, rfl, rfl⟩

/-- Double backtick code starts and ends with a pair of backticks. -/
theorem doubleSpan?_sound {cs : List Char} {found : Match Unit} (h : doubleSpan? cs = some found) :
    ∃ code rest, cs = tick :: tick :: (code ++ tick :: tick :: rest) ∧
      found.length = code.length + 4 := by
  match cs with
  | [] => exact nomatch h
  | [_] => exact nomatch h
  | c :: c' :: cs =>
    rw [doubleSpan?] at h
    split at h
    case isFalse => exact nomatch h
    case isTrue hpair =>
      obtain ⟨rfl, rfl⟩ := hpair
      obtain ⟨n, hn, rfl⟩ := Option.map_eq_some_iff.mp h
      obtain ⟨code, rest, rfl, rfl⟩ := doubleTail?_sound hn
      exact ⟨code, rest, rfl, rfl⟩

theorem proper_singleSpan? : Proper singleSpan? := by
  intro cs found h
  obtain ⟨code, rest, rfl, -, -, -, hlength⟩ := singleSpan?_eq_some_iff.mp h
  simp only [List.length_cons, List.length_append]
  omega

theorem proper_doubleSpan? : Proper doubleSpan? := by
  intro cs found h
  obtain ⟨code, rest, rfl, hlength⟩ := doubleSpan?_sound h
  simp only [List.length_cons, List.length_append]
  omega

/-! ### Fenced blocks -/

theorem splitLines_flatten (cs : List Char) : (splitLines cs).flatten = cs := by
  induction cs with
  | nil => rfl
  | cons c cs ih =>
    rw [splitLines]
    split
    · rw [List.flatten_cons, ih, List.singleton_append]
    · split <;> rename_i hsplit <;> rw [hsplit] at ih <;> simp [← ih]

/-- Whether a character may stand at the start of code. -/
def IsMark (c : Char) : Prop := c = tick ∨ c = '~'

instance (c : Char) : Decidable (IsMark c) := inferInstanceAs (Decidable (_ ∨ _))

/-- A line opens a fence with at least three marks at its start. -/
theorem fenceMark?_eq_some {line : List Char} {mark : Char} {width : Nat}
    (h : fenceMark? line = some (mark, width)) :
    IsMark mark ∧ 3 ≤ width ∧ ∃ rest, line = mark :: mark :: mark :: rest := by
  cases line with
  | nil => exact nomatch h
  | cons c rest =>
    simp only [fenceMark?] at h
    split at h
    case isFalse => exact nomatch h
    case isTrue hfence =>
      obtain ⟨rfl, rfl⟩ := Prod.mk.inj (Option.some.inj h)
      obtain ⟨hmark, hwidth⟩ := hfence
      obtain ⟨run, hrun⟩ : ∃ run, run = (c :: rest).takeWhile (· = c) := ⟨_, rfl⟩
      rw [← hrun] at hwidth
      obtain ⟨more, hmore⟩ := Nat.exists_eq_add_of_le' hwidth
      have hall : run = List.replicate (more + 3) c := by
        refine List.eq_replicate_iff.mpr ⟨hmore, fun d hd => ?_⟩
        have hd := List.mem_takeWhile_imp (hrun ▸ hd)
        exact of_decide_eq_true hd
      obtain ⟨behind, hbehind⟩ := List.takeWhile_prefix (· = c) (l := c :: rest)
      refine ⟨hmark, hrun ▸ hwidth, List.replicate more c ++ behind, ?_⟩
      rw [← hbehind, ← hrun, hall]
      rfl

theorem fencedFrom_none_cons (p : Position) (raw : List Char) (lines : List (List Char)) :
    fencedFrom none p (raw :: lines) =
      fencedFrom ((fenceMark? (dropEndWhile isLineEnd raw)).map fun found =>
        ⟨found.1, found.2, p⟩) (p.advance raw) lines := by
  rw [fencedFrom.eq_def]

theorem fencedFrom_some_cons (fence : Fence) (p : Position) (raw : List Char)
    (lines : List (List Char)) :
    fencedFrom (some fence) p (raw :: lines) =
      if fence.closedBy (dropEndWhile isLineEnd raw) then
        fence.span (p.advance (dropEndWhile isLineEnd raw)) :: fencedFrom none (p.advance raw) lines
      else fencedFrom (some fence) (p.advance raw) lines := by
  rw [fencedFrom.eq_def]

/-- A line that closes a fence is not empty and holds nothing but marks and blanks. -/
theorem Fence.closedBy_sound {fence : Fence} {line : List Char} (hwidth : 0 < fence.width)
    (h : fence.closedBy line = true) :
    line ≠ [] ∧ ∀ c ∈ line, c = fence.mark ∨ isBlank c = true := by
  simp only [closedBy, Bool.and_eq_true, decide_eq_true_eq, List.all_eq_true] at h
  obtain ⟨hle, hmarks⟩ := h
  refine ⟨?_, fun c hc => ?_⟩
  · rintro rfl
    exact absurd hle (Nat.not_le.mpr hwidth)
  · obtain ⟨lead, trail, hline, hlead, htrail⟩ := exists_stripWhile isBlank line
    rw [hline, List.mem_append, List.mem_append] at hc
    rcases hc with (hc | hc) | hc
    · exact .inr (hlead c hc)
    · exact .inl (hmarks c hc)
    · exact .inr (htrail c hc)

/-- A span starts at a mark, and it ends behind a mark or a blank or with the text. -/
structure Framed (cs : List Char) (span : CodeSpan) : Prop where
  starts : ∃ a c b, cs = a ++ c :: b ∧ span.start = byteLength a ∧ IsMark c
  stops : span.stop = byteLength cs ∨ ∃ a c b, cs = a ++ c :: b ∧
    span.stop = byteLength (a ++ [c]) ∧ (IsMark c ∨ isBlank c = true)

theorem offset_advance_start (cs : List Char) :
    (Position.start.advance cs).offset = byteLength cs :=
  Nat.zero_add _

theorem framed_of_mem_fencedFrom {cs before : List Char} {lines : List (List Char)}
    {fence? : Option Fence} (hcs : cs = before ++ lines.flatten)
    (hfence : ∀ fence ∈ fence?, IsMark fence.mark ∧ 0 < fence.width ∧
      ∃ a b, cs = a ++ fence.mark :: b ∧ fence.opened.offset = byteLength a) {span : CodeSpan}
    (h : span ∈ fencedFrom fence? (Position.start.advance before) lines) : Framed cs span := by
  induction lines generalizing before fence? with
  | nil =>
    cases fence? with
    | none => exact nomatch h
    | some fence =>
      obtain rfl := List.mem_singleton.mp h
      obtain ⟨hmark, -, a, b, hab, hopened⟩ := hfence fence rfl
      refine ⟨⟨a, fence.mark, b, hab, hopened, hmark⟩, .inl ?_⟩
      rw [hcs, List.flatten_nil, List.append_nil]
      exact offset_advance_start before
  | cons raw lines ih =>
    have hcs' : cs = (before ++ raw) ++ lines.flatten := by rw [hcs]; simp
    obtain ⟨line, hline⟩ : ∃ line, line = dropEndWhile isLineEnd raw := ⟨_, rfl⟩
    obtain ⟨trail, htrail⟩ : line <+: raw := hline ▸ dropEndWhile_prefix ..
    cases fence? with
    | none =>
      rw [fencedFrom_none_cons, ← Position.advance_append] at h
      refine ih hcs' (fun fence hopen => ?_) h
      obtain ⟨⟨mark, width⟩, hmark, rfl⟩ := Option.map_eq_some_iff.mp hopen
      obtain ⟨hismark, hwidth, rest, hrest⟩ := fenceMark?_eq_some hmark
      refine ⟨hismark, by dsimp only; omega, before, mark :: mark :: rest ++ trail ++ lines.flatten,
        ?_, offset_advance_start before⟩
      rw [hcs', ← htrail, hline, hrest]
      simp
    | some fence =>
      rw [fencedFrom_some_cons, ← hline] at h
      split at h
      case isFalse =>
        rw [← Position.advance_append] at h
        exact ih hcs' hfence h
      case isTrue hclosed =>
        rcases List.mem_cons.mp h with rfl | h
        · obtain ⟨hmark, hwidth, a, b, hab, hopened⟩ := hfence fence rfl
          obtain ⟨hne, hchars⟩ := Fence.closedBy_sound hwidth hclosed
          refine ⟨⟨a, fence.mark, b, hab, hopened, hmark⟩, .inr ?_⟩
          obtain ⟨front, last, rfl⟩ : ∃ front last, line = front ++ [last] :=
            ⟨_, _, (List.dropLast_append_getLast hne).symm⟩
          refine ⟨before ++ front, last, trail ++ lines.flatten, ?_, ?_, ?_⟩
          · rw [hcs', ← htrail]
            simp
          · rw [List.append_assoc, ← offset_advance_start, Position.advance_append .start before]
            rfl
          · rcases hchars last (by simp) with rfl | hblank
            · exact .inl hmark
            · exact .inr hblank
        · rw [← Position.advance_append] at h
          exact ih hcs' (by simp) h

/-- Fenced blocks lie one behind the other, none is empty, and they start no sooner than the fence
    that is open or, if none is, than the lines. -/
theorem pairwise_fencedFrom {fence? : Option Fence} {p : Position}
    (h : ∀ fence ∈ fence?, fence.opened.offset < p.offset) (lines : List (List Char)) :
    ((fencedFrom fence? p lines).Pairwise fun a b => a.stop ≤ b.start) ∧
      ∀ span ∈ fencedFrom fence? p lines,
        (fence?.elim p Fence.opened).offset ≤ span.start ∧ span.start < span.stop := by
  induction lines generalizing fence? p with
  | nil =>
    cases fence? with
    | none => exact ⟨List.Pairwise.nil, fun _ hspan => nomatch hspan⟩
    | some fence =>
      refine ⟨List.pairwise_singleton .., fun span hspan => ?_⟩
      obtain rfl := List.mem_singleton.mp hspan
      exact ⟨Nat.le_refl _, h fence rfl⟩
  | cons raw lines ih =>
    have hahead : p.offset ≤ (p.advance raw).offset := Nat.le_add_right ..
    have hclosed : ∀ fence ∈ (none : Option Fence), fence.opened.offset < (p.advance raw).offset :=
      fun _ hfence => nomatch hfence
    cases fence? with
    | none =>
      rw [fencedFrom_none_cons]
      cases hmark : fenceMark? (dropEndWhile isLineEnd raw) with
      | none =>
        obtain ⟨hpairwise, hbounds⟩ := ih hclosed
        exact ⟨hpairwise, fun span hspan => (hbounds span hspan).imp_left (Nat.le_trans hahead)⟩
      | some found =>
        obtain ⟨-, -, rest, hrest⟩ := fenceMark?_eq_some hmark
        -- The line that opens a fence is not empty, so the fence starts before the next line.
        have hne : raw ≠ [] := by
          rintro rfl
          exact nomatch hrest
        refine ih fun fence hfence => ?_
        obtain rfl := Option.some.inj hfence
        exact Nat.lt_add_of_pos_right (byteLength_pos hne)
    | some fence =>
      have hopened := h fence rfl
      rw [fencedFrom_some_cons]
      split
      case isFalse =>
        refine ih fun fence' hfence => ?_
        obtain rfl := Option.some.inj hfence
        exact Nat.lt_of_lt_of_le hopened hahead
      case isTrue =>
        obtain ⟨hpairwise, hbounds⟩ := ih hclosed
        obtain ⟨trail, hline⟩ := dropEndWhile_prefix isLineEnd raw
        have hstop : (p.advance (dropEndWhile isLineEnd raw)).offset ≤ (p.advance raw).offset := by
          conv => rhs; rw [← hline, Position.advance_append]
          exact Nat.le_add_right ..
        refine ⟨List.pairwise_cons.mpr ⟨fun span hspan => ?_, hpairwise⟩, ?_⟩
        · exact Nat.le_trans hstop (hbounds span hspan).1
        · rw [List.forall_mem_cons]
          refine ⟨⟨Nat.le_refl _, Nat.lt_of_lt_of_le hopened (Nat.le_add_right ..)⟩, ?_⟩
          intro span hspan
          have hstart := (hbounds span hspan).1
          refine ⟨?_, (hbounds span hspan).2⟩
          exact Nat.le_trans (Nat.le_of_lt hopened) (Nat.le_trans hahead hstart)

theorem pairwise_fencedBlocks (cs : List Char) :
    ((fencedBlocks cs).Pairwise fun a b => a.stop ≤ b.start) ∧
      ∀ span ∈ fencedBlocks cs, span.start < span.stop := by
  have hclosed : ∀ fence ∈ (none : Option Fence), fence.opened.offset < Position.start.offset :=
    fun _ hfence => nomatch hfence
  obtain ⟨hpairwise, hbounds⟩ := pairwise_fencedFrom hclosed (splitLines cs)
  exact ⟨hpairwise, fun span hspan => (hbounds span hspan).2⟩

/-! ### All spans -/

/-- Two spans lie one behind the other. -/
def Apart (a b : CodeSpan) : Prop := a.stop ≤ b.start ∨ b.stop ≤ a.start

theorem overlaps_eq_false_iff {a b : CodeSpan} : overlaps a b = false ↔ Apart a b := by
  simp only [overlaps, Apart, Bool.and_eq_false_iff, decide_eq_false_iff_not]
  omega

theorem any_overlaps_eq_false_iff {a : CodeSpan} {spans : List CodeSpan} :
    spans.any a.overlaps = false ↔ ∀ b ∈ spans, Apart a b := by
  simp only [List.any_eq_false, Bool.not_eq_true, overlaps_eq_false_iff]

/-- Of spans that lie apart from each other those are added that lie apart from all before. -/
theorem addDisjoint_eq {spans more : List CodeSpan} (hmore : more.Pairwise Apart) :
    addDisjoint spans more = spans ++ more.filter fun a => !spans.any a.overlaps := by
  induction more generalizing spans with
  | nil => simp [addDisjoint]
  | cons b more ih =>
    obtain ⟨hb, hmore⟩ := List.pairwise_cons.mp hmore
    have hstep : addDisjoint spans (b :: more) =
        addDisjoint (if spans.any b.overlaps then spans else spans ++ [b]) more := rfl
    rw [hstep, List.filter_cons]
    cases hany : spans.any b.overlaps with
    | true => exact ih hmore
    | false =>
      have hlast : (more.filter fun a => !(spans ++ [b]).any a.overlaps) =
          more.filter fun a => !spans.any a.overlaps := by
        refine List.filter_congr fun a ha => ?_
        have hapart : a.overlaps b = false := overlaps_eq_false_iff.mpr (hb a ha).symm
        rw [List.any_append, List.any_cons, hapart, List.any_nil, Bool.or_false, Bool.or_false]
      rw [if_neg Bool.false_ne_true, ih hmore, hlast, Bool.not_false, if_pos rfl,
        List.append_assoc, List.singleton_append]

/-- The spans of inline code that a pattern finds. -/
def inlineCode (pattern : List Char → Option (Match Unit)) (cs : List Char) : List CodeSpan :=
  (Text.findAll pattern cs).map ofFound

theorem pairwise_inlineCode {pattern : List Char → Option (Match Unit)} (h : Proper pattern)
    (cs : List Char) : (inlineCode pattern cs).Pairwise fun a b => a.stop ≤ b.start :=
  List.pairwise_map.mpr (h.pairwise_findAllFrom .start cs).2

theorem start_lt_stop_of_mem_inlineCode {pattern : List Char → Option (Match Unit)}
    (h : Proper pattern) {cs : List Char} {span : CodeSpan} (hspan : span ∈ inlineCode pattern cs) :
    span.start < span.stop := by
  obtain ⟨f, hf, rfl⟩ := List.mem_map.mp hspan
  exact (h.within hf).2.1

/-- The spans of a text are its fenced blocks, the double backtick code apart from these and the
    single backtick code apart from all of that. -/
theorem mem_findAll {cs : List Char} {span : CodeSpan} :
    span ∈ findAll cs ↔ span ∈ fencedBlocks cs ∨
      (span ∈ inlineCode doubleSpan? cs ∧ ∀ b ∈ fencedBlocks cs, Apart span b) ∨
      span ∈ inlineCode singleSpan? cs ∧ (∀ b ∈ fencedBlocks cs, Apart span b) ∧
        ∀ b ∈ inlineCode doubleSpan? cs, (∀ c ∈ fencedBlocks cs, Apart b c) → Apart span b := by
  have hinline {pattern : List Char → Option (Match Unit)} (h : Proper pattern) :
      (inlineCode pattern cs).Pairwise Apart :=
    (pairwise_inlineCode h cs).imp Or.inl
  have hfindAll : findAll cs = sortBy (fun a b => compare a.start b.start)
      (addDisjoint (addDisjoint (fencedBlocks cs) (inlineCode doubleSpan? cs))
        (inlineCode singleSpan? cs)) := rfl
  rw [hfindAll, mem_sortBy, addDisjoint_eq (hinline proper_singleSpan?),
    addDisjoint_eq (hinline proper_doubleSpan?)]
  simp only [List.mem_append, List.mem_filter, Bool.not_eq_true', any_overlaps_eq_false_iff]
  grind

theorem start_lt_stop {cs : List Char} {span : CodeSpan} (h : span ∈ findAll cs) :
    span.start < span.stop := by
  rcases mem_findAll.mp h with h | ⟨h, -⟩ | ⟨h, -⟩
  · exact (pairwise_fencedBlocks cs).2 span h
  · exact start_lt_stop_of_mem_inlineCode proper_doubleSpan? h
  · exact start_lt_stop_of_mem_inlineCode proper_singleSpan? h

theorem pairwise_addDisjoint {spans more : List CodeSpan} (hspans : spans.Pairwise Apart)
    (hmore : more.Pairwise Apart) : (addDisjoint spans more).Pairwise Apart := by
  rw [addDisjoint_eq hmore, List.pairwise_append]
  refine ⟨hspans, hmore.filter _, fun a ha b hb => ?_⟩
  have hapart := (List.mem_filter.mp hb).2
  rw [Bool.not_eq_true', any_overlaps_eq_false_iff] at hapart
  exact (hapart a ha).symm

/-- The spans of a text lie one behind the other. -/
theorem pairwise_findAll (cs : List Char) :
    (findAll cs).Pairwise fun a b => a.stop ≤ b.start := by
  obtain ⟨found, hfound⟩ : ∃ found, found =
      addDisjoint (addDisjoint (fencedBlocks cs) (inlineCode doubleSpan? cs))
        (inlineCode singleSpan? cs) := ⟨_, rfl⟩
  have hfindAll : findAll cs = sortBy (fun a b => compare a.start b.start) found := by
    rw [hfound]
    rfl
  have hnonempty {span : CodeSpan} (h : span ∈ found) : span.start < span.stop :=
    start_lt_stop (hfindAll ▸ mem_sortBy.mpr h)
  have hapart : found.Pairwise Apart := by
    rw [hfound]
    refine pairwise_addDisjoint (pairwise_addDisjoint ?_ ?_) ?_
    · exact (pairwise_fencedBlocks cs).1.imp Or.inl
    · exact (pairwise_inlineCode proper_doubleSpan? cs).imp Or.inl
    · exact (pairwise_inlineCode proper_singleSpan? cs).imp Or.inl
  have : Std.TransCmp fun a b : CodeSpan => compare a.start b.start :=
    inferInstanceAs (Std.TransCmp (compareOn CodeSpan.start))
  -- Sorting keeps the spans apart, and of two that lie apart the first one starts first.
  have hsorted := pairwise_sortBy (fun a b : CodeSpan => compare a.start b.start) found
  have hapart' := ((perm_sortBy (fun a b : CodeSpan => compare a.start b.start) found).pairwise_iff
    (fun h => Or.symm h)).mpr hapart
  rw [hfindAll]
  refine (hsorted.and hapart').imp_of_mem fun {a b} ha hb ⟨hle, hab⟩ => ?_
  rw [Nat.isLE_compare] at hle
  have hb := hnonempty (mem_sortBy.mp hb)
  rcases hab with hab | hba
  · exact hab
  · omega

/-- Spans that lie one behind the other are in one order only. -/
theorem eq_of_mem_iff {xs ys : List CodeSpan} (hxs : xs.Pairwise fun a b => a.stop ≤ b.start)
    (hxs' : ∀ span ∈ xs, span.start < span.stop) (hys : ys.Pairwise fun a b => a.stop ≤ b.start)
    (hys' : ∀ span ∈ ys, span.start < span.stop) (hmem : ∀ span, span ∈ xs ↔ span ∈ ys) :
    xs = ys := by
  have hirrefl : Std.Irrefl fun a b : CodeSpan => a.start < b.start := ⟨fun _ => Nat.lt_irrefl _⟩
  have hantisymm : Std.Antisymm fun a b : CodeSpan => a.start < b.start :=
    ⟨fun _ _ hab hba => absurd hab (Nat.lt_asymm hba)⟩
  have hstrict {spans : List CodeSpan} (hpairwise : spans.Pairwise fun a b => a.stop ≤ b.start)
      (hnonempty : ∀ span ∈ spans, span.start < span.stop) :
      spans.Pairwise fun a b => a.start < b.start :=
    hpairwise.imp_of_mem fun ha _ hle => Nat.lt_of_lt_of_le (hnonempty _ ha) hle
  exact (hstrict hxs hxs').eq_of_mem_iff (hstrict hys hys') hmem

/-! ### Ends of spans -/

theorem framed_of_mem_inlineCode {pattern : List Char → Option (Match Unit)} (h : Proper pattern)
    (hends : ∀ m b, pattern (m ++ b) = some ⟨(), m.length⟩ →
      ∃ code, m = tick :: code ++ [tick]) {cs : List Char} {span : CodeSpan}
    (hspan : span ∈ inlineCode pattern cs) : Framed cs span := by
  obtain ⟨f, hf, rfl⟩ := List.mem_map.mp hspan
  obtain ⟨a, m, b, hcs, -, hmatch, hstart, hstop⟩ := h.exists_of_mem hf
  obtain ⟨code, rfl⟩ := hends m b hmatch
  refine ⟨⟨a, tick, code ++ [tick] ++ b, by simp [hcs], ?_, .inl rfl⟩,
    .inr ⟨a ++ tick :: code, tick, b, by simp [hcs], ?_, .inl (.inl rfl)⟩⟩
  · rw [ofFound, hstart]
    exact offset_advance_start a
  · rw [ofFound, hstop]
    dsimp only
    rw [offset_advance_start, List.append_assoc]

/-- Every span of a text starts at a mark, and it ends behind a mark or a blank or with the text. -/
theorem framed_of_mem_findAll {cs : List Char} {span : CodeSpan} (h : span ∈ findAll cs) :
    Framed cs span := by
  rcases mem_findAll.mp h with h | ⟨h, -⟩ | ⟨h, -⟩
  · have hcs : cs = [] ++ (splitLines cs).flatten := (splitLines_flatten cs).symm
    exact framed_of_mem_fencedFrom hcs (by simp) h
  · refine framed_of_mem_inlineCode proper_doubleSpan? (fun m b hmatch => ?_) h
    obtain ⟨code, rest, hcs, hlength⟩ := doubleSpan?_sound hmatch
    have hcut : m ++ b = (tick :: (tick :: code ++ [tick]) ++ [tick]) ++ rest := by simpa using hcs
    exact ⟨_, (List.append_inj hcut (by simpa using hlength)).1⟩
  · refine framed_of_mem_inlineCode proper_singleSpan? (fun m b hmatch => ?_) h
    obtain ⟨code, rest, hcs, -, -, -, hlength⟩ := singleSpan?_eq_some_iff.mp hmatch
    have hcut : m ++ b = (tick :: code ++ [tick]) ++ rest := by simpa using hcs
    exact ⟨_, (List.append_inj hcut (by simpa using hlength)).1⟩

/-- A text without marks has no code. -/
theorem findAll_eq_nil {cs : List Char} (h : ∀ c ∈ cs, ¬ IsMark c) : findAll cs = [] := by
  refine List.eq_nil_iff_forall_not_mem.mpr fun span hspan => ?_
  obtain ⟨a, c, b, rfl, -, hc⟩ := (framed_of_mem_findAll hspan).starts
  exact h c (by simp) hc

/-- Between two characters that neither end code nor start it nothing changes. -/
theorem covers_append_singleton {cs a b : List Char} {c d : Char} (hcs : cs = a ++ c :: d :: b)
    (hc : ¬ (IsMark c ∨ isBlank c = true)) (hd : ¬ IsMark d) :
    covers (findAll cs) (byteLength (a ++ [c])) = covers (findAll cs) (byteLength a) := by
  have hcs' : cs = (a ++ [c]) ++ d :: b := by simp [hcs]
  have hshort : byteLength a < byteLength (a ++ [c]) :=
    (byteLength_lt_iff (hcs.symm.trans hcs')).mpr (by simp)
  rw [covers, covers, Bool.eq_iff_iff, List.any_eq_true, List.any_eq_true]
  refine exists_congr fun span => and_congr_right fun hspan => ?_
  obtain ⟨⟨x, e, y, hx, hstart, he⟩, hstops⟩ := framed_of_mem_findAll hspan
  have hstart_iff : span.start ≤ byteLength (a ++ [c]) ↔ span.start ≤ byteLength a := by
    rw [hstart]
    refine ⟨fun hle => ?_, fun hle => Nat.le_trans hle (Nat.le_of_lt hshort)⟩
    rw [byteLength_le_iff (hx.symm.trans hcs'), List.length_append, List.length_singleton] at hle
    rw [byteLength_le_iff (hx.symm.trans hcs)]
    -- A span that starts behind the first character starts with the second one.
    by_contra hbehind
    have hcut := List.append_inj (hx.symm.trans hcs') (by simp; omega)
    exact hd ((List.cons.inj hcut.2).1 ▸ he)
  have hstop_iff : byteLength (a ++ [c]) < span.stop ↔ byteLength a < span.stop := by
    refine ⟨fun hlt => Nat.lt_trans hshort hlt, fun hlt => ?_⟩
    rcases hstops with hstop | ⟨x, e, y, hx, hstop, he⟩
    · rw [hstop, hcs', byteLength_append (a ++ [c])]
      have hpos := byteLength_pos (List.cons_ne_nil d b)
      omega
    · have hx' : cs = (x ++ [e]) ++ y := by simp [hx]
      rw [hstop, byteLength_lt_iff (hcs.symm.trans hx'), List.length_append,
        List.length_singleton] at hlt
      rw [hstop, byteLength_lt_iff (hcs'.symm.trans hx')]
      -- A span that ends right behind the first character ends with it.
      by_contra hbefore
      have hlength : (x ++ [e]).length = (a ++ [c]).length := by simp at hbefore ⊢; omega
      have hcut := (List.append_inj (hx'.symm.trans hcs') hlength).1
      rw [← List.concat_eq_append, ← List.concat_eq_append, List.concat_inj] at hcut
      exact hc (hcut.2 ▸ he)
  rw [Bool.and_eq_true, Bool.and_eq_true, decide_eq_true_eq, decide_eq_true_eq, decide_eq_true_eq,
    decide_eq_true_eq, hstart_iff, hstop_iff]

end CodeSpan

end WikiNotes
