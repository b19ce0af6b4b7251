import Mathlib.Data.List.Chain
import WikiNotes.Proofs.Note.Fence
import WikiNotes.Proofs.Note.Ticks

/-! # Paragraphs of plain text and code

A paragraph is a row of segments: plain text, single backtick code and double backtick code.  What
is written tells where its code is (`Segment.spans`).  Here that is compared with what the patterns
see of it:

* its pairs of backticks are those of its double backtick code (`tickPairs_row`);
* single backtick code is found if no double backtick code stands before it (`single_mem`), and the
  first one behind double backtick code is not (`single_not_mem_behind_double`);
* whatever a pattern finds starts in code, as all backticks are there (`exists_code_of_tick`). -/

namespace WikiNotes

open Text CodeSpan

/-! ### Texts in a row -/

section Places

variable {α : Type} {text : α → List Char} {xs : List α} {x : α} {p q : Position}

/-- Texts in a row, each with the position that it starts at. -/
def places (text : α → List Char) : Position → List α → List (Position × α)
  | _, [] => []
  | p, x :: xs => (p, x) :: places text (p.advance (text x)) xs

theorem places_append (text : α → List Char) (p : Position) (xs ys : List α) :
    places text p (xs ++ ys) =
      places text p xs ++ places text (p.advance (xs.flatMap text)) ys := by
  induction xs generalizing p with
  | nil => rfl
  | cons x xs ih =>
    rw [List.cons_append, places, places, ih, List.cons_append, List.flatMap_cons,
      Position.advance_append]

/-- A text stands behind those before it. -/
theorem mem_places :
    (q, x) ∈ places text p xs ↔
      ∃ before behind, xs = before ++ x :: behind ∧ q = p.advance (before.flatMap text) := by
  constructor
  · intro h
    induction xs generalizing p with
    | nil => exact nomatch h
    | cons y xs ih =>
      rcases List.mem_cons.mp h with h | h
      · obtain ⟨rfl, rfl⟩ := Prod.mk.inj h
        exact ⟨[], xs, rfl, rfl⟩
      · obtain ⟨before, behind, rfl, rfl⟩ := ih h
        exact ⟨y :: before, behind, rfl, by rw [List.flatMap_cons, Position.advance_append]⟩
  · rintro ⟨before, behind, rfl, rfl⟩
    rw [places_append]
    exact List.mem_append_right _ (List.mem_cons_self ..)

theorem mem_places_append (text : α → List Char) (p : Position) (before : List α) (x : α)
    (behind : List α) :
    (p.advance (before.flatMap text), x) ∈ places text p (before ++ x :: behind) :=
  mem_places.mpr ⟨before, behind, rfl, rfl⟩

theorem mem_of_mem_places (h : (q, x) ∈ places text p xs) : x ∈ xs := by
  obtain ⟨before, behind, rfl, -⟩ := mem_places.mp h
  simp

/-- A character of texts in a row belongs to one of them. -/
theorem exists_of_row_eq {a rest : List Char} {c : Char} (h : xs.flatMap text = a ++ c :: rest) :
    ∃ before x behind u v, xs = before ++ x :: behind ∧ text x = u ++ c :: v ∧
      a = before.flatMap text ++ u := by
  induction xs generalizing a with
  | nil => simp at h
  | cons x xs ih =>
    rw [List.flatMap_cons] at h
    rcases List.append_eq_append_iff.mp h with ⟨more, rfl, hmore⟩ | ⟨more, hx, hmore⟩
    · obtain ⟨before, y, behind, u, v, rfl, hy, rfl⟩ := ih hmore
      exact ⟨x :: before, y, behind, u, v, rfl, hy, by simp⟩
    · cases more with
      | nil =>
        obtain ⟨before, y, behind, u, v, rfl, hy, hu⟩ := ih (a := []) hmore.symm
        exact ⟨x :: before, y, behind, u, v, rfl, hy, by simp [← hu, hx]⟩
      | cons d more =>
        obtain ⟨rfl, rfl⟩ := List.cons.inj hmore
        exact ⟨[], x, xs, a, more, rfl, hx, rfl⟩

/-- A span is not empty and lies in a text. -/
def Within (p : Position) (cs : List Char) (span : CodeSpan) : Prop :=
  p.offset ≤ span.start ∧ span.start < span.stop ∧ span.stop ≤ p.offset + byteLength cs

/-- The spans of texts in a row lie one behind the other if those of each text do. -/
theorem pairwise_flatMap_places {spans : Position → α → List CodeSpan}
    (h : ∀ x ∈ xs, ∀ p, ((spans p x).Pairwise fun a b => a.stop ≤ b.start) ∧
      ∀ span ∈ spans p x, Within p (text x) span) (p : Position) :
    (((places text p xs).flatMap fun place => spans place.1 place.2).Pairwise
      fun a b => a.stop ≤ b.start) ∧
    ∀ span ∈ (places text p xs).flatMap fun place => spans place.1 place.2,
      Within p (xs.flatMap text) span := by
  induction xs generalizing p with
  | nil => exact ⟨List.Pairwise.nil, fun _ hspan => nomatch hspan⟩
  | cons x xs ih =>
    rw [List.forall_mem_cons] at h
    obtain ⟨hhead, hhead_in⟩ := h.1 p
    obtain ⟨htail, htail_in⟩ := ih h.2 (p.advance (text x))
    rw [places, List.flatMap_cons, List.flatMap_cons, List.pairwise_append]
    refine ⟨⟨hhead, htail, fun a ha b hb => ?_⟩, fun span hspan => ?_⟩
    · exact Nat.le_trans (hhead_in a ha).2.2 (htail_in b hb).1
    · rw [Within, byteLength_append]
      rcases List.mem_append.mp hspan with hspan | hspan
      · have hin := hhead_in span hspan
        rw [Within] at hin
        omega
      · have hin := htail_in span hspan
        rw [Within, Position.offset_advance] at hin
        omega

end Places

/-! ### Segments -/

/-- A piece of a paragraph. -/
inductive Segment where
  /-- Text outside code. -/
  | plain (text : List Char)
  /-- Code between single backticks. -/
  | single (code : List Char)
  /-- Code between double backticks. -/
  | double (code : List Char)
deriving DecidableEq

namespace Segment

/-- A segment as it is written. -/
def text : Segment → List Char
  | plain text => text
  | single code => tick :: code ++ [tick]
  | double code => tick :: tick :: code ++ [tick, tick]

/-- Plain text and code are not empty, on one line and without backticks, plain text also without
    tildes. -/
def WellFormed : Segment → Prop
  | plain text => text ≠ [] ∧ tick ∉ text ∧ '\n' ∉ text ∧ '~' ∉ text
  | single code => code ≠ [] ∧ tick ∉ code ∧ '\n' ∉ code
  | double code => code ≠ [] ∧ tick ∉ code ∧ '\n' ∉ code

instance : DecidablePred WellFormed
  | plain _ => inferInstanceAs (Decidable (_ ∧ _))
  | single _ => inferInstanceAs (Decidable (_ ∧ _))
  | double _ => inferInstanceAs (Decidable (_ ∧ _))

/-- Whether a segment is double backtick code. -/
def isDouble : Segment → Bool
  | double _ => true
  | _ => false

/-- Whether a segment is single backtick code. -/
def isSingle : Segment → Bool
  | single _ => true
  | _ => false

/-- Whether a segment is code. -/
def isCode (s : Segment) : Bool := s.isSingle || s.isDouble

theorem isCode_iff {s : Segment} : s.isCode = true ↔ s.isSingle = true ∨ s.isDouble = true := by
  rw [isCode, Bool.or_eq_true]

/-- What is found of a segment of code that starts at a position. -/
def found (p : Position) (s : Segment) : Found Unit := ⟨(), p, p.advance s.text⟩

/-- The code of a segment that starts at a position. -/
def spans (p : Position) (s : Segment) : List CodeSpan :=
  if s.isCode then [ofFound (s.found p)] else []

theorem mem_spans {p : Position} {s : Segment} {span : CodeSpan} :
    span ∈ s.spans p ↔ s.isCode = true ∧ span = ofFound (s.found p) := by
  rw [spans]
  split <;> simp [*]

/-- Code starts with something else than a backtick. -/
theorem exists_cons_ne_tick {code : List Char} (hne : code ≠ []) (htick : tick ∉ code) :
    ∃ c cs, code = c :: cs ∧ c ≠ tick := by
  obtain ⟨c, cs, rfl⟩ := List.exists_cons_of_ne_nil hne
  exact ⟨c, cs, rfl, fun hc => htick (hc ▸ List.mem_cons_self ..)⟩

theorem text_ne_nil {s : Segment} (h : s.WellFormed) : s.text ≠ [] := by
  cases s with
  | plain text => exact h.1
  | single code => simp [text]
  | double code => simp [text]

theorem not_mem_text_lineFeed {s : Segment} (h : s.WellFormed) : '\n' ∉ s.text := by
  have htick : ('\n' : Char) ≠ tick := by decide
  cases s with
  | plain text => exact h.2.2.1
  | single code => simp [text, htick, h.2.2]
  | double code => simp [text, htick, h.2.2]

/-- The code of a segment is the segment. -/
theorem pairwise_spans {s : Segment} (h : s.WellFormed) (p : Position) :
    ((s.spans p).Pairwise fun a b => a.stop ≤ b.start) ∧
      ∀ span ∈ s.spans p, Within p s.text span := by
  have hpos := byteLength_pos (text_ne_nil h)
  constructor
  · rw [spans]
    split
    · exact List.pairwise_singleton ..
    · exact List.Pairwise.nil
  · intro span hspan
    obtain ⟨-, rfl⟩ := mem_spans.mp hspan
    exact ⟨Nat.le_refl _, Nat.lt_add_of_pos_right hpos, Nat.le_refl _⟩

/-! ### Pairs of backticks in a paragraph -/

/-- The pairs of backticks of double backtick code that starts at a position. -/
def pairs (p : Position) : Segment → List Position
  | double code => [p, p.advance (tick :: tick :: code)]
  | _ => []

/-- No two segments of code follow each other. -/
def Separated (segments : List Segment) : Prop :=
  segments.IsChain fun s t => ¬ (s.isCode = true ∧ t.isCode = true)

instance : DecidablePred Separated := fun segments =>
  inferInstanceAs (Decidable (segments.IsChain _))

variable {s : Segment} {segments : List Segment}

theorem not_separated {t : Segment} (hs : s.isCode = true) (ht : t.isCode = true)
    (front back : List Segment) : ¬ Separated (front ++ s :: t :: back) := fun hsep =>
  (List.isChain_cons_cons.mp (List.isChain_split.mp hsep).2).1 ⟨hs, ht⟩

/-- Behind code no backtick follows. -/
theorem head?_row (hwf : ∀ t ∈ segments, t.WellFormed) (hsep : Separated (s :: segments))
    (hcode : s.isCode = true) : (segments.flatMap text).head? ≠ some tick := by
  cases segments with
  | nil => simp
  | cons t segments =>
    have hplain := (List.isChain_cons_cons.mp hsep).1
    cases t with
    | plain text =>
      obtain ⟨hne, htick, -⟩ := hwf _ (List.mem_cons_self ..)
      obtain ⟨c, cs, rfl, hc⟩ := exists_cons_ne_tick hne htick
      exact fun hhead => hc (Option.some.inj hhead)
    | single code => exact absurd ⟨hcode, rfl⟩ hplain
    | double code => exact absurd ⟨hcode, rfl⟩ hplain

/-- The backticks of single backtick code stand on their own. -/
theorem tickPairs_single {code rest : List Char} (h : (single code).WellFormed)
    (hrest : rest.head? ≠ some tick) (p : Position) :
    tickPairs p ((single code).text ++ rest) = tickPairs (p.advance (single code).text) rest := by
  obtain ⟨hne, htick, -⟩ := h
  obtain ⟨c, cs, rfl, hc⟩ := exists_cons_ne_tick hne htick
  have hopen : (c :: cs ++ tick :: rest).head? ≠ some tick := fun h => hc (Option.some.inj h)
  have hcut : (single (c :: cs)).text ++ rest = tick :: (c :: cs ++ tick :: rest) := by
    simp [text]
  have hadvance : ((p.next tick).advance (c :: cs)).next tick =
      p.advance (single (c :: cs)).text := by
    rw [← Position.advance_cons, Position.next_eq_advance, ← Position.advance_append]
    rfl
  rw [hcut, tickPairs_lone hopen, tickPairs_append_of_not_mem htick, tickPairs_lone hrest, hadvance]

theorem tickPairs_double {code : List Char} (h : (double code).WellFormed) (p : Position)
    (rest : List Char) :
    tickPairs p ((double code).text ++ rest) =
      (double code).pairs p ++ tickPairs (p.advance (double code).text) rest := by
  have hcut : (double code).text ++ rest = tick :: tick :: (code ++ tick :: tick :: rest) := by
    simp [text]
  have hadvance : ((p.advance [tick, tick]).advance code).advance [tick, tick] =
      p.advance (double code).text := by
    rw [← Position.advance_append, ← Position.advance_append]
    rfl
  rw [hcut, tickPairs_pair, tickPairs_append_of_not_mem h.2.1, tickPairs_pair, hadvance,
    ← Position.advance_append]
  rfl

/-- The pairs of backticks in a paragraph are those of its double backtick code. -/
theorem tickPairs_row (hwf : ∀ s ∈ segments, s.WellFormed) (hsep : Separated segments)
    (p : Position) :
    tickPairs p (segments.flatMap text) =
      (places text p segments).flatMap fun place => place.2.pairs place.1 := by
  induction segments generalizing p with
  | nil => rfl
  | cons s segments ih =>
    rw [List.forall_mem_cons] at hwf
    rw [List.flatMap_cons, places, List.flatMap_cons, ← ih hwf.2 hsep.of_cons]
    cases s with
    | plain cs => exact tickPairs_append_of_not_mem hwf.1.2.1 p _
    | single code => exact tickPairs_single hwf.1 (head?_row hwf.2 hsep rfl) p
    | double code => exact tickPairs_double hwf.1 p _

theorem length_pairs (p : Position) (s : Segment) : (s.pairs p).length % 2 = 0 := by
  cases s <;> simp [pairs]

theorem pairUp_pairs (p : Position) (s : Segment) :
    pairUp (s.pairs p) = if s.isDouble then [s.found p] else [] := by
  cases s with
  | plain cs => rfl
  | single code => rfl
  | double code =>
    have hadvance : (p.advance (tick :: tick :: code)).advance [tick, tick] =
        p.advance (double code).text := (Position.advance_append ..).symm
    rw [pairs, pairUp, hadvance]
    rfl

/-- Taken in twos, the pairs of backticks in a paragraph give its double backtick code. -/
theorem mem_pairUp_row (hwf : ∀ s ∈ segments, s.WellFormed) (hsep : Separated segments)
    {p : Position} {f : Found Unit} :
    f ∈ pairUp (tickPairs p (segments.flatMap text)) ↔
      ∃ place ∈ places text p segments, place.2.isDouble = true ∧ f = place.2.found place.1 := by
  rw [tickPairs_row hwf hsep, pairUp_flatMap fun place _ => length_pairs place.1 place.2]
  simp only [List.mem_flatMap, pairUp_pairs]
  refine exists_congr fun place => and_congr_right fun _ => ?_
  split <;> simp [*]

theorem exists_double (hwf : ∀ s ∈ segments, s.WellFormed) (hsep : Separated segments)
    {p q : Position} (h : q ∈ tickPairs p (segments.flatMap text)) :
    ∃ s ∈ segments, s.isDouble = true := by
  rw [tickPairs_row hwf hsep, List.mem_flatMap] at h
  obtain ⟨⟨r, s⟩, hs, hpair⟩ := h
  refine ⟨s, mem_of_mem_places hs, ?_⟩
  cases s with
  | plain cs => exact nomatch hpair
  | single code => exact nomatch hpair
  | double code => rfl

theorem length_tickPairs_row (hwf : ∀ s ∈ segments, s.WellFormed) (hsep : Separated segments)
    (p : Position) : (tickPairs p (segments.flatMap text)).length % 2 = 0 := by
  rw [tickPairs_row hwf hsep]
  exact length_flatMap_even fun place _ => length_pairs place.1 place.2

/-- Ahead of double backtick code the pairs of backticks of a paragraph are even in number. -/
theorem exists_tickPairs_row_append {front back : List Segment} {code : List Char}
    (hwf : ∀ s ∈ front ++ double code :: back, s.WellFormed)
    (hsep : Separated (front ++ double code :: back)) (p : Position) :
    ∃ xs ys, tickPairs p ((front ++ double code :: back).flatMap text) =
        xs ++ p.advance (front.flatMap text) :: ys ∧ xs.length % 2 = 0 := by
  rw [tickPairs_row hwf hsep, places_append, List.flatMap_append, places, List.flatMap_cons]
  exact ⟨_, _, rfl, length_flatMap_even fun place _ => length_pairs place.1 place.2⟩

/-! ### Single backticks in a paragraph -/

/-- Behind plain text and single backtick code, single backtick code is found. -/
theorem single_mem_of_row {code : List Char} (hcode : (single code).WellFormed)
    (hwf : ∀ s ∈ segments, s.WellFormed) (hdouble : ∀ s ∈ segments, s.isDouble = false)
    (p : Position) (rest : List Char) :
    (single code).found (p.advance (segments.flatMap text)) ∈
      findAllFrom singleSpan? 0 p (segments.flatMap text ++ ((single code).text ++ rest)) := by
  have htext (code rest : List Char) :
      (single code).text ++ rest = tick :: code ++ tick :: rest := by simp [text]
  induction segments generalizing p with
  | nil =>
    rw [List.flatMap_nil, List.nil_append, htext,
      findAllFrom_singleSpan?_code hcode.1 hcode.2.1 hcode.2.2]
    exact List.mem_cons_self ..
  | cons s segments ih =>
    rw [List.forall_mem_cons] at hwf hdouble
    have ih := ih hwf.2 hdouble.2 (p.advance s.text)
    rw [← Position.advance_append] at ih
    rw [List.flatMap_cons, List.append_assoc]
    cases s with
    | plain cs =>
      have hskip := findAllFrom_singleSpan?_plain hwf.1.2.1 p
        (segments.flatMap text ++ ((single code).text ++ rest))
      exact hskip ▸ ih
    | single cs =>
      rw [htext, findAllFrom_singleSpan?_code hwf.1.1 hwf.1.2.1 hwf.1.2.2]
      exact List.mem_cons_of_mem _ ih
    | double cs => exact nomatch hdouble.1

theorem singleSpan?_double (code rest : List Char) :
    singleSpan? ((double code).text ++ rest) = none := by
  simp [text, singleSpan?]

theorem doubleSpan?_single {code : List Char} (h : (single code).WellFormed) (rest : List Char) :
    doubleSpan? ((single code).text ++ rest) = none := by
  obtain ⟨hne, htick, -⟩ := h
  obtain ⟨c, cs, rfl, hc⟩ := exists_cons_ne_tick hne htick
  simp [text, doubleSpan?, hc]

/-- In a paragraph without single backtick code behind double backtick code all the single backtick
    code is found. -/
theorem single_mem (hwf : ∀ s ∈ segments, s.WellFormed)
    (hfirst : segments.Pairwise fun s t => ¬ (s.isDouble = true ∧ t.isSingle = true))
    {p q : Position} (hs : (q, s) ∈ places text p segments) (hsingle : s.isSingle = true) :
    s.found q ∈ findAllFrom singleSpan? 0 p (segments.flatMap text) := by
  obtain ⟨before, behind, rfl, rfl⟩ := mem_places.mp hs
  have hbefore : ∀ t ∈ before, t.isDouble = false := by
    intro t ht
    have hnot := (List.pairwise_append.mp hfirst).2.2 t ht s (List.mem_cons_self ..)
    simpa [hsingle] using hnot
  rw [List.flatMap_append, List.flatMap_cons]
  cases s with
  | plain cs => exact nomatch hsingle
  | single code =>
    exact single_mem_of_row (hwf (single code) (by simp))
      (fun t ht => hwf t (List.mem_append_left _ ht)) hbefore p _
  | double code => exact nomatch hsingle

/-- Between double backtick code and single backtick code with plain text in between a match starts
    that takes the opening backtick away. -/
theorem single_not_mem_behind_double {a code between rest : List Char} (hne : between ≠ [])
    (htick : tick ∉ between) (hbreak : '\n' ∉ between) (p : Position) {f : Found Unit}
    (hf : f ∈ findAllFrom singleSpan? 0 p
      (a ++ (double code).text ++ between ++ tick :: rest)) :
    f.start.offset ≠ (p.advance (a ++ (double code).text ++ between)).offset := by
  obtain ⟨ahead, hahead⟩ : ∃ ahead, ahead = a ++ tick :: tick :: code ++ [tick] := ⟨_, rfl⟩
  have hcut : a ++ (double code).text ++ between ++ tick :: rest =
      (a ++ tick :: tick :: code) ++ tick :: tick :: (between ++ tick :: rest) := by
    simp [text]
  have hcut' : a ++ (double code).text ++ between = ahead ++ tick :: between := by
    simp [hahead, text]
  -- The search starts anew at the last backtick of the double backtick code.
  rw [hcut, findAllFrom_singleSpan?_pair, ← hahead, ← List.cons_append,
    findAllFrom_singleSpan?_code hne htick hbreak, List.mem_append, List.mem_cons] at hf
  rw [hcut', Position.advance_append, Position.offset_advance _ (tick :: between)]
  have hpos := byteLength_pos (List.cons_ne_nil tick between)
  have hstop : ((p.advance ahead).advance (tick :: between ++ [tick])).offset =
      (p.advance ahead).offset + byteLength (tick :: between) + 1 := by
    rw [Position.offset_advance, byteLength_append, Nat.add_assoc]
    rfl
  -- What is found ends ahead of that backtick, starts at it, or starts behind the match from it.
  rcases hf with hf | rfl | hf
  · have hwithin := proper_singleSpan?.within hf
    rw [← Position.offset_advance] at hwithin
    omega
  · dsimp only
    omega
  · have hwithin := proper_singleSpan?.within hf
    omega

/-- If single backtick code stands behind double backtick code, some does with nothing but plain text
    in between. -/
theorem exists_single_behind_double
    (h : ¬ segments.Pairwise fun s t => ¬ (s.isDouble = true ∧ t.isSingle = true)) :
    ∃ before code between code' behind,
      segments = before ++ double code :: between ++ single code' :: behind ∧
        ∀ s ∈ between, s.isCode = false := by
  induction segments with
  | nil => exact absurd List.Pairwise.nil h
  | cons s segments ih =>
    by_cases htail : segments.Pairwise fun s t => ¬ (s.isDouble = true ∧ t.isSingle = true)
    · rw [List.pairwise_cons, not_and_or, or_iff_left (not_not.mpr htail)] at h
      push Not at h
      obtain ⟨t, ht, hs, ht'⟩ := h
      have hcode : t.isCode = true := isCode_iff.mpr (.inl ht')
      obtain ⟨c, hfirst⟩ := Option.isSome_iff_exists.mp (List.find?_isSome.mpr ⟨t, ht, hcode⟩)
      obtain ⟨hc, between, behind, rfl, hbetween⟩ := List.find?_eq_some_iff_append.mp hfirst
      have hbetween : ∀ s ∈ between, s.isCode = false := fun s hs => by simpa using hbetween s hs
      cases s with
      | plain cs => exact nomatch hs
      | single code => exact nomatch hs
      | double code =>
        cases c with
        | plain cs => exact nomatch hc
        | single code' => exact ⟨[], code, between, code', behind, rfl, hbetween⟩
        | double code' =>
          -- Then the single backtick code would stand behind this double backtick code.
          rw [List.mem_append, List.mem_cons] at ht
          rcases ht with ht | rfl | ht
          · rw [hbetween t ht] at hcode
            exact nomatch hcode
          · exact nomatch ht'
          · obtain ⟨-, hbehind, -⟩ := List.pairwise_append.mp htail
            exact absurd ⟨rfl, ht'⟩ ((List.pairwise_cons.mp hbehind).1 t ht)
    · obtain ⟨before, code, between, code', behind, rfl, hbetween⟩ := ih htail
      exact ⟨s :: before, code, between, code', behind, rfl, hbetween⟩

/-! ### Paragraphs as lines -/

theorem not_mem_row_lineFeed (hwf : ∀ s ∈ segments, s.WellFormed) :
    '\n' ∉ segments.flatMap text := by
  rw [List.mem_flatMap]
  rintro ⟨s, hs, hmem⟩
  exact not_mem_text_lineFeed (hwf s hs) hmem

theorem row_ne_nil (hwf : ∀ s ∈ segments, s.WellFormed) (hne : segments ≠ []) :
    segments.flatMap text ≠ [] := by
  obtain ⟨s, segments, rfl⟩ := List.exists_cons_of_ne_nil hne
  have htext := text_ne_nil (hwf s (List.mem_cons_self ..))
  simp [htext]

/-- A paragraph does not start with three equal marks. -/
theorem not_opens_row (hwf : ∀ s ∈ segments, s.WellFormed) (hne : segments ≠ [])
    (trail : List Char) : ¬ Opens (segments.flatMap text ++ trail) := by
  obtain ⟨s, segments, rfl⟩ := List.exists_cons_of_ne_nil hne
  have hs := hwf s (List.mem_cons_self ..)
  rintro ⟨mark, hmark, rest, hrest⟩
  rw [List.flatMap_cons, List.append_assoc] at hrest
  cases s with
  | plain cs =>
    obtain ⟨hcs, htick, -, htilde⟩ := hs
    obtain ⟨c, cs, rfl⟩ := List.exists_cons_of_ne_nil hcs
    obtain rfl : mark = c := (List.cons.inj hrest).1
    rcases hmark with rfl | rfl
    · exact htick (List.mem_cons_self ..)
    · exact htilde (List.mem_cons_self ..)
  | single code =>
    obtain ⟨hcode, htick, -⟩ := hs
    obtain ⟨c, cs, rfl, hc⟩ := exists_cons_ne_tick hcode htick
    obtain ⟨rfl, hrest⟩ := List.cons.inj hrest
    exact hc (List.cons.inj hrest).1.symm
  | double code =>
    obtain ⟨hcode, htick, -⟩ := hs
    obtain ⟨c, cs, rfl, hc⟩ := exists_cons_ne_tick hcode htick
    obtain ⟨rfl, hrest⟩ := List.cons.inj hrest
    obtain ⟨-, hrest⟩ := List.cons.inj hrest
    exact hc (List.cons.inj hrest).1.symm

theorem not_mem_row_tick (hwf : ∀ s ∈ segments, s.WellFormed)
    (hplain : ∀ s ∈ segments, s.isCode = false) : tick ∉ segments.flatMap text := by
  rw [List.mem_flatMap]
  rintro ⟨s, hs, hmem⟩
  have hcode := hplain s hs
  cases s with
  | plain cs => exact (hwf _ hs).2.1 hmem
  | single code => exact nomatch hcode
  | double code => exact nomatch hcode

/-- Every backtick of a paragraph belongs to code. -/
theorem exists_code_of_tick (hwf : ∀ s ∈ segments, s.WellFormed) (p : Position)
    {a rest : List Char} (h : segments.flatMap text = a ++ tick :: rest) :
    ∃ place ∈ places text p segments, place.2.isCode = true ∧
      place.1.offset ≤ (p.advance a).offset ∧
      (p.advance a).offset < (place.1.advance place.2.text).offset := by
  obtain ⟨before, s, behind, u, v, rfl, hs, rfl⟩ := exists_of_row_eq h
  refine ⟨_, mem_places_append text p before s behind, ?_, ?_, ?_⟩
  · cases s with
    | plain cs =>
      obtain ⟨-, htick, -⟩ := hwf (plain cs) (by simp)
      rw [text] at hs
      exact absurd (hs ▸ List.mem_append_right u (List.mem_cons_self ..)) htick
    | single code => rfl
    | double code => rfl
  · rw [Position.advance_append]
    exact Nat.le_add_right ..
  · rw [Position.advance_append]
    simp only [hs, Position.offset_advance, byteLength_append]
    have hpos := byteLength_pos (List.cons_ne_nil tick v)
    omega

end Segment

end WikiNotes
