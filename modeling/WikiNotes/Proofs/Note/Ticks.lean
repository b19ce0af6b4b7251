import WikiNotes.Proofs.Note.CodeSpan

/-! # Backticks from left to right

Double backticks open and close code in turn: the double backtick code of a text lies between its
first pair of backticks and its second, its third and its fourth, and so on, wherever these pairs
are (`findAllFrom_doubleSpan?`).  Single backtick code reaches neither over a line
(`findAllFrom_singleSpan?_line`) nor over a point between two backticks
(`findAllFrom_singleSpan?_pair`). -/

namespace WikiNotes

open Text

namespace CodeSpan

/-! ### Pairs of backticks -/

/-- The positions of the pairs of backticks in a text, the next one sought behind the last. -/
def tickPairs (p : Position) : List Char → List Position
  | c :: c' :: cs =>
    if c = tick ∧ c' = tick then p :: tickPairs (p.advance [c, c']) cs
    else tickPairs (p.next c) (c' :: cs)
  | _ => []

theorem tickPairs_pair (p : Position) (cs : List Char) :
    tickPairs p (tick :: tick :: cs) = p :: tickPairs (p.advance [tick, tick]) cs := by
  rw [tickPairs, if_pos ⟨rfl, rfl⟩]

theorem tickPairs_of_ne {c : Char} (hc : c ≠ tick) (p : Position) (cs : List Char) :
    tickPairs p (c :: cs) = tickPairs (p.next c) cs := by
  cases cs with
  | nil => rfl
  | cons c' cs => rw [tickPairs, if_neg fun h => hc h.1]

/-- A backtick on its own is passed over. -/
theorem tickPairs_lone {cs : List Char} (hcs : cs.head? ≠ some tick) (p : Position) :
    tickPairs p (tick :: cs) = tickPairs (p.next tick) cs := by
  cases cs with
  | nil => rfl
  | cons c cs =>
    have hc : c ≠ tick := fun h => hcs (congrArg some h)
    rw [tickPairs, if_neg fun h => hc h.2]

theorem tickPairs_append_of_not_mem {a : List Char} (ha : tick ∉ a) (p : Position)
    (b : List Char) : tickPairs p (a ++ b) = tickPairs (p.advance a) b := by
  induction a generalizing p with
  | nil => rfl
  | cons c a ih =>
    rw [List.mem_cons, not_or] at ha
    rw [List.cons_append, tickPairs_of_ne (Ne.symm ha.1), ih ha.2, Position.advance_cons]

/-- Where backticks of one text do not meet those of the next, each has its own pairs. -/
theorem tickPairs_append {a b : List Char} (hb : b.head? ≠ some tick) (p : Position) :
    tickPairs p (a ++ b) = tickPairs p a ++ tickPairs (p.advance a) b := by
  induction p, a using tickPairs.induct with
  | case1 p c c' a htick ih =>
    obtain ⟨rfl, rfl⟩ := htick
    rw [List.cons_append, List.cons_append, tickPairs_pair, tickPairs_pair, List.cons_append, ih,
      ← Position.advance_append]
    rfl
  | case2 p c c' a htick ih =>
    rw [List.cons_append, List.cons_append, tickPairs, if_neg htick, tickPairs, if_neg htick,
      Position.advance_cons]
    exact ih
  | case3 a p hshort =>
    match a with
    | [] => rfl
    | [c] =>
      by_cases hc : c = tick
      · rw [hc, List.singleton_append, tickPairs_lone hb, ← Position.next_eq_advance]
        rfl
      · rw [List.singleton_append, tickPairs_of_ne hc, ← Position.next_eq_advance]
        rfl
    | c :: c' :: a => exact (hshort c c' a rfl).elim

theorem tickPairs_append_line (p : Position) (a b : List Char) :
    tickPairs p (a ++ '\n' :: b) = tickPairs p a ++ tickPairs ((p.advance a).next '\n') b := by
  have hhead : ('\n' :: b).head? ≠ some tick := by simp [tick]
  rw [tickPairs_append hhead, tickPairs_of_ne (by decide)]

/-- The pairs of a text come one behind the other, and all lie in it. -/
theorem pairwise_tickPairs (p : Position) (cs : List Char) :
    (tickPairs p cs).Pairwise (fun q r => q.offset < r.offset) ∧
      ∀ q ∈ tickPairs p cs, p.offset ≤ q.offset ∧ q.offset < p.offset + byteLength cs := by
  induction p, cs using tickPairs.induct with
  | case1 p c c' cs htick ih =>
    obtain ⟨rfl, rfl⟩ := htick
    obtain ⟨hpairwise, hin⟩ := ih
    have hbytes : byteLength [tick, tick] = 2 := rfl
    rw [tickPairs_pair, List.pairwise_cons, List.forall_mem_cons]
    simp only [Position.offset_advance, byteLength_cons, hbytes] at hin ⊢
    have hsize : tick.utf8Size = 1 := rfl
    refine ⟨⟨fun q hq => ?_, hpairwise⟩, by omega, fun q hq => ?_⟩
    · have := hin q hq
      omega
    · have := hin q hq
      omega
  | case2 p c c' cs htick ih =>
    rw [tickPairs, if_neg htick]
    refine ⟨ih.1, fun q hq => ?_⟩
    have hq := ih.2 q hq
    rw [Position.next_eq_advance, Position.offset_advance] at hq
    simp only [byteLength_cons] at hq ⊢
    have hnil : byteLength [] = 0 := rfl
    omega
  | case3 cs p hshort =>
    match cs with
    | [] => exact ⟨List.Pairwise.nil, fun _ hq => nomatch hq⟩
    | [_] => exact ⟨List.Pairwise.nil, fun _ hq => nomatch hq⟩
    | c :: c' :: cs => exact (hshort c c' cs rfl).elim

/-- How many pairs there are does not depend on where the text starts. -/
theorem length_tickPairs (p q : Position) (cs : List Char) :
    (tickPairs p cs).length = (tickPairs q cs).length := by
  induction p, cs using tickPairs.induct generalizing q with
  | case1 p c c' cs htick ih =>
    rw [tickPairs, if_pos htick, tickPairs, if_pos htick, List.length_cons, List.length_cons, ih]
  | case2 p c c' cs htick ih => rw [tickPairs, if_neg htick, tickPairs, if_neg htick, ih]
  | case3 cs p hshort =>
    match cs with
    | [] => rfl
    | [_] => rfl
    | c :: c' :: cs => exact (hshort c c' cs rfl).elim

/-! ### Double backticks -/

/-- Positions taken in twos, the second one of each two behind its pair of backticks. -/
def pairUp : List Position → List (Found Unit)
  | p :: q :: rest => ⟨(), p, q.advance [tick, tick]⟩ :: pairUp rest
  | _ => []

/-- What closes double backtick code is the next pair of backticks. -/
theorem doubleTail?_cases (cs : List Char) :
    (doubleTail? cs = none ∧ ∀ p, tickPairs p cs = []) ∨
      ∃ code rest, cs = code ++ tick :: tick :: rest ∧ doubleTail? cs = some (code.length + 2) ∧
        ∀ p, tickPairs p cs =
          p.advance code :: tickPairs (p.advance (code ++ [tick, tick])) rest := by
  induction cs using doubleTail?.induct with
  | case1 => exact .inl ⟨rfl, fun _ => rfl⟩
  | case2 c cs hc ih =>
    rw [doubleTail?_of_ne hc]
    rcases ih with ⟨hnone, hpairs⟩ | ⟨code, rest, rfl, hsome, hpairs⟩
    · rw [hnone]
      exact .inl ⟨rfl, fun p => by rw [tickPairs_of_ne hc, hpairs]⟩
    · rw [hsome]
      refine .inr ⟨c :: code, rest, rfl, rfl, fun p => ?_⟩
      rw [tickPairs_of_ne hc, hpairs, List.cons_append, Position.advance_cons,
        Position.advance_cons]
  | case3 c hc =>
    obtain rfl := Decidable.not_not.mp hc
    exact .inl ⟨rfl, fun _ => rfl⟩
  | case4 c hc cs =>
    obtain rfl := Decidable.not_not.mp hc
    exact .inr ⟨[], cs, rfl, doubleTail?_pair cs, fun p => tickPairs_pair p cs⟩
  | case5 c hc c' cs hc' ih =>
    obtain rfl := Decidable.not_not.mp hc
    have hskip (p : Position) :
        tickPairs p (tick :: c' :: cs) = tickPairs (p.advance [tick, c']) cs := by
      have hhead : (c' :: cs).head? ≠ some tick := fun h => hc' (Option.some.inj h)
      rw [tickPairs_lone hhead, tickPairs_of_ne hc', Position.advance_cons,
        ← Position.next_eq_advance]
    rw [doubleTail?_tick_of_ne hc']
    rcases ih with ⟨hnone, hpairs⟩ | ⟨code, rest, rfl, hsome, hpairs⟩
    · rw [hnone]
      exact .inl ⟨rfl, fun p => by rw [hskip, hpairs]⟩
    · rw [hsome]
      refine .inr ⟨tick :: c' :: code, rest, rfl, rfl, fun p => ?_⟩
      rw [hskip, hpairs, ← Position.advance_append, ← Position.advance_append]
      rfl

/-- One more backtick in front makes one more pair at most. -/
theorem pairUp_tickPairs_tick {cs : List Char} (h : ∀ p, tickPairs p cs = []) (p : Position) :
    pairUp (tickPairs p (tick :: cs)) = [] := by
  by_cases hhead : cs.head? = some tick
  · obtain ⟨cs, rfl⟩ := List.head?_eq_some_iff.mp hhead
    -- A third backtick in a row would have been in a pair before.
    have hhead' : cs.head? ≠ some tick := by
      intro hhead'
      obtain ⟨cs, rfl⟩ := List.head?_eq_some_iff.mp hhead'
      have hpair := h p
      rw [tickPairs_pair] at hpair
      exact List.cons_ne_nil _ _ hpair
    have hpairs : tickPairs (p.advance [tick, tick]) cs = [] := by
      rw [← List.length_eq_zero_iff, length_tickPairs _ (p.next tick), ← tickPairs_lone hhead', h]
      rfl
    rw [tickPairs_pair, hpairs]
    rfl
  · rw [tickPairs_lone hhead, h]
    rfl

/-- The double backtick code of a text lies between its pairs of backticks taken in twos. -/
theorem findAllFrom_doubleSpan? (p : Position) (cs : List Char) :
    findAllFrom doubleSpan? 0 p cs = pairUp (tickPairs p cs) := by
  induction hlength : cs.length using Nat.strongRecOn generalizing p cs with
  | ind n ih =>
    subst hlength
    have hrest {c : Char} {rest : List Char} (hcs : cs = c :: rest)
        (hnone : doubleSpan? (c :: rest) = none)
        (htick : tickPairs p cs = tickPairs (p.next c) rest) :
        findAllFrom doubleSpan? 0 p cs = pairUp (tickPairs p cs) := by
      rw [htick, hcs, findAllFrom_of_none hnone]
      exact ih _ (by simp [hcs]) _ _ rfl
    match cs with
    | [] => rfl
    | [c] => exact hrest rfl rfl (by by_cases hc : c = tick <;> rfl)
    | c :: c' :: cs =>
      by_cases htick : c = tick ∧ c' = tick
      · obtain ⟨rfl, rfl⟩ := htick
        rcases doubleTail?_cases cs with ⟨hnone, hpairs⟩ | ⟨code, rest, rfl, hsome, hpairs⟩
        · -- No second pair follows, here or anywhere behind.
          have hfail : doubleSpan? (tick :: tick :: cs) = none := by
            rw [doubleSpan?_pair, hnone]
            rfl
          rw [findAllFrom_of_none hfail, ih _ (by simp) _ _ rfl, pairUp_tickPairs_tick hpairs,
            tickPairs_pair, hpairs]
          rfl
        · -- The next pair closes, and the search goes on behind it.
          obtain ⟨m, hm⟩ : ∃ m, m = tick :: tick :: (code ++ [tick, tick]) := ⟨_, rfl⟩
          have hcut : tick :: tick :: (code ++ tick :: tick :: rest) = m ++ rest := by simp [hm]
          have hmatch : doubleSpan? (m ++ rest) = some ⟨(), m.length⟩ := by
            rw [← hcut, doubleSpan?_pair, hsome]
            simp [hm]
          have hne : m ≠ [] := by simp [hm]
          have hadvance :
              p.advance m = (p.advance [tick, tick]).advance (code ++ [tick, tick]) := by
            rw [hm, ← Position.advance_append]
            rfl
          rw [tickPairs_pair, hpairs, hcut, findAllFrom_of_some hne hmatch,
            ih _ (by simp; omega) _ _ rfl, pairUp, hadvance, Position.advance_append _ code]
      · refine hrest rfl (if_neg htick) ?_
        rw [tickPairs, if_neg htick]

theorem pairUp_append {xs : List Position} (h : xs.length % 2 = 0) (ys : List Position) :
    pairUp (xs ++ ys) = pairUp xs ++ pairUp ys := by
  induction xs using pairUp.induct with
  | case1 p q rest ih =>
    have heven : rest.length % 2 = 0 := by
      rw [List.length_cons, List.length_cons] at h
      omega
    rw [List.cons_append, List.cons_append, pairUp, pairUp, ih heven, List.cons_append]
  | case2 xs hshort =>
    match xs with
    | [] => rfl
    | [_] => exact absurd h Nat.one_ne_zero
    | p :: q :: xs => exact (hshort p q xs rfl).elim

theorem length_flatMap_even {α : Type} {xs : List α} {f : α → List Position}
    (h : ∀ x ∈ xs, (f x).length % 2 = 0) : (xs.flatMap f).length % 2 = 0 := by
  induction xs with
  | nil => rfl
  | cons x xs ih =>
    rw [List.forall_mem_cons] at h
    have ih := ih h.2
    rw [List.flatMap_cons, List.length_append]
    omega

theorem pairUp_flatMap {α : Type} {xs : List α} {f : α → List Position}
    (h : ∀ x ∈ xs, (f x).length % 2 = 0) :
    pairUp (xs.flatMap f) = xs.flatMap fun x => pairUp (f x) := by
  induction xs with
  | nil => rfl
  | cons x xs ih =>
    rw [List.forall_mem_cons] at h
    rw [List.flatMap_cons, List.flatMap_cons, pairUp_append h.1, ih h.2]

theorem start_mem_of_mem_pairUp {xs : List Position} {f : Found Unit} (h : f ∈ pairUp xs) :
    f.start ∈ xs := by
  induction xs using pairUp.induct with
  | case1 p q rest ih =>
    rw [pairUp, List.mem_cons] at h
    rcases h with rfl | h
    · exact List.mem_cons_self ..
    · exact List.mem_cons_of_mem _ (List.mem_cons_of_mem _ (ih h))
  | case2 xs hshort =>
    match xs with
    | [] => exact nomatch h
    | [_] => exact nomatch h
    | p :: q :: xs => exact (hshort p q xs rfl).elim

/-- A position with an odd number of others before it starts nothing. -/
theorem start_mem_of_odd {xs ys : List Position} {q : Position} (hodd : xs.length % 2 = 1)
    {f : Found Unit} (h : f ∈ pairUp (xs ++ q :: ys)) : f.start ∈ xs ∨ f.start ∈ ys := by
  induction xs using pairUp.induct with
  | case1 p r rest ih =>
    have hrest : rest.length % 2 = 1 := by
      rw [List.length_cons, List.length_cons] at hodd
      omega
    rw [List.cons_append, List.cons_append, pairUp, List.mem_cons] at h
    rcases h with rfl | h
    · exact .inl (List.mem_cons_self ..)
    · exact (ih hrest h).imp_left fun hmem => List.mem_cons_of_mem _ (List.mem_cons_of_mem _ hmem)
  | case2 xs hshort =>
    match xs with
    | [] => exact absurd hodd (by decide)
    | [p] =>
      rw [List.singleton_append, pairUp, List.mem_cons] at h
      rcases h with rfl | h
      · exact .inl (List.mem_cons_self ..)
      · exact .inr (start_mem_of_mem_pairUp h)
    | p :: r :: xs => exact (hshort p r xs rfl).elim

/-! ### Single backticks -/

theorem singleSpan?_of_ne {c : Char} (hc : c ≠ tick) (cs : List Char) :
    singleSpan? (c :: cs) = none := by
  simp [singleSpan?, hc]

/-- A text without backticks is passed over. -/
theorem findAllFrom_singleSpan?_plain {text : List Char} (h : tick ∉ text) (p : Position)
    (rest : List Char) :
    findAllFrom singleSpan? 0 p (text ++ rest) =
      findAllFrom singleSpan? 0 (p.advance text) rest := by
  refine findAllFrom_append_of_none ?_ p
  rintro c u v rfl
  exact singleSpan?_of_ne (fun hc => h (by simp [hc])) _

/-- A text on one line between two backticks is found. -/
theorem findAllFrom_singleSpan?_code {code : List Char} (hne : code ≠ []) (htick : tick ∉ code)
    (hbreak : '\n' ∉ code) (p : Position) (rest : List Char) :
    findAllFrom singleSpan? 0 p (tick :: code ++ tick :: rest) =
      ⟨(), p, p.advance (tick :: code ++ [tick])⟩ ::
        findAllFrom singleSpan? 0 (p.advance (tick :: code ++ [tick])) rest := by
  have hcut : tick :: code ++ tick :: rest = (tick :: code ++ [tick]) ++ rest := by simp
  have hmatch : singleSpan? ((tick :: code ++ [tick]) ++ rest) =
      some ⟨(), (tick :: code ++ [tick]).length⟩ :=
    singleSpan?_eq_some_iff.mpr ⟨code, rest, by simp, hne, htick, hbreak, by simp⟩
  rw [hcut, findAllFrom_of_some (by simp) hmatch]

/-- What follows a line feed plays no part in what is matched before it. -/
theorem singleSpan?_append_line (a b : List Char) :
    singleSpan? (a ++ '\n' :: b) = singleSpan? a := by
  refine Option.ext fun found => ?_
  rw [singleSpan?_eq_some_iff, singleSpan?_eq_some_iff]
  constructor
  · rintro ⟨code, rest, hcs, hne, htick, hbreak, hlength⟩
    have hcut : a ++ '\n' :: b = (tick :: (code ++ [tick])) ++ rest := by simp [hcs]
    refine ⟨code, ?_⟩
    rcases List.append_eq_append_iff.mp hcut with ⟨more, hmore, hline⟩ | ⟨more, rfl, -⟩
    · cases more with
      | nil => exact ⟨[], by simpa using hmore.symm, hne, htick, hbreak, hlength⟩
      | cons c more =>
        -- The match would hold the line feed.
        obtain ⟨rfl, -⟩ := List.cons.inj hline
        have hmem : '\n' ∈ tick :: (code ++ [tick]) := by simp [hmore]
        simp [hbreak, tick] at hmem
    · exact ⟨more, by simp, hne, htick, hbreak, hlength⟩
  · rintro ⟨code, rest, rfl, hne, htick, hbreak, hlength⟩
    exact ⟨code, rest ++ '\n' :: b, by simp, hne, htick, hbreak, hlength⟩

/-- Each line has its own single backtick code. -/
theorem findAllFrom_singleSpan?_line (p : Position) (a b : List Char) :
    findAllFrom singleSpan? 0 p (a ++ '\n' :: b) =
      findAllFrom singleSpan? 0 p a ++ findAllFrom singleSpan? 0 ((p.advance a).next '\n') b := by
  have hcut (x : List Char) (_ : x ≠ []) (_ : x <:+ a) :
      singleSpan? (x ++ '\n' :: b) = singleSpan? x := singleSpan?_append_line x b
  rw [proper_singleSpan?.findAllFrom_append hcut,
    findAllFrom_of_none (singleSpan?_of_ne (by decide) b)]

/-- What follows a second backtick plays no part in what is matched from the first one on. -/
theorem singleSpan?_append_of_mem {cs : List Char} (h : tick ∈ cs) (c : Char) (b : List Char) :
    singleSpan? (c :: cs ++ b) = singleSpan? (c :: cs) := by
  obtain ⟨code, rest, rfl, hcode, hstop⟩ :=
    exists_longest (fun c => decide (c ≠ tick ∧ c ≠ '\n')) cs
  cases rest with
  | nil =>
    rw [List.append_nil] at h
    exact absurd rfl (of_decide_eq_true (hcode tick h)).1
  | cons d rest =>
    have hstop' : ∀ e, (d :: (rest ++ b)).head? = some e →
        decide (e ≠ tick ∧ e ≠ '\n') = false := fun e he => hstop e he
    simp only [List.cons_append, List.append_assoc, singleSpan?,
      takeWhile_append_of_stop hcode hstop, takeWhile_append_of_stop hcode hstop', List.drop_left,
      List.head?_cons]

/-- No match reaches over a point between two backticks. -/
theorem findAllFrom_singleSpan?_pair (p : Position) (a b : List Char) :
    findAllFrom singleSpan? 0 p (a ++ tick :: tick :: b) =
      findAllFrom singleSpan? 0 p (a ++ [tick]) ++
        findAllFrom singleSpan? 0 (p.advance (a ++ [tick])) (tick :: b) := by
  have hcut (x : List Char) (hne : x ≠ []) (hx : x <:+ a ++ [tick]) :
      singleSpan? (x ++ tick :: b) = singleSpan? x := by
    obtain ⟨ahead, hahead⟩ := hx
    obtain ⟨c, cs, rfl⟩ := List.exists_cons_of_ne_nil hne
    by_cases hcs : cs = []
    · simp [hcs, singleSpan?]
    · -- The backtick in front of the point ends every match that starts before it.
      have hlast : cs.getLast? = some tick := by
        have hend : (a ++ [tick]).getLast? = some tick := by simp
        rw [← hahead, List.getLast?_append_of_ne_nil _ hne,
          List.getLast?_cons_of_ne_nil hcs] at hend
        exact hend
      exact singleSpan?_append_of_mem (List.mem_of_mem_getLast? hlast) c _
  rw [← proper_singleSpan?.findAllFrom_append hcut, List.append_assoc]
  rfl

end CodeSpan

end WikiNotes
