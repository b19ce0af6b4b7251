import Mathlib.Data.List.Pairwise
import WikiNotes.Text.Position

/-! # Searching a text from left to right

`findAll` goes through a text once: where the pattern fails it moves on by one character, where it
matches it moves on behind the match.  `Proper.findAllFrom_induction` is the induction along these
steps.  It gives the three facts that say what is found:

* what is found is a match in its place (`Proper.exists_of_mem`);
* a match is found unless it starts inside one that is found (`Proper.mem_or_inside`);
* what is found lies one behind the other (`Proper.pairwise_findAllFrom`).

If no match starts inside another one, every match is found (`Proper.findAllFrom_eq_matchesFrom`). -/

namespace WikiNotes.Text

/-! ### Lengths and positions -/

theorem byteLength_cons (c : Char) (cs : List Char) :
    byteLength (c :: cs) = c.utf8Size + byteLength cs := rfl

theorem byteLength_append (a b : List Char) :
    byteLength (a ++ b) = byteLength a + byteLength b := by
  induction a with
  | nil => simp [byteLength]
  | cons c a ih => rw [List.cons_append, byteLength_cons, byteLength_cons, ih, Nat.add_assoc]

theorem byteLength_pos {cs : List Char} (h : cs ≠ []) : 0 < byteLength cs := by
  cases cs with
  | nil => exact absurd rfl h
  | cons c cs => exact Nat.lt_of_lt_of_le c.utf8Size_pos (Nat.le_add_right ..)

theorem lineFeeds_append (a b : List Char) : lineFeeds (a ++ b) = lineFeeds a + lineFeeds b :=
  List.count_append

/-- Of two beginnings of a text the shorter one has fewer bytes. -/
theorem byteLength_lt_iff {a b rest rest' : List Char} (h : a ++ rest = b ++ rest') :
    byteLength a < byteLength b ↔ a.length < b.length := by
  rcases List.append_eq_append_iff.mp h with ⟨more, rfl, -⟩ | ⟨more, rfl, -⟩
  · rw [byteLength_append, List.length_append]
    by_cases hmore : more = []
    · simp [hmore, byteLength]
    · have hbytes := byteLength_pos hmore
      have hlength := List.length_pos_iff.mpr hmore
      omega
  · rw [byteLength_append, List.length_append]
    omega

theorem byteLength_le_iff {a b rest rest' : List Char} (h : a ++ rest = b ++ rest') :
    byteLength a ≤ byteLength b ↔ a.length ≤ b.length := by
  rw [← Nat.not_lt, byteLength_lt_iff h.symm, Nat.not_lt]

namespace Position

theorem advance_append (p : Position) (a b : List Char) :
    p.advance (a ++ b) = (p.advance a).advance b := by
  simp only [advance, byteLength_append, lineFeeds_append, Nat.add_assoc]

theorem next_eq_advance (p : Position) (c : Char) : p.next c = p.advance [c] := by
  by_cases hc : c = '\n'
  · simp [next, advance, byteLength, lineFeeds, hc]
  · simp [next, advance, byteLength, lineFeeds, hc]

theorem advance_cons (p : Position) (c : Char) (cs : List Char) :
    p.advance (c :: cs) = (p.next c).advance cs := by
  rw [next_eq_advance, ← advance_append, List.singleton_append]

theorem offset_advance (p : Position) (cs : List Char) :
    (p.advance cs).offset = p.offset + byteLength cs := rfl

/-- A position in front of or behind part of a text. -/
def In (p : Position) (cs : List Char) : Prop := ∃ a, a <+: cs ∧ p = start.advance a

end Position

/-! ### Steps of the search -/

section Search

variable {α : Type} {pattern : List Char → Option (Match α)}

/-- What already belongs to a match is passed over. -/
theorem findAllFrom_skip (pattern : List Char → Option (Match α)) (p : Position)
    (m rest : List Char) :
    findAllFrom pattern m.length p (m ++ rest) = findAllFrom pattern 0 (p.advance m) rest := by
  induction m generalizing p with
  | nil => rfl
  | cons c m ih => rw [Position.advance_cons, ← ih]; rfl

theorem findAllFrom_of_none {c : Char} {cs : List Char} (h : pattern (c :: cs) = none)
    (p : Position) : findAllFrom pattern 0 p (c :: cs) = findAllFrom pattern 0 (p.next c) cs := by
  rw [findAllFrom, h]

theorem findAllFrom_of_some {m rest : List Char} {value : α} (hne : m ≠ [])
    (h : pattern (m ++ rest) = some ⟨value, m.length⟩) (p : Position) :
    findAllFrom pattern 0 p (m ++ rest) =
      ⟨value, p, p.advance m⟩ :: findAllFrom pattern 0 (p.advance m) rest := by
  cases m with
  | nil => exact absurd rfl hne
  | cons c m =>
    rw [List.cons_append] at h ⊢
    rw [findAllFrom, h]
    dsimp only
    rw [← List.cons_append, List.take_left, List.length_cons, Nat.add_sub_cancel, findAllFrom_skip,
      Position.advance_cons]

/-- Where the pattern fails all along, nothing is found. -/
theorem findAllFrom_append_of_none {a rest : List Char}
    (h : ∀ c u v, a = u ++ c :: v → pattern (c :: (v ++ rest)) = none) (p : Position) :
    findAllFrom pattern 0 p (a ++ rest) = findAllFrom pattern 0 (p.advance a) rest := by
  induction a generalizing p with
  | nil => rfl
  | cons c a ih =>
    have htail : ∀ d u v, a = u ++ d :: v → pattern (d :: (v ++ rest)) = none := by
      rintro d u v rfl
      exact h d (c :: u) v rfl
    rw [List.cons_append, findAllFrom_of_none (h c [] a rfl), ih htail, Position.advance_cons]

/-- A pattern whose matches are not empty and lie in the text. -/
def Proper (pattern : List Char → Option (Match α)) : Prop :=
  ∀ cs found, pattern cs = some found → 0 < found.length ∧ found.length ≤ cs.length

/-- A match cuts a text into the matched part and the rest. -/
theorem Proper.exists_append (h : Proper pattern) {cs : List Char} {found : Match α}
    (hmatch : pattern cs = some found) :
    ∃ m rest, m ≠ [] ∧ cs = m ++ rest ∧ pattern (m ++ rest) = some ⟨found.value, m.length⟩ := by
  obtain ⟨hpos, hle⟩ := h _ _ hmatch
  have htake : (cs.take found.length).length = found.length := List.length_take_of_le hle
  refine ⟨cs.take found.length, cs.drop found.length, ?_, ?_, ?_⟩
  · rw [← List.length_pos_iff, htake]
    exact hpos
  · exact (List.take_append_drop ..).symm
  · rw [List.take_append_drop, htake, hmatch]

/-- The induction along a search: the text ends, the pattern fails, or it matches. -/
theorem Proper.findAllFrom_induction (h : Proper pattern)
    {motive : Position → List Char → List (Found α) → Prop}
    (nil : ∀ p, motive p [] [])
    (fail : ∀ p c cs founds, pattern (c :: cs) = none → motive (p.next c) cs founds →
      motive p (c :: cs) founds)
    (find : ∀ p value m rest founds, m ≠ [] → pattern (m ++ rest) = some ⟨value, m.length⟩ →
      motive (p.advance m) rest founds →
        motive p (m ++ rest) (⟨value, p, p.advance m⟩ :: founds))
    (p : Position) (cs : List Char) : motive p cs (findAllFrom pattern 0 p cs) := by
  induction hlength : cs.length using Nat.strongRecOn generalizing p cs with
  | ind n ih =>
    cases cs with
    | nil => exact nil p
    | cons c cs =>
      cases hmatch : pattern (c :: cs) with
      | none =>
        rw [findAllFrom_of_none hmatch]
        exact fail p c cs _ hmatch (ih _ (by simp [← hlength]) _ _ rfl)
      | some found =>
        obtain ⟨m, rest, hne, hcut, hmatch⟩ := h.exists_append hmatch
        have hshorter : rest.length < n := by
          have hpos := List.length_pos_iff.mpr hne
          rw [← hlength, hcut, List.length_append]
          omega
        rw [hcut, findAllFrom_of_some hne hmatch]
        exact find p found.value m rest _ hne hmatch (ih _ hshorter _ _ rfl)

/-- Where no match reaches over a point of a text, what is found behind it does not depend on what
    stands before it. -/
theorem Proper.findAllFrom_append (h : Proper pattern) {a b : List Char}
    (hcut : ∀ x, x ≠ [] → x <:+ a → pattern (x ++ b) = pattern x) (p : Position) :
    findAllFrom pattern 0 p (a ++ b) =
      findAllFrom pattern 0 p a ++ findAllFrom pattern 0 (p.advance a) b := by
  revert hcut
  refine h.findAllFrom_induction (motive := fun p a founds =>
    (∀ x, x ≠ [] → x <:+ a → pattern (x ++ b) = pattern x) →
      findAllFrom pattern 0 p (a ++ b) = founds ++ findAllFrom pattern 0 (p.advance a) b)
    ?nil ?fail ?find p a
  case nil => exact fun _ _ => rfl
  case fail =>
    intro p c cs founds hfail ih hcut
    have hfail' := (hcut _ (List.cons_ne_nil c cs) List.suffix_rfl).trans hfail
    have htail := ih fun x hne hx => hcut x hne (hx.trans (List.suffix_cons c cs))
    rw [List.cons_append] at hfail' ⊢
    rw [findAllFrom_of_none hfail', htail, Position.advance_cons]
  case find =>
    intro p value m rest founds hne hmatch ih hcut
    have hne' : m ++ rest ≠ [] := by simp [hne]
    have hmatch' := (hcut _ hne' List.suffix_rfl).trans hmatch
    have htail := ih fun x hne hx => hcut x hne (hx.trans (List.suffix_append m rest))
    rw [List.append_assoc] at hmatch' ⊢
    rw [findAllFrom_of_some hne hmatch', htail, Position.advance_append, List.cons_append]

/-! ### What is found -/

/-- What is found is a match of the pattern in its place. -/
theorem Proper.exists_of_mem (h : Proper pattern) {p : Position} {cs : List Char} {f : Found α}
    (hf : f ∈ findAllFrom pattern 0 p cs) :
    ∃ a m b, cs = a ++ m ++ b ∧ m ≠ [] ∧ pattern (m ++ b) = some ⟨f.value, m.length⟩ ∧
      f.start = p.advance a ∧ f.stop = p.advance (a ++ m) := by
  revert f
  refine h.findAllFrom_induction (motive := fun p cs founds => ∀ {f : Found α}, f ∈ founds →
    ∃ a m b, cs = a ++ m ++ b ∧ m ≠ [] ∧ pattern (m ++ b) = some ⟨f.value, m.length⟩ ∧
      f.start = p.advance a ∧ f.stop = p.advance (a ++ m)) ?nil ?fail ?find p cs
  case nil => exact fun _ _ hf => nomatch hf
  case fail =>
    intro p c cs founds _ ih f hf
    obtain ⟨a, m, b, rfl, hne, hmatch, hstart, hstop⟩ := ih hf
    refine ⟨c :: a, m, b, rfl, hne, hmatch, ?_, ?_⟩
    · rw [hstart, Position.advance_cons]
    · rw [hstop, List.cons_append, Position.advance_cons]
  case find =>
    intro p value m rest founds hne hmatch ih f hf
    rcases List.mem_cons.mp hf with rfl | hf
    · exact ⟨[], m, rest, rfl, hne, hmatch, rfl, rfl⟩
    · obtain ⟨a, m', b, rfl, hne', hmatch', hstart, hstop⟩ := ih hf
      refine ⟨m ++ a, m', b, by simp, hne', hmatch', ?_, ?_⟩
      · rw [hstart, Position.advance_append]
      · rw [hstop, List.append_assoc, Position.advance_append p m]

/-- What is found is not empty and lies in the text. -/
theorem Proper.within (h : Proper pattern) {p : Position} {cs : List Char} {f : Found α}
    (hf : f ∈ findAllFrom pattern 0 p cs) :
    p.offset ≤ f.start.offset ∧ f.start.offset < f.stop.offset ∧
      f.stop.offset ≤ p.offset + byteLength cs := by
  obtain ⟨a, m, b, rfl, hne, -, hstart, hstop⟩ := h.exists_of_mem hf
  have hpos := byteLength_pos hne
  simp only [hstart, hstop, Position.offset_advance, byteLength_append]
  omega

/-- Where something is found the pattern matches. -/
theorem Proper.match_of_start (h : Proper pattern) {p : Position} {a rest : List Char}
    {f : Found α} (hf : f ∈ findAllFrom pattern 0 p (a ++ rest))
    (hstart : f.start.offset = (p.advance a).offset) :
    ∃ found, pattern rest = some found := by
  obtain ⟨a', m, b, hcut, -, hmatch, hstart', -⟩ := h.exists_of_mem hf
  rw [List.append_assoc] at hcut
  have hbytes : byteLength a' = byteLength a := by
    rw [hstart'] at hstart
    exact Nat.add_left_cancel hstart
  have hlength : a.length = a'.length :=
    Nat.le_antisymm ((byteLength_le_iff hcut).mp (Nat.le_of_eq hbytes.symm))
      ((byteLength_le_iff hcut.symm).mp (Nat.le_of_eq hbytes))
  rw [(List.append_inj hcut hlength).2]
  exact ⟨_, hmatch⟩

/-- What is found lies one behind the other, from the start of the search on. -/
theorem Proper.pairwise_findAllFrom (h : Proper pattern) (p : Position) (cs : List Char) :
    (∀ f ∈ findAllFrom pattern 0 p cs, p.offset ≤ f.start.offset) ∧
      (findAllFrom pattern 0 p cs).Pairwise fun f g => f.stop.offset ≤ g.start.offset := by
  refine h.findAllFrom_induction (motive := fun p _ founds =>
    (∀ f ∈ founds, p.offset ≤ f.start.offset) ∧
      founds.Pairwise fun f g => f.stop.offset ≤ g.start.offset) ?nil ?fail ?find p cs
  case nil => exact fun _ => ⟨(fun _ hf => nomatch hf), List.Pairwise.nil⟩
  case fail =>
    intro p c cs founds _ ⟨hfrom, hpairwise⟩
    exact ⟨fun f hf => Nat.le_trans (Nat.le_add_right ..) (hfrom f hf), hpairwise⟩
  case find =>
    intro p value m rest founds _ _ ⟨hfrom, hpairwise⟩
    refine ⟨?_, List.pairwise_cons.mpr ⟨hfrom, hpairwise⟩⟩
    rw [List.forall_mem_cons]
    exact ⟨Nat.le_refl _, fun f hf => Nat.le_trans (Nat.le_add_right ..) (hfrom f hf)⟩

/-- What is found further on is not on an earlier line. -/
theorem Proper.pairwise_line (h : Proper pattern) (p : Position) (cs : List Char) :
    (findAllFrom pattern 0 p cs).Pairwise fun f g => f.start.line ≤ g.start.line := by
  refine (h.pairwise_findAllFrom p cs).2.imp_of_mem fun {f g} hf hg hfg => ?_
  obtain ⟨a, m, b, hcut, -, -, hstart, -⟩ := h.exists_of_mem hf
  obtain ⟨a', m', b', hcut', -, -, hstart', -⟩ := h.exists_of_mem hg
  have hwithin := (h.within hf).2.1
  rw [List.append_assoc] at hcut hcut'
  have hle : byteLength a ≤ byteLength a' := by
    simp only [hstart, hstart', Position.offset_advance] at hwithin hfg
    omega
  have hfront : a <+: a' := List.prefix_of_prefix_length_le ⟨_, hcut.symm⟩ ⟨_, hcut'.symm⟩
    ((byteLength_le_iff (hcut.symm.trans hcut')).mp hle)
  rw [hstart, hstart']
  exact Nat.add_le_add_left (hfront.sublist.count_le '\n') p.line

/-- Two matches that are found and share a byte are the same. -/
theorem Proper.eq_of_overlap (h : Proper pattern) {p : Position} {cs : List Char} {f g : Found α}
    (hf : f ∈ findAllFrom pattern 0 p cs) (hg : g ∈ findAllFrom pattern 0 p cs)
    (hfg : f.start.offset < g.stop.offset) (hgf : g.start.offset < f.stop.offset) : f = g := by
  by_contra hne
  have : Std.Symm fun f g : Found α =>
      f.stop.offset ≤ g.start.offset ∨ g.stop.offset ≤ f.start.offset := ⟨fun _ _ => Or.symm⟩
  have hpairwise : (findAllFrom pattern 0 p cs).Pairwise fun f g =>
      f.stop.offset ≤ g.start.offset ∨ g.stop.offset ≤ f.start.offset :=
    (h.pairwise_findAllFrom p cs).2.imp Or.inl
  have hapart := hpairwise.forall hf hg hne
  omega

/-- Of two matches that are found the one that starts first ends before the other one starts. -/
theorem Proper.stop_le_of_start_lt (h : Proper pattern) {p : Position} {cs : List Char}
    {f g : Found α} (hf : f ∈ findAllFrom pattern 0 p cs) (hg : g ∈ findAllFrom pattern 0 p cs)
    (hlt : f.start.offset < g.start.offset) : f.stop.offset ≤ g.start.offset := by
  by_contra hle
  have hnonempty := h.within hg
  obtain rfl := h.eq_of_overlap hf hg (by omega) (by omega)
  exact Nat.lt_irrefl _ hlt

/-- A match is found unless it starts inside one that is found. -/
theorem Proper.mem_or_inside (h : Proper pattern) (p : Position) {a m b : List Char} {value : α}
    (hne : m ≠ []) (hmatch : pattern (m ++ b) = some ⟨value, m.length⟩) :
    ⟨value, p.advance a, p.advance (a ++ m)⟩ ∈ findAllFrom pattern 0 p (a ++ m ++ b) ∨
      ∃ a' m' b' value', a' ++ m' ++ b' = a ++ m ++ b ∧
        pattern (m' ++ b') = some ⟨value', m'.length⟩ ∧
        ⟨value', p.advance a', p.advance (a' ++ m')⟩ ∈ findAllFrom pattern 0 p (a ++ m ++ b) ∧
        a'.length < a.length ∧ a.length < a'.length + m'.length := by
  generalize hcs : a ++ m ++ b = cs
  revert a
  refine h.findAllFrom_induction (motive := fun p cs founds => ∀ {a}, a ++ m ++ b = cs →
    ⟨value, p.advance a, p.advance (a ++ m)⟩ ∈ founds ∨
      ∃ a' m' b' value', a' ++ m' ++ b' = cs ∧ pattern (m' ++ b') = some ⟨value', m'.length⟩ ∧
        ⟨value', p.advance a', p.advance (a' ++ m')⟩ ∈ founds ∧
        a'.length < a.length ∧ a.length < a'.length + m'.length)
    ?nil ?fail ?find p cs
  case nil =>
    intro p a hcs
    simp [hne] at hcs
  case fail =>
    intro p c cs founds hfail ih a hcs
    cases a with
    | nil =>
      rw [List.nil_append] at hcs
      rw [hcs, hfail] at hmatch
      exact nomatch hmatch
    | cons d a =>
      rw [List.append_assoc, List.cons_append, List.cons.injEq, ← List.append_assoc] at hcs
      obtain ⟨rfl, hcs⟩ := hcs
      rw [List.cons_append, Position.advance_cons, Position.advance_cons]
      refine (ih hcs).imp_right ?_
      rintro ⟨a', m', b', value', rfl, hmatch', hmem, hbefore, hbehind⟩
      refine ⟨d :: a', m', b', value', rfl, hmatch', ?_, ?_⟩
      · rwa [List.cons_append, Position.advance_cons, Position.advance_cons]
      · simp only [List.length_cons]
        omega
  case find =>
    intro p value₀ m₀ rest founds hne₀ hmatch₀ ih a hcs
    rw [List.append_assoc] at hcs
    by_cases hbehind : m₀.length ≤ a.length
    · -- The match lies behind the one that was found.
      obtain ⟨a, rfl⟩ : m₀ <+: a :=
        List.prefix_of_prefix_length_le ⟨rest, rfl⟩ ⟨m ++ b, hcs⟩ hbehind
      rw [List.append_assoc, List.append_cancel_left_eq, ← List.append_assoc] at hcs
      rw [List.append_assoc m₀, Position.advance_append, Position.advance_append p m₀]
      refine (ih hcs).imp (List.mem_cons_of_mem _) ?_
      rintro ⟨a', m', b', value', rfl, hmatch', hmem, hbefore, hbehind'⟩
      refine ⟨m₀ ++ a', m', b', value', by simp, hmatch', ?_, ?_⟩
      · rw [List.append_assoc, Position.advance_append, Position.advance_append p m₀]
        exact List.mem_cons_of_mem _ hmem
      · simp only [List.length_append]
        omega
    · by_cases hnil : a = []
      · -- It is the one that was found.
        rw [hnil, List.nil_append] at hcs
        rw [hcs, hmatch₀, Option.some.injEq, Match.mk.injEq] at hmatch
        obtain ⟨rfl, hlength⟩ := hmatch
        obtain ⟨rfl, -⟩ := List.append_inj hcs hlength.symm
        rw [hnil]
        exact .inl (List.mem_cons_self ..)
      · refine .inr ⟨[], m₀, rest, value₀, rfl, hmatch₀, List.mem_cons_self .., ?_, ?_⟩
        · exact List.length_pos_iff.mpr hnil
        · rw [List.length_nil]
          omega

/-! ### Where no match starts inside another one -/

/-- The match of a pattern at a place of a text. -/
def matchAt? (pattern : List Char → Option (Match α)) (p : Position) (cs : List Char) (i : Nat) :
    Option (Found α) :=
  (pattern (cs.drop i)).map fun m =>
    ⟨m.value, p.advance (cs.take i), p.advance (cs.take (i + m.length))⟩

theorem matchAt?_succ (p : Position) (c : Char) (cs : List Char) (i : Nat) :
    matchAt? pattern p (c :: cs) (i + 1) = matchAt? pattern (p.next c) cs i := by
  have htake (n : Nat) : p.advance ((c :: cs).take (n + 1)) = (p.next c).advance (cs.take n) := by
    rw [List.take_succ_cons, Position.advance_cons]
  simp only [matchAt?, List.drop_succ_cons, Nat.add_right_comm i 1, htake]

/-- The matches of a pattern at all places of a text, in order, overlapping ones included. -/
def matchesFrom (pattern : List Char → Option (Match α)) (p : Position) (cs : List Char) :
    List (Found α) :=
  (List.range cs.length).filterMap (matchAt? pattern p cs)

theorem matchesFrom_cons (p : Position) (c : Char) (cs : List Char) :
    matchesFrom pattern p (c :: cs) =
      (matchAt? pattern p (c :: cs) 0).toList ++ matchesFrom pattern (p.next c) cs := by
  have htail : matchAt? pattern p (c :: cs) ∘ Nat.succ = matchAt? pattern (p.next c) cs :=
    funext fun i => matchAt?_succ p c cs i
  rw [matchesFrom, List.length_cons, List.range_succ_eq_map, List.filterMap_cons,
    List.filterMap_map, htail, matchesFrom]
  cases matchAt? pattern p (c :: cs) 0 <;> rfl

/-- Where the pattern fails all along there are no matches. -/
theorem matchesFrom_append_of_none {a rest : List Char}
    (h : ∀ c u v, a = u ++ c :: v → pattern (c :: (v ++ rest)) = none) (p : Position) :
    matchesFrom pattern p (a ++ rest) = matchesFrom pattern (p.advance a) rest := by
  induction a generalizing p with
  | nil => rfl
  | cons c a ih =>
    have hhead : matchAt? pattern p (c :: (a ++ rest)) 0 = none := by
      rw [matchAt?, List.drop_zero, h c [] a rfl, Option.map_none]
    have htail : ∀ d u v, a = u ++ d :: v → pattern (d :: (v ++ rest)) = none := by
      rintro d u v rfl
      exact h d (c :: u) v rfl
    rw [List.cons_append, matchesFrom_cons, hhead, ih htail, Position.advance_cons]
    rfl

/-- If no match starts inside another one, the search passes over none. -/
theorem Proper.findAllFrom_eq_matchesFrom (h : Proper pattern)
    (hinside : ∀ a c b value, a ≠ [] →
      pattern (a ++ c :: b) = some value → a.length < value.length → pattern (c :: b) = none)
    (p : Position) (cs : List Char) : findAllFrom pattern 0 p cs = matchesFrom pattern p cs := by
  refine h.findAllFrom_induction
    (motive := fun p cs founds => founds = matchesFrom pattern p cs) ?nil ?fail ?find p cs
  case nil => exact fun _ => rfl
  case fail =>
    intro p c cs founds hfail ih
    have hhead : matchAt? pattern p (c :: cs) 0 = none := by
      rw [matchAt?, List.drop_zero, hfail, Option.map_none]
    rw [matchesFrom_cons, hhead, ih]
    rfl
  case find =>
    intro p value m rest founds hne hmatch ih
    obtain ⟨c, m, rfl⟩ := List.exists_cons_of_ne_nil hne
    have hhead : matchAt? pattern p (c :: (m ++ rest)) 0 =
        some ⟨value, p, p.advance (c :: m)⟩ := by
      rw [matchAt?, List.drop_zero, ← List.cons_append, hmatch, Option.map_some, Nat.zero_add,
        List.take_left]
      rfl
    have htail : ∀ d u v, m = u ++ d :: v → pattern (d :: (v ++ rest)) = none := by
      rintro d u v rfl
      have hcut : c :: (u ++ d :: v) ++ rest = (c :: u) ++ d :: (v ++ rest) := by simp
      rw [hcut] at hmatch
      exact hinside (c :: u) d (v ++ rest) _ (List.cons_ne_nil c u) hmatch (by simp)
    rw [List.cons_append, matchesFrom_cons, hhead, matchesFrom_append_of_none htail, ih,
      Position.advance_cons]
    rfl

end Search

end WikiNotes.Text
