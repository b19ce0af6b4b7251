import WikiNotes.Proofs.Note.Segment
import WikiNotes.Proofs.Note.WrittenLink

/-! # Links and plain text in turn

A passage is made of pieces, each a link with plain text in front of it, and of plain text behind
the last one.  If the links are written with trimmed parts and nothing in the passage is a mark of
code, reading it gives back the links, in order and each with the line of its opening brackets
(`Link.ofText_passage`).  A reference that is typed by a user is cut into the same parts as a
link. -/

namespace WikiNotes

open Text

namespace Link

/-! ### Pieces of a passage -/

/-- A link that comes back as it is written: its target and heading are trimmed, and there is no mark
    of code in it.  It may go on over several lines. -/
structure Written.Clean (w : Written) : Prop extends w.WellFormed where
  target_trimmed : trimChars w.target = w.target
  heading_trimmed : ∀ part ∈ w.heading, trimChars part = part
  plain : ∀ c ∈ w.body, ¬ CodeSpan.IsMark c

theorem Written.clean_iff {w : Written} :
    w.Clean ↔ (w.target ≠ [] ∧ w.target.all isTargetChar = true) ∧
      (w.heading ≠ some [] ∧ w.heading.all (·.all isHeadingChar) = true) ∧
      (w.label ≠ some [] ∧ w.label.all (·.all (· != ']')) = true) ∧
      trimChars w.target = w.target ∧ w.heading.all (fun part => trimChars part = part) = true ∧
      w.body.all (fun c => ¬ CodeSpan.IsMark c) = true := by
  simp only [List.all_eq_true, Option.all_eq_true, decide_eq_true_eq]
  constructor
  · intro h
    exact ⟨⟨h.target_ne, h.target_chars⟩, ⟨h.heading_ne, h.heading_chars⟩,
      ⟨h.label_ne, h.label_chars⟩, h.target_trimmed, h.heading_trimmed, h.plain⟩
  · rintro ⟨⟨htarget, htargetChars⟩, ⟨hheading, hheadingChars⟩, ⟨hlabel, hlabelChars⟩, hclean⟩
    exact ⟨⟨htarget, htargetChars, hheading, hheadingChars, hlabel, hlabelChars⟩, hclean.1,
      hclean.2.1, hclean.2.2⟩

instance (w : Written) : Decidable w.Clean := decidable_of_iff _ Written.clean_iff.symm

/-- Text without marks of code and without the characters that open a link. -/
def IsPlain (cs : List Char) : Prop := ∀ c ∈ cs, ¬ CodeSpan.IsMark c ∧ c ≠ '[' ∧ c ≠ '!'

instance : DecidablePred IsPlain := fun cs => List.decidableBAll _ cs

/-- A link with the plain text in front of it. -/
structure Piece where
  plain : List Char
  link : Written

namespace Piece

/-- A piece as it is written. -/
def text (x : Piece) : List Char := x.plain ++ x.link.text

structure WellFormed (x : Piece) : Prop where
  plain : IsPlain x.plain
  link : x.link.Clean

/-- What is found of a piece that starts at a position. -/
def found (p : Position) (x : Piece) : Found Written :=
  ⟨x.link, p.advance x.plain, p.advance x.text⟩

/-- The link of a piece that starts at a position. -/
def read (p : Position) (x : Piece) : Link where
  target := String.ofList x.link.target
  heading := x.link.heading.map String.ofList
  label := x.link.label.map String.ofList
  embed := x.link.embed
  line := (p.advance x.plain).line

end Piece

/-! ### What is found -/

/-- A link opens with a bracket or an exclamation mark. -/
theorem linkAt?_of_ne {c : Char} (hbracket : c ≠ '[') (hmark : c ≠ '!') (cs : List Char) :
    linkAt? (c :: cs) = none := by
  rw [Option.eq_none_iff_forall_ne_some]
  intro found hfound
  obtain ⟨-, ⟨rest, htext⟩, -⟩ := linkAt?_eq_some_iff.mp hfound
  rw [Written.text, Written.opening] at htext
  split at htext
  · exact hmark (List.cons.inj htext).1.symm
  · exact hbracket (List.cons.inj htext).1.symm

/-- Plain text is passed over. -/
theorem findAllFrom_linkAt?_plain {plain : List Char} (h : IsPlain plain) (p : Position)
    (rest : List Char) :
    findAllFrom linkAt? 0 p (plain ++ rest) = findAllFrom linkAt? 0 (p.advance plain) rest := by
  refine findAllFrom_append_of_none (fun c u v hplain => ?_) p
  obtain ⟨-, hbracket, hmark⟩ := h c (by simp [hplain])
  exact linkAt?_of_ne hbracket hmark _

/-- A written link is found, and the search goes on behind it. -/
theorem findAllFrom_linkAt?_text {w : Written} (h : w.WellFormed) (p : Position)
    (rest : List Char) :
    findAllFrom linkAt? 0 p (w.text ++ rest) =
      ⟨w, p, p.advance w.text⟩ :: findAllFrom linkAt? 0 (p.advance w.text) rest := by
  have hne : w.text ≠ [] := by simp [Written.text]
  have hmatch : linkAt? (w.text ++ rest) = some ⟨w, w.text.length⟩ :=
    linkAt?_eq_some_iff.mpr ⟨h, List.prefix_append .., rfl⟩
  exact findAllFrom_of_some hne hmatch p

variable {pieces : List Piece} {last : List Char}

/-- The links found in a passage are those that were written. -/
theorem findAllFrom_linkAt?_passage (hpieces : ∀ x ∈ pieces, x.WellFormed) (hlast : IsPlain last)
    (p : Position) :
    findAllFrom linkAt? 0 p (pieces.flatMap Piece.text ++ last) =
      (places Piece.text p pieces).map fun place => place.2.found place.1 := by
  induction pieces generalizing p with
  | nil =>
    have hpass := findAllFrom_linkAt?_plain hlast p []
    rw [List.append_nil] at hpass
    rw [List.flatMap_nil, List.nil_append, hpass]
    rfl
  | cons x pieces ih =>
    rw [List.forall_mem_cons] at hpieces
    obtain ⟨hx, hpieces⟩ := hpieces
    have hcut : (x :: pieces).flatMap Piece.text ++ last =
        x.plain ++ (x.link.text ++ (pieces.flatMap Piece.text ++ last)) := by
      simp [Piece.text]
    have hbehind : (p.advance x.plain).advance x.link.text = p.advance x.text :=
      (Position.advance_append ..).symm
    rw [hcut, findAllFrom_linkAt?_plain hx.plain, findAllFrom_linkAt?_text hx.link.toWellFormed,
      hbehind, ih hpieces]
    rfl

/-! ### What is read -/

theorem trimmed?_of_trimmed {cs : List Char} (hne : cs ≠ []) (h : trimChars cs = cs) :
    trimmed? cs = some (String.ofList cs) := by
  simp [trimmed?, h, hne]

/-- The parts of a clean link are read as they are written. -/
theorem Piece.ofFound?_found {x : Piece} (h : x.link.Clean) (p : Position) :
    ofFound? (x.found p) = some (x.read p) := by
  have htarget : trimmed? x.link.target = some (String.ofList x.link.target) :=
    trimmed?_of_trimmed h.target_ne h.target_trimmed
  have hheading : x.link.heading.bind trimmed? = x.link.heading.map String.ofList := by
    cases hpart : x.link.heading with
    | none => rfl
    | some part =>
      have hne : part ≠ [] := fun hnil => h.heading_ne (by rw [hpart, hnil])
      exact trimmed?_of_trimmed hne (h.heading_trimmed part hpart)
  simp [ofFound?, Piece.found, htarget, hheading, Piece.read]

/-- A clean link holds no mark of code, brackets included. -/
theorem Written.Clean.not_isMark {w : Written} (h : w.Clean) :
    ∀ c ∈ w.text, ¬ CodeSpan.IsMark c := by
  have hopening : ∀ c ∈ w.opening, ¬ CodeSpan.IsMark c := by
    rw [opening]
    split <;> simp [CodeSpan.IsMark, CodeSpan.tick]
  have hclosing : ∀ c ∈ [']', ']'], ¬ CodeSpan.IsMark c := by
    simp [CodeSpan.IsMark, CodeSpan.tick]
  intro c hc
  rw [text, List.mem_append, List.mem_append] at hc
  rcases hc with (hc | hc) | hc
  · exact hopening c hc
  · exact h.plain c hc
  · exact hclosing c hc

/-- There is no code in a passage. -/
theorem not_isMark_of_mem_passage (hpieces : ∀ x ∈ pieces, x.WellFormed) (hlast : IsPlain last) :
    ∀ c ∈ pieces.flatMap Piece.text ++ last, ¬ CodeSpan.IsMark c := by
  intro c hc
  rcases List.mem_append.mp hc with hc | hc
  · obtain ⟨x, hx, hc⟩ := List.mem_flatMap.mp hc
    rcases List.mem_append.mp hc with hc | hc
    · exact ((hpieces x hx).plain c hc).1
    · exact (hpieces x hx).link.not_isMark c hc
  · exact (hlast c hc).1

/-! ### References -/

theorem Written.WellFormed.ne_hash {w : Written} (h : w.WellFormed) :
    ∀ c ∈ w.target, decide (c ≠ '#') = true := by
  intro c hc
  have hchar := h.target_chars c hc
  simp only [isTargetChar, Bool.and_eq_true, bne_iff_ne] at hchar
  exact decide_eq_true hchar.2

/-- A reference to a note alone is cut into the target and no heading. -/
theorem splitTarget_target {w : Written} (h : w.Clean) :
    splitTarget (String.ofList w.target) = (String.ofList w.target, none) := by
  have hname : w.target.takeWhile (· ≠ '#') = w.target :=
    List.takeWhile_eq_self_iff.mpr h.ne_hash
  have hrest : w.target.drop (w.target.length + 1) = [] := List.drop_eq_nil_of_le (by omega)
  simp only [splitTarget, String.toList_ofList, hname, hrest, h.target_trimmed]
  rfl

/-- A reference to a heading is cut into the target and the heading. -/
theorem splitTarget_heading {w : Written} (h : w.Clean) {heading : List Char}
    (hheading : heading ∈ w.heading) :
    splitTarget (String.ofList (w.target ++ '#' :: heading)) =
      (String.ofList w.target, some (String.ofList heading)) := by
  have hname : (w.target ++ '#' :: heading).takeWhile (· ≠ '#') = w.target := by
    refine takeWhile_append_of_stop h.ne_hash fun c hc => ?_
    obtain rfl := Option.some.inj hc
    rfl
  have hrest : (w.target ++ '#' :: heading).drop (w.target.length + 1) = heading := by
    simp
  have hne : heading ≠ [] := fun hnil => h.heading_ne (hnil ▸ hheading)
  simp only [splitTarget, String.toList_ofList, hname, hrest, h.target_trimmed,
    trimmed?_of_trimmed hne (h.heading_trimmed heading hheading)]

/-! ### Reading a passage -/

/-- Reading a passage gives its links, in order and each with the line of its opening brackets, and
    a reference is cut into the parts that the link has. -/
theorem ofText_passage (hpieces : ∀ x ∈ pieces, x.WellFormed) (hlast : IsPlain last) :
    ofText (String.ofList (pieces.flatMap Piece.text ++ last)) =
        ((places Piece.text .start pieces).map fun place => place.2.read place.1) ∧
      ∀ x ∈ pieces,
        splitTarget (String.ofList x.link.target) = (String.ofList x.link.target, none) ∧
        ∀ heading ∈ x.link.heading,
          splitTarget (String.ofList (x.link.target ++ '#' :: heading)) =
            (String.ofList x.link.target, some (String.ofList heading)) := by
  refine ⟨?_, fun x hx => ?_⟩
  · have hcode := CodeSpan.findAll_eq_nil (not_isMark_of_mem_passage hpieces hlast)
    rw [ofText, String.toList_ofList, ofChars, outside, hcode, Text.findAll,
      findAllFrom_linkAt?_passage hpieces hlast]
    simp only [CodeSpan.covers, List.any_nil, Bool.not_false, List.filter_true, List.filterMap_map]
    rw [← List.filterMap_eq_map]
    refine List.filterMap_congr fun place hplace => ?_
    exact Piece.ofFound?_found (hpieces _ (mem_of_mem_places hplace)).link _
  · have hclean := (hpieces x hx).link
    exact ⟨splitTarget_target hclean, fun _ hheading => splitTarget_heading hclean hheading⟩

/-- Two links without anything between them, one with all parts and the delimiters that these may
    hold, behind closing brackets that close nothing. -/
theorem ofText_passage_adjacent :
    let full : Written :=
      ⟨true, "a[b".toList, some "x#[y".toList, some " p|#q".toList⟩
    let short : Written := ⟨false, "[".toList, none, none⟩
    let pieces : List Piece := [⟨"See ]]\n".toList, full⟩, ⟨[], short⟩]
    (∀ x ∈ pieces, x.WellFormed) ∧ IsPlain "]\n#".toList ∧
      ofText "See ]]\n![[a[b#x#[y| p|#q]][[[]]]\n#" =
        [⟨"a[b", some "x#[y", some " p|#q", true, 2⟩, ⟨"[", none, none, false, 2⟩] ∧
      splitTarget "a[b#x#[y" = ("a[b", some "x#[y") := by
  intro full short pieces
  have hfull : full.Clean := by decide
  have hshort : short.Clean := by decide
  have hpieces : ∀ x ∈ pieces, x.WellFormed := by
    simp only [pieces, List.forall_mem_cons]
    exact ⟨⟨by decide, hfull⟩, ⟨by decide, hshort⟩, nofun⟩
  have hlast : IsPlain "]\n#".toList := by decide
  obtain ⟨hread, hsplit⟩ := ofText_passage hpieces hlast
  refine ⟨hpieces, hlast, hread.trans (by decide), ?_⟩
  exact (hsplit _ (List.mem_cons_self ..)).2 _ rfl

end Link

end WikiNotes
