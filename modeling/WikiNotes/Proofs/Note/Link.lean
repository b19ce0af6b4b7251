import WikiNotes.Note.Link
import WikiNotes.Proofs.Text.Blank

/-! # Targets of links that were read

The target of a link that was read from a text is trimmed and not empty, so looking it up trims
nothing away. -/

namespace WikiNotes

open Text

namespace Link

theorem trimmed?_eq_some {cs : List Char} {s : String} (h : trimmed? cs = some s) :
    s.toList = trimChars cs ∧ s ≠ "" := by
  simp only [trimmed?] at h
  split at h
  case isTrue => exact nomatch h
  case isFalse hempty =>
    obtain rfl := Option.some.inj h
    refine ⟨String.toList_ofList, fun heq => hempty ?_⟩
    have hnil := congrArg String.toList heq
    rw [String.toList_ofList] at hnil
    rw [hnil]
    rfl

theorem mem_outside {code : List CodeSpan} {cs : List Char} {link : Link} :
    link ∈ outside code cs ↔
      ∃ found ∈ Text.findAll linkAt? cs, CodeSpan.covers code found.start.offset = false ∧
        ofFound? found = some link := by
  simp only [outside, List.mem_filterMap, List.mem_filter, Bool.not_eq_true', and_assoc]

theorem ofFound?_eq_some {found : Found Written} {link : Link} (h : ofFound? found = some link) :
    link.target.toList = trimChars found.value.target ∧ link.target ≠ "" ∧
      link.line = found.start.line := by
  obtain ⟨target, htarget, rfl⟩ := Option.map_eq_some_iff.mp h
  exact ⟨(trimmed?_eq_some htarget).1, (trimmed?_eq_some htarget).2, rfl⟩

/-- The target of a link that was read is trimmed and not empty. -/
theorem target_of_mem_ofText {content : String} {link : Link} (h : link ∈ ofText content) :
    trim link.target = link.target ∧ link.target ≠ "" := by
  obtain ⟨found, -, -, hlink⟩ := mem_outside.mp h
  obtain ⟨htarget, hne, -⟩ := ofFound?_eq_some hlink
  refine ⟨?_, hne⟩
  rw [trim_eq_self_iff, htarget]
  exact stripWhile_stripWhile ..

end Link

end WikiNotes
