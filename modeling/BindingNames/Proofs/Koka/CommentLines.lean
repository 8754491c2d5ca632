import BindingNames.Proofs.Koka.References
import BindingNames.Proofs.Text.Lines
import BindingNames.Proofs.Text.Pieces

/-!
# Comments line by line

Without rules and without a common beginning a comment has the lines of the trimmed markdown, each
but the first behind the comment mark, and each but the last without the blank that it may end with;
of a mark alone this blank is its own. So the markdown can be read back from the comment exactly
where no blank was lost with a line of its own, and a blank at the end of the last line has been
trimmed before.
-/

namespace BindingNames.Text

open Unicode

/-- A trimmed text ends with no blank character. -/
theorem isBlank_getLast?_trim {s : List Char} {c : Char} (last : (trim s).getLast? = some c) :
    isBlank c = false := by
  rw [trim, trimEnd, trimStart, List.getLast?_reverse] at last
  have checked := List.head?_dropWhile_not isBlank (trimStart s).reverse
  rw [last] at checked
  exact checked

/-- The last line of a trimmed text is no line that loses a blank. -/
theorem dropEndBlanks_lines_trim_iff (s : List Char) :
    dropEndBlanks (lines (trim s)) = lines (trim s) ↔
      ∀ line ∈ lines (trim s), line.getLast? ≠ some ' ' := by
  obtain ⟨front, last, parts⟩ :=
    (List.eq_nil_or_concat (lines (trim s))).resolve_left (lines_ne_nil _)
  have solid : last.getLast? ≠ some ' ' := by
    intro ends
    have whole : (joinLines (lines (trim s))).getLast? = some ' ' :=
      getLast?_joinLines (by simp [parts]) ends
    rw [joinLines_lines] at whole
    exact absurd (isBlank_getLast?_trim whole) (by decide)
  rw [dropEndBlanks_eq_self_iff, parts, List.concat_eq_append, List.dropLast_concat,
    List.forall_mem_append, List.forall_mem_singleton, and_iff_left solid]

end BindingNames.Text

namespace BindingNames.Koka

open Text

/-- The lines of a comment, from those of the text in it. -/
def commentedLines (ls : List (List Char)) : List (List Char) :=
  dropEndBlanks (markLines ['/', '/', ' '] ls)

/-- A line of a comment without its mark, which may stand alone. -/
def unmarked : List Char → List Char
  | ['/', '/'] => []
  | '/' :: '/' :: ' ' :: line => line
  | line => line

/-- Takes the mark off every line but the first. -/
def unmarkedLines : List (List Char) → List (List Char)
  | [] => []
  | first :: later => first :: later.map unmarked

/-- The text in a comment. -/
def uncommented (text : List Char) : List Char := joinLines (unmarkedLines (lines text))

theorem isLines_markLines {ls : List (List Char)} (lined : IsLines ls) :
    IsLines (markLines ['/', '/', ' '] ls) :=
  lined.markLines (by decide)

theorem commentLines_eq_joinLines (s : List Char) :
    commentLines s = joinLines (commentedLines (lines (trim s))) := by
  have lined := isLines_lines (trim s)
  have marked := replace_newline ['/', '/', ' '] lined
  rw [joinLines_lines] at marked
  rw [commentLines, marked, replace_blank_newline (isLines_markLines lined), commentedLines]

theorem unmarked_dropEndBlank (line : List Char) :
    unmarked (dropEndBlank (['/', '/', ' '] ++ line)) = dropEndBlank line := by
  cases line with
  | nil => rfl
  | cons c line =>
    rw [dropEndBlank_append _ (List.cons_ne_nil c line)]
    rfl

theorem map_unmarked_dropEndBlanks (ls : List (List Char)) :
    (dropEndBlanks (ls.map (['/', '/', ' '] ++ ·))).map unmarked = dropEndBlanks ls := by
  induction ls with
  | nil => rfl
  | cons line ls inductionHypothesis =>
    cases ls with
    | nil => rfl
    | cons next ls =>
      rw [List.map_cons, List.map_cons, dropEndBlanks, ← List.map_cons, List.map_cons,
        unmarked_dropEndBlank, inductionHypothesis, dropEndBlanks]

/-- The marks are all that can be taken off; the blanks stay lost. -/
theorem unmarkedLines_commentedLines (ls : List (List Char)) :
    unmarkedLines (commentedLines ls) = dropEndBlanks ls := by
  match ls with
  | [] => rfl
  | [_] => rfl
  | first :: next :: ls =>
    have later := map_unmarked_dropEndBlanks (next :: ls)
    rw [List.map_cons] at later
    rw [commentedLines, markLines, List.map_cons, dropEndBlanks, unmarkedLines, later,
      dropEndBlanks]

/-- The text in a comment is what was commented just if no line of it ended with a blank. -/
theorem uncommented_commentLines_iff (s : List Char) :
    uncommented (commentLines s) = trim s ↔
      ∀ line ∈ lines (trim s), line.getLast? ≠ some ' ' := by
  have lined := isLines_lines (trim s)
  have cut : lines (commentLines s) = commentedLines (lines (trim s)) := by
    rw [commentLines_eq_joinLines]
    exact (isLines_markLines lined).dropEndBlanks.lines_joinLines
  have whole := joinLines_inj lined.dropEndBlanks lined
  rw [joinLines_lines] at whole
  rw [uncommented, cut, unmarkedLines_commentedLines, whole, dropEndBlanks_lines_trim_iff]

namespace Speller

variable {s : Speller}

/-- To drop a beginning of no characters changes nothing. -/
theorem stripReferences_of_unshared (unshared : ∀ beginning ∈ s.sharedBeginning, beginning = "")
    (text : List Char) : s.stripReferences text = text := by
  unfold stripReferences
  split
  next beginning given =>
    obtain rfl := unshared beginning given
    exact replace_self (List.cons_ne_nil _ _) text
  next => rfl

theorem comment_of_unshared
    (unruled : ∀ entry ∈ s.exports.all, entry.2.entity.rename.isEmpty = true)
    (unshared : ∀ beginning ∈ s.sharedBeginning, beginning = "") (d : Documentation) :
    s.comment d = (d.markdown s.site).map
      (fun markdown => String.ofList (commentLines markdown.toList)) := by
  simp only [comment_of_isEmpty unruled, stripReferences_of_unshared unshared]

/-- Without rules and a common beginning a comment fails just as the markdown does. Otherwise it is
the trimmed markdown line by line, marked and without the blanks before line feeds, and this can be
read back from it if and only if there were no such blanks. -/
theorem comment_line_by_line
    (unruled : ∀ entry ∈ s.exports.all, entry.2.entity.rename.isEmpty = true)
    (unshared : ∀ beginning ∈ s.sharedBeginning, beginning = "") (d : Documentation) :
    (∀ cause, d.markdown s.site = .error cause → s.comment d = .error cause) ∧
    ∀ markdown, d.markdown s.site = .ok markdown →
      ∃ text, s.comment d = .ok text ∧
        text.toList = joinLines (commentedLines (lines (trim markdown.toList))) ∧
        (uncommented text.toList = trim markdown.toList ↔
          ∀ line ∈ lines (trim markdown.toList), line.getLast? ≠ some ' ') := by
  have written := comment_of_unshared unruled unshared d
  refine ⟨fun cause fails => ?_, fun markdown given => ?_⟩
  · rw [written, fails]
    rfl
  · refine ⟨String.ofList (commentLines markdown.toList), ?_, ?_, ?_⟩
    · rw [written, given]
      rfl
    · rw [String.toList_ofList, commentLines_eq_joinLines]
    · rw [String.toList_ofList]
      exact uncommented_commentLines_iff markdown.toList

/-- A type without a rule, and a common beginning that is empty. -/
def unruled : Speller where
  exports := { handles := [{ name := "Foo" }] }
  sharedBeginning := some ""

/-- Blank lines and blanks at the beginning of a line are read back; at its end they are lost, one
of two, and a line of one blank is a blank line then. -/
theorem comment_line_by_line_blanks :
    (∃ text, unruled.comment { text := " Of \x60Foo\x60:\n\n  indented \n" } = .ok text ∧
      uncommented text.toList = "Of \x60Foo\x60:\n\n  indented".toList) ∧
    ∃ text, unruled.comment { text := "Of \x60Foo\x60:  \n \nlast" } = .ok text ∧
      text.toList = "Of \x60Foo\x60: \n// \n// last".toList ∧
      uncommented text.toList ≠ "Of \x60Foo\x60:  \n \nlast".toList := by
  have ruleless : ∀ entry ∈ unruled.exports.all, entry.2.entity.rename.isEmpty = true := by
    decide +kernel
  have nothing : ∀ beginning ∈ unruled.sharedBeginning, beginning = "" := by decide
  have given (prose : String) :
      ({ text := prose } : Documentation).markdown unruled.site = .ok prose := rfl
  constructor
  · obtain ⟨text, written, -, back⟩ := (comment_line_by_line ruleless nothing
      { text := " Of \x60Foo\x60:\n\n  indented \n" }).2 _ (given _)
    have trimmed : trim " Of \x60Foo\x60:\n\n  indented \n".toList =
        "Of \x60Foo\x60:\n\n  indented".toList := by
      decide +kernel
    rw [trimmed] at back
    exact ⟨text, written, back.mpr (by decide)⟩
  · obtain ⟨text, written, parts, back⟩ := (comment_line_by_line ruleless nothing
      { text := "Of \x60Foo\x60:  \n \nlast" }).2 _ (given _)
    have trimmed : trim "Of \x60Foo\x60:  \n \nlast".toList =
        "Of \x60Foo\x60:  \n \nlast".toList := by
      decide +kernel
    rw [trimmed] at parts back
    refine ⟨text, written, parts.trans (by decide), fun same => ?_⟩
    exact absurd (back.mp same) (by decide)

end Speller

end BindingNames.Koka
