import BindingNames.Proofs.Text.Segments
import Mathlib.Data.List.Basic

/-!
# Texts line by line

The lines of a text are what stands between its line feeds. What replaces a line feed goes between
the lines, so whatever follows the line feed in it begins every line but the first. To replace a
blank and a line feed by a line feed takes one blank from the end of every line but the last: no two
of these occurrences overlap, and a blank that was not at the end of a line does not get there.
-/

namespace BindingNames.Text

variable {line s : List Char} {ls : List (List Char)}

def lines (s : List Char) : List (List Char) := s.splitOn '\n'

def joinLines (ls : List (List Char)) : List Char := ['\n'].intercalate ls

@[simp] theorem joinLines_singleton (line : List Char) : joinLines [line] = line := by
  simp [joinLines]

theorem joinLines_cons (line : List Char) (filled : ls ≠ []) :
    joinLines (line :: ls) = line ++ '\n' :: joinLines ls := by
  obtain ⟨next, ls, rfl⟩ := List.exists_cons_of_ne_nil filled
  simp [joinLines, List.intercalate_cons_cons]

theorem joinLines_append_cons (start line : List Char) (ls : List (List Char)) :
    joinLines ((start ++ line) :: ls) = start ++ joinLines (line :: ls) := by
  cases ls with
  | nil => simp
  | cons next ls => simp [joinLines_cons]

@[simp] theorem joinLines_lines (s : List Char) : joinLines (lines s) = s :=
  List.intercalate_splitOn '\n'

theorem lines_ne_nil (s : List Char) : lines s ≠ [] := List.splitOn_ne_nil '\n' s

/-- At least one line, and no line feed inside of any. -/
structure IsLines (ls : List (List Char)) : Prop where
  filled : ls ≠ []
  clear : ∀ line ∈ ls, '\n' ∉ line

theorem IsLines.lines_joinLines (h : IsLines ls) : lines (joinLines ls) = ls :=
  List.splitOn_intercalate '\n' h.clear h.filled

theorem joinLines_inj {ms : List (List Char)} (left : IsLines ls) (right : IsLines ms) :
    joinLines ls = joinLines ms ↔ ls = ms := by
  refine ⟨fun same => ?_, congrArg joinLines⟩
  rw [← left.lines_joinLines, same, right.lines_joinLines]

theorem isLines_lines (s : List Char) : IsLines (lines s) := by
  refine ⟨lines_ne_nil s, ?_⟩
  induction s with
  | nil => simp [lines]
  | cons c rest inductionHypothesis =>
    obtain ⟨first, others, parts⟩ := List.exists_cons_of_ne_nil (lines_ne_nil rest)
    have cut : lines (c :: rest) =
        if c == '\n' then [] :: lines rest else (lines rest).modifyHead (c :: ·) :=
      List.splitOn_cons_eq_if_modifyHead c rest
    rw [cut]
    by_cases newline : c = '\n'
    · simpa [newline] using inductionHypothesis
    · rw [parts] at inductionHypothesis
      simpa [newline, parts, Ne.symm newline] using inductionHypothesis

theorem IsLines.tail {line next : List Char} (h : IsLines (line :: next :: ls)) :
    '\n' ∉ line ∧ IsLines (next :: ls) :=
  ⟨h.clear line List.mem_cons_self, List.cons_ne_nil next ls,
    fun later member => h.clear later (List.mem_cons_of_mem line member)⟩

theorem IsLines.single (h : IsLines [line]) : '\n' ∉ line := h.clear line List.mem_cons_self

/-- Induction over the lines of a text: the last one alone, and a line before others. -/
@[elab_as_elim]
theorem IsLines.induct {motive : (ls : List (List Char)) → IsLines ls → Prop}
    (last : ∀ line (alone : IsLines [line]), motive [line] alone)
    (more : ∀ line next ls (lined : IsLines (line :: next :: ls)),
      motive (next :: ls) lined.tail.2 → motive (line :: next :: ls) lined)
    (ls : List (List Char)) (lined : IsLines ls) : motive ls lined := by
  induction ls with
  | nil => exact absurd rfl lined.filled
  | cons line ls inductionHypothesis =>
    cases ls with
    | nil => exact last line lined
    | cons next ls => exact more line next ls lined (inductionHypothesis lined.tail.2)

/-- Puts a mark in front of every line but the first. -/
def markLines (mark : List Char) : List (List Char) → List (List Char)
  | [] => []
  | first :: later => first :: later.map (mark ++ ·)

theorem IsLines.markLines {mark : List Char} (clear : '\n' ∉ mark) (lined : IsLines ls) :
    IsLines (markLines mark ls) := by
  cases ls with
  | nil => exact absurd rfl lined.filled
  | cons first later =>
    obtain ⟨here, further⟩ := List.forall_mem_cons.mp lined.clear
    refine ⟨List.cons_ne_nil _ _, List.forall_mem_cons.mpr ⟨here, fun marked member => ?_⟩⟩
    obtain ⟨line, listed, rfl⟩ := List.mem_map.mp member
    simpa [clear] using further line listed

theorem replace_newline (mark : List Char) (lined : IsLines ls) :
    replace ['\n'] ('\n' :: mark) (joinLines ls) = joinLines (markLines mark ls) := by
  induction ls, lined using IsLines.induct with
  | last line alone =>
    rw [joinLines_singleton, replace_of_not_mem _ (by simp) alone.single, markLines,
      List.map_nil, joinLines_singleton]
  | more line next ls lined inductionHypothesis =>
    obtain ⟨clear, later⟩ := lined.tail
    rw [replace, markLines] at inductionHypothesis
    rw [replace, joinLines_cons line later.filled, substitute_append_of_not_mem clear,
      substitute_cons_match (by simp) rfl, List.length_singleton, Nat.sub_self, List.drop_zero,
      inductionHypothesis, markLines, List.map_cons, joinLines_cons line (List.cons_ne_nil _ _),
      joinLines_append_cons, List.cons_append]

/-- The line without the blank that it ends with, if any. -/
def dropEndBlank (line : List Char) : List Char :=
  if line.getLast? = some ' ' then line.dropLast else line

@[simp] theorem dropEndBlank_nil : dropEndBlank [] = [] := rfl

theorem dropEndBlank_append (start : List Char) (filled : line ≠ []) :
    dropEndBlank (start ++ line) = start ++ dropEndBlank line := by
  rw [dropEndBlank, dropEndBlank, List.getLast?_append_of_ne_nil _ filled,
    List.dropLast_append_of_ne_nil filled]
  split <;> rfl

theorem dropEndBlank_begins (line : List Char) : dropEndBlank line <+: line := by
  unfold dropEndBlank
  split
  · exact List.dropLast_prefix line
  · exact List.prefix_rfl

theorem dropEndBlank_eq_self_iff : dropEndBlank line = line ↔ line.getLast? ≠ some ' ' := by
  unfold dropEndBlank
  split
  next blank =>
    have filled : line ≠ [] := by
      rintro rfl
      simp at blank
    have shorter : line.dropLast ≠ line := by
      intro same
      have length := congrArg List.length same
      rw [List.length_dropLast] at length
      have positive := List.length_pos_iff.mpr filled
      omega
    simp [shorter, blank]
  next free => simp [free]

/-- Every line but the last loses the blank that it ends with, if any. -/
def dropEndBlanks : List (List Char) → List (List Char)
  | [] => []
  | [last] => [last]
  | line :: next :: ls => dropEndBlank line :: dropEndBlanks (next :: ls)

theorem IsLines.dropEndBlanks (lined : IsLines ls) : IsLines (dropEndBlanks ls) := by
  induction ls, lined using IsLines.induct with
  | last line alone => exact alone
  | more line next ls lined inductionHypothesis =>
    have cleared : '\n' ∉ dropEndBlank line :=
      fun member => lined.tail.1 ((dropEndBlank_begins line).subset member)
    exact ⟨List.cons_ne_nil _ _, List.forall_mem_cons.mpr ⟨cleared, inductionHypothesis.clear⟩⟩

/-- The blank before a line feed is the last character of its line. -/
theorem replace_blank_newline_append (clear : '\n' ∉ line) (rest : List Char) :
    replace [' ', '\n'] ['\n'] (line ++ '\n' :: rest) =
      dropEndBlank line ++ '\n' :: replace [' ', '\n'] ['\n'] rest := by
  induction line with
  | nil => exact substitute_cons_skip rfl
  | cons c line inductionHypothesis =>
    have later := inductionHypothesis (List.not_mem_of_not_mem_cons clear)
    cases line with
    | nil =>
      by_cases blank : c = ' '
      · subst blank
        exact substitute_cons_match (by simp) rfl
      · have kept : dropEndBlank [c] = [c] := dropEndBlank_eq_self_iff.mpr (by simpa using blank)
        have skipped : replace [' ', '\n'] ['\n'] (c :: '\n' :: rest) =
            c :: replace [' ', '\n'] ['\n'] ('\n' :: rest) :=
          substitute_cons_skip (by simp [List.isPrefixOf, Ne.symm blank])
        simpa [kept, skipped] using later
    | cons d line =>
      have next : d ≠ '\n' := fun same => clear (by simp [same])
      have skipped : replace [' ', '\n'] ['\n'] (c :: d :: line ++ '\n' :: rest) =
          c :: replace [' ', '\n'] ['\n'] (d :: line ++ '\n' :: rest) :=
        substitute_cons_skip (by simp [List.isPrefixOf, Ne.symm next])
      have kept : dropEndBlank (c :: d :: line) = c :: dropEndBlank (d :: line) :=
        dropEndBlank_append [c] (List.cons_ne_nil d line)
      rw [skipped, later, kept, List.cons_append]

theorem replace_blank_newline (lined : IsLines ls) :
    replace [' ', '\n'] ['\n'] (joinLines ls) = joinLines (dropEndBlanks ls) := by
  induction ls, lined using IsLines.induct with
  | last line alone =>
    rw [joinLines_singleton, replace_of_not_mem _ (by simp) alone.single, dropEndBlanks,
      joinLines_singleton]
  | more line next ls lined inductionHypothesis =>
    obtain ⟨clear, later⟩ := lined.tail
    rw [joinLines_cons line later.filled, replace_blank_newline_append clear,
      inductionHypothesis, dropEndBlanks, joinLines_cons _ later.dropEndBlanks.filled]

/-- Nothing is dropped just if no line but the last ends with a blank. -/
theorem dropEndBlanks_eq_self_iff :
    dropEndBlanks ls = ls ↔ ∀ line ∈ ls.dropLast, line.getLast? ≠ some ' ' := by
  induction ls with
  | nil => simp [dropEndBlanks]
  | cons line ls inductionHypothesis =>
    cases ls with
    | nil => simp [dropEndBlanks]
    | cons next ls =>
      rw [dropEndBlanks, List.cons_eq_cons, dropEndBlank_eq_self_iff, inductionHypothesis,
        List.dropLast_cons_cons, List.forall_mem_cons]

/-- The text ends as its last line does, unless that is empty. -/
theorem getLast?_joinLines {c : Char} (last : line ∈ ls.getLast?) (ends : line.getLast? = some c) :
    (joinLines ls).getLast? = some c := by
  induction ls with
  | nil => simp at last
  | cons first ls inductionHypothesis =>
    cases ls with
    | nil =>
      obtain rfl : first = line := by simpa using last
      simpa using ends
    | cons next ls =>
      rw [List.getLast?_cons_cons] at last
      rw [joinLines_cons first (List.cons_ne_nil next ls), List.getLast?_append,
        List.getLast?_cons, inductionHypothesis last]
      rfl

end BindingNames.Text
