import BindingNames.Proofs.Text.Pieces
import BindingNames.Proofs.Text.Segments
import BindingNames.Rename

/-!
# Patterns of rename rules

A pattern is cut at its placeholders, and the new name is its parts joined by the old one. So the
number of parts decides what a rule does: one part is the new name itself, two stand around the old
name, and more of them repeat it.
-/

namespace BindingNames.Rename

open Text

/-- The parts of a pattern between its placeholders. -/
def parts (pattern : String) : List (List Char) := pieces placeholder.toList pattern.toList

theorem apply_eq_intercalate (pattern name : String) :
    (apply ⟨some pattern⟩ name).toList = name.toList.intercalate (parts pattern) := by
  rw [apply, String.toList_ofList, replace_eq_intercalate, parts]

theorem intercalate_parts (pattern : String) :
    placeholder.toList.intercalate (parts pattern) = pattern.toList :=
  intercalate_pieces (by decide) pattern.toList

/-- A pattern without a placeholder is the new name itself. -/
theorem apply_of_absent {pattern : String} (absent : ¬placeholder.toList <:+: pattern.toList)
    (name : String) : apply ⟨some pattern⟩ name = pattern := by
  have uncut : parts pattern = [pattern.toList] := pieces_of_absent absent
  apply String.toList_injective
  rw [apply_eq_intercalate, uncut, List.intercalate_singleton]

/-- A pattern takes the place of the name, wraps it once, or repeats it. -/
theorem apply_cases (pattern name : String) :
    apply ⟨some pattern⟩ name = pattern ∨
      (∃ before after, pattern = before ++ placeholder ++ after ∧
        apply ⟨some pattern⟩ name = before ++ name ++ after) ∨
      ∃ before between after, (apply ⟨some pattern⟩ name).toList =
        before ++ name.toList ++ between ++ name.toList ++ after := by
  have applied := apply_eq_intercalate pattern name
  have joined := intercalate_parts pattern
  match listed : parts pattern with
  | [] => exact absurd listed (pieces_ne_nil _ _)
  | [only] =>
    refine .inl (String.toList_injective ?_)
    rw [applied, ← joined, listed, List.intercalate_singleton, List.intercalate_singleton]
  | [before, after] =>
    refine .inr (.inl ⟨String.ofList before, String.ofList after, ?_, ?_⟩)
    · apply String.toList_injective
      simp [← joined, listed, List.intercalate_cons_cons]
    · apply String.toList_injective
      simp [applied, listed, List.intercalate_cons_cons]
  | before :: between :: next :: others =>
    refine .inr (.inr ⟨before, between, name.toList.intercalate (next :: others), ?_⟩)
    simp [applied, listed, List.intercalate_cons_cons]

theorem toList_placeholder : placeholder.toList = ['\x7b', '0', '\x7d'] := by decide

theorem replace_append_of_brace_not_mem {before : List Char} (plain : '\x7b' ∉ before)
    (name rest : List Char) : replace placeholder.toList name (before ++ rest) =
      before ++ replace placeholder.toList name rest := by
  rw [toList_placeholder]
  exact substitute_append_of_not_mem plain rest

theorem replace_of_brace_not_mem {text : List Char} (plain : '\x7b' ∉ text) (name : List Char) :
    replace placeholder.toList name text = text := by
  simpa using replace_append_of_brace_not_mem plain name []

/-- A pattern without an opening brace has no placeholder. -/
theorem apply_of_brace_not_mem {pattern : String} (plain : '\x7b' ∉ pattern.toList)
    (name : String) : apply ⟨some pattern⟩ name = pattern :=
  apply_of_absent (fun found => plain (found.subset (by decide))) name

theorem apply_wrapping {before after : String} (left : '\x7b' ∉ before.toList)
    (right : '\x7b' ∉ after.toList) (name : String) :
    apply ⟨some (before ++ placeholder ++ after)⟩ name = before ++ name ++ after := by
  have wrapped := calc
    replace placeholder.toList name.toList (placeholder.toList ++ after.toList)
    _ = name.toList ++ replace placeholder.toList name.toList after.toList := by
      rw [toList_placeholder]
      exact substitute_cons_match rfl rfl
    _ = name.toList ++ after.toList := by rw [replace_of_brace_not_mem right]
  apply String.toList_injective
  simp only [apply, String.toList_ofList, String.toList_append, List.append_assoc,
    replace_append_of_brace_not_mem left, wrapped]

end BindingNames.Rename
