import Mathlib.Data.List.Basic

/-!
# Texts taken apart at a mark

Texts that are put together can be taken apart again where a mark shows the seam: at its first
occurrence, if what stands before the seam does not hold the mark.
-/

namespace BindingNames.Text

/-- What a text begins with can be taken off. -/
theorem exists_append_of_starts {beginning s : String} (starts : beginning.toList <+: s.toList) :
    ∃ rest, s = beginning ++ rest := by
  obtain ⟨rest, parts⟩ := starts
  exact ⟨String.ofList rest, String.toList_injective (by simp [← parts])⟩

variable {c : Char}

theorem append_mark_inj {a b s t : List Char} (left : c ∉ a) (right : c ∉ b) :
    a ++ c :: s = b ++ c :: t ↔ a = b ∧ s = t := by
  constructor
  · intro same
    rcases List.append_eq_append_iff.mp same with ⟨more, rfl, tail⟩ | ⟨more, rfl, tail⟩
    · cases more with
      | nil => simpa using tail
      | cons d more =>
        obtain ⟨rfl, -⟩ := List.cons.inj tail
        exact absurd (by simp) right
    · cases more with
      | nil => simpa using tail.symm
      | cons d more =>
        obtain ⟨rfl, -⟩ := List.cons.inj tail
        exact absurd (by simp) left
  · rintro ⟨rfl, rfl⟩
    rfl

/-- The mark ends the text and stands nowhere else in it. -/
def EndsAtFirst (c : Char) (s : String) : Prop := ∃ start, s.toList = start ++ [c] ∧ c ∉ start

theorem endsAtFirst_append {s mark : String} (single : mark.toList = [c]) (clear : c ∉ s.toList) :
    EndsAtFirst c (s ++ mark) :=
  ⟨s.toList, by rw [String.toList_append, single], clear⟩

theorem EndsAtFirst.append_inj {a b s t : String} (left : EndsAtFirst c a)
    (right : EndsAtFirst c b) : a ++ s = b ++ t ↔ a = b ∧ s = t := by
  obtain ⟨x, endLeft, clearLeft⟩ := left
  obtain ⟨y, endRight, clearRight⟩ := right
  simp only [← String.toList_inj, String.toList_append, endLeft, endRight, List.append_assoc,
    List.singleton_append, append_mark_inj clearLeft clearRight, and_true]

/-- The text is empty, or the mark begins it. -/
def BeginsAtMark (c : Char) (s : String) : Prop := s = "" ∨ ∃ rest, s.toList = c :: rest

theorem BeginsAtMark.append_mark {s : String} (h : BeginsAtMark c s) :
    ∃ rest, s.toList ++ [c] = c :: rest := by
  rcases h with rfl | ⟨rest, marked⟩
  · exact ⟨[], rfl⟩
  · exact ⟨rest ++ [c], by rw [marked, List.cons_append]⟩

theorem append_inj_of_beginsAtMark {a b s t : String} (left : c ∉ a.toList) (right : c ∉ b.toList)
    (later : BeginsAtMark c s) (further : BeginsAtMark c t) :
    a ++ s = b ++ t ↔ a = b ∧ s = t := by
  constructor
  · intro same
    -- with one more mark at the end, both seams are shown by a mark
    obtain ⟨x, sMarked⟩ := later.append_mark
    obtain ⟨y, tMarked⟩ := further.append_mark
    have extended : a.toList ++ c :: x = b.toList ++ c :: y := by
      rw [← sMarked, ← tMarked, ← List.append_assoc, ← List.append_assoc, ← String.toList_append,
        same, String.toList_append]
    obtain rfl := String.toList_injective ((append_mark_inj left right).mp extended).1
    exact ⟨rfl, (String.append_right_inj a).mp same⟩
  · rintro ⟨rfl, rfl⟩
    rfl

end BindingNames.Text
