import BindingNames.Identifier
import BindingNames.Proofs.Text.LowerCase

/-!
# The end of a snake form

Low lines stand only between the words of a snake form, and no word is empty or lost in lower case.
So a snake form never ends with a low line, and the one that escapes a reserved word can always be
told from the name: escaping merges no two names and gives no reserved word.
-/

namespace BindingNames.Words

open Text

/-- The characters of a word are those of the name, without its separators. -/
theorem mem_of_mem_split {s w : List Char} (word : w ∈ split s) {c : Char} (h : c ∈ w) :
    c ∈ s ∧ isSeparator c = false := by
  have kept : c ∈ s.filter (fun c => !isSeparator c) := by
    rw [← flatten_split]
    exact List.mem_flatten.mpr ⟨w, word, h⟩
  simpa using List.mem_filter.mp kept

theorem isSeparator_of_mem_split {s w : List Char} (word : w ∈ split s) {c : Char} (h : c ∈ w) :
    isSeparator c = false :=
  (mem_of_mem_split word h).2

theorem low_line_not_mem_of_mem_split {s w : List Char} (word : w ∈ split s) : '_' ∉ w := by
  intro member
  simpa [isSeparator_low_line] using isSeparator_of_mem_split word member

/-- Joining by low lines brings no other characters in. -/
theorem forall_mem_intercalate_iff {P : Char → Prop} (low : P '_') (ws : List (List Char)) :
    (∀ c ∈ ['_'].intercalate ws, P c) ↔ ∀ w ∈ ws, ∀ c ∈ w, P c := by
  induction ws with
  | nil => simp
  | cons w ws inductionHypothesis =>
    cases ws with
    | nil => simp
    | cons v ws =>
      rw [List.intercalate_cons_cons, List.forall_mem_append, List.forall_mem_append,
        inductionHypothesis, List.forall_mem_cons (a := w)]
      simp [low]

/-- Texts joined by low lines end as the last of them does. -/
theorem exists_getLast?_intercalate {ws : List (List Char)} (present : ws ≠ [])
    (solid : ∀ w ∈ ws, w ≠ [] ∧ '_' ∉ w) :
    ∃ c, c ≠ '_' ∧ (['_'].intercalate ws).getLast? = some c := by
  induction ws with
  | nil => exact absurd rfl present
  | cons w ws inductionHypothesis =>
    obtain ⟨filled, clear⟩ := solid w List.mem_cons_self
    cases ws with
    | nil =>
      refine ⟨w.getLast filled, ?_, by simp [List.getLast?_eq_some_getLast filled]⟩
      exact fun same => clear (same ▸ List.getLast_mem filled)
    | cons v ws =>
      obtain ⟨c, other, last⟩ := inductionHypothesis (by simp)
        (fun u member => solid u (List.mem_cons_of_mem w member))
      refine ⟨c, other, ?_⟩
      rw [List.intercalate_cons_cons, List.getLast?_append, last, Option.some_or]

theorem getLast?_snake (s : List Char) : (snake s).getLast? ≠ some '_' := by
  unfold snake
  by_cases wordless : (split s).map lower = []
  · simp [wordless]
  · have solid : ∀ w ∈ (split s).map lower, w ≠ [] ∧ '_' ∉ w := by
      intro lowered member
      obtain ⟨w, word, rfl⟩ := List.mem_map.mp member
      exact ⟨lower_ne_nil (ne_nil_of_mem_split word),
        low_line_not_mem_lower (low_line_not_mem_of_mem_split word)⟩
    obtain ⟨c, other, last⟩ := exists_getLast?_intercalate wordless solid
    rw [last]
    simpa using other

end BindingNames.Words

namespace BindingNames.Identifier

/-- The last character is a low line. -/
def EndsInLowLine (name : String) : Prop := name.toList.getLast? = some '_'

instance (name : String) : Decidable (EndsInLowLine name) :=
  inferInstanceAs (Decidable (name.toList.getLast? = some '_'))

theorem not_endsInLowLine_snakeCase (name : String) : ¬EndsInLowLine (snakeCase name) := by
  simpa [EndsInLowLine, snakeCase] using Words.getLast?_snake name.toList

theorem endsInLowLine_append (name : String) : EndsInLowLine (name ++ "_") := by
  simp [EndsInLowLine]

variable {reserved : List String}

/-- Only the escape ends a name with a low line that did not end so before. -/
theorem endsInLowLine_avoid_iff {name : String} (free : ¬EndsInLowLine name) :
    EndsInLowLine (avoid reserved name) ↔ name ∈ reserved := by
  by_cases taken : name ∈ reserved
  · simp [avoid_of_mem taken, endsInLowLine_append, taken]
  · simp [avoid_of_not_mem taken, free, taken]

theorem avoid_eq_avoid_iff {a b : String} (left : ¬EndsInLowLine a) (right : ¬EndsInLowLine b) :
    avoid reserved a = avoid reserved b ↔ a = b := by
  constructor
  · intro same
    have alike : a ∈ reserved ↔ b ∈ reserved := by
      rw [← endsInLowLine_avoid_iff left, same, endsInLowLine_avoid_iff right]
    by_cases taken : b ∈ reserved
    · rw [avoid_of_mem (alike.mpr taken), avoid_of_mem taken] at same
      exact String.append_left_inj _ |>.mp same
    · rwa [avoid_of_not_mem (fun h => taken (alike.mp h)), avoid_of_not_mem taken] at same
  · exact congrArg _

end BindingNames.Identifier
