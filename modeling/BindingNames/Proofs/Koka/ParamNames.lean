import BindingNames.Koka.Identifier
import BindingNames.Proofs.Text.LoweredTexts
import BindingNames.Proofs.Words.Resplitting
import BindingNames.Proofs.Words.SnakeForm

/-!
# Names of fields and parameters, spelled again

The text is lowered before it is cut, so lowering changes nothing in the words, nor in the spelling
later on. A capital that has no small form is still there, and a word may begin at it; but the words
that the low lines join are cut at the same places again. The low line that escapes a reserved name
separates nothing, vanishes with the other separators and is put back.
-/

namespace BindingNames.Words

open Unicode Text

variable {s : List Char}

theorem isSettled_low_line : IsSettled '_' where
  noSigma := by decide
  unchanged := by decide +kernel

/-- The words of a text in lower case are joined as they are. -/
theorem snake_of_settled (settled : Settled s) : snake s = ['_'].intercalate (split s) := by
  have same : (split s).map lower = (split s).map id :=
    List.map_congr_left fun w word => lower_of_settled fun c inside =>
      settled c (mem_of_mem_split word inside).1
  rw [snake, same, List.map_id]

theorem settled_snake (s : List Char) : Settled (snake s) := by
  refine (forall_mem_intercalate_iff isSettled_low_line _).mpr fun lowered member => ?_
  obtain ⟨w, -, rfl⟩ := List.mem_map.mp member
  exact settled_lower w

/-- The snake form of a text in lower case is cut where it was joined. -/
theorem snake_snake_of_settled (settled : Settled s) : snake (snake s) = snake s := by
  rw [snake_of_settled (settled_snake s), snake_of_settled settled, split_intercalate_split]

theorem snake_append_low_line (s : List Char) : snake (s ++ ['_']) = snake s := by
  rw [snake, split_append_separator isSeparator_low_line, split_nil, List.append_nil, snake]

theorem settled_append_low_line (settled : Settled s) : Settled (s ++ ['_']) :=
  List.forall_mem_append.mpr ⟨settled, List.forall_mem_singleton.mpr isSettled_low_line⟩

/-- With or without a low line at its end, the snake form of a text in lower case is found again. -/
theorem snake_lower_snake_lower (s : List Char) :
    snake (lower (snake (lower s))) = snake (lower s) ∧
    snake (lower (snake (lower s) ++ ['_'])) = snake (lower s) := by
  have settled : Settled (snake (lower s)) := settled_snake (lower s)
  have again : snake (snake (lower s)) = snake (lower s) :=
    snake_snake_of_settled (settled_lower s)
  constructor
  · rw [lower_of_settled settled, again]
  · rw [lower_of_settled (settled_append_low_line settled), snake_append_low_line, again]

end BindingNames.Words

namespace BindingNames.Koka

open Identifier

theorem snakeCase_lowerCase_avoid (avoided : List String) (name : String) :
    snakeCase (lowerCase (avoid avoided (snakeCase (lowerCase name)))) =
      snakeCase (lowerCase name) := by
  obtain ⟨plain, escaped⟩ := Words.snake_lower_snake_lower name.toList
  by_cases taken : snakeCase (lowerCase name) ∈ avoided
  · rw [avoid_of_mem taken]
    simp [snakeCase, lowerCase, escaped]
  · rw [avoid_of_not_mem taken]
    simp [snakeCase, lowerCase, plain]

/-- The spelling of a field or parameter is its own spelling, be it escaped or not. -/
theorem paramName_paramName (name : String) : paramName (paramName name) = paramName name := by
  rw [paramName, paramName, snakeCase_lowerCase_avoid]

/-- A capital without a small form stays and begins a word. -/
example : paramName "aB𝐀" = "ab_𝐀" ∧ paramName "NEW" = "new_" := by
  decide +kernel

end BindingNames.Koka
