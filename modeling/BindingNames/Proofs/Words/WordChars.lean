import BindingNames.Proofs.Unicode.MarkedImages
import BindingNames.Proofs.Words.SnakeForm

/-!
# Word characters in cased words

Words hold alphanumerics only, but they are cased after they are cut, and the marks that casing
brings stay. Main statements: which texts have a snake form, a snake form with a capital, or an
upper camel form of word characters only.
-/

namespace BindingNames.Text

open Unicode

theorem isWordChar_smallSigma (before after : List Char) :
    isWordChar (smallSigma before after) = true := by
  unfold smallSigma
  split <;> decide

theorem wordOnly_lowerAt_iff {c : Char} (word : isWordChar c = true) (before after : List Char) :
    WordOnly (lowerAt before c after) ↔ c ≠ dottedI := by
  unfold lowerAt
  split
  next sigma =>
    have other : c ≠ dottedI := sigma ▸ by decide
    simp [isWordChar_smallSigma, other]
  next => exact wordOnly_lowercase_iff word

theorem wordOnly_lowerFrom_iff {s : List Char} (chars : WordOnly s) (before : List Char) :
    WordOnly (lowerFrom before s) ↔ dottedI ∉ s := by
  induction s generalizing before with
  | nil => simp [lowerFrom]
  | cons c after inductionHypothesis =>
    obtain ⟨word, rest⟩ := wordOnly_cons.mp chars
    rw [lowerFrom, wordOnly_append, wordOnly_lowerAt_iff word, inductionHypothesis rest,
      List.mem_cons, not_or, ne_comm]

theorem wordOnly_capitalize_iff {c : Char} {rest : List Char} (chars : WordOnly (c :: rest)) :
    WordOnly (capitalize (c :: rest)) ↔ isTitlecaseMarked c = false ∧ dottedI ∉ rest := by
  obtain ⟨word, others⟩ := wordOnly_cons.mp chars
  rw [capitalize, wordOnly_append, wordOnly_titlecase_iff word, wordOnly_lowerFrom_iff others]

/-- The first character of a small form is a word character even where a mark follows it. -/
theorem lowerAt_head {c d : Char} {before after more : List Char} (word : isWordChar c = true)
    (image : lowerAt before c after = d :: more) :
    isWordChar d = true ∧ isUppercaseMarked d = isUppercaseMarked c := by
  unfold lowerAt at image
  split at image
  next sigma =>
    obtain ⟨rfl, -⟩ := List.cons_eq_cons.mp image
    have unmarked : isUppercaseMarked (smallSigma before after) = false := by
      unfold smallSigma
      split <;> decide
    exact ⟨isWordChar_smallSigma before after, sigma ▸ unmarked.trans (by decide)⟩
  next => exact lowercase_head word image

theorem wordOnly_intercalate_iff {ws : List (List Char)} :
    WordOnly (['_'].intercalate ws) ↔ ∀ w ∈ ws, WordOnly w :=
  Words.forall_mem_intercalate_iff (by simp [isWordChar]) ws

theorem exists_intercalate_cons (w : List Char) (ws : List (List Char)) :
    ∃ rest, ['_'].intercalate (w :: ws) = w ++ rest := by
  cases ws with
  | nil => exact ⟨[], by simp⟩
  | cons v ws => exact ⟨_, by rw [List.intercalate_cons_cons, List.append_assoc]⟩

end BindingNames.Text

namespace BindingNames.Words

open Unicode Text

theorem wordOnly_of_mem_split {s w : List Char} (word : w ∈ split s) : WordOnly w := by
  intro c member
  have inner : isSeparator c = false := isSeparator_of_mem_split word member
  exact isWordChar_of_isAlphanumeric (by simpa [isSeparator] using inner)

/-- Words lose no alphanumeric character. -/
theorem exists_mem_split_iff {c : Char} (inner : isSeparator c = false) {s : List Char} :
    (∃ w ∈ split s, c ∈ w) ↔ c ∈ s := by
  rw [← List.mem_flatten, flatten_split, List.mem_filter]
  simp [inner]

theorem wordOnly_snake_iff (s : List Char) : WordOnly (snake s) ↔ dottedI ∉ s := by
  have inner : isSeparator dottedI = false := by decide
  rw [snake, wordOnly_intercalate_iff, List.forall_mem_map, ← exists_mem_split_iff inner,
    not_exists]
  refine forall_congr' fun w => ?_
  rw [not_and]
  exact forall_congr' fun word => wordOnly_lowerFrom_iff (wordOnly_of_mem_split word) []

theorem wordOnly_upperCamel_iff (s : List Char) :
    WordOnly (upperCamel s) ↔
      ∀ w ∈ split s, (∀ c ∈ w.head?, isTitlecaseMarked c = false) ∧ dottedI ∉ w.tail := by
  have each : WordOnly (upperCamel s) ↔ ∀ w ∈ split s, WordOnly (capitalize w) :=
    List.forall_mem_flatMap
  rw [each]
  refine forall₂_congr fun w word => ?_
  cases w with
  | nil => simp [capitalize]
  | cons c rest => simpa using wordOnly_capitalize_iff (wordOnly_of_mem_split word)

/-- A snake form begins with the small form of the first alphanumeric character. -/
theorem snake_cases (s : List Char) :
    snake s = [] ∧ s.find? isAlphanumeric = none ∨
      ∃ c after rest, s.find? isAlphanumeric = some c ∧ snake s = lowerAt [] c after ++ rest := by
  have first : s.find? isAlphanumeric = (split s).flatten.head? := by
    simp [flatten_split, isSeparator]
  cases words : split s with
  | nil => exact .inl ⟨by simp [snake, words], by simp [first, words]⟩
  | cons w ws =>
    cases w with
    | nil => exact absurd rfl (ne_nil_of_mem_split (words ▸ List.mem_cons_self))
    | cons c after =>
      obtain ⟨rest, joined⟩ := exists_intercalate_cons (lower (c :: after)) (ws.map lower)
      refine .inr ⟨c, after, lowerFrom [c] after ++ rest, by simp [first, words], ?_⟩
      rw [snake, words, List.map_cons, joined, lower, lowerFrom, List.append_assoc]

/-- A capital on a snake form brings marks where the first letter has none of its own. -/
theorem wordOnly_withCapital_snake_iff (s : List Char) :
    WordOnly (withCapital (snake s)) ↔
      dottedI ∉ s ∧ ∀ c ∈ s.find? isAlphanumeric, isUppercaseMarked c = false := by
  rw [← wordOnly_snake_iff]
  rcases snake_cases s with ⟨empty, none⟩ | ⟨c, after, rest, first, parts⟩
  · simp [empty, none, withCapital]
  · have word : isWordChar c = true := isWordChar_of_isAlphanumeric (List.find?_some first)
    cases image : lowerAt [] c after with
    | nil => exact absurd image (lowerAt_ne_nil [] c after)
    | cons d more =>
      obtain ⟨head, paired⟩ := lowerAt_head word image
      simp [parts, image, withCapital, wordOnly_uppercase_iff head, head, first, paired, and_comm]

end BindingNames.Words
