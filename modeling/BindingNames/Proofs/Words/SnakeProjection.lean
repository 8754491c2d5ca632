import BindingNames.Proofs.Text.LoweredTexts
import BindingNames.Proofs.Unicode.Ascii
import BindingNames.Proofs.Words.Resplitting
import BindingNames.Proofs.Words.SnakeForm

/-!
# Snake form as a projection

The low lines of a snake form are the only places where it is cut again, as long as lowering leaves
no capital and brings no separator: then its words are the lowered words of the name, and a second
round changes nothing. In ASCII this always holds. There the camel form is that of the name, too,
and the texts that are their own snake form are runs of small letters and digits joined by low
lines.
-/

namespace BindingNames.Words

open Unicode Text

variable {s w : List Char}

/-- In lower case nothing in a word tells that another begins. -/
def LowersPlainly (s : List Char) : Prop := ∀ w ∈ split s, Uncut (lower w)

instance (s : List Char) : Decidable (LowersPlainly s) :=
  inferInstanceAs (Decidable (∀ w ∈ split s, Uncut (lower w)))

theorem split_snake (plain : LowersPlainly s) : split (snake s) = (split s).map lower := by
  refine split_intercalate fun lowered member => ?_
  obtain ⟨w, word, rfl⟩ := List.mem_map.mp member
  exact split_of_uncut (lower_ne_nil (ne_nil_of_mem_split word)) (plain w word)

theorem snake_snake (plain : LowersPlainly s) : snake (snake s) = snake s := by
  have settled : (split s).map (lower ∘ lower) = (split s).map lower :=
    List.map_congr_left fun w _ => lower_lower w
  rw [snake, split_snake plain, List.map_map, settled, snake]

theorem snake_eq_snake_iff {t : List Char} (left : LowersPlainly s) (right : LowersPlainly t) :
    snake s = snake t ↔ (split s).map lower = (split t).map lower := by
  constructor
  · intro same
    rw [← split_snake left, same, split_snake right]
  · intro same
    rw [snake, same, snake]

/-- A letter or digit of ASCII. Its forms are letters or digits, too, and a letter is one only: its
small form is no capital, and its capital form is no small letter. -/
structure IsInner (c : Char) : Prop where
  ascii : c.toNat < 128
  small : isSeparator c.toLower = false
  smallUpper : isUpper c.toLower = false
  smallEnds : (isLower c.toLower || isDigit c.toLower) = true
  smallLower : isLower c.toLower = c.isAlpha
  capital : isSeparator c.toUpper = false
  capitalUpper : isUpper c.toUpper = c.isAlpha
  capitalLower : isLower c.toUpper = false
  capitalEnds : (isLower c.toUpper || isDigit c.toUpper) = !c.isAlpha

theorem isInner_of_ascii {c : Char} (ascii : c.toNat < 128) (inner : isSeparator c = false) :
    IsInner c := by
  have alphanumeric : c.isAlphanum = true := by
    simpa [isSeparator, (isPlain_of_ascii ascii).alphanumeric] using inner
  have small := isPlain_of_ascii (ascii_forms ascii).1
  have capital := isPlain_of_ascii (ascii_forms ascii).2
  by_cases letter : c.isAlpha = true
  · have smallLetter : c.toLower.isAlpha = true := by simpa using letter
    have capitalLetter : c.toUpper.isAlpha = true := by simpa using letter
    constructor <;>
      simp [ascii, isSeparator, small.alphanumeric, small.upper, small.lower, capital.alphanumeric,
        capital.upper, capital.lower, capital.digit, Char.isAlphanum, letter,
        not_isDigit_of_isAlpha capitalLetter]
  · have digit : c.isDigit = true := (Bool.or_eq_true_iff.mp alphanumeric).resolve_left letter
    have noCapital : ¬c.isUpper := fun upper => letter (by simp [Char.isAlpha, upper])
    have noSmall : ¬c.isLower := fun lower => letter (by simp [Char.isAlpha, lower])
    rw [Char.toLower_eq_of_not_isUpper noCapital] at small
    rw [Char.toUpper_eq_of_not_isLower noSmall] at capital
    constructor <;>
      simp [Char.toLower_eq_of_not_isUpper noCapital, Char.toUpper_eq_of_not_isLower noSmall,
        ascii, isSeparator, small.alphanumeric, small.upper, small.lower, small.digit,
        Char.isAlphanum, letter, digit, noCapital, noSmall]

/-- Letters and digits of ASCII, at least one. -/
structure IsAsciiWord (w : List Char) : Prop where
  filled : w ≠ []
  chars : ∀ c ∈ w, IsInner c

theorem IsAsciiWord.ascii (word : IsAsciiWord w) : IsAscii w := fun c member =>
  (word.chars c member).ascii

theorem isAsciiWord_of_mem_split (ascii : IsAscii s) (word : w ∈ split s) : IsAsciiWord w where
  filled := ne_nil_of_mem_split word
  chars c member := by
    obtain ⟨inside, inner⟩ := mem_of_mem_split word member
    exact isInner_of_ascii (ascii c inside) inner

theorem uncut_map_toLower (inner : ∀ c ∈ w, IsInner c) : Uncut (w.map Char.toLower) := by
  intro d member
  obtain ⟨c, listed, rfl⟩ := List.mem_map.mp member
  exact ⟨(inner c listed).small, (inner c listed).smallUpper⟩

theorem lowersPlainly_of_ascii (ascii : IsAscii s) : LowersPlainly s := by
  intro w word
  have inside : IsAsciiWord w := isAsciiWord_of_mem_split ascii word
  rw [lower_of_ascii inside.ascii]
  exact uncut_map_toLower inside.chars

theorem upperCamel_snake (ascii : IsAscii s) : upperCamel (snake s) = upperCamel s := by
  rw [upperCamel, split_snake (lowersPlainly_of_ascii ascii), List.flatMap_map, upperCamel]
  exact List.flatMap_congr fun _ word =>
    capitalize_lower (isAsciiWord_of_mem_split ascii word).ascii

/-- A run of small letters and digits of ASCII. -/
def IsRun (w : List Char) : Prop := w ≠ [] ∧ ∀ c ∈ w, c.isLower ∨ c.isDigit

/-- One or more runs of small letters and digits, with one low line between any two. -/
def IsSnakeForm (s : List Char) : Prop :=
  ∃ runs : List (List Char), runs ≠ [] ∧ (∀ run ∈ runs, IsRun run) ∧ s = ['_'].intercalate runs

theorem IsAsciiWord.isRun_lower (word : IsAsciiWord w) : IsRun (lower w) := by
  refine ⟨lower_ne_nil word.filled, fun d member => ?_⟩
  have plain := isPlain_of_ascii (isAscii_lower word.ascii d member)
  rw [lower_of_ascii word.ascii] at member
  obtain ⟨c, listed, rfl⟩ := List.mem_map.mp member
  simpa [plain.lower, plain.digit] using (word.chars c listed).smallEnds

/-- A small letter or digit is in lower case already. -/
theorem isSmall_of_run {c : Char} (h : c.isLower ∨ c.isDigit) :
    c.toNat < 128 ∧ c.toLower = c ∧ isSeparator c = false ∧ isUpper c = false := by
  have alphanumeric : c.isAlphanum = true := by
    rcases h with small | digit
    · simp [Char.isAlphanum, Char.isAlpha, small]
    · simp [Char.isAlphanum, digit]
  have noCapital : ¬c.isUpper := by
    rintro upper
    rcases h with small | digit
    · exact Char.not_isLower_of_isUpper upper small
    · exact not_isDigit_of_isAlpha (by simp [Char.isAlpha, upper]) digit
  have ascii := ascii_of_isAlphanum alphanumeric
  have plain := isPlain_of_ascii ascii
  refine ⟨ascii, Char.toLower_eq_of_not_isUpper noCapital, ?_, ?_⟩
  · rw [isSeparator, plain.alphanumeric, alphanumeric, Bool.not_true]
  · simpa [plain.upper] using noCapital

theorem split_run (run : IsRun w) : split w = [w] :=
  split_of_uncut run.1 fun c member => (isSmall_of_run (run.2 c member)).2.2

theorem lower_run (run : IsRun w) : lower w = w := by
  have ascii : IsAscii w := fun c member => (isSmall_of_run (run.2 c member)).1
  have same : w.map Char.toLower = w.map id :=
    List.map_congr_left fun c member => (isSmall_of_run (run.2 c member)).2.1
  rw [lower_of_ascii ascii, same, List.map_id]

theorem snake_eq_self_iff (ascii : IsAscii s) : snake s = s ↔ s = [] ∨ IsSnakeForm s := by
  constructor
  · intro same
    by_cases wordless : split s = []
    · exact .inl (by rw [← same, snake, wordless]; rfl)
    · refine .inr ⟨(split s).map lower, by simpa using wordless, fun lowered member => ?_,
        same.symm⟩
      obtain ⟨w, word, rfl⟩ := List.mem_map.mp member
      exact (isAsciiWord_of_mem_split ascii word).isRun_lower
  · rintro (rfl | ⟨runs, -, inRuns, rfl⟩)
    · rfl
    · have settled : runs.map lower = runs := by
        simpa using List.map_congr_left fun run listed => lower_run (inRuns run listed)
      rw [snake, split_intercalate fun run listed => split_run (inRuns run listed), settled]

end BindingNames.Words

namespace BindingNames.Identifier

/-- Snake form is a projection where lowering leaves plain words, above all in ASCII: it keeps the
words and with them the camel form, and what it leaves alone are the low-line joins of runs. -/
theorem snakeCase_projection (name : String) :
    (Words.LowersPlainly name.toList →
      words (snakeCase name) = (words name).map lowerCase ∧
      snakeCase (snakeCase name) = snakeCase name) ∧
    (Text.IsAscii name.toList →
      Words.LowersPlainly name.toList ∧
      upperCamelCase (snakeCase name) = upperCamelCase name ∧
      (snakeCase name = name ↔ name = "" ∨ Words.IsSnakeForm name.toList)) := by
  refine ⟨fun plain => ⟨?_, ?_⟩, fun ascii => ⟨?_, ?_, ?_⟩⟩
  · simp [words, snakeCase, lowerCase, Words.split_snake plain]
  · simp [snakeCase, Words.snake_snake plain]
  · exact Words.lowersPlainly_of_ascii ascii
  · simp [upperCamelCase, snakeCase, Words.upperCamel_snake ascii]
  · rw [← String.toList_inj, snakeCase, String.toList_ofList, Words.snake_eq_self_iff ascii,
      String.toList_eq_nil_iff]

theorem snakeCase_projection_mixed :
    Words.LowersPlainly "GrößeÄndern".toList ∧
    words (snakeCase "GrößeÄndern") = (words "GrößeÄndern").map lowerCase ∧
    snakeCase (snakeCase "GrößeÄndern") = snakeCase "GrößeÄndern" ∧
    Text.IsAscii "_HTTPServer2Go".toList ∧
    upperCamelCase (snakeCase "_HTTPServer2Go") = upperCamelCase "_HTTPServer2Go" ∧
    (snakeCase "_HTTPServer2Go" = "_HTTPServer2Go" ↔
      "_HTTPServer2Go" = "" ∨ Words.IsSnakeForm "_HTTPServer2Go".toList) := by
  have plain : Words.LowersPlainly "GrößeÄndern".toList := by decide +kernel
  have ascii : Text.IsAscii "_HTTPServer2Go".toList := by decide
  obtain ⟨sameWords, again⟩ := (snakeCase_projection "GrößeÄndern").1 plain
  obtain ⟨-, sameCamel, fixed⟩ := (snakeCase_projection "_HTTPServer2Go").2 ascii
  exact ⟨plain, sameWords, again, ascii, sameCamel, fixed⟩

end BindingNames.Identifier
