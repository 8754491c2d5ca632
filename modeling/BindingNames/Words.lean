import BindingNames.Text.Casing
import BindingNames.Unicode.Digit
import BindingNames.Unicode.WordChar

/-!
# Words of a name

A name is cut at its separators and, between them, where the letter case tells that a new word
begins. Whether a word ends depends only on the two characters that follow, so one pass over the
name is enough.
-/

namespace BindingNames.Words

open Unicode Text

/-- Everything but letters and numeric characters separates words. -/
def isSeparator (c : Char) : Bool := !isAlphanumeric c

theorem isSeparator_low_line : isSeparator '_' = true := by
  simp [isSeparator, isAlphanumeric_low_line]

/-- The next character belongs to the same run and is a small letter. -/
def smallFollows : List Char → Bool
  | [] => false
  | c :: _ => !isSeparator c && isLower c

/-- A new word begins at `c`, between `last` and `rest`: at a capital after a small letter or a
digit, and at the last capital of several if a small letter follows. -/
def beginsAt (last c : Char) (rest : List Char) : Bool :=
  isUpper c && (isLower last || isDigit last) || isUpper last && isUpper c && smallFollows rest

/-- A word whose last character read is `last` ends before these characters. -/
def endsBefore (last : Char) : List Char → Bool
  | [] => true
  | c :: rest => isSeparator c || beginsAt last c rest

/-- The words of a name, none of them empty. -/
def split : List Char → List (List Char)
  | [] => []
  | c :: rest =>
    if isSeparator c then split rest
    else if endsBefore c rest then [c] :: split rest
    else (split rest).modifyHead (c :: ·)

@[simp] theorem split_nil : split [] = [] := rfl

theorem split_cons_separator {c : Char} (h : isSeparator c = true) (rest : List Char) :
    split (c :: rest) = split rest := by
  simp [split, h]

theorem split_cons_ends {c : Char} {rest : List Char} (h : isSeparator c = false)
    (ends : endsBefore c rest = true) : split (c :: rest) = [c] :: split rest := by
  simp [split, h, ends]

theorem split_cons_goes_on {c : Char} {rest : List Char} (h : isSeparator c = false)
    (goesOn : endsBefore c rest = false) :
    split (c :: rest) = (split rest).modifyHead (c :: ·) := by
  simp [split, h, goesOn]

theorem split_ne_nil {c : Char} (h : isSeparator c = false) (rest : List Char) :
    split (c :: rest) ≠ [] := by
  induction rest generalizing c with
  | nil => simp [split, h, endsBefore]
  | cons d rest inductionHypothesis =>
    by_cases ends : endsBefore c (d :: rest) = true
    · simp [split_cons_ends h ends]
    · have goesOn : endsBefore c (d :: rest) = false := by simpa using ends
      have inner : isSeparator d = false := (Bool.or_eq_false_iff.mp goesOn).1
      rw [split_cons_goes_on h goesOn]
      simpa using inductionHypothesis inner

theorem split_ne_nil_of_goes_on {c : Char} {rest : List Char}
    (goesOn : endsBefore c rest = false) : split rest ≠ [] := by
  cases rest with
  | nil => simp [endsBefore] at goesOn
  | cons d rest => exact split_ne_nil (Bool.or_eq_false_iff.mp goesOn).1 rest

theorem ne_nil_of_mem_split {s w : List Char} (h : w ∈ split s) : w ≠ [] := by
  induction s generalizing w with
  | nil => simp at h
  | cons c rest inductionHypothesis =>
    by_cases separates : isSeparator c = true
    · exact inductionHypothesis (split_cons_separator separates rest ▸ h)
    · have inner : isSeparator c = false := by simpa using separates
      by_cases ends : endsBefore c rest = true
      · rw [split_cons_ends inner ends] at h
        rcases List.mem_cons.mp h with rfl | later
        · simp
        · exact inductionHypothesis later
      · have goesOn : endsBefore c rest = false := by simpa using ends
        rw [split_cons_goes_on inner goesOn] at h
        cases words : split rest with
        | nil => exact absurd words (split_ne_nil_of_goes_on goesOn)
        | cons first others =>
          rw [words, List.modifyHead_cons] at h
          rcases List.mem_cons.mp h with rfl | later
          · simp
          · exact inductionHypothesis (words ▸ List.mem_cons_of_mem _ later)

/-- The words hold what is no separator, in order. -/
theorem flatten_split (s : List Char) :
    (split s).flatten = s.filter (fun c => !isSeparator c) := by
  induction s with
  | nil => rfl
  | cons c rest inductionHypothesis =>
    by_cases separates : isSeparator c = true
    · simpa [split_cons_separator separates, separates] using inductionHypothesis
    · have inner : isSeparator c = false := by simpa using separates
      by_cases ends : endsBefore c rest = true
      · simpa [split_cons_ends inner ends, inner] using inductionHypothesis
      · have goesOn : endsBefore c rest = false := by simpa using ends
        rw [split_cons_goes_on inner goesOn]
        cases words : split rest with
        | nil => exact absurd words (split_ne_nil_of_goes_on goesOn)
        | cons first others => simpa [words, inner] using inductionHypothesis

/-- The words in lower case, joined by low lines. -/
def snake (s : List Char) : List Char :=
  ['_'].intercalate ((split s).map lower)

/-- The words with a capital each, joined by nothing. -/
def upperCamel (s : List Char) : List Char :=
  (split s).flatMap capitalize

end BindingNames.Words
