import BindingNames.Identifier

/-!
# Words and positions

The words of a name are described by the positions of its characters alone: what belongs to a word,
and between which two neighbours a word ends. The number of a word is found by counting the
characters of all words up to a position.
-/

namespace BindingNames.Words

open Unicode

/-- Every word character but the low line belongs to a word. -/
def isWordPart (c : Char) : Bool := isWordChar c && c != '_'

theorem isWordPart_eq (c : Char) : isWordPart c = !isSeparator c := by
  by_cases h : c = '_'
  · subst h
    simp [isWordPart, isSeparator_low_line]
  · simp [isWordPart, isWordChar, isSeparator, h]

/-- The character at a position exists and has the property. -/
def isAt (property : Char → Bool) (s : List Char) (p : Nat) : Bool := s[p]?.any property

@[simp] theorem isAt_zero (property : Char → Bool) (c : Char) (s : List Char) :
    isAt property (c :: s) 0 = property c := by
  simp [isAt]

@[simp] theorem isAt_succ (property : Char → Bool) (c : Char) (s : List Char) (p : Nat) :
    isAt property (c :: s) (p + 1) = isAt property s p := by
  simp [isAt]

/-- Two positions that belong to words, with separators only between them. -/
structure Neighbours (s : List Char) (p q : Nat) : Prop where
  inOrder : p < q
  left : isAt isWordPart s p = true
  right : isAt isWordPart s q = true
  between : ∀ i, p < i → i < q → isAt isWordPart s i = false

/-- The letter case tells that a word begins at `q`, after `p`: at a capital after a small letter or
a digit, and at a capital after a capital if a small letter of the same run comes next. -/
def CaseTurns (s : List Char) (p q : Nat) : Prop :=
  isAt isUpper s q = true ∧ (isAt isLower s p = true ∨ isAt isDigit s p = true) ∨
    isAt isUpper s p = true ∧ isAt isUpper s q = true ∧
      isAt isWordPart s (q + 1) = true ∧ isAt isLower s (q + 1) = true

@[simp] theorem caseTurns_succ (c : Char) (s : List Char) (p q : Nat) :
    CaseTurns (c :: s) (p + 1) (q + 1) ↔ CaseTurns s p q := by
  simp [CaseTurns]

/-- How many characters before a position belong to words. -/
def rank (s : List Char) (p : Nat) : Nat := (s.take p).countP isWordPart

theorem rank_cons_separator {c : Char} (separates : isSeparator c = true) (s : List Char)
    (p : Nat) : rank (c :: s) (p + 1) = rank s p := by
  simp [rank, isWordPart_eq, separates]

theorem rank_cons_part {c : Char} (inner : isSeparator c = false) (s : List Char) (p : Nat) :
    rank (c :: s) (p + 1) = rank s p + 1 := by
  simp [rank, isWordPart_eq, inner]

/-- The number of the list that holds this place of the lists laid end to end. -/
def holder : List (List Char) → Nat → Nat
  | [], _ => 0
  | w :: ws, i => if i < w.length then 0 else holder ws (i - w.length) + 1

theorem holder_singleton_cons_succ (c : Char) (ws : List (List Char)) (i : Nat) :
    holder ([c] :: ws) (i + 1) = holder ws i + 1 := by
  simp [holder]

theorem holder_modifyHead_succ (c : Char) {ws : List (List Char)} (some : ws ≠ []) (i : Nat) :
    holder (ws.modifyHead (c :: ·)) (i + 1) = holder ws i := by
  cases ws with
  | nil => exact absurd rfl some
  | cons w ws => simp [holder]

theorem holder_zero {ws : List (List Char)} (filled : ∀ w ∈ ws, w ≠ []) : holder ws 0 = 0 := by
  cases ws with
  | nil => rfl
  | cons w ws => simp [holder, List.length_pos_iff.mpr (filled w List.mem_cons_self)]

/-- The number of the word to which a position belongs. -/
def wordAt (s : List Char) (p : Nat) : Nat := holder (split s) (rank s p)

theorem wordAt_cons_separator {c : Char} (separates : isSeparator c = true) (s : List Char)
    (p : Nat) : wordAt (c :: s) (p + 1) = wordAt s p := by
  simp [wordAt, split_cons_separator separates, rank_cons_separator separates]

theorem wordAt_cons_ends {c : Char} {s : List Char} (inner : isSeparator c = false)
    (ends : endsBefore c s = true) (p : Nat) : wordAt (c :: s) (p + 1) = wordAt s p + 1 := by
  rw [wordAt, split_cons_ends inner ends, rank_cons_part inner, holder_singleton_cons_succ, wordAt]

theorem wordAt_cons_goes_on {c : Char} {s : List Char} (inner : isSeparator c = false)
    (goesOn : endsBefore c s = false) (p : Nat) : wordAt (c :: s) (p + 1) = wordAt s p := by
  rw [wordAt, split_cons_goes_on inner goesOn, rank_cons_part inner,
    holder_modifyHead_succ c (split_ne_nil_of_goes_on goesOn), wordAt]

theorem wordAt_zero (s : List Char) : wordAt s 0 = 0 :=
  holder_zero (fun _ member => ne_nil_of_mem_split member)

theorem Neighbours.tail {c : Char} {s : List Char} {p q : Nat}
    (h : Neighbours (c :: s) (p + 1) (q + 1)) : Neighbours s p q where
  inOrder := by simpa using h.inOrder
  left := by simpa using h.left
  right := by simpa using h.right
  between i above below := by
    simpa using h.between (i + 1) (Nat.succ_lt_succ above) (Nat.succ_lt_succ below)

/-- A word ends after the first character exactly where no neighbour follows at once, or the letter
case turns. -/
theorem endsBefore_eq_false_iff {c : Char} {s : List Char} {q : Nat}
    (h : Neighbours (c :: s) 0 (q + 1)) :
    endsBefore c s = false ↔ q = 0 ∧ ¬CaseTurns (c :: s) 0 1 := by
  cases s with
  | nil => simpa [isAt] using h.right
  | cons d rest =>
    have small : smallFollows rest = (isAt isWordPart rest 0 && isAt isLower rest 0) := by
      cases rest with
      | nil => rfl
      | cons e rest => simp [smallFollows, isWordPart_eq]
    cases q with
    | zero =>
      have inner : isSeparator d = false := by simpa [isWordPart_eq] using h.right
      simp [endsBefore, beginsAt, inner, small, CaseTurns]
    | succ q =>
      have separates : isSeparator d = true := by
        simpa [isWordPart_eq] using h.between 1 Nat.one_pos (by omega)
      simp [endsBefore, separates]

theorem wordAt_eq_iff {s : List Char} {p q : Nat} (h : Neighbours s p q) :
    wordAt s p = wordAt s q ↔ q = p + 1 ∧ ¬CaseTurns s p q := by
  induction s generalizing p q with
  | nil => simpa [isAt] using h.left
  | cons c rest inductionHypothesis =>
    obtain ⟨q, rfl⟩ : ∃ r, q = r + 1 := Nat.exists_eq_add_one.mpr (Nat.zero_lt_of_lt h.inOrder)
    cases p with
    | zero =>
      have inner : isSeparator c = false := by simpa [isWordPart_eq] using h.left
      rw [wordAt_zero]
      by_cases goesOn : endsBefore c rest = false
      · have turns := (endsBefore_eq_false_iff h).mp goesOn
        obtain ⟨rfl, same⟩ := turns
        simp [wordAt_cons_goes_on inner goesOn, wordAt_zero, same]
      · have ends : endsBefore c rest = true := by simpa using goesOn
        have apart : ¬(q = 0 ∧ ¬CaseTurns (c :: rest) 0 1) :=
          fun turns => goesOn ((endsBefore_eq_false_iff h).mpr turns)
        rw [wordAt_cons_ends inner ends]
        constructor
        · intro impossible
          exact absurd impossible (by omega)
        · rintro ⟨next, same⟩
          obtain rfl : q = 0 := by omega
          exact absurd ⟨rfl, same⟩ apart
    | succ p =>
      have later := inductionHypothesis h.tail
      rw [caseTurns_succ, Nat.add_right_cancel_iff]
      by_cases separates : isSeparator c = true
      · simpa [wordAt_cons_separator separates] using later
      · have inner : isSeparator c = false := by simpa using separates
        by_cases ends : endsBefore c rest = true
        · simpa [wordAt_cons_ends inner ends] using later
        · have goesOn : endsBefore c rest = false := by simpa using ends
          simpa [wordAt_cons_goes_on inner goesOn] using later

end BindingNames.Words

namespace BindingNames.Identifier

open Words

theorem toList_words (name : String) : (words name).map String.toList = split name.toList := by
  simp [words, Function.comp_def]

/-- The number of the word of a name to which a position belongs. -/
def wordNumber (name : String) (p : Nat) : Nat :=
  holder ((words name).map String.toList) (rank name.toList p)

theorem wordNumber_eq (name : String) (p : Nat) : wordNumber name p = wordAt name.toList p := by
  rw [wordNumber, toList_words, wordAt]

theorem ne_empty_of_mem_words {name w : String} (h : w ∈ words name) : w ≠ "" := by
  obtain ⟨letters, member, rfl⟩ := List.mem_map.mp h
  simpa using ne_nil_of_mem_split member

theorem join_words (name : String) :
    String.join (words name) = String.ofList (name.toList.filter isWordPart) := by
  have parts : isWordPart = fun c => !isSeparator c := funext isWordPart_eq
  apply String.toList_injective
  rw [String.toList_join, List.flatMap_def, toList_words, flatten_split, parts,
    String.toList_ofList]

/-- The words of a name are nonempty, hold in order all that belongs to a word, and part two
neighbours exactly where something stands between them or the letter case turns. -/
theorem words_by_position (name : String) :
    (∀ w ∈ words name, w ≠ "") ∧
    String.join (words name) = String.ofList (name.toList.filter isWordPart) ∧
    ∀ p q, Neighbours name.toList p q →
      (wordNumber name p = wordNumber name q ↔ q = p + 1 ∧ ¬CaseTurns name.toList p q) := by
  refine ⟨fun _ member => ne_empty_of_mem_words member, join_words name, ?_⟩
  intro p q neighbours
  rw [wordNumber_eq, wordNumber_eq]
  exact wordAt_eq_iff neighbours

/-- The last capital of an acronym begins the next word. -/
theorem words_by_position_acronym :
    Neighbours "HTTPServer".toList 3 4 ∧
    wordNumber "HTTPServer" 3 ≠ wordNumber "HTTPServer" 4 := by
  have neighbours : Neighbours "HTTPServer".toList 3 4 :=
    ⟨by decide, by decide +kernel, by decide +kernel, by omega⟩
  have turns : CaseTurns "HTTPServer".toList 3 4 :=
    .inr ⟨by decide +kernel, by decide +kernel, by decide +kernel, by decide +kernel⟩
  refine ⟨neighbours, fun same => ?_⟩
  exact ((words_by_position "HTTPServer").2.2 3 4 neighbours |>.mp same).2 turns

end BindingNames.Identifier
