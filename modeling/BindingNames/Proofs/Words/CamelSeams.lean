import BindingNames.Proofs.Words.SnakeProjection

/-!
# Seams of a camel form

A camel form leaves out what stood between two words, so the capital of the second is all that tells
where they meet. Three characters decide whether it does: the last of the first word and the first
two of the second; what comes after has a capital or is a digit and changes nothing. Where all seams
are seen the camel form has the words of the name. A seam that is not seen glues two words together,
and a second camel form shows it if the glued word began with a letter, which loses its capital.
-/

namespace BindingNames.Words

open Unicode Text

variable {s u v : List Char} {ws : List (List Char)}

def beginsWithLetter (w : List Char) : Bool := w.head?.any Char.isAlpha

/-- One character, which is a letter. -/
def isOneLetter : List Char → Bool
  | [c] => c.isAlpha
  | _ => false

def secondIsLetter (w : List Char) : Bool := w.tail.head?.any Char.isAlpha

/-- In camel form the second word begins with a capital, and this follows something else than a
capital or is followed by a small letter. -/
def seamSeen (u v : List Char) : Bool :=
  beginsWithLetter v && (!isOneLetter u || secondIsLetter v)

theorem IsAsciiWord.exists_cons (word : IsAsciiWord u) :
    ∃ c rest, u = c :: rest ∧ IsInner c ∧ (∀ d ∈ rest, IsInner d) ∧
      capitalize u = c.toUpper :: rest.map Char.toLower := by
  obtain ⟨c, rest, rfl⟩ := List.exists_cons_of_ne_nil word.filled
  obtain ⟨here, later⟩ := List.forall_mem_cons.mp word.chars
  exact ⟨c, rest, rfl, here, later, capitalize_of_ascii word.ascii⟩

/-- A capital stands at the end of a word in camel form only if the word is one letter. -/
theorem last_capital {c : Char} {rest : List Char} (word : IsAsciiWord (c :: rest)) {last : Char}
    (ends : (c.toUpper :: rest.map Char.toLower).getLast? = some last) :
    isUpper last = isOneLetter (c :: rest) ∧
    (isLower last || isDigit last) = !isOneLetter (c :: rest) := by
  obtain ⟨here, later⟩ := List.forall_mem_cons.mp word.chars
  cases rest with
  | nil =>
    obtain rfl : c.toUpper = last := by simpa using ends
    exact ⟨here.capitalUpper, here.capitalEnds⟩
  | cons d rest =>
    have inTail : last ∈ (d :: rest).map Char.toLower := by
      rw [List.map_cons, List.getLast?_cons_cons, ← List.map_cons] at ends
      exact List.mem_of_getLast? ends
    obtain ⟨e, listed, rfl⟩ := List.mem_map.mp inTail
    exact ⟨(later e listed).smallUpper, (later e listed).smallEnds⟩

/-- No word in camel form begins with a small letter. -/
theorem smallFollows_flatMap_capitalize (words : ∀ w ∈ ws, IsAsciiWord w) :
    smallFollows (ws.flatMap capitalize) = false := by
  cases ws with
  | nil => rfl
  | cons u ws =>
    obtain ⟨c, rest, -, here, -, capitals⟩ := (words u List.mem_cons_self).exists_cons
    rw [List.flatMap_cons, capitals, List.cons_append]
    simp [smallFollows, here.capitalLower]

/-- A small letter follows the capital of a word just if the second character is a letter, whatever
word comes next. -/
theorem smallFollows_tail {rest : List Char} {c : Char} (later : ∀ d ∈ rest, IsInner d)
    (words : ∀ w ∈ ws, IsAsciiWord w) :
    smallFollows (rest.map Char.toLower ++ ws.flatMap capitalize) = secondIsLetter (c :: rest) := by
  cases rest with
  | nil => exact smallFollows_flatMap_capitalize words
  | cons d rest =>
    obtain ⟨here, -⟩ := List.forall_mem_cons.mp later
    simp [smallFollows, secondIsLetter, here.small, here.smallLower]

theorem endsBefore_seam (left : IsAsciiWord u) (right : IsAsciiWord v)
    (words : ∀ w ∈ ws, IsAsciiWord w) {last : Char} (ends : (capitalize u).getLast? = some last) :
    endsBefore last ((v :: ws).flatMap capitalize) = seamSeen u v := by
  obtain ⟨b, front, rfl, -, -, leftCapitals⟩ := left.exists_cons
  obtain ⟨c, rest, rfl, here, later, capitals⟩ := right.exists_cons
  obtain ⟨afterCapital, afterOther⟩ := last_capital left (leftCapitals ▸ ends)
  have first : beginsWithLetter (c :: rest) = c.isAlpha := rfl
  rw [List.flatMap_cons, capitals, List.cons_append, endsBefore, beginsAt, here.capital,
    here.capitalUpper, afterCapital, afterOther, smallFollows_tail later words, seamSeen, first]
  cases c.isAlpha <;> cases isOneLetter (b :: front) <;> rfl

theorem split_capitalize (word : IsAsciiWord u) : split (capitalize u) = [capitalize u] := by
  obtain ⟨c, rest, -, here, later, capitals⟩ := word.exists_cons
  rw [capitals]
  exact split_eq_singleton here.capital (uncut_map_toLower later)

/-- The words of a camel form are those it was made of, glued where a seam is not seen. -/
theorem split_seam (left : IsAsciiWord u) (right : IsAsciiWord v)
    (words : ∀ w ∈ ws, IsAsciiWord w) :
    split ((u :: v :: ws).flatMap capitalize) =
      if seamSeen u v then capitalize u :: split ((v :: ws).flatMap capitalize)
      else (split ((v :: ws).flatMap capitalize)).modifyHead (capitalize u ++ ·) := by
  obtain ⟨c, rest, -, here, later, capitals⟩ := left.exists_cons
  have present : c.toUpper :: rest.map Char.toLower ≠ [] := List.cons_ne_nil _ _
  have seen := endsBefore_seam left right words
    ((congrArg List.getLast? capitals).trans (List.getLast?_eq_some_getLast present))
  rw [List.flatMap_cons, capitals, split_append_of_uncut here.capital (uncut_map_toLower later),
    seen]

theorem IsAsciiWord.ascii_capitalize (word : IsAsciiWord u) : IsAscii (capitalize u) :=
  isAscii_capitalize word.ascii

theorem isAscii_flatMap_capitalize (words : ∀ w ∈ ws, IsAsciiWord w) :
    IsAscii (ws.flatMap capitalize) := by
  intro c member
  obtain ⟨w, listed, inside⟩ := List.mem_flatMap.mp member
  exact (words w listed).ascii_capitalize c inside

/-- The camel form of a word and more, cut again, begins with the capital of the word. -/
theorem exists_split_camel {c : Char} {rest : List Char} (word : IsAsciiWord (c :: rest))
    (words : ∀ w ∈ ws, IsAsciiWord w) :
    ∃ tail others, split (((c :: rest) :: ws).flatMap capitalize) = (c.toUpper :: tail) :: others ∧
      IsAscii (c.toUpper :: tail) := by
  have here : IsInner c := word.chars c List.mem_cons_self
  have whole := isAscii_flatMap_capitalize (List.forall_mem_cons.mpr ⟨word, words⟩)
  rw [List.flatMap_cons, capitalize_of_ascii word.ascii, List.cons_append] at whole ⊢
  obtain ⟨tail, others, parts, -⟩ := exists_split_cons here.capital
    (rest.map Char.toLower ++ ws.flatMap capitalize)
  exact ⟨tail, others, parts, (isAsciiWord_of_mem_split whole (parts ▸ List.mem_cons_self)).ascii⟩

/-- A word with more glued to it is longer. -/
theorem lower_append_ne {more : List Char} (left : IsAscii u) (right : IsAscii more)
    (present : more ≠ []) : lower (capitalize u ++ more) ≠ lower u := by
  intro same
  have together : IsAscii (capitalize u ++ more) :=
    List.forall_mem_append.mpr ⟨isAscii_capitalize left, right⟩
  have alone : (lower (capitalize u)).length = (lower u).length := by rw [lower_capitalize left]
  have longer := congrArg List.length same
  simp only [lower_of_ascii together, lower_of_ascii left, lower_of_ascii (isAscii_capitalize left),
    List.length_map, List.length_append] at longer alone
  exact present (List.length_eq_zero_iff.mp (by omega))

/-- Only the first word of two that were glued has a capital. -/
theorem capitalize_append {more : List Char} (word : IsAsciiWord u) (right : IsAscii more) :
    capitalize (capitalize u ++ more) = capitalize u ++ lower more := by
  obtain ⟨c, rest, rfl, -, later, capitals⟩ := word.exists_cons
  have together : IsAscii (capitalize (c :: rest) ++ more) :=
    List.forall_mem_append.mpr ⟨word.ascii_capitalize, right⟩
  rw [capitals, List.cons_append] at together ⊢
  rw [capitalize_of_ascii together, lower_of_ascii right]
  simp

/-- Where the seams are seen, and only there, the camel form has the words that it was made of. -/
theorem map_lower_split_camel_iff (words : ∀ w ∈ ws, IsAsciiWord w) :
    (split (ws.flatMap capitalize)).map lower = ws.map lower ↔
      ws.IsChain (fun u v => seamSeen u v = true) := by
  induction ws with
  | nil => simp
  | cons u ws inductionHypothesis =>
    obtain ⟨left, later⟩ := List.forall_mem_cons.mp words
    cases ws with
    | nil => simp [split_capitalize left, lower_capitalize left.ascii]
    | cons v ws =>
      obtain ⟨right, rest⟩ := List.forall_mem_cons.mp later
      rw [split_seam left right rest, List.isChain_cons_cons]
      by_cases seen : seamSeen u v = true
      · rw [if_pos seen, List.map_cons, lower_capitalize left.ascii, List.map_cons,
          List.cons_inj_right, inductionHypothesis later]
        simp [seen]
      · obtain ⟨c, tail, rfl, -⟩ := right.exists_cons
        obtain ⟨more, others, parts, ascii⟩ := exists_split_camel right rest
        rw [if_neg seen, parts, List.modifyHead_cons, List.map_cons, List.map_cons]
        refine iff_of_false (fun same => ?_) (fun chain => seen chain.1)
        exact lower_append_ne left.ascii ascii (List.cons_ne_nil _ _) (List.cons.inj same).1

/-- A second camel form differs where the letter after a seam that is not seen loses its capital. -/
theorem flatMap_capitalize_split_camel_iff (words : ∀ w ∈ ws, IsAsciiWord w) :
    (split (ws.flatMap capitalize)).flatMap capitalize = ws.flatMap capitalize ↔
      ws.IsChain (fun u v => beginsWithLetter v = true → seamSeen u v = true) := by
  induction ws with
  | nil => simp
  | cons u ws inductionHypothesis =>
    obtain ⟨left, later⟩ := List.forall_mem_cons.mp words
    cases ws with
    | nil => simp [split_capitalize left, capitalize_capitalize left.ascii]
    | cons v ws =>
      obtain ⟨right, rest⟩ := List.forall_mem_cons.mp later
      have joined : (u :: v :: ws).flatMap capitalize =
          capitalize u ++ (v :: ws).flatMap capitalize := List.flatMap_cons
      have again := inductionHypothesis later
      rw [split_seam left right rest, List.isChain_cons_cons, joined]
      by_cases seen : seamSeen u v = true
      · rw [if_pos seen, List.flatMap_cons, capitalize_capitalize left.ascii,
          List.append_cancel_left_eq, again]
        simp [seen]
      · obtain ⟨c, tail, rfl, -, -, capitals⟩ := right.exists_cons
        obtain ⟨more, others, parts, ascii⟩ := exists_split_camel right rest
        have first : beginsWithLetter (c :: tail) = c.isAlpha := rfl
        rw [parts, List.flatMap_cons] at again
        rw [if_neg seen, parts, List.modifyHead_cons, List.flatMap_cons,
          capitalize_append left ascii, List.append_assoc, List.append_cancel_left_eq, first]
        by_cases letter : c.isAlpha = true
        · -- inside a glued word the letter is small in the second camel form
          refine iff_of_false (fun same => ?_) (fun chain => seen (chain.1 letter))
          rw [List.flatMap_cons, capitals, lower_of_ascii ascii, List.map_cons,
            Char.toLower_toUpper_eq_toLower] at same
          have small : c.toUpper = c.toLower := (List.cons.inj same).1.symm
          simp [toUpper_eq_toLower_iff.mp small] at letter
        · -- a digit has no capital to lose, so only the later seams count
          have kept : lower (c.toUpper :: more) = capitalize (c.toUpper :: more) :=
            (capitalize_eq_lower_iff ascii).mpr (by simpa using letter) |>.symm
          rw [kept, again]
          simp [letter]

theorem isAscii_upperCamel (ascii : IsAscii s) : IsAscii (upperCamel s) :=
  isAscii_flatMap_capitalize fun _ word => isAsciiWord_of_mem_split ascii word

theorem snake_upperCamel_iff (ascii : IsAscii s) :
    snake (upperCamel s) = snake s ↔ (split s).IsChain (fun u v => seamSeen u v = true) := by
  rw [snake_eq_snake_iff (lowersPlainly_of_ascii (isAscii_upperCamel ascii))
    (lowersPlainly_of_ascii ascii), upperCamel]
  exact map_lower_split_camel_iff fun _ word => isAsciiWord_of_mem_split ascii word

theorem upperCamel_upperCamel_iff (ascii : IsAscii s) :
    upperCamel (upperCamel s) = upperCamel s ↔
      (split s).IsChain (fun u v => beginsWithLetter v = true → seamSeen u v = true) :=
  flatMap_capitalize_split_camel_iff fun _ word => isAsciiWord_of_mem_split ascii word

end BindingNames.Words

namespace BindingNames.Identifier

open Words (beginsWithLetter isOneLetter secondIsLetter)

/-- A camel form keeps the snake form just if between any two words the second begins with a letter
and either the first is not a single letter or a second letter follows. It is its own camel form
just if the latter holds wherever the second word begins with a letter. -/
theorem camel_rounds_iff (name : String) (ascii : Text.IsAscii name.toList) :
    (snakeCase (upperCamelCase name) = snakeCase name ↔
      (words name).IsChain fun u v => beginsWithLetter v.toList ∧
        (¬isOneLetter u.toList ∨ secondIsLetter v.toList)) ∧
    (upperCamelCase (upperCamelCase name) = upperCamelCase name ↔
      (words name).IsChain fun u v => beginsWithLetter v.toList →
        ¬isOneLetter u.toList ∨ secondIsLetter v.toList) := by
  constructor
  · rw [snakeCase, upperCamelCase, snakeCase, String.toList_ofList, String.ofList_inj,
      Words.snake_upperCamel_iff ascii, words, List.isChain_map]
    simp [Words.seamSeen]
  · rw [upperCamelCase, upperCamelCase, String.toList_ofList, String.ofList_inj,
      Words.upperCamel_upperCamel_iff ascii, words, List.isChain_map]
    simp +contextual [Words.seamSeen]

/-- A digit that begins a word is glued to the word before it, once and for all. -/
theorem camel_rounds_iff_digit :
    Text.IsAscii "parse_2nd".toList ∧
    snakeCase (upperCamelCase "parse_2nd") ≠ snakeCase "parse_2nd" ∧
    upperCamelCase (upperCamelCase "parse_2nd") = upperCamelCase "parse_2nd" := by
  have ascii : Text.IsAscii "parse_2nd".toList := by decide
  have parts : words "parse_2nd" = ["parse", "2nd"] := by decide +kernel
  obtain ⟨snake, camel⟩ := camel_rounds_iff "parse_2nd" ascii
  rw [parts, List.isChain_pair] at snake camel
  exact ⟨ascii, fun same => absurd (snake.mp same).1 (by decide), camel.mpr (by decide)⟩

end BindingNames.Identifier
