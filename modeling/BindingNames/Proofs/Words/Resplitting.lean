import BindingNames.Words

/-!
# Words cut again

A separator keeps what stands before it apart from what follows, so joined texts are cut where they
were joined and each on its own. A word that was cut out stays whole when it is cut alone: without
the character that followed it, no more boundaries are seen inside. So the words of a name are cut
back out of any text that joins them by low lines.
-/

namespace BindingNames.Words

open Unicode

variable {c d : Char}

/-- A character separates words, is the last of its word, or begins the word that goes on. -/
theorem split_cons_cases (c : Char) (rest : List Char) :
    isSeparator c = true ∧ split (c :: rest) = split rest ∨
    isSeparator c = false ∧ endsBefore c rest = true ∧ split (c :: rest) = [c] :: split rest ∨
    isSeparator c = false ∧ endsBefore c rest = false ∧
      ∃ first others, split rest = first :: others ∧
        split (c :: rest) = (c :: first) :: others := by
  by_cases separates : isSeparator c = true
  · exact .inl ⟨separates, split_cons_separator separates rest⟩
  · have inner : isSeparator c = false := by simpa using separates
    by_cases ends : endsBefore c rest = true
    · exact .inr (.inl ⟨inner, ends, split_cons_ends inner ends⟩)
    · have goesOn : endsBefore c rest = false := by simpa using ends
      obtain ⟨first, others, words⟩ :=
        List.exists_cons_of_ne_nil (split_ne_nil_of_goes_on goesOn)
      refine .inr (.inr ⟨inner, goesOn, first, others, words, ?_⟩)
      rw [split_cons_goes_on inner goesOn, words, List.modifyHead_cons]

/-- What follows a separator is not looked at before it. -/
theorem smallFollows_append_separator (separates : isSeparator d = true) (before rest : List Char) :
    smallFollows (before ++ d :: rest) = smallFollows before := by
  cases before with
  | nil => simp [smallFollows, separates]
  | cons e before => rfl

theorem endsBefore_append_separator (separates : isSeparator d = true) (last : Char)
    (before rest : List Char) : endsBefore last (before ++ d :: rest) = endsBefore last before := by
  cases before with
  | nil => simp [endsBefore, separates]
  | cons e before =>
    simp only [List.cons_append, endsBefore, beginsAt, smallFollows_append_separator separates]

/-- A text is cut at every separator. -/
theorem split_append_separator (separates : isSeparator d = true) (before rest : List Char) :
    split (before ++ d :: rest) = split before ++ split rest := by
  induction before with
  | nil => simp [split_cons_separator separates]
  | cons c before inductionHypothesis =>
    have ahead := endsBefore_append_separator separates c before rest
    rw [List.cons_append]
    rcases split_cons_cases c before with
      ⟨outer, words⟩ | ⟨inner, ends, words⟩ | ⟨inner, goesOn, first, others, later, words⟩
    · rw [words, split_cons_separator outer, inductionHypothesis]
    · rw [words, split_cons_ends inner (ahead.trans ends), inductionHypothesis, List.cons_append]
    · rw [words, split_cons_goes_on inner (ahead.trans goesOn), inductionHypothesis, later,
        List.cons_append, List.modifyHead_cons, List.cons_append]

/-- The first word of a text that begins inside one is a beginning of the text. -/
theorem exists_split_cons (inner : isSeparator c = false) (rest : List Char) :
    ∃ tail others, split (c :: rest) = (c :: tail) :: others ∧ tail <+: rest := by
  induction rest generalizing c with
  | nil => exact ⟨[], [], split_cons_ends inner rfl, List.prefix_rfl⟩
  | cons d rest inductionHypothesis =>
    rcases split_cons_cases c (d :: rest) with
      ⟨outer, -⟩ | ⟨-, -, words⟩ | ⟨-, goesOn, first, others, later, words⟩
    · simp [inner] at outer
    · exact ⟨[], split (d :: rest), words, List.nil_prefix⟩
    · obtain ⟨tail, more, parts, start⟩ :=
        inductionHypothesis (Bool.or_eq_false_iff.mp goesOn).1
      obtain ⟨rfl, rfl⟩ := List.cons.inj (later.symm.trans parts)
      exact ⟨d :: tail, others, words, (List.prefix_cons_inj d).mpr start⟩

/-- A small letter that follows in a beginning of a text follows in the text. -/
theorem smallFollows_of_begins {start s : List Char} (begins : start <+: s)
    (follows : smallFollows start = true) : smallFollows s = true := by
  obtain ⟨rest, rfl⟩ := begins
  cases start with
  | nil => simp [smallFollows] at follows
  | cons c start => exact follows

/-- Where a word goes on, it goes on without what comes after it. -/
theorem endsBefore_of_begins {last : Char} {start s : List Char} (begins : start <+: s)
    (goesOn : endsBefore last (c :: s) = false) : endsBefore last (c :: start) = false := by
  have fewer : smallFollows start = true → smallFollows s = true := smallFollows_of_begins begins
  simp only [endsBefore, beginsAt, Bool.or_eq_false_iff, Bool.and_eq_false_iff] at goesOn ⊢
  obtain ⟨inner, afterSmall, acronym⟩ := goesOn
  refine ⟨inner, afterSmall, acronym.imp_right fun absent => ?_⟩
  exact Bool.eq_false_iff.mpr fun follows => Bool.eq_false_iff.mp absent (fewer follows)

/-- A word that was cut out is whole. -/
theorem split_of_mem_split {s w : List Char} (word : w ∈ split s) : split w = [w] := by
  induction s generalizing w with
  | nil => simp at word
  | cons c rest inductionHypothesis =>
    rcases split_cons_cases c rest with
      ⟨-, words⟩ | ⟨inner, -, words⟩ | ⟨inner, goesOn, first, others, later, words⟩
    · exact inductionHypothesis (words ▸ word)
    · rcases List.mem_cons.mp (words ▸ word) with rfl | further
      · exact split_cons_ends inner rfl
      · exact inductionHypothesis further
    · rcases List.mem_cons.mp (words ▸ word) with rfl | further
      · -- the word that goes on is a beginning of the rest, which tells less than the rest
        have whole : split first = [first] := inductionHypothesis (later ▸ List.mem_cons_self)
        cases rest with
        | nil => simp [endsBefore] at goesOn
        | cons d rest =>
          obtain ⟨tail, more, parts, start⟩ :=
            exists_split_cons (Bool.or_eq_false_iff.mp goesOn).1 rest
          obtain ⟨rfl, -⟩ := List.cons.inj (later.symm.trans parts)
          rw [split_cons_goes_on inner (endsBefore_of_begins start goesOn), whole,
            List.modifyHead_cons]
      · exact inductionHypothesis (later ▸ List.mem_cons_of_mem _ further)

/-- Whole words joined by low lines are cut where they were joined. -/
theorem split_intercalate {ws : List (List Char)} (whole : ∀ w ∈ ws, split w = [w]) :
    split (['_'].intercalate ws) = ws := by
  induction ws with
  | nil => simp
  | cons w ws inductionHypothesis =>
    obtain ⟨first, later⟩ := List.forall_mem_cons.mp whole
    cases ws with
    | nil => simpa using first
    | cons v ws =>
      rw [List.intercalate_cons_cons, List.append_assoc, List.singleton_append,
        split_append_separator isSeparator_low_line, first, inductionHypothesis later,
        List.singleton_append]

theorem split_intercalate_split (s : List Char) : split (['_'].intercalate (split s)) = split s :=
  split_intercalate fun _ word => split_of_mem_split word

/-- Neither separators nor capitals, so nothing to cut at. -/
def Uncut (s : List Char) : Prop := ∀ c ∈ s, isSeparator c = false ∧ isUpper c = false

-- the search for an instance may find one that goes through all characters
instance (s : List Char) : Decidable (Uncut s) :=
  List.decidableBAll (fun c => isSeparator c = false ∧ isUpper c = false) s

/-- Nothing tells that a word begins before the last character. -/
theorem split_append_of_uncut (inner : isSeparator c = false) {tail : List Char}
    (uncut : Uncut tail) (rest : List Char) :
    split (c :: tail ++ rest) =
      if endsBefore ((c :: tail).getLast (List.cons_ne_nil c tail)) rest then
        (c :: tail) :: split rest
      else (split rest).modifyHead (c :: tail ++ ·) := by
  induction tail generalizing c with
  | nil =>
    split
    next ends => exact split_cons_ends inner ends
    next goesOn => exact split_cons_goes_on inner (by simpa using goesOn)
  | cons d tail inductionHypothesis =>
    obtain ⟨⟨here, small⟩, later⟩ := List.forall_mem_cons.mp uncut
    have goesOn : endsBefore c (d :: tail ++ rest) = false := by
      simp [endsBefore, beginsAt, here, small]
    rw [List.cons_append, split_cons_goes_on inner goesOn, inductionHypothesis here later,
      List.getLast_cons_cons]
    split
    next => rfl
    next => rw [List.modifyHead_modifyHead]; rfl

theorem split_eq_singleton (inner : isSeparator c = false) {tail : List Char} (uncut : Uncut tail) :
    split (c :: tail) = [c :: tail] := by
  simpa [endsBefore] using split_append_of_uncut inner uncut []

theorem split_of_uncut {w : List Char} (filled : w ≠ []) (uncut : Uncut w) : split w = [w] := by
  obtain ⟨c, tail, rfl⟩ := List.exists_cons_of_ne_nil filled
  obtain ⟨first, rest⟩ := List.forall_mem_cons.mp uncut
  exact split_eq_singleton first.1 rest

end BindingNames.Words
