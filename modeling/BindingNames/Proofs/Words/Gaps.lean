import BindingNames.Identifier
import BindingNames.Proofs.Words.Resplitting

/-!
# Words between gaps

A gap is one or more separators. What stands before a gap and what follows it are cut apart from
each other, whatever they are and however the gap is made; separators at the ends of either belong
to no word. As a word that was cut out stays whole, the words of a name come back from every text
that sets a gap between any two of them.
-/

namespace BindingNames.Words

variable {gap : List Char}

/-- Separators at the beginning belong to no word. -/
theorem split_separators_append (separates : ∀ c ∈ gap, isSeparator c = true)
    (rest : List Char) : split (gap ++ rest) = split rest := by
  induction gap with
  | nil => rfl
  | cons d gap inductionHypothesis =>
    obtain ⟨first, later⟩ := List.forall_mem_cons.mp separates
    rw [List.cons_append, split_cons_separator first, inductionHypothesis later]

theorem split_append_gap (filled : gap ≠ []) (separates : ∀ c ∈ gap, isSeparator c = true)
    (before rest : List Char) : split (before ++ gap ++ rest) = split before ++ split rest := by
  obtain ⟨d, gap, rfl⟩ := List.exists_cons_of_ne_nil filled
  obtain ⟨first, later⟩ := List.forall_mem_cons.mp separates
  rw [List.append_assoc, List.cons_append, split_append_separator first,
    split_separators_append later]

end BindingNames.Words

namespace BindingNames.Identifier

/-- One or more separators and nothing else. -/
structure IsGap (s : String) : Prop where
  filled : s ≠ ""
  separates : ∀ c ∈ s.toList, Words.isSeparator c = true

/-- The text is made of these words, in order, with a gap between any two of them. The gaps need
not be the same. -/
inductive SpacedOut : List String → String → Prop
  | none : SpacedOut [] ""
  | one (w : String) : SpacedOut [w] w
  | more {w v gap text : String} {ws : List String} : IsGap gap → SpacedOut (v :: ws) text →
      SpacedOut (w :: v :: ws) (w ++ gap ++ text)

theorem words_append_gap {gap : String} (separates : IsGap gap) (before rest : String) :
    words (before ++ gap ++ rest) = words before ++ words rest := by
  have filled : gap.toList ≠ [] := by simpa using separates.filled
  simp only [words, String.toList_append, Words.split_append_gap filled separates.separates,
    List.map_append]

theorem words_of_mem_words {name w : String} (word : w ∈ words name) : words w = [w] := by
  obtain ⟨letters, member, rfl⟩ := List.mem_map.mp word
  simp [words, Words.split_of_mem_split member]

/-- Whole words are cut out of any text that spaces them out. -/
theorem words_of_spacedOut {ws : List String} {text : String} (spaced : SpacedOut ws text)
    (whole : ∀ w ∈ ws, words w = [w]) : words text = ws := by
  induction spaced with
  | none => rfl
  | one w => exact whole w List.mem_cons_self
  | more separates _ inductionHypothesis =>
    obtain ⟨first, later⟩ := List.forall_mem_cons.mp whole
    rw [words_append_gap separates, first, inductionHypothesis later, List.singleton_append]

/-- Cutting turns gaps into ends of lists, leaves words whole and so undoes every spacing out. -/
theorem words_gap_homomorphism :
    (∀ before gap rest, IsGap gap →
      words (before ++ gap ++ rest) = words before ++ words rest) ∧
    (∀ name, ∀ w ∈ words name, words w = [w]) ∧
    ∀ name text, SpacedOut (words name) text → words text = words name := by
  refine ⟨fun before gap rest separates => words_append_gap separates before rest,
    fun name w word => words_of_mem_words word, fun name text spaced => ?_⟩
  exact words_of_spacedOut spaced fun w word => words_of_mem_words word

/-- The last capital before a small letter begins a word, and what it leaves behind is whole; gaps
differ, and separators at the ends are lost with them. -/
theorem words_gap_homomorphism_acronym :
    (IsGap "-\u00a0_" ∧ words ("_getHTTP_" ++ "-\u00a0_" ++ ".Ändern") =
      words "_getHTTP_" ++ words ".Ändern") ∧
    ("HTTP" ∈ words "HTTPÄndern2Go" ∧ words "HTTP" = ["HTTP"]) ∧
    (SpacedOut (words "HTTPÄndern2Go") "HTTP-\u00a0_Ändern2.Go" ∧
      words "HTTP-\u00a0_Ändern2.Go" = words "HTTPÄndern2Go") := by
  have wide : IsGap "-\u00a0_" := ⟨by decide, List.all_eq_true.mp (by decide +kernel)⟩
  have narrow : IsGap "." := ⟨by decide, List.all_eq_true.mp (by decide +kernel)⟩
  have parts : words "HTTPÄndern2Go" = ["HTTP", "Ändern2", "Go"] := by decide +kernel
  have listed : "HTTP" ∈ words "HTTPÄndern2Go" := by simp [parts]
  have spaced : SpacedOut (words "HTTPÄndern2Go") "HTTP-\u00a0_Ändern2.Go" := by
    rw [parts]
    exact .more wide (.more narrow (.one "Go"))
  obtain ⟨apart, whole, undone⟩ := words_gap_homomorphism
  exact ⟨⟨wide, apart _ _ _ wide⟩, ⟨listed, whole _ _ listed⟩, spaced, undone _ _ spaced⟩

end BindingNames.Identifier
