import BindingNames.Proofs.Words.Positions
import BindingNames.Proofs.Words.SnakeProjection

/-!
# Runs between separators

The runs of a name are what stands between its separators. A name is cut into runs and these into
words, so the words are the runs exactly if the letter case turns nowhere inside a run. In lower
case it never does: a name that is lowered before it is cut has its runs as words. In ASCII no
character is lost by this, and the two snake forms tell whether the words are the runs.
-/

namespace BindingNames.Words

open Unicode Text

variable {c d : Char} {s rest : List Char}

/-- The longest stretches of a text without a separator. -/
def runs (s : List Char) : List (List Char) :=
  (s.splitOnP isSeparator).filter (fun run => !run.isEmpty)

@[simp] theorem runs_nil : runs [] = [] := by simp [runs, List.splitOnP_nil]

theorem runs_cons_separator (separates : isSeparator c = true) (rest : List Char) :
    runs (c :: rest) = runs rest := by
  simp [runs, List.splitOnP_cons_eq_if_modifyHead, separates]

theorem runs_cons_alone (inner : isSeparator c = false)
    (alone : rest.head?.all isSeparator = true) : runs (c :: rest) = [c] :: runs rest := by
  cases rest with
  | nil => simp [runs, List.splitOnP_cons_eq_if_modifyHead, List.splitOnP_nil, inner]
  | cons d rest =>
    have separates : isSeparator d = true := by simpa using alone
    simp [runs, List.splitOnP_cons_eq_if_modifyHead, inner, separates]

theorem runs_cons_cons (inner : isSeparator c = false) (innerNext : isSeparator d = false)
    (rest : List Char) :
    ∃ first others, runs (d :: rest) = (d :: first) :: others ∧
      runs (c :: d :: rest) = (c :: d :: first) :: others := by
  obtain ⟨first, others, parts⟩ :=
    List.exists_cons_of_ne_nil (List.splitOnP_ne_nil isSeparator rest)
  refine ⟨first, others.filter (fun run => !run.isEmpty), ?_, ?_⟩
  · simp [runs, List.splitOnP_cons_eq_if_modifyHead, innerNext, parts]
  · simp [runs, List.splitOnP_cons_eq_if_modifyHead, inner, innerNext, parts]

/-- The runs hold what is no separator, in order. -/
theorem flatten_runs (s : List Char) :
    (runs s).flatten = s.filter (fun c => !isSeparator c) := by
  rw [runs, List.flatten_filter_not_isEmpty]
  induction s with
  | nil => simp [List.splitOnP_nil]
  | cons c rest inductionHypothesis =>
    obtain ⟨first, others, parts⟩ :=
      List.exists_cons_of_ne_nil (List.splitOnP_ne_nil isSeparator rest)
    rw [List.splitOnP_cons_eq_if_modifyHead]
    by_cases separates : isSeparator c = true
    · simpa [separates] using inductionHypothesis
    · simpa [separates, parts] using inductionHypothesis

/-- Nowhere in the text does the letter case turn between two neighbours that stand side by side. -/
def NoTurns (s : List Char) : Prop :=
  ∀ p, Neighbours s p (p + 1) → ¬CaseTurns s p (p + 1)

theorem neighbours_succ_iff {p : Nat} :
    Neighbours s p (p + 1) ↔ isAt isWordPart s p = true ∧ isAt isWordPart s (p + 1) = true :=
  ⟨fun h => ⟨h.left, h.right⟩, fun h => ⟨Nat.lt_succ_self p, h.1, h.2, by omega⟩⟩

/-- The first two characters stand side by side. -/
theorem neighbours_zero_one_iff :
    Neighbours (c :: rest) 0 1 ↔ isSeparator c = false ∧ rest.head?.all isSeparator = false := by
  cases rest with
  | nil => simp [neighbours_succ_iff, isAt]
  | cons d rest => simp [neighbours_succ_iff, isWordPart_eq]

theorem noTurns_cons :
    NoTurns (c :: s) ↔ (Neighbours (c :: s) 0 1 → ¬CaseTurns (c :: s) 0 1) ∧ NoTurns s := by
  constructor
  · intro still
    refine ⟨still 0, fun p neighbours => ?_⟩
    have shifted : Neighbours (c :: s) (p + 1) (p + 1 + 1) := by
      simpa [neighbours_succ_iff] using neighbours
    simpa using still (p + 1) shifted
  · rintro ⟨here, later⟩ p neighbours
    cases p with
    | zero => exact here neighbours
    | succ p => simpa using later p neighbours.tail

/-- Before a separator a word ends, and so does the run. -/
theorem split_eq_runs_cons_alone (inner : isSeparator c = false)
    (alone : rest.head?.all isSeparator = true) :
    split (c :: rest) = runs (c :: rest) ↔ split rest = runs rest := by
  have ends : endsBefore c rest = true := by
    cases rest with
    | nil => rfl
    | cons d rest => simpa [endsBefore] using .inl alone
  rw [split_cons_ends inner ends, runs_cons_alone inner alone, List.cons_inj_right]

/-- Inside a run the word has to go on where the run does. -/
theorem split_eq_runs_cons_cons (inner : isSeparator c = false) (next : isSeparator d = false)
    (rest : List Char) :
    split (c :: d :: rest) = runs (c :: d :: rest) ↔
      endsBefore c (d :: rest) = false ∧ split (d :: rest) = runs (d :: rest) := by
  obtain ⟨first, others, later, parts⟩ := runs_cons_cons inner next rest
  rw [later, parts]
  rcases split_cons_cases c (d :: rest) with
    ⟨outer, -⟩ | ⟨-, ends, words⟩ | ⟨-, goesOn, word, more, words, here⟩
  · simp [inner] at outer
  · simp [words, ends]
  · simp [words, here, goesOn]

/-- The words are the runs just if the letter case turns nowhere inside a run. -/
theorem split_eq_runs_iff (s : List Char) : split s = runs s ↔ NoTurns s := by
  induction s with
  | nil => simp [NoTurns, neighbours_succ_iff, isAt]
  | cons c rest inductionHypothesis =>
    rw [noTurns_cons, ← inductionHypothesis]
    by_cases separates : isSeparator c = true
    · simp [split_cons_separator separates, runs_cons_separator separates,
        neighbours_zero_one_iff, separates]
    · have inner : isSeparator c = false := by simpa using separates
      by_cases alone : rest.head?.all isSeparator = true
      · simp [split_eq_runs_cons_alone inner alone, neighbours_zero_one_iff, alone]
      · cases rest with
        | nil => simp at alone
        | cons d rest =>
          have next : isSeparator d = false := by simpa using alone
          have side : Neighbours (c :: d :: rest) 0 1 := neighbours_zero_one_iff.mpr ⟨inner, next⟩
          rw [split_eq_runs_cons_cons inner next, endsBefore_eq_false_iff side]
          simp [side]

/-- The case of a text without capitals cannot turn. -/
theorem noTurns_of_small (small : ∀ c ∈ s, isUpper c = false) : NoTurns s := by
  have none (q : Nat) : isAt isUpper s q = false := by
    cases here : s[q]? with
    | none => simp [isAt, here]
    | some c => simp [isAt, here, small c (List.mem_of_getElem? here)]
  intro p _ turns
  simp [CaseTurns, none] at turns

/-- Characters may be exchanged as long as the separators stay. -/
theorem runs_map {f : Char → Char} (keeps : ∀ c ∈ s, isSeparator (f c) = isSeparator c) :
    runs (s.map f) = (runs s).map (List.map f) := by
  have parts : (s.map f).splitOnP isSeparator = (s.splitOnP isSeparator).map (List.map f) := by
    induction s with
    | nil => simp [List.splitOnP_nil]
    | cons c rest inductionHypothesis =>
      obtain ⟨here, later⟩ := List.forall_mem_cons.mp keeps
      rw [List.map_cons, List.splitOnP_cons_eq_if_modifyHead,
        List.splitOnP_cons_eq_if_modifyHead, here, inductionHypothesis later]
      cases rest.splitOnP isSeparator <;> split <;> rfl
  have filled : (fun run => !run.isEmpty) ∘ List.map f = fun run => !run.isEmpty := by
    funext run
    simp
  rw [runs, parts, List.filter_map, filled, runs]

theorem isSeparator_toLower (ascii : c.toNat < 128) :
    isSeparator c.toLower = isSeparator c := by
  have plain := isPlain_of_ascii ascii
  have small := isPlain_of_ascii (ascii_forms ascii).1
  by_cases letter : c.isAlpha = true
  · simp [isSeparator, plain.alphanumeric, small.alphanumeric, Char.isAlphanum, letter]
  · have noCapital : ¬c.isUpper := fun upper => letter (by simp [Char.isAlpha, upper])
    rw [Char.toLower_eq_of_not_isUpper noCapital]

/-- Words and runs hold the characters of the text only, so they are lowered one by one. -/
theorem map_lower_of_flatten (ascii : IsAscii s) {ws : List (List Char)}
    (parts : ws.flatten = s.filter (fun c => !isSeparator c)) :
    ws.map lower = ws.map (List.map Char.toLower) := by
  refine List.map_congr_left fun w listed => lower_of_ascii fun c member => ?_
  have kept : c ∈ s.filter (fun c => !isSeparator c) :=
    parts ▸ List.mem_flatten.mpr ⟨w, listed, member⟩
  exact ascii c (List.mem_of_mem_filter kept)

/-- Lowering a text of ASCII moves no separator, and it leaves nothing to cut at but these. -/
theorem split_lower (ascii : IsAscii s) : split (lower s) = (runs s).map lower := by
  have small : ∀ c ∈ s.map Char.toLower, isUpper c = false := by
    intro d member
    obtain ⟨c, listed, rfl⟩ := List.mem_map.mp member
    rw [(isPlain_of_ascii (ascii_forms (ascii c listed)).1).upper, Char.isUpper_toLower_eq_false]
  have keeps : ∀ c ∈ s, isSeparator c.toLower = isSeparator c :=
    fun c listed => isSeparator_toLower (ascii c listed)
  rw [lower_of_ascii ascii, (split_eq_runs_iff _).mpr (noTurns_of_small small), runs_map keeps,
    map_lower_of_flatten ascii (flatten_runs s)]

theorem map_lower_split_lower (ascii : IsAscii s) :
    (split (lower s)).map lower = (runs s).map lower := by
  rw [split_lower ascii, List.map_map]
  exact List.map_congr_left fun run _ => lower_lower run

/-- Words and runs hold the same characters, and lowering keeps how many there are in each. -/
theorem map_lower_split_eq_iff (ascii : IsAscii s) :
    (split s).map lower = (runs s).map lower ↔ split s = runs s := by
  constructor
  · intro same
    have lengths := congrArg (List.map List.length) same
    rw [map_lower_of_flatten ascii (flatten_split s),
      map_lower_of_flatten ascii (flatten_runs s)] at lengths
    simp only [List.map_map, Function.comp_def, List.length_map] at lengths
    exact List.eq_iff_flatten_eq.mpr ⟨(flatten_split s).trans (flatten_runs s).symm, lengths⟩
  · intro same
    rw [same]

/-- To lower a name before or after it is cut makes no difference just if its words are its runs. -/
theorem snake_lower_eq_iff (ascii : IsAscii s) : snake (lower s) = snake s ↔ split s = runs s := by
  rw [snake_eq_snake_iff (lowersPlainly_of_ascii (isAscii_lower ascii))
    (lowersPlainly_of_ascii ascii), map_lower_split_lower ascii, eq_comm,
    map_lower_split_eq_iff ascii]

/-- Low lines stand only between the words of a snake form. -/
theorem filter_intercalate {ws : List (List Char)} (clear : ∀ w ∈ ws, '_' ∉ w) :
    (['_'].intercalate ws).filter (fun c => c != '_') = ws.flatten := by
  induction ws with
  | nil => simp
  | cons w ws inductionHypothesis =>
    obtain ⟨here, later⟩ := List.forall_mem_cons.mp clear
    have kept : w.filter (fun c => c != '_') = w :=
      List.filter_eq_self.mpr fun c member => bne_iff_ne.mpr fun same => here (same ▸ member)
    cases ws with
    | nil => simpa using kept
    | cons v ws =>
      rw [List.intercalate_cons_cons, List.filter_append, List.filter_append, kept,
        inductionHypothesis later]
      simp

theorem filter_snake (s : List Char) :
    (snake s).filter (fun c => c != '_') = ((split s).map lower).flatten := by
  refine filter_intercalate fun lowered member => ?_
  obtain ⟨w, word, rfl⟩ := List.mem_map.mp member
  exact low_line_not_mem_lower (low_line_not_mem_of_mem_split word)

/-- What is between the low lines is the same, whether the name is lowered first or not. -/
theorem filter_snake_lower (ascii : IsAscii s) :
    (snake (lower s)).filter (fun c => c != '_') = (snake s).filter (fun c => c != '_') := by
  rw [filter_snake, filter_snake, map_lower_split_lower ascii,
    map_lower_of_flatten ascii (flatten_runs s), map_lower_of_flatten ascii (flatten_split s),
    ← List.map_flatten, ← List.map_flatten, flatten_split, flatten_runs]

end BindingNames.Words
