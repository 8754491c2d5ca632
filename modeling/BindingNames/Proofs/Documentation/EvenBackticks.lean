import BindingNames.Documentation.Markdown
import BindingNames.Proofs.Text.Segments
import Mathlib.Data.List.SplitBy

/-!
# Even runs of backticks

A text is a sequence of runs, each of one character and as long as it can be. To halve the pairs of
backticks and then to double every backtick makes the length of each run of backticks even, by one
backtick more where it is odd, and keeps every other run. The runs do not merge by that, so a second
time there is nothing left to do. Links are not part of the prose and stay as they are.
-/

namespace BindingNames

namespace Text

/-- The runs of equal characters in a text, each as long as it can be. -/
def equalRuns (s : List Char) : List (List Char) := s.splitBy (· == ·)

/-- Runs of one character each, of which no two neighbours have the same. -/
inductive IsEqualRuns : List (List Char) → Prop
  | nil : IsEqualRuns []
  | cons {c : Char} {n : Nat} {runs : List (List Char)} (rest : IsEqualRuns runs)
      (other : runs.flatten.head? ≠ some c) : IsEqualRuns (List.replicate (n + 1) c :: runs)

/-- Such runs are found again in the text that they make up. -/
theorem IsEqualRuns.equalRuns_flatten {runs : List (List Char)} (h : IsEqualRuns runs) :
    equalRuns runs.flatten = runs := by
  induction h with
  | nil => rfl
  | @cons c n runs rest other inductionHypothesis =>
    have alone : (List.replicate (n + 1) c).splitBy (· == ·) = [List.replicate (n + 1) c] :=
      List.splitBy_of_isChain (by simp) (List.isChain_replicate_of_rel _ (by simp))
    have apart : ∀ x ∈ (List.replicate (n + 1) c).getLast?, ∀ y ∈ runs.flatten.head?,
        (x == y) = false := by
      intro x last y first
      obtain rfl : c = x := by simpa [List.getLast?_replicate] using last
      rw [beq_eq_false_iff_ne]
      rintro rfl
      exact other first
    rw [equalRuns] at inductionHypothesis ⊢
    rw [List.flatten_cons, List.splitBy_append apart, alone, inductionHypothesis,
      List.singleton_append]

theorem exists_isEqualRuns (s : List Char) : ∃ runs, IsEqualRuns runs ∧ s = runs.flatten := by
  induction s with
  | nil => exact ⟨[], .nil, rfl⟩
  | cons c rest inductionHypothesis =>
    obtain ⟨runs, lined, rfl⟩ := inductionHypothesis
    by_cases goesOn : runs.flatten.head? = some c
    · cases lined with
      | nil => simp at goesOn
      | @cons d n runs later other =>
        obtain rfl : d = c := by simpa [List.replicate_succ] using goesOn
        exact ⟨List.replicate (n + 2) d :: runs, .cons later other, by simp [List.replicate_succ]⟩
    · exact ⟨List.replicate 1 c :: runs, .cons lined goesOn, rfl⟩

theorem isEqualRuns_equalRuns (s : List Char) : IsEqualRuns (equalRuns s) := by
  obtain ⟨runs, lined, rfl⟩ := exists_isEqualRuns s
  rwa [lined.equalRuns_flatten]

@[simp] theorem flatten_equalRuns (s : List Char) : (equalRuns s).flatten = s :=
  List.flatten_splitBy _ s

/-- The run with one backtick more, if it is an odd number of backticks. -/
def evened (run : List Char) : List Char :=
  if backtick ∈ run then List.replicate (run.length + run.length % 2) backtick else run

/-- The text with each of its runs of backticks made even. -/
def evenRuns (s : List Char) : List Char := ((equalRuns s).map evened).flatten

theorem replace_pairs (n : Nat) {rest : List Char} (ends : rest.head? ≠ some backtick) :
    replace [backtick, backtick] [backtick] (List.replicate n backtick ++ rest) =
      List.replicate ((n + 1) / 2) backtick ++ replace [backtick, backtick] [backtick] rest := by
  induction n using Nat.twoStepInduction with
  | zero => rfl
  | one =>
    refine substitute_cons_skip ?_
    cases rest with
    | nil => rfl
    | cons c rest =>
      have other : backtick ≠ c := by simpa [eq_comm] using ends
      simp [List.isPrefixOf, other]
  | more n inductionHypothesis _ =>
    have half : (n + 2 + 1) / 2 = (n + 1) / 2 + 1 := by omega
    rw [half, List.replicate_succ, List.replicate_succ, List.replicate_succ, List.cons_append,
      List.cons_append, List.cons_append, ← inductionHypothesis]
    exact substitute_cons_match (by simp) rfl

theorem replace_single (n : Nat) (rest : List Char) :
    replace [backtick] [backtick, backtick] (List.replicate n backtick ++ rest) =
      List.replicate (2 * n) backtick ++ replace [backtick] [backtick, backtick] rest := by
  induction n with
  | zero => rfl
  | succ n inductionHypothesis =>
    rw [Nat.mul_succ, List.replicate_succ, List.replicate_succ, List.replicate_succ,
      List.cons_append, List.cons_append, List.cons_append, ← inductionHypothesis]
    exact substitute_cons_match (by simp) rfl

theorem evened_replicate_backtick (n : Nat) :
    evened (List.replicate (n + 1) backtick) =
      List.replicate (n + 1 + (n + 1) % 2) backtick := by
  rw [evened, if_pos (by simp), List.length_replicate]

theorem evened_replicate_of_ne (n : Nat) {c : Char} (other : backtick ≠ c) :
    evened (List.replicate n c) = List.replicate n c := by
  rw [evened, if_neg]
  exact fun member => other (List.eq_of_mem_replicate member)

end Text

namespace ProseStyle

open Text

/-- The pairs of one run are made without the others. -/
theorem pairBackticks_run (n : Nat) {c : Char} {rest : List Char} (ends : rest.head? ≠ some c) :
    pairBackticks (List.replicate (n + 1) c ++ rest) =
      evened (List.replicate (n + 1) c) ++ pairBackticks rest := by
  by_cases mark : c = backtick
  · subst mark
    have even : 2 * ((n + 1 + 1) / 2) = n + 1 + (n + 1) % 2 := by omega
    rw [pairBackticks, replace_pairs (n + 1) ends, replace_single, even,
      evened_replicate_backtick, pairBackticks]
  · have absent : backtick ∉ List.replicate (n + 1) c :=
      fun member => mark (List.eq_of_mem_replicate member).symm
    rw [evened_replicate_of_ne _ (Ne.symm mark)]
    simp only [pairBackticks, replace, substitute_append_of_not_mem absent]

theorem pairBackticks_eq (s : List Char) : pairBackticks s = evenRuns s := by
  have runs {rs : List (List Char)} (lined : IsEqualRuns rs) :
      pairBackticks rs.flatten = (rs.map evened).flatten := by
    induction lined with
    | nil => simp [pairBackticks]
    | cons rest other inductionHypothesis =>
      rw [List.flatten_cons, pairBackticks_run _ other, inductionHypothesis, List.map_cons,
        List.flatten_cons]
  rw [evenRuns, ← runs (isEqualRuns_equalRuns s), flatten_equalRuns]

end ProseStyle

namespace Text

theorem exists_evened (n : Nat) (c : Char) :
    ∃ m, evened (List.replicate (n + 1) c) = List.replicate (m + 1) c := by
  by_cases mark : backtick = c
  · subst mark
    exact ⟨n + (n + 1) % 2, by rw [evened_replicate_backtick, Nat.add_right_comm]⟩
  · exact ⟨n, evened_replicate_of_ne _ mark⟩

/-- To even the runs of a text makes no run of another character, nor lets two of them merge. -/
theorem IsEqualRuns.map_evened {runs : List (List Char)} (h : IsEqualRuns runs) :
    IsEqualRuns (runs.map evened) ∧ (runs.map evened).flatten.head? = runs.flatten.head? := by
  induction h with
  | nil => exact ⟨.nil, rfl⟩
  | @cons c n runs rest other inductionHypothesis =>
    obtain ⟨lined, first⟩ := inductionHypothesis
    obtain ⟨m, run⟩ := exists_evened n c
    rw [List.map_cons, run]
    exact ⟨.cons lined (first ▸ other), by simp [List.replicate_succ]⟩

/-- The runs of the new text are the old ones, each made even. -/
theorem equalRuns_evenRuns (s : List Char) : equalRuns (evenRuns s) = (equalRuns s).map evened :=
  (isEqualRuns_equalRuns s).map_evened.1.equalRuns_flatten

theorem length_evened_even {run : List Char} (marks : backtick ∈ evened run) :
    (evened run).length % 2 = 0 := by
  by_cases member : backtick ∈ run
  · rw [evened, if_pos member, List.length_replicate]
    omega
  · rw [evened, if_neg member] at marks
    exact absurd marks member

theorem IsEqualRuns.eq_replicate {runs : List (List Char)} (h : IsEqualRuns runs) {run : List Char}
    (listed : run ∈ runs) : ∃ n c, run = List.replicate n c := by
  induction h with
  | nil => cases listed
  | @cons c n runs rest other inductionHypothesis =>
    rcases List.mem_cons.mp listed with rfl | later
    · exact ⟨n + 1, c, rfl⟩
    · exact inductionHypothesis later

theorem evened_eq_self {s run : List Char} (listed : run ∈ equalRuns s)
    (even : backtick ∈ run → run.length % 2 = 0) : evened run = run := by
  obtain ⟨n, c, rfl⟩ := (isEqualRuns_equalRuns s).eq_replicate listed
  by_cases member : backtick ∈ List.replicate n c
  · obtain rfl := List.eq_of_mem_replicate member
    rw [evened, if_pos member, even member, Nat.add_zero, List.length_replicate]
  · rw [evened, if_neg member]

/-- Every run of backticks in the new text is even. -/
theorem even_of_mem_equalRuns_evenRuns {s run : List Char} (listed : run ∈ equalRuns (evenRuns s))
    (marks : backtick ∈ run) : run.length % 2 = 0 := by
  rw [equalRuns_evenRuns] at listed
  obtain ⟨old, -, rfl⟩ := List.mem_map.mp listed
  exact length_evened_even marks

theorem evenRuns_eq_self_iff {s : List Char} :
    evenRuns s = s ↔ ∀ run ∈ equalRuns s, backtick ∈ run → run.length % 2 = 0 := by
  constructor
  · intro same run listed
    rw [← same] at listed
    exact even_of_mem_equalRuns_evenRuns listed
  · intro even
    have kept : (equalRuns s).map evened = (equalRuns s).map id :=
      List.map_congr_left (fun run listed => evened_eq_self listed (even run listed))
    rw [evenRuns, kept, List.map_id, flatten_equalRuns]

end Text

namespace Documentation

open Text

/-- The same documentation, in whose prose every run of backticks is even. -/
def withEvenRuns (d : Documentation) : Documentation :=
  { d with text := String.ofList (evenRuns d.text.toList) }

theorem withEvenRuns_eq_self_iff {d : Documentation} :
    d.withEvenRuns = d ↔ ∀ run ∈ equalRuns d.text.toList, backtick ∈ run → run.length % 2 = 0 := by
  rw [← evenRuns_eq_self_iff]
  obtain ⟨text, links⟩ := d
  simp [withEvenRuns, ← String.toList_inj]

/-- Even backticks are the plain style of a text whose runs of backticks are made even, where no
other run and no link is touched. Texts with even runs only stay as they are, so to even the runs
twice is to even them once. -/
theorem markdown_evenBackticks (d : Documentation) (site : Site) :
    d.markdown site .evenBackticks = d.withEvenRuns.markdown site .plain ∧
    equalRuns d.withEvenRuns.text.toList = (equalRuns d.text.toList).map evened ∧
    (∀ run ∈ equalRuns d.withEvenRuns.text.toList, backtick ∈ run → run.length % 2 = 0) ∧
    (d.withEvenRuns = d ↔ ∀ run ∈ equalRuns d.text.toList, backtick ∈ run → run.length % 2 = 0) ∧
    d.withEvenRuns.withEvenRuns = d.withEvenRuns := by
  have runs : equalRuns d.withEvenRuns.text.toList = (equalRuns d.text.toList).map evened := by
    rw [withEvenRuns, String.toList_ofList, equalRuns_evenRuns]
  have even : ∀ run ∈ equalRuns d.withEvenRuns.text.toList, backtick ∈ run →
      run.length % 2 = 0 := by
    rw [withEvenRuns, String.toList_ofList]
    exact fun run => even_of_mem_equalRuns_evenRuns
  refine ⟨?_, runs, even, withEvenRuns_eq_self_iff, withEvenRuns_eq_self_iff.mpr even⟩
  simp only [markdown, ProseStyle.apply, ProseStyle.pairBackticks_eq, withEvenRuns, linksAs]

/-- Two runs of which one is even. -/
def oddRuns : Documentation where
  text := "\x60a\x60\x60"
  links := [{ path := ["icu"], kind := .module, presentation := .numbered }]

theorem markdown_evenBackticks_oddRuns :
    oddRuns.markdown {} .evenBackticks = .ok ("\x60\x60a\x60\x60\n\n" ++
      "Additional information: [1](https://docs.rs/icu/latest/icu/index.html)") ∧
    oddRuns.withEvenRuns.withEvenRuns = oddRuns.withEvenRuns ∧ oddRuns.withEvenRuns ≠ oddRuns := by
  obtain ⟨styled, -, -, unchanged, twice⟩ := markdown_evenBackticks oddRuns {}
  have plain : oddRuns.withEvenRuns.markdown {} .plain = .ok ("\x60\x60a\x60\x60\n\n" ++
      "Additional information: [1](https://docs.rs/icu/latest/icu/index.html)") := by
    decide +kernel
  refine ⟨styled.trans plain, twice, fun same => ?_⟩
  have odd : ['\x60'] ∈ equalRuns oddRuns.text.toList := by decide +kernel
  exact absurd (unchanged.mp same _ odd (by decide)) (by decide)

end Documentation

end BindingNames
