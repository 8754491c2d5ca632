import BindingNames.Proofs.Unicode.MarkedImages

/-!
# Texts in lower case

Lowering is settled after one round: no character that occurs in a lowered text is changed by
lowering, wherever it stands. The tables are searched for this once, with all characters that they
change as bits of one number; capitals that have no small form are not listed and stay capitals.
-/

namespace BindingNames.Unicode

/-- The characters that a mapping changes, each as a range of its own. -/
def changed (growing : List (Nat × List Nat)) (runs : List CaseRun) : List CodeRange :=
  growing.map (fun entry => ⟨entry.1, entry.1⟩) ++
    runs.flatMap (fun run => run.members.map (fun n => ⟨n, n⟩))

theorem mapped?_eq_none {growing : List (Nat × List Nat)} {runs : List CaseRun} {c : Char}
    (unchanged : (bits (changed growing runs)).testBit c.toNat = false) :
    mapped? growing runs c = none := by
  rw [testBit_bits, List.any_eq_false] at unchanged
  have alone (n : Nat) (here : ⟨n, n⟩ ∈ changed growing runs) : n ≠ c.toNat := by
    rintro rfl
    exact unchanged _ here (CodeRange.contains_iff.mpr ⟨Nat.le_refl _, Nat.le_refl _⟩)
  cases found : mapped? growing runs c with
  | none => rfl
  | some images =>
    rcases mapped?_cases found with ⟨entry, listed, key, -⟩ | ⟨-, run, listed, holds, -⟩
    · exact absurd key (alone _ (List.mem_append_left _ (List.mem_map.mpr ⟨entry, listed, rfl⟩)))
    · refine absurd rfl (alone c.toNat (List.mem_append_right _ ?_))
      exact List.mem_flatMap.mpr ⟨run, listed, List.mem_map.mpr ⟨_, Stride.mem_members holds, rfl⟩⟩

/-- Lowering leaves the character as it is, wherever it stands in a text. -/
structure IsSettled (c : Char) : Prop where
  noSigma : c ≠ '\u03a3'
  unchanged : lowercase c = [c]

def lowercaseChanges : List CodeRange := changed lowercaseGrowing lowercaseRuns

/-- A code point that stands for a character which lowering leaves as it is. -/
def IsSettledCode (n : Nat) : Prop :=
  n.isValidChar ∧ (bits lowercaseChanges).testBit n = false

instance (n : Nat) : Decidable (IsSettledCode n) :=
  inferInstanceAs (Decidable (_ ∧ _))

/-- The capital sigma is listed as changed; both of its small forms and all images are settled. -/
theorem lowercase_tables_settle :
    (bits lowercaseChanges).testBit 0x3a3 = true ∧ IsSettledCode 0x3c2 ∧ IsSettledCode 0x3c3 ∧
    (∀ entry ∈ lowercaseGrowing, ∀ n ∈ entry.2, IsSettledCode n) ∧
    ∀ run ∈ lowercaseRuns, ∀ n ∈ run.members, IsSettledCode (run.image n) := by
  decide +kernel

theorem IsSettledCode.isSettled {n : Nat} (h : IsSettledCode n) : IsSettled (Char.ofNat n) := by
  obtain ⟨valid, unchanged⟩ := h
  have code : (Char.ofNat n).toNat = n := toNat_ofNat valid
  constructor
  · intro same
    have sigma : n = 0x3a3 := code.symm.trans (congrArg Char.toNat same)
    rw [sigma, lowercase_tables_settle.1] at unchanged
    cases unchanged
  · have unlisted : mapped? lowercaseGrowing lowercaseRuns (Char.ofNat n) = none := by
      apply mapped?_eq_none
      rw [code]
      exact unchanged
    rw [lowercase, unlisted, Option.getD_none]

theorem isSettled_of_mem_lowercase {c d : Char} (other : c ≠ '\u03a3') (h : d ∈ lowercase c) :
    IsSettled d := by
  obtain ⟨-, -, -, listedSettled, movedSettled⟩ := lowercase_tables_settle
  cases found : mapped? lowercaseGrowing lowercaseRuns c with
  | none =>
    have stays : lowercase c = [c] := by rw [lowercase, found, Option.getD_none]
    obtain rfl : d = c := by simpa [stays] using h
    exact ⟨other, stays⟩
  | some images =>
    have member : d ∈ images := by simpa [lowercase, found] using h
    rcases mapped?_cases found with ⟨entry, listed, -, rfl⟩ | ⟨-, run, listed, holds, rfl⟩
    · obtain ⟨n, image, rfl⟩ := List.mem_map.mp member
      exact (listedSettled entry listed n image).isSettled
    · obtain rfl := List.mem_singleton.mp member
      exact (movedSettled run listed _ (Stride.mem_members holds)).isSettled

end BindingNames.Unicode

namespace BindingNames.Text

open Unicode

/-- Nothing in the text is changed by lowering. -/
def Settled (s : List Char) : Prop := ∀ c ∈ s, IsSettled c

theorem isSettled_smallSigma (before after : List Char) : IsSettled (smallSigma before after) := by
  obtain ⟨-, final, inner, -⟩ := lowercase_tables_settle
  unfold smallSigma
  split
  · exact final.isSettled
  · exact inner.isSettled

theorem settled_lowerAt (before : List Char) (c : Char) (after : List Char) :
    Settled (lowerAt before c after) := by
  intro d member
  unfold lowerAt at member
  split at member
  next => exact List.mem_singleton.mp member ▸ isSettled_smallSigma before after
  next other => exact isSettled_of_mem_lowercase other member

theorem settled_lower (s : List Char) : Settled (lower s) := by
  intro d member
  obtain ⟨c, -, earlier, later, image⟩ := mem_lowerFrom member
  exact settled_lowerAt earlier c later d image

theorem lowerFrom_of_settled {s : List Char} (settled : Settled s) (before : List Char) :
    lowerFrom before s = s := by
  induction s generalizing before with
  | nil => rfl
  | cons c after inductionHypothesis =>
    obtain ⟨here, later⟩ := List.forall_mem_cons.mp settled
    rw [lowerFrom, inductionHypothesis later, lowerAt, if_neg here.noSigma, here.unchanged,
      List.singleton_append]

theorem lower_of_settled {s : List Char} (settled : Settled s) : lower s = s :=
  lowerFrom_of_settled settled []

@[simp] theorem lower_lower (s : List Char) : lower (lower s) = lower s :=
  lower_of_settled (settled_lower s)

end BindingNames.Text
