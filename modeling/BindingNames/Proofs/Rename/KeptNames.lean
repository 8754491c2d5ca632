import BindingNames.Proofs.Rename.Patterns

/-!
# Rules that keep the name

A rule keeps the name that it is applied to if it has no pattern, or one with a placeholder. The
parts of a pattern have a fixed length, so two names that are renamed alike are of the same length,
and each of them stands right after the first part. Hence such a rule never merges two names, while
any other rule merges all of them.
-/

namespace BindingNames.Text

/-- A text that occurs leaves a piece before it and one after it. -/
theorem two_le_length_pieces {old s : List Char} (filled : old ≠ []) (found : old <:+: s) :
    2 ≤ (pieces old s).length := by
  fun_induction pieces old s with
  | case1 => exact absurd (List.infix_nil.mp found) filled
  | case2 c rest start inductionHypothesis =>
    have later := List.length_pos_iff.mpr (pieces_ne_nil old (rest.drop (old.length - 1)))
    rw [List.length_cons]
    omega
  | case3 c rest other inductionHypothesis =>
    rw [List.length_modifyHead]
    apply inductionHypothesis
    rcases List.infix_cons_iff.mp found with here | later
    · exact absurd (List.isPrefixOf_iff_prefix.mpr here) other
    · exact later

theorem length_intercalate (sep p : List Char) (ps : List (List Char)) :
    (sep.intercalate (p :: ps)).length =
      (p :: ps).flatten.length + ps.length * sep.length := by
  induction ps generalizing p with
  | nil => simp
  | cons q ps inductionHypothesis =>
    simp only [List.intercalate_cons_cons, List.length_append, inductionHypothesis,
      List.flatten_cons, List.length_cons, Nat.succ_mul]
    omega

/-- What joins at least two texts can be told from the outcome. -/
theorem intercalate_inj {ps : List (List Char)} (several : 2 ≤ ps.length) {a b : List Char} :
    a.intercalate ps = b.intercalate ps ↔ a = b := by
  constructor
  · intro same
    match ps with
    | p :: q :: ps =>
      have lengths := congrArg List.length same
      rw [length_intercalate, length_intercalate, Nat.add_left_cancel_iff] at lengths
      have alike : a.length = b.length := Nat.eq_of_mul_eq_mul_left (by simp) lengths
      rw [List.intercalate_cons_cons, List.intercalate_cons_cons, List.append_assoc,
        List.append_assoc] at same
      exact List.append_inj_left (List.append_cancel_left same) alike
  · rintro rfl
    rfl

end BindingNames.Text

namespace BindingNames.Rename

open Text

/-- The old name can be found in the new one. -/
def KeepsName (r : Rename) : Prop :=
  ∀ pattern, r.pattern = some pattern → placeholder.toList <:+: pattern.toList

theorem keepsName_iff {r : Rename} :
    r.KeepsName ↔
      r.pattern.all (fun pattern => occurs placeholder.toList pattern.toList) = true := by
  simp only [KeepsName, Option.all_eq_true, occurs_iff]

instance (r : Rename) : Decidable r.KeepsName := decidable_of_iff' _ keepsName_iff

theorem eq_of_isEmpty {r : Rename} (h : r.isEmpty = true) : r = {} := by
  obtain ⟨_ | pattern⟩ := r
  · rfl
  · simp [isEmpty] at h

theorem keepsName_of_isEmpty {r : Rename} (h : r.isEmpty = true) : r.KeepsName := by
  intro pattern given
  simp [isEmpty, given] at h

/-- A rule that keeps the name merges no two names. -/
theorem apply_inj {r : Rename} (keeps : r.KeepsName) {a b : String} :
    r.apply a = r.apply b ↔ a = b := by
  obtain ⟨_ | pattern⟩ := r
  · rfl
  · have several : 2 ≤ (parts pattern).length :=
      two_le_length_pieces (by decide) (keeps pattern rfl)
    rw [← String.toList_inj, apply_eq_intercalate, apply_eq_intercalate, intercalate_inj several,
      String.toList_inj]

theorem injective_apply_iff {r : Rename} : Function.Injective r.apply ↔ r.KeepsName := by
  constructor
  · intro injective pattern given
    obtain rfl : r = ⟨some pattern⟩ := congrArg Rename.mk given
    refine Decidable.byContradiction fun absent => ?_
    have merged : apply ⟨some pattern⟩ "a" = apply ⟨some pattern⟩ "b" := by
      rw [apply_of_absent absent, apply_of_absent absent]
    exact absurd (injective merged) (by decide)
  · intro keeps a b same
    exact (apply_inj keeps).mp same

/-- A pattern with placeholders is cut at them, and its parts stand around the name, whatever that
holds. So the rules that never merge two names are those that keep the name. -/
theorem apply_single_pass_and_injective_iff :
    (∀ pattern : String, placeholder.toList <:+: pattern.toList →
      (∃ ps, IsCut placeholder.toList pattern.toList ps) ∧
      ∀ ps, IsCut placeholder.toList pattern.toList ps → 2 ≤ ps.length ∧
        ∀ name, (apply ⟨some pattern⟩ name).toList = name.toList.intercalate ps) ∧
    ∀ r : Rename, Function.Injective r.apply ↔ r.KeepsName := by
  have filled : placeholder.toList ≠ [] := by decide
  refine ⟨?_, fun r => injective_apply_iff⟩
  intro pattern found
  refine ⟨⟨_, isCut_pieces filled _⟩, ?_⟩
  intro ps cuts
  obtain rfl := (isCut_iff filled).mp cuts
  exact ⟨two_le_length_pieces filled found, apply_eq_intercalate pattern⟩

/-- A pattern whose placeholder stands between braces. -/
def braced : String := "\x7b\x7b0\x7d0\x7d"

/-- The braces of the pattern and of the name make two new placeholders, which stay. -/
theorem apply_single_pass_and_injective_iff_braced :
    (placeholder.toList <:+: braced.toList ∧
      IsCut placeholder.toList braced.toList [['\x7b'], ['0', '\x7d']]) ∧
    apply ⟨some braced⟩ "0\x7d\x7b" = "\x7b0\x7d\x7b0\x7d" ∧
    Function.Injective (apply ⟨some braced⟩) ∧ ¬Function.Injective (apply ⟨some "0\x7d"⟩) := by
  have found : placeholder.toList <:+: braced.toList := by decide
  have cuts : IsCut placeholder.toList braced.toList [['\x7b'], ['0', '\x7d']] :=
    @IsCut.cut _ ['\x7b'] ['0', '\x7d'] _ (by decide) (.uncut (by decide))
  obtain ⟨wraps, injective_iff⟩ := apply_single_pass_and_injective_iff
  have applied := ((wraps braced found).2 _ cuts).2 "0\x7d\x7b"
  refine ⟨⟨found, cuts⟩, String.toList_injective (applied.trans (by decide)), ?_, ?_⟩
  · exact (injective_iff _).mpr (by decide)
  · exact fun injective => absurd ((injective_iff _).mp injective) (by decide)

end BindingNames.Rename
