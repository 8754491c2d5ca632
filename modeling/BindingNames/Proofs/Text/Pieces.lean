import BindingNames.Text.Substitution

/-!
# Pieces between occurrences

A text is cut where another one occurs, from left to right and without overlap. Replacing all
occurrences joins the same pieces by the new text, so the pieces tell how often the new text appears
and what stands around it. There is no other way to cut at the first occurrence, and again at the
first one in what is left.
-/

namespace BindingNames.Text

/-- The pieces of a text around the occurrences of the nonempty text `old`. -/
def pieces (old : List Char) : List Char → List (List Char)
  | [] => [[]]
  | c :: rest =>
    if old.isPrefixOf (c :: rest) then [] :: pieces old (rest.drop (old.length - 1))
    else (pieces old rest).modifyHead (c :: ·)
termination_by s => s.length
decreasing_by
  · rw [List.length_cons, List.length_drop]
    exact Nat.lt_succ_of_le (Nat.sub_le _ _)
  · exact Nat.lt_succ_self _

@[simp] theorem pieces_nil (old : List Char) : pieces old [] = [[]] := by
  rw [pieces]

theorem pieces_ne_nil (old s : List Char) : pieces old s ≠ [] := by
  fun_induction pieces old s with
  | case1 => simp
  | case2 c rest start inductionHypothesis => simp
  | case3 c rest other inductionHypothesis => simpa using inductionHypothesis

theorem intercalate_nil_cons {sep : List Char} {ps : List (List Char)} (present : ps ≠ []) :
    sep.intercalate ([] :: ps) = sep ++ sep.intercalate ps := by
  cases ps with
  | nil => exact absurd rfl present
  | cons p ps => simp [List.intercalate_cons_cons]

theorem intercalate_modifyHead_cons {sep : List Char} (c : Char) {ps : List (List Char)}
    (present : ps ≠ []) : sep.intercalate (ps.modifyHead (c :: ·)) = c :: sep.intercalate ps := by
  match ps with
  | [] => exact absurd rfl present
  | [p] => simp
  | p :: q :: ps => simp [List.intercalate_cons_cons]

/-- Replacing joins the pieces anew. -/
theorem replace_eq_intercalate (old new s : List Char) :
    replace old new s = new.intercalate (pieces old s) := by
  unfold replace
  fun_induction pieces old s with
  | case1 => simp
  | case2 c rest start inductionHypothesis =>
    rw [substitute_cons_match start rfl, inductionHypothesis,
      intercalate_nil_cons (pieces_ne_nil _ _)]
  | case3 c rest other inductionHypothesis =>
    rw [substitute_cons_skip (by rw [Bool.eq_false_iff.mpr other, Bool.false_and]),
      inductionHypothesis, intercalate_modifyHead_cons c (pieces_ne_nil _ _)]

theorem eq_append_drop_of_starts {old rest : List Char} {c : Char} (filled : old ≠ [])
    (start : old <+: c :: rest) : c :: rest = old ++ rest.drop (old.length - 1) := by
  obtain ⟨later, parts⟩ := start
  obtain ⟨d, tail, rfl⟩ := List.exists_cons_of_ne_nil filled
  obtain ⟨rfl, rfl⟩ := List.cons.inj parts
  simp

/-- The pieces joined by the old text are the text that was cut. -/
theorem intercalate_pieces {old : List Char} (filled : old ≠ []) (s : List Char) :
    old.intercalate (pieces old s) = s := by
  fun_induction pieces old s with
  | case1 => simp
  | case2 c rest start inductionHypothesis =>
    rw [intercalate_nil_cons (pieces_ne_nil _ _), inductionHypothesis,
      ← eq_append_drop_of_starts filled (List.isPrefixOf_iff_prefix.mp start)]
  | case3 c rest other inductionHypothesis =>
    rw [intercalate_modifyHead_cons c (pieces_ne_nil _ _), inductionHypothesis]

theorem replace_self {old : List Char} (filled : old ≠ []) (s : List Char) :
    replace old old s = s := by
  rw [replace_eq_intercalate, intercalate_pieces filled]

theorem pieces_of_absent {old s : List Char} (absent : ¬old <:+: s) : pieces old s = [s] := by
  induction s with
  | nil => exact pieces_nil old
  | cons c rest inductionHypothesis =>
    obtain ⟨here, later⟩ := not_or.mp (mt List.infix_cons_iff.mpr absent)
    rw [pieces, if_neg (mt List.isPrefixOf_iff_prefix.mp here), inductionHypothesis later,
      List.modifyHead_cons]

/-- No occurrence begins before the end of the first text. -/
def NoneBegins (old before s : List Char) : Prop :=
  ∀ start < before.length, ¬old <+: (before ++ s).drop start

instance (old before s : List Char) : Decidable (NoneBegins old before s) :=
  inferInstanceAs (Decidable (∀ start < before.length, ¬old <+: (before ++ s).drop start))

theorem noneBegins_nil (old s : List Char) : NoneBegins old [] s :=
  fun _ inside => absurd inside (Nat.not_lt_zero _)

theorem noneBegins_cons_iff {old before s : List Char} {c : Char} :
    NoneBegins old (c :: before) s ↔ ¬old <+: c :: (before ++ s) ∧ NoneBegins old before s := by
  constructor
  · intro clear
    exact ⟨clear 0 (Nat.zero_lt_succ _), fun start inside => clear _ (Nat.succ_lt_succ inside)⟩
  · rintro ⟨here, later⟩ start inside
    cases start with
    | zero => exact here
    | succ start => exact later start (Nat.lt_of_succ_lt_succ inside)

/-- The pieces of a text that is cut at the first occurrence of `old`, and so on behind it. -/
inductive IsCut (old : List Char) : List Char → List (List Char) → Prop
  | uncut {s : List Char} (absent : ¬old <:+: s) : IsCut old s [s]
  | cut {before rest : List Char} {ps : List (List Char)}
      (first : NoneBegins old before (old ++ rest)) (later : IsCut old rest ps) :
      IsCut old (before ++ (old ++ rest)) (before :: ps)

/-- A character at which no occurrence begins belongs to the first piece. -/
theorem IsCut.modifyHead_cons {old s : List Char} {ps : List (List Char)} {c : Char}
    (cuts : IsCut old s ps) (other : ¬old <+: c :: s) :
    IsCut old (c :: s) (ps.modifyHead (c :: ·)) := by
  cases cuts with
  | uncut absent => exact .uncut (mt List.infix_cons_iff.mp (not_or.mpr ⟨other, absent⟩))
  | cut first later => exact .cut (noneBegins_cons_iff.mpr ⟨other, first⟩) later

theorem isCut_pieces {old : List Char} (filled : old ≠ []) (s : List Char) :
    IsCut old s (pieces old s) := by
  fun_induction pieces old s with
  | case1 => exact .uncut (mt List.infix_nil.mp filled)
  | case2 c rest start inductionHypothesis =>
    rw [eq_append_drop_of_starts filled (List.isPrefixOf_iff_prefix.mp start)]
    exact IsCut.cut (noneBegins_nil old _) inductionHypothesis
  | case3 c rest other inductionHypothesis =>
    exact inductionHypothesis.modifyHead_cons (mt List.isPrefixOf_iff_prefix.mpr other)

theorem pieces_append {old before rest : List Char} (filled : old ≠ [])
    (first : NoneBegins old before (old ++ rest)) :
    pieces old (before ++ (old ++ rest)) = before :: pieces old rest := by
  induction before with
  | nil =>
    obtain ⟨c, tail, rfl⟩ := List.exists_cons_of_ne_nil filled
    have start : (c :: tail).isPrefixOf (c :: (tail ++ rest)) = true := by simp
    rw [List.nil_append, List.cons_append, pieces, if_pos start, List.length_cons,
      Nat.add_sub_cancel, List.drop_left]
  | cons c before inductionHypothesis =>
    obtain ⟨here, later⟩ := noneBegins_cons_iff.mp first
    rw [List.cons_append, pieces, if_neg (mt List.isPrefixOf_iff_prefix.mp here),
      inductionHypothesis later, List.modifyHead_cons]

/-- There is exactly one cut, namely into the pieces. -/
theorem isCut_iff {old s : List Char} {ps : List (List Char)} (filled : old ≠ []) :
    IsCut old s ps ↔ pieces old s = ps := by
  constructor
  · intro cuts
    induction cuts with
    | uncut absent => exact pieces_of_absent absent
    | cut first later inductionHypothesis => rw [pieces_append filled first, inductionHypothesis]
  · rintro rfl
    exact isCut_pieces filled s

end BindingNames.Text
