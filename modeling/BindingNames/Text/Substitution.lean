/-!
# Substitution

Occurrences of a text are replaced from left to right and without overlap. An occurrence counts
only if what follows passes a test, for instance that the word does not go on. What replaces it
is never read again.
-/

namespace BindingNames.Text

/-- Replaces each occurrence of the nonempty text `old` after which the rest passes `follows`. -/
def substitute (follows : List Char → Bool) (old new : List Char) : List Char → List Char
  | [] => []
  | c :: rest =>
    if old.isPrefixOf (c :: rest) && follows (rest.drop (old.length - 1)) then
      new ++ substitute follows old new (rest.drop (old.length - 1))
    else c :: substitute follows old new rest
termination_by s => s.length
decreasing_by
  · rw [List.length_cons, List.length_drop]
    exact Nat.lt_succ_of_le (Nat.sub_le _ _)
  · exact Nat.lt_succ_self _

@[simp] theorem substitute_nil (follows : List Char → Bool) (old new : List Char) :
    substitute follows old new [] = [] := by
  rw [substitute]

theorem substitute_cons_match {follows : List Char → Bool} {old new rest : List Char} {c : Char}
    (start : old.isPrefixOf (c :: rest) = true)
    (test : follows (rest.drop (old.length - 1)) = true) :
    substitute follows old new (c :: rest) =
      new ++ substitute follows old new (rest.drop (old.length - 1)) := by
  rw [substitute, start, test, Bool.and_self, if_pos rfl]

theorem substitute_cons_skip {follows : List Char → Bool} {old new rest : List Char} {c : Char}
    (h : (old.isPrefixOf (c :: rest) && follows (rest.drop (old.length - 1))) = false) :
    substitute follows old new (c :: rest) = c :: substitute follows old new rest := by
  rw [substitute, h, if_neg Bool.false_ne_true]

/-- Replaces every occurrence of the nonempty text `old`. -/
def replace (old new s : List Char) : List Char := substitute (fun _ => true) old new s

@[simp] theorem replace_nil (old new : List Char) : replace old new [] = [] :=
  substitute_nil _ old new

def occurs (old : List Char) : List Char → Bool
  | [] => old.isEmpty
  | c :: rest => old.isPrefixOf (c :: rest) || occurs old rest

theorem occurs_iff {old s : List Char} : occurs old s = true ↔ old <:+: s := by
  induction s with
  | nil => simp [occurs]
  | cons c rest inductionHypothesis =>
    simp [occurs, inductionHypothesis, List.infix_cons_iff]

/-- A text in which the old one does not occur stays as it is. -/
theorem substitute_of_not_occurs {follows : List Char → Bool} {old new s : List Char}
    (absent : occurs old s = false) : substitute follows old new s = s := by
  induction s with
  | nil => exact substitute_nil _ _ _
  | cons c rest inductionHypothesis =>
    obtain ⟨here, later⟩ := Bool.or_eq_false_iff.mp absent
    rw [substitute_cons_skip (by rw [here, Bool.false_and]), inductionHypothesis later]

end BindingNames.Text
