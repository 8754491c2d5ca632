import BindingNames.Text.Substitution

/-!
# Rename rules

An author may give an entity another name. A pattern with a placeholder wraps the old name, which
enters it as often as the placeholder occurs; any other pattern is the new name itself.
-/

namespace BindingNames

/-- No pattern leaves a name alone; the empty pattern is one. -/
structure Rename where
  pattern : Option String := none
  deriving DecidableEq

namespace Rename

/-- The part of a pattern that stands for the old name. -/
def placeholder : String := "\x7b0\x7d"

def apply (r : Rename) (name : String) : String :=
  match r.pattern with
  | none => name
  | some pattern =>
    String.ofList (Text.replace placeholder.toList name.toList pattern.toList)

def isEmpty (r : Rename) : Bool := r.pattern.isNone

@[simp] theorem apply_none (name : String) : apply ⟨none⟩ name = name := rfl

theorem apply_of_isEmpty {r : Rename} (h : r.isEmpty = true) (name : String) :
    r.apply name = name := by
  obtain ⟨_ | pattern⟩ := r
  · rfl
  · simp [isEmpty] at h

end Rename

end BindingNames
