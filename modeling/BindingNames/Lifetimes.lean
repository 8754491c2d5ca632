import BindingNames.NamingError

/-!
# Lifetimes of a method

Lifetimes are listed in the order of their declaration. A position may be counted from the end by
a negative index; a lifetime without a name is called by the index it was asked for.
-/

namespace BindingNames

/-- The names of the lifetimes, with none for an anonymous one. -/
structure Lifetimes where
  names : List (Option String) := []
  deriving DecidableEq

namespace Lifetimes

/-- The place of an index in a list of this length, if it has one. -/
def position? (length : Nat) (index : Int) : Option Nat :=
  if 0 ≤ index then
    if index < length then some index.toNat else none
  else if 0 ≤ index + length then some (index + length).toNat
  else none

theorem position?_natCast {length i : Nat} (h : i < length) :
    position? length i = some i := by
  simp [position?, h]

def anonymous (index : Int) : String := "anon_" ++ toString index

def name (l : Lifetimes) (index : Int) : Except NamingError String :=
  match (position? l.names.length index).bind (fun i => l.names[i]?) with
  | none => .error (.lifetimeOutOfRange index)
  | some none => .ok (anonymous index)
  | some (some declared) => .ok declared

/-- The array of values that a borrowed result keeps alive. -/
def edgeArray (l : Lifetimes) (index : Int) : Except NamingError String :=
  (l.name index).map (fun name => name ++ "Edges")

end Lifetimes

end BindingNames
