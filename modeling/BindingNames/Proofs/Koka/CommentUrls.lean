import BindingNames.Proofs.Documentation.ShownUrls
import BindingNames.Proofs.Koka.References

/-!
# URLs in comments

A comment holds the URLs of its markdown, in order and character by character. Every rewriting
replaces texts that begin with a line feed, a blank or a backtick and have no opening bracket, while
a URL stands behind such a bracket and has none of these characters. So what is replaced lies before
or after it, whatever the prose, the names of the links and the new names of the types are.
-/

namespace BindingNames.Koka

open Text Unicode Documentation

/-- URLs in round brackets without a backtick or a blank. -/
structure AreUrls (ps : List (List Char)) : Prop where
  opens : ∀ p ∈ ps, p.head? = some '('
  ends : ∀ p ∈ ps, p.getLast? = some ')'
  clear : ∀ p ∈ ps, ∀ c ∈ p, c ≠ backtick ∧ isBlank c = false

namespace AreUrls

variable {ps : List (List Char)} {s : List Char}

theorem solid (h : AreUrls ps) : ∀ p ∈ ps, Solid p :=
  fun p member => ⟨⟨'(', h.opens p member, by decide⟩, ⟨')', h.ends p member, by decide⟩⟩

theorem not_mem_of_isBlank (h : AreUrls ps) {c : Char} (blank : isBlank c = true) :
    ∀ p ∈ ps, c ∉ p := by
  intro p listed member
  simp [(h.clear p listed c member).2] at blank

theorem commentLines (h : AreUrls ps) (held : HoldsInOrder ps s) :
    HoldsInOrder ps (commentLines s) := by
  have marked : HoldsInOrder ps (replace ['\n'] ['\n', '/', '/', ' '] (trim s)) :=
    (held.trim h.solid).substitute h.opens (h.not_mem_of_isBlank (by decide)) (by decide)
  exact marked.substitute h.opens (h.not_mem_of_isBlank (by decide)) (by decide)

/-- A reference to a word has no bracket in it. -/
theorem substitute_reference (h : AreUrls ps) {follows : List Char → Bool} {old : String}
    (chars : ∀ c ∈ old.toList, isWordChar c = true) (new : List Char) (held : HoldsInOrder ps s) :
    HoldsInOrder ps (substitute follows (reference old) new s) := by
  have bracket : isWordChar '(' = false := by decide +kernel
  refine held.substitute h.opens (fun p listed member => (h.clear p listed _ member).1 rfl) ?_
  intro member
  rcases List.mem_cons.mp member with mark | inner
  · exact absurd mark (by decide)
  · simp [chars _ inner] at bracket

end AreUrls

namespace Speller

variable {s : Speller} {ps : List (List Char)} {text renamed : List Char}

end Speller

end BindingNames.Koka
