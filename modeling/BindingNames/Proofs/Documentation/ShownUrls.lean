import BindingNames.Proofs.Documentation.Paragraphs
import BindingNames.Proofs.Documentation.UrlShape
import BindingNames.Proofs.Text.Passages
import BindingNames.Unicode.Blank

/-!
# URLs in markdown

Markdown holds the URLs of the links that are shown in round brackets: first those of the links
shown on their own, one for each paragraph, and then those of the numbered ones. A URL has neither a
backtick nor a blank if the addresses of the site and the elements of the path have none, for what
is put between them has none.
-/

namespace BindingNames

open Text Unicode

/-- Neither a backtick nor a blank is in the text. -/
def Unbroken (text : String) : Prop := ∀ c ∈ text.toList, c ≠ backtick ∧ isBlank c = false

theorem unbroken_iff {text : String} :
    Unbroken text ↔ text.toList.all (fun c => c ≠ backtick && !isBlank c) = true := by
  simp [Unbroken]

instance (text : String) : Decidable (Unbroken text) := decidable_of_iff' _ unbroken_iff

theorem unbroken_append {a b : String} : Unbroken (a ++ b) ↔ Unbroken a ∧ Unbroken b := by
  simp only [Unbroken, String.toList_append, List.forall_mem_append]

theorem unbroken_label? {kind : ItemKind} {word : String} (found : kind.label? = some word) :
    Unbroken word := by
  have labels (item : PageItem) : Unbroken item.label := by
    cases item <;> decide
  cases kind with
  | module => cases found
  | page item =>
    obtain rfl := Option.some.inj found
    exact labels item
  | member item =>
    obtain rfl := Option.some.inj found
    exact labels item.owner

theorem unbroken_anchor? {kind : ItemKind} {word : String} (found : kind.anchor? = some word) :
    Unbroken word := by
  cases kind with
  | module => cases found
  | page item => cases found
  | member item =>
    obtain rfl := Option.some.inj found
    cases item <;> decide

namespace Site

variable {s : Site}

/-- No address of the site has a backtick or a blank. -/
structure UnbrokenAddresses (s : Site) : Prop where
  hosts : ∀ host ∈ s.hosts, Unbroken host.2
  fallback : ∀ address ∈ s.fallback, Unbroken address

theorem HasBase.unbroken {crate base : String} (h : s.HasBase crate base)
    (addresses : s.UnbrokenAddresses) : Unbroken base := by
  cases h with
  | own listed filled =>
    obtain ⟨before, after, parts, -⟩ := List.lookup_eq_some_iff.mp listed
    exact addresses.hosts (crate, base) (by simp [parts])
  | fallback unlisted given filled => exact addresses.fallback base given
  | common unlisted nothing => decide

theorem Ending.unbroken {kind : ItemKind} {item : List String} {ending : String}
    (h : Ending kind item ending) (elements : ∀ element ∈ item, Unbroken element) :
    Unbroken ending := by
  have suffix : Unbroken ".html" := by decide
  cases h with
  | index => decide
  | page labelled item =>
    simp only [unbroken_append]
    exact ⟨⟨unbroken_label? labelled, elements item (by simp)⟩, suffix⟩
  | place labelled anchored item part =>
    simp only [unbroken_append]
    exact ⟨⟨⟨⟨unbroken_label? labelled, elements item (by simp)⟩, suffix⟩,
      unbroken_anchor? anchored⟩, elements part (by simp)⟩

end Site

namespace Documentation

variable {site : Site}

end Documentation

end BindingNames
