import BindingNames.Proofs.Koka.LeadingWord
import BindingNames.Proofs.Koka.TypeName

/-!
# Renaming

Each renamed type gives a rule, which leads from what is left of its name to its new name. The
rules are followed one after the other, each on the outcome of those before it; where no rule gives
a name that another one takes, this is the same as looking up one of them.
-/

namespace BindingNames.Koka

open Text Unicode

/-- Follows old names to new ones, rule by rule. -/
def follow (rules : List (String × String)) (name : String) : String :=
  rules.foldl (fun current rule => exchange rule.1 rule.2 current) name

@[simp] theorem follow_nil (name : String) : follow [] name = name := rfl

theorem follow_cons (rule : String × String) (rules : List (String × String)) (name : String) :
    follow (rule :: rules) name = follow rules (exchange rule.1 rule.2 name) := rfl

theorem follow_append (first second : List (String × String)) (name : String) :
    follow (first ++ second) name = follow second (follow first name) := List.foldl_append

theorem follow_of_fixed {rules : List (String × String)} {name : String}
    (fixed : ∀ rule ∈ rules, rule.1 = name → rule.2 = name) : follow rules name = name := by
  induction rules with
  | nil => rfl
  | cons rule rules inductionHypothesis =>
    have kept : exchange rule.1 rule.2 name = name := by
      by_cases own : name = rule.1
      · rw [own, exchange_self]
        exact (fixed rule List.mem_cons_self own.symm).trans own
      · exact exchange_of_ne rule.2 own
    rw [follow_cons, kept]
    exact inductionHypothesis (fun later member => fixed later (List.mem_cons_of_mem _ member))

/-- If no rule gives a name that another one takes, following the rules is looking up one. -/
theorem follow_eq_lookup {rules : List (String × String)}
    (functional : ∀ r ∈ rules, ∀ t ∈ rules, r.1 = t.1 → r.2 = t.2)
    (unchained : ∀ r ∈ rules, ∀ t ∈ rules, r.1 ≠ t.1 → r.2 ≠ t.1) (name : String) :
    follow rules name = (rules.lookup name).getD name := by
  induction rules with
  | nil => rfl
  | cons rule rules inductionHypothesis =>
    obtain ⟨old, new⟩ := rule
    rw [follow_cons]
    by_cases own : name = old
    · subst own
      rw [exchange_self, List.lookup_cons_self, Option.getD_some]
      apply follow_of_fixed
      intro later member takes
      have listed := List.mem_cons_of_mem (name, new) member
      have same : name = later.1 := by
        by_contra other
        exact unchained _ List.mem_cons_self later listed other takes.symm
      exact (functional _ List.mem_cons_self later listed same).symm
    · have other : (name == old) = false := by simpa using own
      rw [exchange_of_ne new own, List.lookup_cons, other]
      exact inductionHypothesis
        (fun r left t right => functional r (.tail _ left) t (.tail _ right))
        (fun r left t right => unchained r (.tail _ left) t (.tail _ right))

theorem mapSegments_follow_nil (text : List Char) :
    mapSegments (onLeadingWord (follow [])) text = text := by
  rw [mapSegments_congr text (fun segment _ => onLeadingWord_of_fixed (follow_nil _))]
  exact mapSegments_id text

theorem mapSegments_follow_cons {rule : String × String} (rules : List (String × String))
    (chars : ∀ c ∈ rule.2.toList, isWordChar c = true) (text : List Char) :
    mapSegments (onLeadingWord (follow rules))
        (mapSegments (onLeadingWord (exchange rule.1 rule.2)) text) =
      mapSegments (onLeadingWord (follow (rule :: rules))) text := by
  have keeps : KeepsWords (exchange rule.1 rule.2) := keepsWords_exchange chars
  rw [mapSegments_mapSegments _ (fun _ => backtick_not_mem_onLeadingWord keeps)]
  exact mapSegments_congr text (fun segment _ => onLeadingWord_onLeadingWord _ keeps segment)

namespace Speller

/-- The exported types that carry a rename rule. -/
def renamed (s : Speller) : List (TypeRef × TypeDecl) :=
  s.exports.all.filter (fun entry => !entry.2.entity.rename.isEmpty)

theorem mem_renamed {s : Speller} {entry : TypeRef × TypeDecl} :
    entry ∈ s.renamed ↔ entry ∈ s.exports.all ∧ entry.2.entity.rename.isEmpty = false := by
  simp [renamed]

/-- The old and the new name of a renamed type. -/
def renaming? (s : Speller) (entry : TypeRef × TypeDecl) : Option (String × String) :=
  if entry.2.entity.rename.isEmpty then none
  else (s.typeName entry.1).toOption.map (fun name => (s.stripped entry.2.entity.name, name))

/-- The names of all renamed types, in the order of the listing. -/
def renamings (s : Speller) : List (String × String) := s.exports.all.filterMap s.renaming?

theorem toOption_eq_some {result : Except NamingError String} {name : String} :
    result.toOption = some name ↔ result = .ok name := by
  cases result <;> simp [Except.toOption]

theorem renaming?_eq_some {s : Speller} {entry : TypeRef × TypeDecl} {rule : String × String} :
    s.renaming? entry = some rule ↔ entry.2.entity.rename.isEmpty = false ∧
      rule.1 = s.stripped entry.2.entity.name ∧ s.typeName entry.1 = .ok rule.2 := by
  unfold renaming?
  cases entry.2.entity.rename.isEmpty with
  | true => simp
  | false =>
    rw [if_neg Bool.false_ne_true, Option.map_eq_some_iff]
    constructor
    · rintro ⟨name, spelled, rfl⟩
      exact ⟨rfl, rfl, toOption_eq_some.mp spelled⟩
    · rintro ⟨-, old, new⟩
      exact ⟨rule.2, toOption_eq_some.mpr new, by rw [← old]⟩

theorem mem_filterMap_renaming? {s : Speller} {entries : List (TypeRef × TypeDecl)}
    (listed : ∀ entry ∈ entries, entry ∈ s.exports.all) {rule : String × String} :
    rule ∈ entries.filterMap s.renaming? ↔ ∃ entry ∈ entries, entry ∈ s.renamed ∧
      rule.1 = s.stripped entry.2.entity.name ∧ s.typeName entry.1 = .ok rule.2 := by
  rw [List.mem_filterMap]
  constructor
  · rintro ⟨entry, member, found⟩
    obtain ⟨ruled, old, new⟩ := renaming?_eq_some.mp found
    exact ⟨entry, member, mem_renamed.mpr ⟨listed entry member, ruled⟩, old, new⟩
  · rintro ⟨entry, member, ruled, old, new⟩
    exact ⟨entry, member, renaming?_eq_some.mpr ⟨(mem_renamed.mp ruled).2, old, new⟩⟩

/-- The common beginning and the canonical names consist of word characters. -/
structure Worded (s : Speller) : Prop where
  beginning : ∀ b, s.sharedBeginning = some b → ∀ c ∈ b.toList, isWordChar c = true
  canonical : ∀ entry ∈ s.exports.all, IsWord entry.2.entity.name

theorem worded_iff {s : Speller} :
    s.Worded ↔ s.sharedBeginning.all (fun b => b.toList.all isWordChar) = true ∧
      ∀ entry ∈ s.exports.all, IsWord entry.2.entity.name := by
  simp only [Option.all_eq_true, List.all_eq_true]
  exact ⟨fun worded => ⟨worded.beginning, worded.canonical⟩, fun worded => ⟨worded.1, worded.2⟩⟩

instance (s : Speller) : Decidable s.Worded := decidable_of_iff' _ worded_iff

/-- These types have names in code, all of them words. -/
def SpellsInWords (s : Speller) (entries : List (TypeRef × TypeDecl)) : Prop :=
  ∀ entry ∈ entries, ∃ name, s.typeName entry.1 = .ok name ∧ IsWord name

theorem spellsInWords_iff {s : Speller} {entries : List (TypeRef × TypeDecl)} :
    s.SpellsInWords entries ↔
      ∀ entry ∈ entries, (s.typeName entry.1).toOption.any (fun name => decide (IsWord name)) := by
  refine forall₂_congr (fun entry _ => ?_)
  cases s.typeName entry.1 <;> simp [Except.toOption]

instance (s : Speller) (entries : List (TypeRef × TypeDecl)) :
    Decidable (s.SpellsInWords entries) := decidable_of_iff' _ spellsInWords_iff

/-- What is left of the canonical names of these types differs from one to another. -/
def Distinguishes (s : Speller) (entries : List (TypeRef × TypeDecl)) : Prop :=
  ∀ a ∈ entries, ∀ b ∈ entries, a.1 ≠ b.1 →
    s.stripped a.2.entity.name ≠ s.stripped b.2.entity.name

instance (s : Speller) (entries : List (TypeRef × TypeDecl)) :
    Decidable (s.Distinguishes entries) :=
  inferInstanceAs (Decidable (∀ a ∈ entries, ∀ b ∈ entries, a.1 ≠ b.1 →
    s.stripped a.2.entity.name ≠ s.stripped b.2.entity.name))

end Speller

end BindingNames.Koka
