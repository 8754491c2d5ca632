import BindingNames.Proofs.Koka.References

/-!
# Renaming all references at once

The rules are followed one after the other, so in general one of them may act on what another one
has made. If no new name is the old name of a different type this cannot happen: each reference is
looked up once, among the renamed types, and nothing else in the text changes.
-/

namespace BindingNames.Koka.Speller

open Text

theorem mem_renamings {s : Speller} {rule : String × String} (h : rule ∈ s.renamings) :
    ∃ entry ∈ s.renamed, rule.1 = s.stripped entry.2.entity.name ∧
      s.typeName entry.1 = .ok rule.2 := by
  obtain ⟨entry, -, found⟩ := (mem_filterMap_renaming? (fun _ listed => listed)).mp h
  exact ⟨entry, found⟩

theorem renamings_functional {s : Speller} (distinct : s.Distinguishes s.renamed) :
    ∀ r ∈ s.renamings, ∀ t ∈ s.renamings, r.1 = t.1 → r.2 = t.2 := by
  intro r left t right same
  obtain ⟨a, aRuled, aOld, aNew⟩ := mem_renamings left
  obtain ⟨b, bRuled, bOld, bNew⟩ := mem_renamings right
  have one : a.1 = b.1 := by
    by_contra apart
    exact distinct a aRuled b bRuled apart (aOld.symm.trans (same.trans bOld))
  rw [one, bNew] at aNew
  exact (Except.ok.inj aNew).symm

theorem renamings_unchained {s : Speller}
    (unchained : ∀ a ∈ s.renamed, ∀ b ∈ s.renamed, a.1 ≠ b.1 →
      s.typeName a.1 ≠ .ok (s.stripped b.2.entity.name)) :
    ∀ r ∈ s.renamings, ∀ t ∈ s.renamings, r.1 ≠ t.1 → r.2 ≠ t.1 := by
  intro r left t right other same
  obtain ⟨⟨aRef, aDecl⟩, aRuled, aOld, aNew⟩ := mem_renamings left
  obtain ⟨⟨bRef, bDecl⟩, bRuled, bOld, bNew⟩ := mem_renamings right
  have apart : aRef ≠ bRef := by
    rintro rfl
    obtain rfl := Exports.decl_unique (mem_renamed.mp aRuled).1 (mem_renamed.mp bRuled).1
    exact other (aOld.trans bOld.symm)
  apply unchained _ aRuled _ bRuled apart
  rw [aNew, same, bOld]

/-- The new name of the renamed type that has this old name, or else the name itself. -/
def newName (s : Speller) (name : String) : String := (s.renamings.lookup name).getD name

/-- A comment with rules is the comment without them, renamed reference by reference. -/
theorem comment_renames_at_once {s : Speller} (worded : s.Worded)
    (spelled : s.SpellsInWords s.renamed) (distinct : s.Distinguishes s.renamed)
    (unchained : ∀ a ∈ s.renamed, ∀ b ∈ s.renamed, a.1 ≠ b.1 →
      s.typeName a.1 ≠ .ok (s.stripped b.2.entity.name))
    {d : Documentation} {text : String} (written : s.plain.comment d = .ok text) :
    s.comment d = .ok (String.ofList (mapSegments (s.onReference s.newName) text.toList)) := by
  obtain ⟨markdown, given, lines⟩ := comment_plain_eq_ok written
  have lookup : follow s.renamings = s.newName := by
    funext name
    exact follow_eq_lookup (renamings_functional distinct) (renamings_unchained unchained) name
  rw [comment_eq_follow worded spelled given, lookup, lines]

/-- Two renamed types, of which one's name begins with the other's. -/
def overlap : Speller where
  exports := { handles := [{ name := "FooBar", rename := ⟨some "Renamed"⟩ },
    { name := "FooBarBaz", rename := ⟨some "ICU\x7b0\x7d"⟩ }] }
  sharedBeginning := some "Foo"

theorem comment_renames_at_once_overlap :
    overlap.comment { text := "See \x60FooBar::new\x60, \x60FooBarBaz\x60 and \x60FooBarn\x60." } =
      .ok "See \x60Renamed::new\x60, \x60ICUBarBaz\x60 and \x60Barn\x60." := by
  have written : overlap.plain.comment
      { text := "See \x60FooBar::new\x60, \x60FooBarBaz\x60 and \x60FooBarn\x60." } =
        .ok "See \x60FooBar::new\x60, \x60FooBarBaz\x60 and \x60FooBarn\x60." := by
    decide +kernel
  have result := comment_renames_at_once (s := overlap) (by decide +kernel) (by decide +kernel)
    (by decide +kernel) (by decide +kernel) written
  exact result.trans (by decide +kernel)

end BindingNames.Koka.Speller
