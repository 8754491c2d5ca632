import BindingNames.Koka.Comment
import BindingNames.Koka.Identifier
import BindingNames.Proofs.Exports.Annotations

/-!
# The two rename channels

Names in code read the rules for code and the common beginning, symbols of the binary interface read
the rules for the latter, and neither reads the rules of the other. So whatever is changed on one
side, all results of the other side stay the same, errors included. The comments are the hard part:
they walk over all exported types and apply the rule of each.
-/

namespace BindingNames.Koka

open Annotations

variable {f : Annotations → Annotations}

/-- What a change keeps is the same for all that the change makes the same. -/
theorem eq_of_change_eq {α β : Type} {change : α → α} (read : α → β)
    (kept : ∀ x, read (change x) = read x) {x y : α} (same : change x = change y) :
    read x = read y := by
  rw [← kept x, same, kept y]

theorem codeName_mapAnnotations (keeps : KeepsRename f) (given : Option String) (m : Method) :
    codeName given (m.mapAnnotations f) = codeName given m := by
  rw [codeName, Method.rename_mapAnnotations keeps, Method.name_mapAnnotations, codeName]

theorem methodName_mapAnnotations (keeps : KeepsRename f) (m : Method) :
    methodName (m.mapAnnotations f) = methodName m := by
  rw [methodName, Method.rename_mapAnnotations keeps, Method.name_mapAnnotations, methodName]

theorem constructorName_mapAnnotations (keeps : KeepsRename f) (given : Option String)
    (m : Method) : constructorName given (m.mapAnnotations f) = constructorName given m := by
  rw [constructorName, codeName_mapAnnotations keeps, constructorName]

theorem accessorName_mapAnnotations (keeps : KeepsRename f) (given : Option String) (m : Method) :
    accessorName given (m.mapAnnotations f) = accessorName given m := by
  rw [accessorName, codeName_mapAnnotations keeps, accessorName]

theorem variantName_mapAnnotations (keeps : KeepsRename f) (v : Variant) :
    variantName (v.mapAnnotations f) = variantName v := by
  have rule : (v.mapAnnotations f).rename = v.rename := keeps _
  rw [variantName, rule, variantName]
  rfl

namespace Speller

/-- The same site and common beginning, with other annotations on all exports. -/
def mapAnnotations (f : Annotations → Annotations) (s : Speller) : Speller :=
  { s with exports := s.exports.mapAnnotations f }

@[simp] theorem exports_mapAnnotations (s : Speller) :
    (s.mapAnnotations f).exports = s.exports.mapAnnotations f := rfl

theorem nameOf_mapAnnotations (keeps : KeepsRename f) (s : Speller) (e : Entity) :
    (s.mapAnnotations f).nameOf (e.mapAnnotations f) = s.nameOf e := by
  simp only [nameOf, Entity.rename_mapAnnotations keeps, Entity.name_mapAnnotations]
  rfl

theorem typeName_mapAnnotations (keeps : KeepsRename f) (s : Speller) (ref : TypeRef) :
    (s.mapAnnotations f).typeName ref = s.typeName ref := by
  simp only [typeName, exports_mapAnnotations, Exports.resolve_mapAnnotations_bind,
    TypeDecl.entity_mapAnnotations, nameOf_mapAnnotations keeps]

theorem renameReferences_mapAnnotations (keeps : KeepsRename f) (s : Speller) (text : List Char)
    (e : Entity) : (s.mapAnnotations f).renameReferences text (e.mapAnnotations f) =
      s.renameReferences text e := by
  simp only [renameReferences, nameOf_mapAnnotations keeps, Entity.rename_mapAnnotations keeps,
    Entity.name_mapAnnotations]
  rfl

/-- Renaming goes through the changed types as through the types themselves. -/
theorem foldlM_renameReferences_mapAnnotations (keeps : KeepsRename f) (s : Speller)
    (entities : List Entity) (text : List Char) :
    (entities.map (Entity.mapAnnotations f)).foldlM (s.mapAnnotations f).renameReferences text =
      entities.foldlM s.renameReferences text := by
  induction entities generalizing text with
  | nil => rfl
  | cons e entities inductionHypothesis =>
    rw [List.map_cons, List.foldlM_cons, List.foldlM_cons, renameReferences_mapAnnotations keeps]
    cases s.renameReferences text e with
    | error cause => rfl
    | ok renamed => exact inductionHypothesis renamed

theorem comment_mapAnnotations (keeps : KeepsRename f) (s : Speller) (d : Documentation) :
    (s.mapAnnotations f).comment d = s.comment d := by
  have listed : (s.mapAnnotations f).exports.all.map (fun entry => entry.2.entity) =
      (s.exports.all.map (fun entry => entry.2.entity)).map (Entity.mapAnnotations f) := by
    rw [exports_mapAnnotations, Exports.all_mapAnnotations, List.map_map, List.map_map]
    simp [Function.comp_def]
  simp only [comment, listed, foldlM_renameReferences_mapAnnotations keeps]
  rfl

end Speller

/-- Symbols depend neither on the rules for code nor on documentation. -/
theorem symbols_eq_of_forLinker_eq {s t : Speller} {m n : Method}
    (exports : s.exports.mapAnnotations forLinker = t.exports.mapAnnotations forLinker)
    (methods : m.mapAnnotations forLinker = n.mapAnnotations forLinker) (ref : TypeRef) :
    s.destructor ref = t.destructor ref ∧ s.symbol ref m = t.symbol ref n ∧
      s.canonicalName ref = t.canonicalName ref ∧
      s.exports.abiName ref = t.exports.abiName ref := by
  have keeps := keepsAbiRename_forLinker
  refine ⟨?_, ?_, ?_, ?_⟩
  · exact eq_of_change_eq (·.destructor ref) (Exports.destructor_mapAnnotations keeps · ref) exports
  · rw [Speller.symbol, ← Exports.symbol_mapAnnotations keeps s.exports ref m, exports, methods,
      Exports.symbol_mapAnnotations keeps t.exports, Speller.symbol]
  · exact eq_of_change_eq (·.canonicalName ref) (·.canonicalName_mapAnnotations ref) exports
  · exact eq_of_change_eq (·.abiName ref) (Exports.abiName_mapAnnotations keeps · ref) exports

/-- Names of members do not depend on the rules for the binary interface. -/
theorem memberNames_eq_of_forCode_eq {m n : Method} {v w : Variant}
    (methods : m.mapAnnotations forCode = n.mapAnnotations forCode)
    (variants : v.mapAnnotations forCode = w.mapAnnotations forCode) :
    methodName m = methodName n ∧
      (∀ given, constructorName given m = constructorName given n) ∧
      (∀ given, accessorName given m = accessorName given n) ∧
      variantName v = variantName w := by
  have keeps := keepsRename_forCode
  refine ⟨?_, fun given => ?_, fun given => ?_, ?_⟩
  · exact eq_of_change_eq methodName (methodName_mapAnnotations keeps) methods
  · exact eq_of_change_eq (constructorName given) (constructorName_mapAnnotations keeps given)
      methods
  · exact eq_of_change_eq (accessorName given) (accessorName_mapAnnotations keeps given) methods
  · exact eq_of_change_eq variantName (variantName_mapAnnotations keeps) variants

/-- The rules for code, the documentation, the common beginning and the site do not reach a symbol,
and the rules for the binary interface reach neither a name in code nor a comment. -/
theorem channels_apart :
    (∀ (s t : Speller) (m n : Method),
      s.exports.mapAnnotations forLinker = t.exports.mapAnnotations forLinker →
      m.mapAnnotations forLinker = n.mapAnnotations forLinker → ∀ ref,
        s.destructor ref = t.destructor ref ∧ s.symbol ref m = t.symbol ref n ∧
        s.canonicalName ref = t.canonicalName ref ∧
        s.exports.abiName ref = t.exports.abiName ref) ∧
    ∀ (s t : Speller) (m n : Method) (v w : Variant),
      s.mapAnnotations forCode = t.mapAnnotations forCode →
      m.mapAnnotations forCode = n.mapAnnotations forCode →
      v.mapAnnotations forCode = w.mapAnnotations forCode →
        (∀ ref, s.typeName ref = t.typeName ref) ∧
        (∀ d, s.comment d = t.comment d) ∧
        methodName m = methodName n ∧
        (∀ given, constructorName given m = constructorName given n) ∧
        (∀ given, accessorName given m = accessorName given n) ∧
        variantName v = variantName w := by
  constructor
  · intro s t m n exports methods ref
    exact symbols_eq_of_forLinker_eq exports methods ref
  · intro s t m n v w spellers methods variants
    have keeps := keepsRename_forCode
    refine ⟨fun ref => ?_, fun d => ?_, memberNames_eq_of_forCode_eq methods variants⟩
    · exact eq_of_change_eq (·.typeName ref) (Speller.typeName_mapAnnotations keeps · ref) spellers
    · exact eq_of_change_eq (·.comment d) (Speller.comment_mapAnnotations keeps · d) spellers

/-- A handle with a rule for each channel. -/
def twiceRuled : Speller where
  exports := { handles := [{
    name := "FooBar", docs := { text := "A bar." }
    rename := ⟨some "Code"⟩, abiRename := ⟨some "Abi"⟩ }] }
  sharedBeginning := some "Foo"

/-- The handle as the linker sees it, with no common beginning. -/
def linkedAlike : Speller where
  exports := { handles := [{ name := "FooBar", abiRename := ⟨some "Abi"⟩ }] }

/-- The handle as a reader of the code sees it. -/
def readAlike : Speller where
  exports := { handles := [{
    name := "FooBar", docs := { text := "A bar." }, rename := ⟨some "Code"⟩ }] }
  sharedBeginning := some "Foo"

/-- The name in code changes but not the symbol, or the symbol but not a comment on the name. -/
theorem channels_apart_handle :
    (linkedAlike.exports.mapAnnotations forLinker = twiceRuled.exports.mapAnnotations forLinker ∧
      linkedAlike.typeName (.at .handle 0) ≠ twiceRuled.typeName (.at .handle 0) ∧
      linkedAlike.symbol (.at .handle 0) { name := "get" } =
        twiceRuled.symbol (.at .handle 0) { name := "get", rename := ⟨some "fetch"⟩ }) ∧
    readAlike.mapAnnotations forCode = twiceRuled.mapAnnotations forCode ∧
      readAlike.exports.abiName (.at .handle 0) ≠ twiceRuled.exports.abiName (.at .handle 0) ∧
      readAlike.comment { text := "\x60FooBar\x60" } =
        twiceRuled.comment { text := "\x60FooBar\x60" } := by
  refine ⟨⟨rfl, by decide +kernel, ?_⟩, rfl, by decide +kernel, ?_⟩
  · have symbols := channels_apart.1 linkedAlike twiceRuled { name := "get" }
      { name := "get", rename := ⟨some "fetch"⟩ } rfl rfl (.at .handle 0)
    exact symbols.2.1
  · have spellings := channels_apart.2 readAlike twiceRuled { name := "get" }
      { name := "get", abiRename := ⟨some "fetch"⟩ } { name := "One", discriminant := 1 }
      { name := "One", discriminant := 1, abiRename := ⟨some "Eins"⟩ } rfl rfl rfl
    exact spellings.2.1 _

end BindingNames.Koka
