import BindingNames.Proofs.Koka.References

/-!
# Agreement of references with names

A reference to a type by its canonical name should become the name of the type in code. The rules
of the types listed before it leave the reference alone and its own rule makes the right name of
it, but the types listed later act on that name once more. So the comment agrees with the code
exactly if their rules lead back to the name.
-/

namespace BindingNames.Koka

open Text Unicode

theorem trim_eq_self {s : List Char} (first : ∀ c ∈ s.head?, isBlank c = false)
    (last : ∀ c ∈ s.getLast?, isBlank c = false) : trim s = s := by
  have kept : ∀ t : List Char, (∀ c ∈ t.head?, isBlank c = false) → trimStart t = t := by
    intro t outer
    cases t with
    | nil => rfl
    | cons c t => exact List.dropWhile_cons_of_neg (by simp [outer c rfl])
  rw [trim, kept s first, trimEnd, kept s.reverse (by simpa using last), List.reverse_reverse]

theorem commentLines_eq_self {s : List Char} (first : ∀ c ∈ s.head?, isBlank c = false)
    (last : ∀ c ∈ s.getLast?, isBlank c = false) (oneLine : '\n' ∉ s) : commentLines s = s := by
  rw [commentLines, trim_eq_self first last, replace_of_not_mem _ (by simp) oneLine,
    replace_of_not_mem _ (by simp) oneLine]

theorem commentLines_reference {name : String} (chars : ∀ c ∈ name.toList, isWordChar c = true) :
    commentLines ("\x60" ++ name ++ "\x60").toList = assemble [] [name.toList, []] := by
  have parts : ("\x60" ++ name ++ "\x60").toList = assemble [] [name.toList, []] := by
    simp [assemble]
  have solid : isBlank backtick = false := by decide +kernel
  rw [parts]
  apply commentLines_eq_self
  · simpa [assemble] using solid
  · rw [assemble_cons, assemble_cons, assemble_nil, List.nil_append, ← List.cons_append,
      List.getLast?_append]
    simpa using solid
  · have newline : isWordChar '\n' = false := by decide +kernel
    have absent : '\n' ∉ name.toList := fun member => by simpa [newline] using chars '\n' member
    simpa [assemble, backtick] using absent

namespace Speller

/-- The names of the renamed types that are listed after a type. -/
def laterRenamings (s : Speller) (ref : TypeRef) : List (String × String) :=
  (s.exports.listedAfter ref).filterMap s.renaming?

/-- Only the type itself and the types listed later act on its old name. -/
theorem follow_renamings {s : Speller} (distinct : s.Distinguishes s.exports.all)
    {ref : TypeRef} {d : TypeDecl} {name : String} (listed : (ref, d) ∈ s.exports.all)
    (named : s.typeName ref = .ok name) :
    follow s.renamings (s.stripped d.entity.name) = follow (s.laterRenamings ref) name := by
  obtain ⟨before, parts, others⟩ := Exports.all_eq_append_listedAfter listed
  have earlier : follow (before.filterMap s.renaming?) (s.stripped d.entity.name) =
      s.stripped d.entity.name := by
    apply follow_of_fixed
    intro rule member takes
    have known : ∀ entry ∈ before, entry ∈ s.exports.all :=
      fun entry member => parts ▸ List.mem_append_left _ member
    obtain ⟨entry, inFront, -, old, -⟩ := (mem_filterMap_renaming? known).mp member
    exact absurd (old.symm.trans takes)
      (distinct entry (known entry inFront) (ref, d) listed (others entry inFront))
  have spelled := (typeName_of_mem_all listed).symm.trans named
  rw [renamings, parts, List.filterMap_append, follow_append, earlier]
  cases ruled : d.entity.rename.isEmpty with
  | true =>
    have same : name = s.stripped d.entity.name :=
      (nameOf_eq_ok_iff.mp spelled).2.trans (Rename.apply_of_isEmpty ruled _)
    rw [List.filterMap_cons_none (by simp [renaming?, ruled]), same]
    rfl
  | false =>
    have rule : s.renaming? (ref, d) = some (s.stripped d.entity.name, name) :=
      renaming?_eq_some.mpr ⟨ruled, rfl, named⟩
    rw [List.filterMap_cons_some rule, follow_cons, exchange_self]
    rfl

theorem onReference_nil {s : Speller} : s.onReference (follow s.renamings) [] = [] := by
  have kept : follow s.renamings "" = "" := by
    apply follow_of_fixed
    intro rule member takes
    obtain ⟨⟨ref, d⟩, -, ruled, old, new⟩ :=
      (mem_filterMap_renaming? (fun _ listed => listed)).mp member
    have spelled := (typeName_of_mem_all (mem_renamed.mp ruled).1).symm.trans new
    exact absurd (.inl (old.symm.trans takes)) (nameOf_eq_ok_iff.mp spelled).1
  have nothing : s.stripped "" = "" := by
    simpa using s.stripped_suffix ""
  have same := @onReference_toList s (follow s.renamings) "" (by simp)
  rwa [nothing, kept] at same

theorem comment_reference {s : Speller} (worded : s.Worded)
    (spelled : s.SpellsInWords s.exports.all) (distinct : s.Distinguishes s.exports.all)
    {ref : TypeRef} {d : TypeDecl} {name : String} (listed : (ref, d) ∈ s.exports.all)
    (named : s.typeName ref = .ok name) :
    s.comment { text := "\x60" ++ d.entity.name ++ "\x60" } =
      .ok ("\x60" ++ follow (s.laterRenamings ref) name ++ "\x60") := by
  have chars : ∀ c ∈ d.entity.name.toList, isWordChar c = true :=
    (worded.canonical (ref, d) listed).chars
  have ruled : s.SpellsInWords s.renamed :=
    fun entry member => spelled entry (mem_renamed.mp member).1
  have clear : Plain [] [d.entity.name.toList, []] :=
    ⟨by simp, by simpa using backtick_not_mem chars⟩
  have text : ({ text := "\x60" ++ d.entity.name ++ "\x60" } : Documentation).markdown s.site =
      .ok ("\x60" ++ d.entity.name ++ "\x60") := rfl
  have segments : mapSegments (s.onReference (follow s.renamings))
      (assemble [] [d.entity.name.toList, []]) =
        ("\x60" ++ follow (s.laterRenamings ref) name ++ "\x60").toList := by
    rw [mapSegments_assemble _ clear, List.map_cons, List.map_singleton,
      onReference_toList s _ chars, follow_renamings distinct listed named, onReference_nil]
    simp [assemble]
  rw [comment_eq_follow worded ruled text, commentLines_reference chars, segments,
    String.ofList_toList]

/-- The rules of the types listed later decide whether a comment agrees with the code. -/
theorem comment_reference_agrees {s : Speller} (worded : s.Worded)
    (spelled : s.SpellsInWords s.exports.all) (distinct : s.Distinguishes s.exports.all)
    {ref : TypeRef} {d : TypeDecl} {name : String} (resolved : s.exports.resolve ref = .ok d)
    (named : s.typeName ref = .ok name) :
    s.comment { text := "\x60" ++ d.entity.name ++ "\x60" } =
        .ok ("\x60" ++ follow (s.laterRenamings ref) name ++ "\x60") ∧
      (s.comment { text := "\x60" ++ d.entity.name ++ "\x60" } = .ok ("\x60" ++ name ++ "\x60") ↔
        follow (s.laterRenamings ref) name = name) := by
  have listed := Exports.resolve_eq_ok_iff.mp resolved
  have result := comment_reference worded spelled distinct listed named
  refine ⟨result, ?_⟩
  rw [result]
  simp

end Speller

/-- Two types, of which the first takes the old name of the second. -/
def succession : Speller where
  exports := { handles := [{ name := "A", rename := ⟨some "B"⟩ },
    { name := "B", rename := ⟨some "C"⟩ }] }

/-- The type listed last keeps its new name in comments. -/
theorem comment_reference_agrees_last :
    succession.comment { text := "\x60B\x60" } = .ok "\x60C\x60" := by
  have resolved : succession.exports.resolve (.at .handle 1) =
      .ok (.handle { name := "B", rename := ⟨some "C"⟩ }) := rfl
  have named : succession.typeName (.at .handle 1) = .ok "C" := by decide +kernel
  have agrees := Speller.comment_reference_agrees (s := succession) (by decide +kernel)
    (by decide +kernel) (by decide +kernel) resolved named
  exact agrees.2.mpr (by decide +kernel)

/-- The first one does not, although the second one alone is renamed twice. -/
theorem comment_reference_disagrees_first :
    (succession.Worded ∧ succession.SpellsInWords succession.exports.all ∧
      succession.Distinguishes succession.exports.all) ∧
    succession.typeName (.at .handle 0) = .ok "B" ∧
    succession.comment { text := "\x60A\x60" } ≠ .ok "\x60B\x60" ∧
    succession.comment { text := "\x60A\x60" } = .ok "\x60C\x60" :=
  ⟨⟨by decide +kernel, by decide +kernel, by decide +kernel⟩, by decide +kernel,
    by decide +kernel, by decide +kernel⟩

end BindingNames.Koka
