import BindingNames.Proofs.Exports.SymbolClashes

/-!
# Names of result records

A result record joins the names of its two sides by a low line, and most primitives have a low line
in their own spelling. It stands before a final `t` there, after a stem that has no other one and is
not `t` itself. So the seam can be moved neither to the low line inside of the first name nor to one
behind it: what then came second would begin with `t` and a low line, and no spelling does.
-/

namespace BindingNames.Abi

open Exports

/-- What the headers call a primitive, or a type without a low line in its name. -/
inductive HeaderName : String → Prop
  | plain {name : String} (clear : '_' ∉ name.toList) : HeaderName name
  | suffixed {stem : String} (clear : '_' ∉ stem.toList) (other : stem ≠ "t") :
      HeaderName (stem ++ "_t")

theorem headerName_spelling (p : Primitive) : HeaderName (spelling p) := by
  cases p with
  | bool => exact .plain (by decide)
  | char => exact .suffixed (show '_' ∉ "char32".toList by decide) (by decide)
  | byte => exact .suffixed (show '_' ∉ "uint8".toList by decide) (by decide)
  | int sign width =>
    cases sign <;> cases width <;> exact .suffixed (by decide) (by decide)
  | size sign =>
    cases sign with
    | signed => exact .suffixed (show '_' ∉ "intptr".toList by decide) (by decide)
    | unsigned => exact .suffixed (show '_' ∉ "size".toList by decide) (by decide)
  | float width => cases width <;> exact .plain (by decide)

/-- The low line of a header name stands before the suffix. -/
theorem HeaderName.parts {stem rest : String} (h : HeaderName (stem ++ "_" ++ rest)) :
    stem ≠ "t" ∧ rest = "t" := by
  generalize joined : stem ++ "_" ++ rest = name at h
  cases h with
  | plain clear => simp [← joined] at clear
  | @suffixed own clear other =>
    have seams : own.toList ++ '_' :: "t".toList = stem.toList ++ '_' :: rest.toList := by
      simpa using (congrArg String.toList joined).symm
    obtain ⟨stems, -, rests⟩ := (List.append_cons_inj_of_notMem clear (by decide)).mp seams
    exact ⟨String.toList_injective stems ▸ other, (String.toList_injective rests).symm⟩

/-- If the first name ends inside of another one, what follows cannot make up for the suffix. -/
theorem HeaderName.join_ne {a b : String} (named : HeaderName b) (reads : ReadsAsMember a b)
    {m : String} (later : HeaderName m) (n : String) : a ++ "_" ++ m ≠ b ++ "_" ++ n := by
  obtain ⟨rest, rfl⟩ := exists_append_of_readsAsMember reads
  obtain ⟨-, rfl⟩ := named.parts
  intro same
  have second : m = "t" ++ "_" ++ n := by
    apply (String.append_right_inj (a ++ "_")).mp
    simpa only [String.append_assoc] using same
  exact (second ▸ later).parts.1 rfl

theorem HeaderName.join_inj {a b m n : String} (left : HeaderName a) (right : HeaderName b)
    (later : HeaderName m) (further : HeaderName n) :
    a ++ "_" ++ m = b ++ "_" ++ n ↔ a = b ∧ m = n := by
  constructor
  · intro same
    -- a stem may well be the name of a type, so the suffix alone does not keep the names apart
    have ahead : ¬ReadsAsMember a b := fun reads => right.join_ne reads later n same
    have behind : ¬ReadsAsMember b a := fun reads => left.join_ne reads further m same.symm
    exact (append_low_line_inj ahead behind).mp same
  · rintro ⟨rfl, rfl⟩
    rfl

/-- What a result may carry on one of its sides: nothing, a primitive, or a type whose name has no
low line. The empty name has none. -/
inductive Side : Option String → Prop
  | absent : Side none
  | primitive {t : TypeExpr} {name : String} (spelled : Abi.primitive t = .ok name) :
      Side (some name)
  | named {name : String} (clear : '_' ∉ name.toList) : Side (some name)

theorem HeaderName.orVoid {name : String} (h : HeaderName name) :
    HeaderName (orVoid (some name)) := by
  simp only [Abi.orVoid]
  split
  · exact .plain (by decide)
  · exact h

theorem Side.headerName {side : Option String} (h : Side side) : HeaderName (orVoid side) := by
  cases h with
  | absent => exact .plain (by decide)
  | primitive spelled =>
    obtain ⟨p, -, rfl⟩ := map_eq_ok_iff.mp spelled
    exact (headerName_spelling p).orVoid
  | named clear => exact (HeaderName.plain clear).orVoid

theorem resultName_eq (success failure : Option String) :
    resultName success failure =
      "diplomat_result_" ++ (orVoid success ++ "_" ++ orVoid failure) := by
  unfold resultName
  -- a fixed beginning would be taken apart for every rewriting
  generalize "diplomat_result_" = start
  simp only [String.append_assoc]

/-- Results are called alike exactly if they carry the same, where nothing counts as `void`. -/
theorem resultName_eq_iff {success failure success' failure' : Option String}
    (left : Side success) (right : Side failure) (left' : Side success')
    (right' : Side failure') :
    resultName success failure = resultName success' failure' ↔
      orVoid success = orVoid success' ∧ orVoid failure = orVoid failure' := by
  rw [resultName_eq, resultName_eq, String.append_right_inj]
  exact left.headerName.join_inj left'.headerName right.headerName right'.headerName

/-- A type called like the suffix, an integer with it, and the two forms of a side that carries
nothing. -/
theorem resultName_eq_iff_suffix :
    resultName (some "int32") (some "t") ≠ resultName (some "int32_t") (some "") ∧
      resultName (some "int32_t") (some "t") ≠ resultName (some "int32") (some "size_t") ∧
      resultName (some "int32_t") none = resultName (some "int32_t") (some "void") := by
  have integer : Side (some "int32_t") :=
    .primitive (show Abi.primitive (.int "i32") = .ok "int32_t" by decide)
  have size : Side (some "size_t") :=
    .primitive (show Abi.primitive (.sizeInt "usize") = .ok "size_t" by decide)
  have stem : Side (some "int32") := .named (by decide)
  have suffix : Side (some "t") := .named (by decide)
  have unnamed : Side (some "") := .named (by decide)
  have void : Side (some "void") := .named (by decide)
  refine ⟨fun same => ?_, fun same => ?_, ?_⟩
  · exact absurd ((resultName_eq_iff stem suffix integer unnamed).mp same).1 (by decide)
  · exact absurd ((resultName_eq_iff integer suffix stem size).mp same).1 (by decide)
  · exact (resultName_eq_iff integer .absent integer void).mpr ⟨rfl, rfl⟩

/-- A type with a low line in its name can move the seam. -/
example : resultName (some "int32") (some "t_x") = resultName (some "int32_t") (some "x") := by
  decide

end BindingNames.Abi
