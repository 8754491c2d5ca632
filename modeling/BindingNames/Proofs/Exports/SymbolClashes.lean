import BindingNames.Abi
import BindingNames.Proofs.Rename.KeptNames
import BindingNames.Proofs.Text.Marks
import Mathlib.Data.List.Infix

/-!
# Clashes of symbols

A symbol joins the name of a type and that of a method by a low line, and both names may hold low
lines themselves. So the seam can be found unless the name of one type reads as a symbol of the
other. If it does, the rest of that name can be taken over by the name of a method, and the linker
sees one symbol for two methods.
-/

namespace BindingNames.Exports

/-- The name could as well be the symbol of a method on this type. -/
def ReadsAsMember (owner name : String) : Prop := owner.toList ++ ['_'] <+: name.toList

instance (owner name : String) : Decidable (ReadsAsMember owner name) :=
  inferInstanceAs (Decidable (owner.toList ++ ['_'] <+: name.toList))

theorem readsAsMember_append (owner rest : String) :
    ReadsAsMember owner (owner ++ "_" ++ rest) := by
  rw [ReadsAsMember, String.toList_append, String.toList_append]
  exact List.prefix_append _ rest.toList

theorem exists_append_of_readsAsMember {owner name : String} (h : ReadsAsMember owner name) :
    ∃ rest, name = owner ++ "_" ++ rest := by
  apply Text.exists_append_of_starts
  rwa [String.toList_append]

/-- A beginning up to a low line reaches over another one only inside of the latter's name. -/
theorem eq_of_low_line_begins {a b : String} (apart : ¬ReadsAsMember a b)
    (starts : a.toList ++ ['_'] <+: b.toList ++ ['_']) : a = b := by
  rcases List.prefix_concat_iff.mp starts with same | within
  · exact String.toList_injective (List.append_cancel_right same)
  · exact absurd within apart

theorem append_low_line_inj {a b : String} (left : ¬ReadsAsMember a b)
    (right : ¬ReadsAsMember b a) {m n : String} :
    a ++ "_" ++ m = b ++ "_" ++ n ↔ a = b ∧ m = n := by
  constructor
  · intro same
    have first : ReadsAsMember a (b ++ "_" ++ n) := same ▸ readsAsMember_append a m
    have second : ReadsAsMember b (b ++ "_" ++ n) := readsAsMember_append b n
    -- two beginnings of one text, so one of them begins the other
    have owners : a = b := by
      rcases List.prefix_or_prefix_of_prefix first second with shorter | longer
      · exact eq_of_low_line_begins left shorter
      · exact (eq_of_low_line_begins right longer).symm
    obtain rfl := owners
    exact ⟨rfl, (String.append_right_inj (a ++ "_")).mp same⟩
  · rintro ⟨rfl, rfl⟩
    rfl

variable {x : Exports} {ref : TypeRef} {name : String}

/-- Every method of a type that has a name has a symbol. -/
theorem symbol_eq_of_abiName (named : x.abiName ref = .ok name) (m : Method) :
    x.symbol ref m = .ok (m.abiRename.apply (name ++ "_" ++ m.name)) := by
  simp [symbol, named, bind, Except.bind, pure, Except.pure]

/-- The destructor is named like a method without a rule. -/
theorem destructor_eq_symbol (x : Exports) (ref : TypeRef) :
    x.destructor ref = x.symbol ref { name := "destroy" } := by
  cases named : x.abiName ref with
  | error cause => simp [destructor, symbol, named, bind, Except.bind]
  | ok name =>
    rw [symbol_eq_of_abiName named, Rename.apply_none, String.append_assoc]
    simp [destructor, named, bind, Except.bind, pure, Except.pure]

/-- Two symbols under one rule agree exactly where the symbols before the rule do. -/
theorem symbol_eq_symbol_iff {a b : TypeRef} {first second : String}
    (left : x.abiName a = .ok first) (right : x.abiName b = .ok second) {m n : Method}
    (ruled : m.abiRename = n.abiRename) (keeps : m.abiRename.KeepsName) :
    x.symbol a m = x.symbol b n ↔ first ++ "_" ++ m.name = second ++ "_" ++ n.name := by
  rw [symbol_eq_of_abiName left, symbol_eq_of_abiName right, ← ruled, Except.ok.injEq,
    Rename.apply_inj keeps]

/-- A method name on the first type takes over what the name of the second type has more. -/
theorem exists_symbol_of_readsAsMember {a b : TypeRef} {first second : String}
    (left : x.abiName a = .ok first) (right : x.abiName b = .ok second)
    (reads : ReadsAsMember first second) {m n : Method} (ruled : m.abiRename = n.abiRename) :
    ∃ name symbol, x.symbol a { m with name := name } = .ok symbol ∧
      x.symbol b n = .ok symbol := by
  obtain ⟨rest, rfl⟩ := exists_append_of_readsAsMember reads
  refine ⟨rest ++ "_" ++ n.name, _, ?_, symbol_eq_of_abiName right n⟩
  rw [symbol_eq_of_abiName left]
  simp only [ruled, String.append_assoc]

/-- Symbols are told apart by their types and methods exactly if neither type's name reads as a
symbol of the other type. -/
theorem symbol_clash_iff {a b : TypeRef} {first second : String}
    (left : x.abiName a = .ok first) (right : x.abiName b = .ok second) :
    (¬ReadsAsMember first second → ¬ReadsAsMember second first →
      (∀ m n : Method, m.abiRename = n.abiRename → m.abiRename.KeepsName →
        (x.symbol a m = x.symbol b n ↔ first = second ∧ m.name = n.name)) ∧
      ∀ m : Method, m.abiRename.isEmpty = true →
        (x.symbol a m = x.destructor b ↔ first = second ∧ m.name = "destroy")) ∧
    (ReadsAsMember first second → ∀ m n : Method, m.abiRename = n.abiRename →
      ∃ name symbol, x.symbol a { m with name := name } = .ok symbol ∧
        x.symbol b n = .ok symbol) := by
  refine ⟨fun apart apart' => ?_, fun reads m n ruled => ?_⟩
  · have methods : ∀ m n : Method, m.abiRename = n.abiRename → m.abiRename.KeepsName →
        (x.symbol a m = x.symbol b n ↔ first = second ∧ m.name = n.name) := by
      intro m n ruled keeps
      rw [symbol_eq_symbol_iff left right ruled keeps, append_low_line_inj apart apart']
    refine ⟨methods, fun m plain => ?_⟩
    rw [destructor_eq_symbol]
    exact methods m { name := "destroy" } (Rename.eq_of_isEmpty plain)
      (Rename.keepsName_of_isEmpty plain)
  · exact exists_symbol_of_readsAsMember left right reads ruled

/-- Of two types, one has a name that reads as a symbol of the first type, and the other one has a
name that only begins alike. -/
def typefaces : Exports where
  handles := [{ name := "Font" }, { name := "Face", abiRename := ⟨some "Font_\x7b0\x7d"⟩ },
    { name := "Fonts" }]

/-- A method whose symbol its rule repeats. -/
def twice (name : String) : Method := { name, abiRename := ⟨some "\x7b0\x7d_of_\x7b0\x7d"⟩ }

theorem symbol_clash_iff_typefaces :
    (typefaces.symbol (.at .handle 0) (twice "s_size") ≠
        typefaces.symbol (.at .handle 2) (twice "size") ∧
      typefaces.symbol (.at .handle 0) { name := "s_destroy" } ≠
        typefaces.destructor (.at .handle 2)) ∧
    ∃ name symbol, typefaces.symbol (.at .handle 0) (twice name) = .ok symbol ∧
      typefaces.symbol (.at .handle 1) (twice "size") = .ok symbol := by
  have font : typefaces.abiName (.at .handle 0) = .ok "Font" := by decide +kernel
  have face : typefaces.abiName (.at .handle 1) = .ok "Font_Face" := by decide +kernel
  have fonts : typefaces.abiName (.at .handle 2) = .ok "Fonts" := by decide +kernel
  have keeps : (twice "s_size").abiRename.KeepsName := by decide +kernel
  constructor
  · have apart := (symbol_clash_iff font fonts).1 (by decide) (by decide)
    constructor
    · intro same
      have alike := (apart.1 (twice "s_size") (twice "size") rfl keeps).mp same
      exact absurd alike.1 (by decide)
    · intro same
      have alike := (apart.2 { name := "s_destroy" } rfl).mp same
      exact absurd alike.1 (by decide)
  · exact (symbol_clash_iff font face).2 (by decide) (twice "") (twice "size") rfl

end BindingNames.Exports
