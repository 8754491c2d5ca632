import BindingNames.Words

/-!
# Identifiers

Spellings of a name in the usual styles, and the trailing low line that keeps a name apart from
the reserved words.
-/

namespace BindingNames.Identifier

/-- The words of a name. -/
def words (name : String) : List String :=
  (Words.split name.toList).map String.ofList

def snakeCase (name : String) : String := String.ofList (Words.snake name.toList)

def upperCamelCase (name : String) : String := String.ofList (Words.upperCamel name.toList)

def lowerCase (name : String) : String := String.ofList (Text.lower name.toList)

/-- The name with its first character in upper case. -/
def withCapital (name : String) : String := String.ofList (Text.withCapital name.toList)

/-- The characters of a name that may stand in an identifier. -/
def wordCharsOf (name : String) : String :=
  String.ofList (name.toList.filter Unicode.isWordChar)

/-- A reserved word gets a trailing low line. -/
def avoid (reserved : List String) (name : String) : String :=
  if name ∈ reserved then name ++ "_" else name

theorem avoid_of_mem {reserved : List String} {name : String} (h : name ∈ reserved) :
    avoid reserved name = name ++ "_" := by
  simp [avoid, h]

theorem avoid_of_not_mem {reserved : List String} {name : String} (h : name ∉ reserved) :
    avoid reserved name = name := by
  simp [avoid, h]

end BindingNames.Identifier
