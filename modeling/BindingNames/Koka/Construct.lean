/-!
# Koka constructs

File names, imports, types built from other spellings, and the types that always have the same
spelling.
-/

namespace BindingNames.Koka

def fileName (name : String) : String := name ++ ".kk"

/-- An import, with a clause unless that is empty. -/
def importLine (path : String) (clause : Option String) : String :=
  match clause with
  | none | some "" => "import " ++ path ++ ";"
  | some text => "import " ++ path ++ " " ++ text ++ ";"

def nullable (type : String) : String := type ++ "?"

def pointer (target : String) : String := "c-pointer<" ++ target ++ ">"

def stringType : String := "string"

def utf8Unit : String := "int8"

def utf16Unit : String := "int16"

def voidType : String := "()"

/-- What a foreign function returns that returns nothing. -/
def foreignVoid : String := "()"

def utf8Slice : String := "_SliceUtf8"

def utf16Slice : String := "_SliceUtf16"

end BindingNames.Koka
