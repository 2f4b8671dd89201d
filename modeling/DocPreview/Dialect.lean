import DocPreview.Text.Blank

/-!
# Output dialects

A signature is written in one of two families of syntax. A keyword has a spelling in each
dialect that knows it; a dialect that does not know a keyword writes nothing for it. The words
of the language that comments refer to have a table of their own, and there an unknown word
stands for itself.
-/

set_option autoImplicit false

namespace DocPreview

/-- Concrete syntax of signatures and of comment prefixes. -/
inductive Dialect where
  /-- Type before name, angle brackets, braces and `where` clauses. -/
  | csharp
  /-- Name before type, `(Of T)` and line continuations. -/
  | visualBasic
deriving DecidableEq, Repr, Inhabited

namespace Dialect

def displayName : Dialect → String
  | .csharp => "C#"
  | .visualBasic => "Visual Basic"

def commentPrefix : Dialect → String
  | .csharp => "///"
  | .visualBasic => "'''"

/-- The dialect of a name as a user types it, in any case of its ASCII letters. -/
def ofName? (name : String) : Option Dialect :=
  let lower := asciiLower name
  if lower ∈ ["csharp", "cs", "c#"] then some .csharp
  else if lower ∈ ["vb", "visualbasic", "vbnet"] then some .visualBasic
  else none

def unknownMessage (name : String) : String :=
  "unknown dialect: " ++ name ++ ". Use csharp or vb"

end Dialect

/-- A concept of the language that a signature names by a keyword. -/
inductive Keyword where
  | publicWord | privateWord | protectedWord | internalWord | protectedInternalWord
  | newWord | staticWord | staticTypeWord | abstractTypeWord | sealedTypeWord
  | abstractMemberWord | sealedMemberWord | overrideWord | constWord | unsafeWord
  | classWord | interfaceWord | structWord | enumWord | delegateWord | eventWord
  | operatorWord | propertyWord | voidWord | functionWord | getWord | setWord
  | outWord | refWord | byValWord | paramArrayWord | optionalWord | implementsWord
  | asWord | ofWord | whereWord | thisWord | defaultWord | writeOnlyWord | readOnlyWord
  | implicitWord | explicitWord | ctypeWord | constructorNameWord | finalizeWord
deriving DecidableEq, Repr

/-- The two spellings of a keyword, for `csharp` and for `visualBasic`. -/
def Keyword.spellings : Keyword → Option String × Option String
  | .publicWord => (some "public", some "Public")
  | .privateWord => (some "private", some "Private")
  | .protectedWord => (some "protected", some "Protected")
  | .internalWord => (some "internal", some "Friend")
  | .protectedInternalWord => (some "protected internal", some "Protected Friend")
  | .newWord => (some "new", some "Shadows")
  | .staticWord => (some "static", some "Shared")
  | .staticTypeWord => (some "static", some "NotInheritable")
  | .abstractTypeWord => (some "abstract", some "MustInherit")
  | .sealedTypeWord => (some "sealed", some "NotInheritable")
  | .abstractMemberWord => (some "abstract", some "MustOverride")
  | .sealedMemberWord => (some "sealed", some "NotOverridable")
  | .overrideWord => (some "override", some "Overrides")
  | .constWord => (some "const", some "Const")
  | .unsafeWord => (some "unsafe", none)
  | .classWord => (some "class", some "Class")
  | .interfaceWord => (some "interface", some "Interface")
  | .structWord => (some "struct", some "Structure")
  | .enumWord => (some "enum", some "Enum")
  | .delegateWord => (some "delegate", some "Delegate")
  | .eventWord => (some "event", some "Event")
  | .operatorWord => (some "operator", some "Operator")
  | .propertyWord => (none, some "Property")
  | .voidWord => (some "void", some "Sub")
  | .functionWord => (none, some "Function")
  | .getWord => (some "get", some "Get")
  | .setWord => (some "set", some "Set")
  | .outWord => (some "out", some "<OutAttribute> ByRef")
  | .refWord => (some "ref", some "ByRef")
  | .byValWord => (none, some "ByVal")
  | .paramArrayWord => (some "params", some "ParamArray")
  | .optionalWord => (none, some "Optional")
  | .implementsWord => (none, some "Implements")
  | .asWord => (none, some "As")
  | .ofWord => (none, some "Of")
  | .whereWord => (some "where", none)
  | .thisWord => (some "this", none)
  | .defaultWord => (none, some "Default")
  | .writeOnlyWord => (none, some "WriteOnly")
  | .readOnlyWord => (none, some "ReadOnly")
  | .implicitWord => (some "implicit", some "Widening")
  | .explicitWord => (some "explicit", some "Narrowing")
  | .ctypeWord => (none, some "CType")
  | .constructorNameWord => (none, some "New")
  | .finalizeWord => (none, some "Finalize")

def Keyword.spelling? (word : Keyword) (dialect : Dialect) : Option String :=
  match dialect with
  | .csharp => word.spellings.1
  | .visualBasic => word.spellings.2

/-- The words that comments refer to: as written there, then in each dialect. -/
def languageWords : List (String × String × String) :=
  [("null", "null", "Nothing"), ("true", "true", "True"), ("false", "false", "False"),
   ("static", "static", "Shared"), ("abstract", "abstract", "MustInherit"),
   ("sealed", "sealed", "NotInheritable"), ("virtual", "virtual", "Overridable"),
   ("this", "this", "Me"), ("base", "base", "MyBase"), ("void", "void", "Sub")]

/-- The spelling of a language word that a comment refers to. An unknown word stands for
itself, without the blanks around it. -/
def Dialect.languageWord (dialect : Dialect) (word : String) : String :=
  match languageWords.lookup (trimmed word), dialect with
  | some (spelling, _), .csharp => spelling
  | some (_, spelling), .visualBasic => spelling
  | none, _ => trimmed word

end DocPreview
