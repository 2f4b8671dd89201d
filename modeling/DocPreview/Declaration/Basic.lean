/-!
# Declarations

One documented code element as its host describes it. The kind is closed: every part of the
library that looks at it covers all kinds. All names and types are in the `csharp` spelling.
-/

set_option autoImplicit false

namespace DocPreview

inductive Visibility where
  | publicLevel | privateLevel | protectedLevel | internalLevel | protectedInternalLevel
deriving DecidableEq, Repr

inductive Conversion where
  | implicit | explicit
deriving DecidableEq, Repr

/-- What is declared, with the facts that only this kind has. -/
inductive DeclarationKind where
  | classType
  | interfaceType
  | structType
  | enumType (underlyingType : String)
  | delegate
  | constructor
  | destructor
  | operator (symbol : String) (conversion : Option Conversion)
  | method (implemented : List String)
  | property (hasGetter hasSetter : Bool)
  | event
  | field
  /-- A kind that has no signature syntax, with the words that describe it. -/
  | other (description : String)
deriving DecidableEq, Repr

/-- The modifiers that the host reports. A signature shows those that its kind can have. -/
structure Modifiers where
  isNew : Bool := false
  isStatic : Bool := false
  isAbstract : Bool := false
  isSealed : Bool := false
  isOverride : Bool := false
  isConst : Bool := false
  isUnsafe : Bool := false
deriving DecidableEq, Repr

/-- How the name of a constraint is read. -/
inductive ConstraintKind where
  /-- As a type. -/
  | namedType
  /-- As one of the words `class`, `struct` and `new`. -/
  | specialWord
deriving DecidableEq, Repr

structure Constraint where
  kind : ConstraintKind := .namedType
  name : String
deriving DecidableEq, Repr

structure TypeParameter where
  name : String := ""
  constraints : List Constraint := []
deriving DecidableEq, Repr

structure Parameter where
  name : String := ""
  type : String := ""
  isOut : Bool := false
  isRef : Bool := false
  isParamArray : Bool := false
  isOptional : Bool := false
  defaultValue : Option String := none
deriving DecidableEq, Repr

/-- An argument of an attribute; one without a key is positional. -/
structure AttributeArgument where
  key : Option String := none
  value : String := ""
deriving DecidableEq, Repr

structure Attribute where
  name : String := ""
  arguments : List AttributeArgument := []
deriving DecidableEq, Repr

inductive MemberKind where
  | constructor | method | property | event | field | operator
deriving DecidableEq, Repr

def MemberKind.label : MemberKind → String
  | .constructor => "Constructor"
  | .method => "Method"
  | .property => "Property"
  | .event => "Event"
  | .field => "Field"
  | .operator => "Operator"

structure MemberSummary where
  name : String := ""
  kind : MemberKind := .method
  visibility : Visibility := .privateLevel
  isStatic : Bool := false
  summary : String := ""
deriving DecidableEq, Repr

structure Declaration where
  name : String := ""
  kind : DeclarationKind := .classType
  visibility : Visibility := .privateLevel
  modifiers : Modifiers := ⟨false, false, false, false, false, false, false⟩
  /-- The type of the value or of the result. -/
  memberType : String := ""
  typeParameters : List TypeParameter := []
  parameters : List Parameter := []
  attributes : List Attribute := []
  parentIsInterface : Bool := false
  /-- The dotted name of the type that declares this member. -/
  enclosingType : Option String := none
  /-- The dotted name of the namespace. -/
  scope : Option String := none
  /-- The members of a type, for its listing. -/
  members : List MemberSummary := []
deriving DecidableEq, Repr

namespace DeclarationKind

def description : DeclarationKind → String
  | .classType => "Class"
  | .interfaceType => "Interface"
  | .structType => "Structure"
  | .enumType _ => "Enumeration"
  | .delegate => "Delegate"
  | .constructor => "Constructor"
  | .destructor => "Destructor"
  | .operator _ _ => "Operator"
  | .method _ => "Method"
  | .property _ _ => "Property"
  | .event => "Event"
  | .field => "Field"
  | .other description => description

def isType : DeclarationKind → Bool
  | .classType | .interfaceType | .structType | .enumType _ | .delegate => true
  | _ => false

def listsTypeParameters : DeclarationKind → Bool
  | .classType | .interfaceType | .structType | .delegate | .method _ => true
  | _ => false

end DeclarationKind

/-- The parts of a dotted name, none of them empty. -/
def dottedParts (name : String) : List String :=
  ((name.toList.splitOn '.').filter (!·.isEmpty)).map String.ofList

namespace Declaration

def isIndexer (declaration : Declaration) : Bool :=
  match declaration.kind with
  | .property _ _ => !declaration.parameters.isEmpty
  | _ => false

/-- The names of the namespace and of the enclosing types, outermost first, then its own. -/
def path (declaration : Declaration) : List String :=
  (declaration.scope.map dottedParts).getD [] ++
    (declaration.enclosingType.map dottedParts).getD [] ++ [declaration.name]

/-- The part of the enclosing type's name after its last dot; none when that is empty. -/
def parentName? (declaration : Declaration) : Option String :=
  declaration.enclosingType.bind fun name =>
    match (name.toList.splitOn '.').getLast? with
    | none | some [] => none
    | some last => some (String.ofList last)

def parameterTypes (declaration : Declaration) : List String :=
  declaration.parameters.map (·.type)

def genericArity (declaration : Declaration) : Nat :=
  declaration.typeParameters.length

end Declaration

end DocPreview
