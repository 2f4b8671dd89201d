import DocPreview.Dialect
import DocPreview.TypeExpr.Basic

/-!
# Spelling of types and operators

An intrinsic type without arguments is respelled in the dialect, whichever of its spellings it
comes in; the dialects also differ in the brackets of generic arguments and of arrays. A text
that is no type expression is shown as it stands, without the blanks around it.
-/

set_option autoImplicit false

namespace DocPreview

structure Intrinsic where
  /-- Qualified name in the framework. -/
  framework : String
  /-- The framework name without its namespace. -/
  short : String
  csharp : String
  visualBasic : String

namespace Intrinsic

def table : List Intrinsic :=
  [⟨"System.Object", "Object", "object", "Object"⟩,
   ⟨"System.String", "String", "string", "String"⟩,
   ⟨"System.Boolean", "Boolean", "bool", "Boolean"⟩,
   ⟨"System.Byte", "Byte", "byte", "Byte"⟩,
   ⟨"System.SByte", "SByte", "sbyte", "SByte"⟩,
   ⟨"System.Char", "Char", "char", "Char"⟩,
   ⟨"System.Int16", "Int16", "short", "Short"⟩,
   ⟨"System.UInt16", "UInt16", "ushort", "UShort"⟩,
   ⟨"System.Int32", "Int32", "int", "Integer"⟩,
   ⟨"System.UInt32", "UInt32", "uint", "UInteger"⟩,
   ⟨"System.Int64", "Int64", "long", "Long"⟩,
   ⟨"System.UInt64", "UInt64", "ulong", "ULong"⟩,
   ⟨"System.Single", "Single", "float", "Single"⟩,
   ⟨"System.Double", "Double", "double", "Double"⟩,
   ⟨"System.Decimal", "Decimal", "decimal", "Decimal"⟩,
   ⟨"System.DateTime", "DateTime", "DateTime", "Date"⟩]

def isSpelled (intrinsic : Intrinsic) (name : String) : Bool :=
  name == intrinsic.framework || name == intrinsic.short || name == intrinsic.csharp ||
    name == intrinsic.visualBasic

def spelling (intrinsic : Intrinsic) : Dialect → String
  | .csharp => intrinsic.csharp
  | .visualBasic => intrinsic.visualBasic

def ofName? (name : String) : Option Intrinsic :=
  table.find? (·.isSpelled name)

end Intrinsic

/-- The spelling of a name that stands without arguments. -/
def Dialect.typeName (dialect : Dialect) (name : String) : String :=
  match Intrinsic.ofName? name with
  | some intrinsic => intrinsic.spelling dialect
  | none => name

def TypeSuffix.spelling (dialect : Dialect) : TypeSuffix → String
  | .array rank =>
    let commas := String.ofList (List.replicate (rank - 1) ',')
    match dialect with
    | .csharp => "[" ++ commas ++ "]"
    | .visualBasic => "(" ++ commas ++ ")"
  | .nullable => "?"
  | .pointer => "*"

namespace TypeExpr

def argumentsOpening : Dialect → String
  | .csharp => "<"
  | .visualBasic => "(Of "

def argumentsClosing : Dialect → String
  | .csharp => ">"
  | .visualBasic => ")"

def suffixesSpelling (dialect : Dialect) (suffixes : List TypeSuffix) : String :=
  String.join (suffixes.map (·.spelling dialect))

mutual

def spelling (dialect : Dialect) : TypeExpr → String
  | .named name [] suffixes => dialect.typeName name ++ suffixesSpelling dialect suffixes
  | .named name (argument :: arguments) suffixes =>
    name ++ argumentsOpening dialect ++ spelling dialect argument ++
      furtherSpelling dialect arguments ++ argumentsClosing dialect ++
      suffixesSpelling dialect suffixes

def furtherSpelling (dialect : Dialect) : List TypeExpr → String
  | [] => ""
  | argument :: arguments =>
    ", " ++ spelling dialect argument ++ furtherSpelling dialect arguments

end

end TypeExpr

def Dialect.displayType (dialect : Dialect) (type : String) : String :=
  match TypeExpr.ofText? type with
  | some expr => expr.spelling dialect
  | none => trimmed type

/-- The operators: framework method name, then the symbol in each dialect. -/
def operatorTable : List (String × String × String) :=
  [("op_Addition", "+", "+"),
   ("op_Subtraction", "-", "-"),
   ("op_Multiply", "*", "*"),
   ("op_Division", "/", "/"),
   ("op_Modulus", "%", "Mod"),
   ("op_Equality", "==", "="),
   ("op_Inequality", "!=", "<>"),
   ("op_LessThan", "<", "<"),
   ("op_GreaterThan", ">", ">"),
   ("op_LessThanOrEqual", "<=", "<="),
   ("op_GreaterThanOrEqual", ">=", ">="),
   ("op_BitwiseAnd", "&", "And"),
   ("op_BitwiseOr", "|", "Or"),
   ("op_ExclusiveOr", "^", "Xor"),
   ("op_LogicalNot", "!", "Not"),
   ("op_OnesComplement", "~", "Not"),
   ("op_LeftShift", "<<", "<<"),
   ("op_RightShift", ">>", ">>"),
   ("op_UnaryPlus", "+", "+"),
   ("op_UnaryNegation", "-", "-"),
   ("op_Increment", "++", "++"),
   ("op_Decrement", "--", "--"),
   ("op_True", "true", "IsTrue"),
   ("op_False", "false", "IsFalse")]

/-- An operator in the spelling of a dialect. It may be given by its framework name or by its
`csharp` symbol; anything else stands for itself, without the blanks around it. -/
def Dialect.operatorSymbol (dialect : Dialect) (symbol : String) : String :=
  let name := trimmed symbol
  let row := (operatorTable.find? (·.1 == name)).or (operatorTable.find? (·.2.1 == name))
  match row, dialect with
  | some (_, spelling, _), .csharp => spelling
  | some (_, _, spelling), .visualBasic => spelling
  | none, _ => name

end DocPreview
