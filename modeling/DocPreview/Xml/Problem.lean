/-!
# What can be wrong with an XML text

A failed reading names everything that would have let it go on at the point where it stopped.
The problems of such a set are listed in the order of the constructors, and those of one name by
their argument.
-/

set_option autoImplicit false

namespace DocPreview.Xml

inductive Problem where
  | expected (literal : String)
  | expectedAttribute
  | expectedAttributeValue
  | expectedCData
  | expectedCharacterData
  | expectedComment
  | expectedCommentBody
  | expectedElement
  | expectedElementName
  | expectedElementEnd
  | expectedElementSelfClosed
  | expectedInstruction
  | expectedInstructionTarget
  | expectedInstructionValue
  | expectedVersionNumber
  | expectedEncoding
  | expectedYesNo
  | expectedWhitespace
  | expectedDocumentTypeName
  | expectedSubset
  | expectedSystemLiteral
  | expectedClosingQuote (quote : String)
  | expectedOpeningQuote (quote : String)
  | expectedDecimalValue
  | expectedHexValue
  | expectedNamedValue
  | expectedDecimalReference
  | expectedHexReference
  | expectedNamedReference
  | invalidInstructionTarget
  | mismatchedElementEndName
  | invalidDecimalReference
  | invalidHexReference
  | unknownNamedReference
  | duplicateAttribute
  | redefinedNamespace
  | redefinedDefaultNamespace
  | emptyNamespace
  | unknownNamespacePrefix
  | unclosedElement
deriving DecidableEq, Repr, Ord

namespace Problem

/-- The argument of a problem between quotes, with a double quote escaped. -/
def quoted (name argument : String) : String :=
  let chars := argument.toList.flatMap fun char => if char == '"' then ['\\', '"'] else [char]
  name ++ "(\"" ++ String.ofList chars ++ "\")"

def text : Problem → String
  | .expected literal => quoted "Expected" literal
  | .expectedAttribute => "ExpectedAttribute"
  | .expectedAttributeValue => "ExpectedAttributeValue"
  | .expectedCData => "ExpectedCData"
  | .expectedCharacterData => "ExpectedCharacterData"
  | .expectedComment => "ExpectedComment"
  | .expectedCommentBody => "ExpectedCommentBody"
  | .expectedElement => "ExpectedElement"
  | .expectedElementName => "ExpectedElementName"
  | .expectedElementEnd => "ExpectedElementEnd"
  | .expectedElementSelfClosed => "ExpectedElementSelfClosed"
  | .expectedInstruction => "ExpectedProcessingInstruction"
  | .expectedInstructionTarget => "ExpectedProcessingInstructionTarget"
  | .expectedInstructionValue => "ExpectedProcessingInstructionValue"
  | .expectedVersionNumber => "ExpectedVersionNumber"
  | .expectedEncoding => "ExpectedEncoding"
  | .expectedYesNo => "ExpectedYesNo"
  | .expectedWhitespace => "ExpectedWhitespace"
  | .expectedDocumentTypeName => "ExpectedDocumentTypeName"
  | .expectedSubset => "ExpectedIntSubset"
  | .expectedSystemLiteral => "ExpectedSystemLiteral"
  | .expectedClosingQuote quote => quoted "ExpectedClosingQuote" quote
  | .expectedOpeningQuote quote => quoted "ExpectedOpeningQuote" quote
  | .expectedDecimalValue => "ExpectedDecimalReferenceValue"
  | .expectedHexValue => "ExpectedHexReferenceValue"
  | .expectedNamedValue => "ExpectedNamedReferenceValue"
  | .expectedDecimalReference => "ExpectedDecimalReference"
  | .expectedHexReference => "ExpectedHexReference"
  | .expectedNamedReference => "ExpectedNamedReference"
  | .invalidInstructionTarget => "InvalidProcessingInstructionTarget"
  | .mismatchedElementEndName => "MismatchedElementEndName"
  | .invalidDecimalReference => "InvalidDecimalReference"
  | .invalidHexReference => "InvalidHexReference"
  | .unknownNamedReference => "UnknownNamedReference"
  | .duplicateAttribute => "DuplicateAttribute"
  | .redefinedNamespace => "RedefinedNamespace"
  | .redefinedDefaultNamespace => "RedefinedDefaultNamespace"
  | .emptyNamespace => "EmptyNamespace"
  | .unknownNamespacePrefix => "UnknownNamespacePrefix"
  | .unclosedElement => "UnclosedElement"

/-- Whether a problem ends the reading even where something else might be read instead. -/
def isFatal : Problem → Bool
  | .expectedEncoding | .expectedYesNo | .invalidInstructionTarget => true
  | _ => false

/-- A problem put into an ascending list that holds each problem once. -/
def insert (problem : Problem) : List Problem → List Problem
  | [] => [problem]
  | first :: rest =>
    match compare problem first with
    | .lt => problem :: first :: rest
    | .eq => first :: rest
    | .gt => first :: insert problem rest

/-- The problems of both lists, ascending and each once. -/
def union (left right : List Problem) : List Problem :=
  left.foldl (fun problems problem => insert problem problems) right

end Problem

/-- The place and the reasons where a reading fails. The place is given by how many characters
are left there. -/
structure Failure where
  remaining : Nat
  problems : List Problem
deriving DecidableEq, Repr

namespace Failure

/-- Whether nothing else is tried after the failure. -/
def isFatal (failure : Failure) : Bool :=
  failure.problems.any Problem.isFatal

/-- The failure that got further. Two that got equally far make one of all their reasons. -/
def further (left right : Failure) : Failure :=
  if left.remaining < right.remaining then left
  else if right.remaining < left.remaining then right
  else ⟨left.remaining, Problem.union left.problems right.problems⟩

def furthest : Option Failure → Option Failure → Option Failure
  | none, right => right
  | some left, none => some left
  | some left, some right => some (left.further right)

end Failure

structure Error where
  offset : Nat
  problems : List Problem
deriving DecidableEq, Repr

def Error.message (error : Error) : String :=
  "XML parsing error at " ++ Nat.repr error.offset ++ ": \x7b" ++
    ", ".intercalate (error.problems.map Problem.text) ++ "\x7d"

def byteLength (chars : List Char) : Nat :=
  chars.foldr (fun char size => char.utf8Size + size) 0

def Failure.toError (chars : List Char) (failure : Failure) : Error :=
  ⟨byteLength (chars.take (chars.length - failure.remaining)), failure.problems⟩

end DocPreview.Xml
