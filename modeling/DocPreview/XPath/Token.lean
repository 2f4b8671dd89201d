import DocPreview.Number.Decimal
import DocPreview.Text.Quoted
import DocPreview.Xml.Name

/-!
# XPath tokens

A query is cut into tokens with optional white space around each. A star and the words `and`,
`or`, `mod` and `div` are operators only where an operand has just ended; there a word is taken
even from the front of a longer one. The abbreviations `//`, `@`, `.` and `..` stand for the
tokens of their long forms. A point where no token fits ends the sequence with a token that
matches nothing.
-/

set_option autoImplicit false

namespace DocPreview.XPath

inductive Axis where
  | ancestor | ancestorOrSelf | attribute | binding | child | descendant | descendantOrSelf
  | following | followingSibling | parent | preceding | precedingSibling | itself
deriving DecidableEq, Repr

namespace Axis

/-- The names of the axes; a longer name stands before one that it begins with. -/
def names : List (String × Axis) :=
  [("ancestor-or-self", .ancestorOrSelf), ("ancestor", .ancestor), ("attribute", .attribute),
   ("namespace", .binding), ("child", .child), ("descendant-or-self", .descendantOrSelf),
   ("descendant", .descendant), ("following-sibling", .followingSibling),
   ("following", .following), ("parent", .parent), ("preceding-sibling", .precedingSibling),
   ("preceding", .preceding), ("self", .itself)]

def text : Axis → String
  | .ancestor => "Ancestor"
  | .ancestorOrSelf => "AncestorOrSelf"
  | .attribute => "Attribute"
  | .binding => "Namespace"
  | .child => "Child"
  | .descendant => "Descendant"
  | .descendantOrSelf => "DescendantOrSelf"
  | .following => "Following"
  | .followingSibling => "FollowingSibling"
  | .parent => "Parent"
  | .preceding => "Preceding"
  | .precedingSibling => "PrecedingSibling"
  | .itself => "SelfAxis"

end Axis

inductive NodeType where
  | comment
  | node
  | text
  | instruction (target : Option String)
deriving DecidableEq, Repr

/-- A name with an optional prefix. -/
abbrev Name : Type := Xml.QName

/-- Why no token fits at a point. -/
inductive TokenFault where
  | noToken
  | unclosedString
  | missingName
deriving DecidableEq, Repr

def TokenFault.text : TokenFault → String
  | .noToken => "UnableToCreateToken"
  | .unclosedString => "MismatchedQuoteCharacters"
  | .missingName => "ExpectedPrefixedName"

inductive Operator where
  | or | and | equal | notEqual | less | lessOrEqual | greater | greaterOrEqual
  | plus | minus | times | divide | remainder | union
deriving DecidableEq, Repr

inductive Token where
  | operator (operator : Operator)
  | slash
  | openParen | closeParen | openBracket | closeBracket
  | comma
  | literal (text : String)
  | number (value : Float)
  | axis (axis : Axis)
  | nodeType (type : NodeType)
  | function (name : Name)
  | nameTest (name : Name)
  | variable (name : Name)
  /-- The end of the sequence where no token fits. -/
  | fault (fault : TokenFault)

namespace Token

def optionalText : Option String → String
  | none => "None"
  | some text => "Some(" ++ Text.quoted text ++ ")"

def nameText (type : String) (name : Name) : String :=
  type ++ " \x7b prefix: " ++ optionalText name.space ++ ", local_part: " ++
    Text.quoted name.localPart ++ " \x7d"

def operatorText : Operator → String
  | .or => "Or"
  | .and => "And"
  | .equal => "Equal"
  | .notEqual => "NotEqual"
  | .less => "LessThan"
  | .lessOrEqual => "LessThanOrEqual"
  | .greater => "GreaterThan"
  | .greaterOrEqual => "GreaterThanOrEqual"
  | .plus => "PlusSign"
  | .minus => "MinusSign"
  | .times => "Multiply"
  | .divide => "Divide"
  | .remainder => "Remainder"
  | .union => "Pipe"

def text : Token → String
  | .operator found => operatorText found
  | .slash => "Slash"
  | .openParen => "LeftParen"
  | .closeParen => "RightParen"
  | .openBracket => "LeftBracket"
  | .closeBracket => "RightBracket"
  | .comma => "Comma"
  | .literal content => "Literal(" ++ Text.quoted content ++ ")"
  | .number value => "Number(" ++ Number.exactText value ++ ")"
  | .axis found => "Axis(" ++ found.text ++ ")"
  | .nodeType .comment => "NodeTest(Comment)"
  | .nodeType .node => "NodeTest(Node)"
  | .nodeType .text => "NodeTest(Text)"
  | .nodeType (.instruction target) =>
    "NodeTest(ProcessingInstruction(" ++ optionalText target ++ "))"
  | .function name => "Function(" ++ nameText "OwnedPrefixedName" name ++ ")"
  | .nameTest name => "NameTest(" ++ nameText "NameTest" name ++ ")"
  | .variable name => "Variable(" ++ nameText "OwnedPrefixedName" name ++ ")"
  | .fault cause => cause.text

end Token

/-! ## Cutting a query into tokens -/

/-- A token as it is written, where abbreviations are tokens of their own. -/
inductive Written where
  | token (token : Token)
  | doubleSlash
  | atSign
  | dot
  | doubleDot

namespace Written

def expand : Written → List Token
  | .token only => [only]
  | .doubleSlash => [.slash, .axis .descendantOrSelf, .nodeType .node, .slash]
  | .atSign => [.axis .attribute]
  | .dot => [.axis .itself, .nodeType .node]
  | .doubleDot => [.axis .parent, .nodeType .node]

/-- Whether an operand ends with the token, so that an operator may follow. -/
def endsOperand : Written → Bool
  | .token (.operator _) | .token .slash | .token .openParen | .token .openBracket
  | .token (.axis _) | .doubleSlash | .atSign => false
  | _ => true

end Written

/-- What follows the first of the spellings that the characters begin with, and its meaning. -/
def firstSpelling? {α : Type} (spellings : List (String × α)) (chars : List Char) :
    Option (α × List Char) :=
  spellings.findSome? fun (spelling, meaning) =>
    (Text.dropOpening? spelling.toList chars).map fun rest => (meaning, rest)

/-- The marks, longer ones first. -/
def marks : List (String × Written) :=
  [("<=", .token (.operator .lessOrEqual)), (">=", .token (.operator .greaterOrEqual)),
   ("!=", .token (.operator .notEqual)), ("//", .doubleSlash), ("..", .doubleDot),
   ("/", .token .slash), ("(", .token .openParen), (")", .token .closeParen),
   ("[", .token .openBracket), ("]", .token .closeBracket), ("@", .atSign),
   ("+", .token (.operator .plus)), ("-", .token (.operator .minus)),
   ("|", .token (.operator .union)), ("=", .token (.operator .equal)),
   ("<", .token (.operator .less)), (">", .token (.operator .greater)),
   (",", .token .comma)]

/-- The operators that are read only where an operand has ended. -/
def operatorWords : List (String × Written) :=
  [("and", .token (.operator .and)), ("or", .token (.operator .or)),
   ("mod", .token (.operator .remainder)), ("div", .token (.operator .divide)),
   ("*", .token (.operator .times))]

/-- The tests for node types that take no argument. -/
def nodeTypes : List (String × Written) :=
  [("comment()", .token (.nodeType .comment)), ("text()", .token (.nodeType .text)),
   ("processing-instruction()", .token (.nodeType (.instruction none))),
   ("node()", .token (.nodeType .node))]

def scanLiteral? : List Char → Option (String × List Char)
  | quote :: rest =>
    if quote == '"' || quote == '\'' then
      match rest.span (· != quote) with
      | (text, _ :: rest) => some (String.ofList text, rest)
      | (_, []) => none
    else none
  | [] => none

/-- A number: digits with an optional fraction, or a fraction alone. -/
def scanNumber? (chars : List Char) : Option (Float × List Char) := do
  let (whole, fraction, rest) ← Number.scanDigits? chars
  return (Number.ofDecimal (Number.digitsValue (whole ++ fraction)) (-fraction.length), rest)

def scanLocalName? : List Char → Option (String × List Char)
  | first :: rest =>
    if Xml.beginsName first then
      some (String.ofList (first :: rest.takeWhile Xml.continuesName),
        rest.dropWhile Xml.continuesName)
    else none
  | [] => none

/-- A name with an optional prefix. A colon that no name follows is left. -/
def scanName? (chars : List Char) : Option (Name × List Char) := do
  let (first, rest) ← scanLocalName? chars
  match rest with
  | ':' :: behind =>
    match scanLocalName? behind with
    | some (second, rest) => return (⟨some first, second⟩, rest)
    | none => return (⟨none, first⟩, rest)
  | rest => return (⟨none, first⟩, rest)

/-- A star for any name, with an optional prefix, or a name. -/
def scanNameTest? : List Char → Option (Name × List Char)
  | '*' :: rest => some (⟨none, "*"⟩, rest)
  | chars =>
    match scanLocalName? chars with
    | some (space, ':' :: '*' :: rest) => some (⟨some space, "*"⟩, rest)
    | _ => scanName? chars

/-- A test for instructions of one target. -/
def scanInstructionType? (chars : List Char) : Option (Written × List Char) := do
  let rest ← Text.dropOpening? "processing-instruction(".toList chars
  let (target, rest) ← scanLiteral? rest
  let rest ← Text.dropOpening? [')'] rest
  return (.token (.nodeType (.instruction (some target))), rest)

/-- The name of a function, which its opening parenthesis follows at once. -/
def scanFunction? (chars : List Char) : Option (Written × List Char) :=
  match scanName? chars with
  | some (name, '(' :: rest) => some (.token (.function name), '(' :: rest)
  | _ => none

def scanVariable? : List Char → Option (Written × List Char)
  | '$' :: rest => (scanName? rest).map fun (name, rest) => (.token (.variable name), rest)
  | _ => none

def scanToken? (afterOperand : Bool) (chars : List Char) : Option (Written × List Char) :=
  (firstSpelling? marks chars).or <|
  ((scanLiteral? chars).map fun (text, rest) => (.token (.literal text), rest)).or <|
  ((scanNumber? chars).map fun (value, rest) => (.token (.number value), rest)).or <|
  (firstSpelling? [(".", Written.dot)] chars).or <|
  (if afterOperand then firstSpelling? operatorWords chars else none).or <|
  (firstSpelling?
    (Axis.names.map fun (name, axis) => (name ++ "::", Written.token (.axis axis))) chars).or <|
  (firstSpelling? nodeTypes chars).or <|
  (scanInstructionType? chars).or <|
  (scanFunction? chars).or <|
  ((scanNameTest? chars).map fun (name, rest) => (.token (.nameTest name), rest)).or <|
  scanVariable? chars

def faultAt : List Char → TokenFault
  | '"' :: _ | '\'' :: _ => .unclosedString
  | '$' :: _ => .missingName
  | _ => .noToken

def skipSpace (chars : List Char) : List Char :=
  chars.dropWhile Xml.isSpace

/-- The tokens of the characters; each reading takes at least one of them. -/
def scanTokens (afterOperand : Bool) (chars : List Char) : List Token :=
  if chars.isEmpty then []
  else
    match scanToken? afterOperand chars with
    | none => [.fault (faultAt chars)]
    | some (written, rest) =>
      let rest := skipSpace rest
      if rest.length < chars.length then
        written.expand ++ scanTokens written.endsOperand rest
      else [.fault .noToken]
termination_by chars.length

def tokens (query : String) : List Token :=
  scanTokens false (skipSpace query.toList)

end DocPreview.XPath
