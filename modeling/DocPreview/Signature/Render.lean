import DocPreview.Declaration.Basic
import DocPreview.Signature.Token
import DocPreview.TypeExpr.Spelling

/-!
# Writing a signature

The signature of a declaration in a dialect: the attributes, each on lines of its own, then what
the kind of the declaration says, then in `csharp` the conditions on type parameters, which
`visualBasic` writes where the parameter stands. `visualBasic` marks every line that goes on in
the next one, and writes nothing for an empty parameter list.

A declaration has no syntax when its kind has none, or when it is marked by the modifier that
only `csharp` can spell.
-/

set_option autoImplicit false

namespace DocPreview

def Visibility.keyword : Visibility → Keyword
  | .publicLevel => .publicWord
  | .privateLevel => .privateWord
  | .protectedLevel => .protectedWord
  | .internalLevel => .internalWord
  | .protectedInternalLevel => .protectedInternalWord

def Conversion.keyword : Conversion → Keyword
  | .implicit => .implicitWord
  | .explicit => .explicitWord

namespace Signature

def unsupported : String :=
  "Syntax generation is not supported for this declaration."

def placeholder : Signature :=
  ⟨[⟨.placeholder, unsupported⟩]⟩

/-! ## Pieces -/

def keyword (dialect : Dialect) (word : Keyword) : List Piece :=
  match word.spelling? dialect with
  | some text => [.word .keyword text]
  | none => []

def keywordIf (dialect : Dialect) (condition : Bool) (word : Keyword) : List Piece :=
  if condition then keyword dialect word else []

def typeName (dialect : Dialect) (type : String) : List Piece :=
  [.word .typeName (dialect.displayType type)]

def identifier (name : String) : List Piece :=
  [.word .identifier name]

/-- A word of the dialect in the place of the declared name. -/
def reservedName (dialect : Dialect) (word : Keyword) : List Piece :=
  match word.spelling? dialect with
  | some text => identifier text
  | none => []

def punctuation (text : String) : List Piece :=
  [.mark .punctuation text]

def space : List Piece :=
  [.mark .space " "]

/-- A mark with a space before it, which also calls for a space after it. -/
def infixMark (text : String) : List Piece :=
  space ++ punctuation text

def lineBreak : List Piece :=
  [.mark .lineBreak "\n"]

def indent : List Piece :=
  [.mark .indent "\t"]

/-- The mark before a line break inside a statement, which only `visualBasic` needs. -/
def continuation : Dialect → List Piece
  | .csharp => []
  | .visualBasic => [.mark .continuation " _"]

/-- The type behind a name, which only `visualBasic` writes there. -/
def asClause (dialect : Dialect) (type : String) : List Piece :=
  match dialect with
  | .csharp => []
  | .visualBasic => keyword dialect .asWord ++ typeName dialect type

def commaSeparated : List (List Piece) → List Piece
  | [] => []
  | [pieces] => pieces
  | pieces :: rest => pieces ++ punctuation "," ++ commaSeparated rest

/-! ## Attributes -/

def attributeArgument (dialect : Dialect) (argument : AttributeArgument) : List Piece :=
  (match argument.key with
    | none => []
    | some key =>
      [.word .literal key] ++
        infixMark (match dialect with | .csharp => "=" | .visualBasic => ":=")) ++
    [.word .literal argument.value]

def attributeBlock (dialect : Dialect) (attr : Attribute) : List Piece :=
  punctuation (match dialect with | .csharp => "[" | .visualBasic => "<") ++
    [.word .reference attr.name] ++
    (if attr.arguments.isEmpty then []
      else punctuation "(" ++
        commaSeparated (attr.arguments.map (attributeArgument dialect)) ++ punctuation ")") ++
    punctuation (match dialect with | .csharp => "]" | .visualBasic => ">") ++
    continuation dialect ++ lineBreak

/-! ## Type parameters and their conditions -/

/-- The characters without the pairs of parentheses that they end with. -/
def dropCallMarks (reversed : List Char) : List Char :=
  match reversed with
  | ')' :: '(' :: rest => dropCallMarks rest
  | _ => reversed

/-- The spelling of a special constraint. Case and trailing parentheses do not matter; a name
that is none of the special words stands as it is, without the blanks around it. -/
def specialWord (dialect : Dialect) (name : String) : String :=
  let bare := (dropCallMarks (Text.trim name.toList).reverse).reverse
  match asciiLower (String.ofList bare), dialect with
  | "class", .csharp => "class"
  | "class", .visualBasic => "Class"
  | "struct", .csharp | "structure", .csharp => "struct"
  | "struct", .visualBasic | "structure", .visualBasic => "Structure"
  | "new", .csharp => "new()"
  | "new", .visualBasic => "New"
  | _, _ => trimmed name

def constraintName (dialect : Dialect) (condition : Constraint) : List Piece :=
  match condition.kind with
  | .namedType => typeName dialect condition.name
  | .specialWord => [.word .keyword (specialWord dialect condition.name)]

def constraintList (dialect : Dialect) (conditions : List Constraint) : List Piece :=
  commaSeparated (conditions.map (constraintName dialect))

/-- The conditions of a type parameter where it stands, which only `visualBasic` writes. More
than one stand in braces. -/
def inlineConstraints (dialect : Dialect) (conditions : List Constraint) : List Piece :=
  match dialect, conditions with
  | .csharp, _ | _, [] => []
  | .visualBasic, [condition] =>
    keyword dialect .asWord ++ constraintName dialect condition
  | .visualBasic, conditions =>
    keyword dialect .asWord ++ space ++ punctuation "\x7b" ++
      constraintList dialect conditions ++ punctuation "\x7d"

def typeParameter (dialect : Dialect) (parameter : TypeParameter) : List Piece :=
  [.word .typeName parameter.name] ++ inlineConstraints dialect parameter.constraints

def typeParameterList (dialect : Dialect) (parameters : List TypeParameter) : List Piece :=
  if parameters.isEmpty then []
  else
    let inner := commaSeparated (parameters.map (typeParameter dialect))
    match dialect with
    | .csharp => punctuation "<" ++ inner ++ punctuation ">"
    | .visualBasic =>
      punctuation "(" ++ keyword dialect .ofWord ++ inner ++ punctuation ")"

/-- The conditions of a type parameter on a line of their own; nothing when there are none. -/
def whereClause (dialect : Dialect) (parameter : TypeParameter) : List Piece :=
  if parameter.constraints.isEmpty then []
  else
    lineBreak ++ keyword dialect .whereWord ++ [.word .typeName parameter.name] ++
      infixMark ":" ++ constraintList dialect parameter.constraints

/-! ## Parameters -/

def passingMode (dialect : Dialect) (parameter : Parameter) : List Piece :=
  if parameter.isOut then keyword dialect .outWord
  else if parameter.isRef then keyword dialect .refWord
  else keyword dialect .byValWord

/-- One parameter: type and name in `csharp`; name, type and default value in `visualBasic`. -/
def parameterPieces (dialect : Dialect) (parameter : Parameter) : List Piece :=
  match dialect with
  | .csharp =>
    passingMode dialect parameter ++
      keywordIf dialect parameter.isParamArray .paramArrayWord ++
      typeName dialect parameter.type ++ [.word .parameter parameter.name]
  | .visualBasic =>
    keywordIf dialect parameter.isOptional .optionalWord ++ passingMode dialect parameter ++
      keywordIf dialect parameter.isParamArray .paramArrayWord ++
      [.word .parameter parameter.name] ++ asClause dialect parameter.type ++
      (if parameter.isOptional then
        infixMark "=" ++ [.word .literal (parameter.defaultValue.getD "Nothing")]
      else [])

/-- The parameters, each on a line of its own, with a comma before each line but the first. -/
def parameterLines (dialect : Dialect) : List Parameter → List Piece
  | [] => []
  | [parameter] => lineBreak ++ indent ++ parameterPieces dialect parameter
  | parameter :: rest =>
    lineBreak ++ indent ++ parameterPieces dialect parameter ++ punctuation "," ++
      continuation dialect ++ parameterLines dialect rest

def parameterList (dialect : Dialect) (opening closing : String)
    (parameters : List Parameter) : List Piece :=
  if parameters.isEmpty then
    match dialect with
    | .csharp => punctuation opening ++ punctuation closing
    | .visualBasic => []
  else
    punctuation opening ++ continuation dialect ++ parameterLines dialect parameters ++
      continuation dialect ++ lineBreak ++ punctuation closing

/-! ## Shared parts of the kinds -/

def visibility (dialect : Dialect) (declaration : Declaration) : List Piece :=
  keyword dialect declaration.visibility.keyword

/-- The visibility of a member, which an interface decides for its own members. -/
def memberVisibility (dialect : Dialect) (declaration : Declaration) : List Piece :=
  if declaration.parentIsInterface then [] else visibility dialect declaration

def memberContract (dialect : Dialect) (modifiers : Modifiers) : List Piece :=
  keywordIf dialect modifiers.isNew .newWord ++
    keywordIf dialect modifiers.isStatic .staticWord ++
    keywordIf dialect modifiers.isAbstract .abstractMemberWord ++
    keywordIf dialect modifiers.isSealed .sealedMemberWord ++
    keywordIf dialect modifiers.isOverride .overrideWord ++
    keywordIf dialect modifiers.isUnsafe .unsafeWord

/-- What stands before the name of a member that may have a result. -/
def resultOrVoid (dialect : Dialect) (type : String) : List Piece :=
  if isVoid type then keyword dialect .voidWord
  else
    match dialect with
    | .csharp => typeName dialect type
    | .visualBasic => keyword dialect .functionWord

/-- The result type behind the parameters, which only `visualBasic` writes there. -/
def resultClause (dialect : Dialect) (type : String) : List Piece :=
  if isVoid type then [] else asClause dialect type

def namedValue (dialect : Dialect) (name type : String) : List Piece :=
  match dialect with
  | .csharp => typeName dialect type ++ identifier name
  | .visualBasic => identifier name ++ asClause dialect type

/-! ## Kinds -/

/-- A class, interface or struct up to its type parameters; `kindWords` are the words for it. -/
def typeDeclaration (dialect : Dialect) (declaration : Declaration)
    (kindWords : List Piece) : List Piece :=
  let shadowing := keywordIf dialect declaration.modifiers.isNew .newWord
  (match dialect with
    | .csharp => shadowing ++ visibility dialect declaration
    | .visualBasic => visibility dialect declaration ++ shadowing) ++
    kindWords ++ identifier declaration.name ++
    typeParameterList dialect declaration.typeParameters

/-- The words for a class. A static class is neither abstract nor sealed to the reader. -/
def classWords (dialect : Dialect) (modifiers : Modifiers) : List Piece :=
  (if modifiers.isStatic then keyword dialect .staticTypeWord
    else
      keywordIf dialect modifiers.isAbstract .abstractTypeWord ++
        keywordIf dialect modifiers.isSealed .sealedTypeWord) ++
    keyword dialect .classWord

def enumeration (dialect : Dialect) (declaration : Declaration)
    (underlyingType : String) : List Piece :=
  visibility dialect declaration ++ keyword dialect .enumWord ++
    identifier declaration.name ++
    (if isBlankText underlyingType then []
      else
        match dialect with
        | .csharp => infixMark ":" ++ typeName dialect underlyingType
        | .visualBasic => asClause dialect underlyingType)

def delegate (dialect : Dialect) (declaration : Declaration) : List Piece :=
  visibility dialect declaration ++ memberContract dialect declaration.modifiers ++
    keyword dialect .delegateWord ++ resultOrVoid dialect declaration.memberType ++
    identifier declaration.name ++ typeParameterList dialect declaration.typeParameters ++
    parameterList dialect "(" ")" declaration.parameters ++
    resultClause dialect declaration.memberType

/-- The name of a constructor in `csharp`: that of its type, unless it has one of its own. -/
def constructorName (declaration : Declaration) : String :=
  if declaration.name.isEmpty || declaration.name.toList.head? == some '.' then
    declaration.parentName?.getD declaration.name
  else declaration.name

/-- A constructor. A static one carries no visibility. -/
def constructor (dialect : Dialect) (declaration : Declaration) : List Piece :=
  (if declaration.modifiers.isStatic then [] else visibility dialect declaration) ++
    memberContract dialect declaration.modifiers ++
    (match dialect with
      | .csharp => identifier (constructorName declaration)
      | .visualBasic => keyword dialect .voidWord ++ keyword dialect .constructorNameWord) ++
    parameterList dialect "(" ")" declaration.parameters

/-- The name of a destructor in `csharp`: that of its type behind a tilde. -/
def destructorName (declaration : Declaration) : String :=
  "~" ++ declaration.parentName?.getD
    (String.ofList (declaration.name.toList.dropWhile (· == '~')))

/-- A destructor, which is a protected override whatever the declaration says. -/
def destructor (dialect : Dialect) (declaration : Declaration) : List Piece :=
  keyword dialect .protectedWord ++ keyword dialect .overrideWord ++
    keyword dialect .voidWord ++
    (match dialect with
      | .csharp => identifier (destructorName declaration)
      | .visualBasic => reservedName dialect .finalizeWord) ++
    parameterList dialect "(" ")" declaration.parameters

def operatorName (dialect : Dialect) (target symbol : String) :
    Option Conversion → List Piece
  | some conversion =>
    keyword dialect conversion.keyword ++ keyword dialect .operatorWord ++
      (match dialect with
        | .csharp => typeName dialect target
        | .visualBasic => reservedName dialect .ctypeWord)
  | none =>
    (match dialect with
      | .csharp => typeName dialect target
      | .visualBasic => []) ++
      keyword dialect .operatorWord ++ identifier (dialect.operatorSymbol symbol)

def operator (dialect : Dialect) (declaration : Declaration) (symbol : String)
    (conversion : Option Conversion) : List Piece :=
  visibility dialect declaration ++ memberContract dialect declaration.modifiers ++
    operatorName dialect declaration.memberType symbol conversion ++
    parameterList dialect "(" ")" declaration.parameters ++
    asClause dialect declaration.memberType

/-- The members that a method implements, which only `visualBasic` names. -/
def implementsClause (dialect : Dialect) (implemented : List String) : List Piece :=
  match dialect, implemented with
  | .csharp, _ | _, [] => []
  | .visualBasic, implemented =>
    keyword dialect .implementsWord ++
      commaSeparated (implemented.map fun name => [.word .reference name])

/-- A method. In `csharp` an explicit implementation carries no visibility. -/
def method (dialect : Dialect) (declaration : Declaration)
    (implemented : List String) : List Piece :=
  (if dialect = .csharp ∧ implemented ≠ [] then []
    else memberVisibility dialect declaration) ++
    memberContract dialect declaration.modifiers ++
    resultOrVoid dialect declaration.memberType ++ identifier declaration.name ++
    typeParameterList dialect declaration.typeParameters ++
    parameterList dialect "(" ")" declaration.parameters ++
    resultClause dialect declaration.memberType ++ implementsClause dialect implemented

def accessorWords (hasGetter hasSetter : Bool) : List Keyword :=
  (if hasGetter then [.getWord] else []) ++ (if hasSetter then [.setWord] else [])

/-- The accessors: in braces in `csharp`, on lines of their own in `visualBasic`. -/
def accessors (dialect : Dialect) (words : List Keyword) : List Piece :=
  match dialect with
  | .csharp =>
    space ++ punctuation "\x7b" ++
      words.flatMap (fun word => space ++ keyword dialect word ++ punctuation ";") ++
      space ++ punctuation "\x7d"
  | .visualBasic => words.flatMap fun word => lineBreak ++ indent ++ keyword dialect word

def property (dialect : Dialect) (declaration : Declaration)
    (hasGetter hasSetter : Bool) : List Piece :=
  let indexed := !declaration.parameters.isEmpty
  (match dialect with
    | .csharp =>
      memberVisibility dialect declaration ++ memberContract dialect declaration.modifiers ++
        typeName dialect declaration.memberType ++
        (if indexed then
          keyword dialect .thisWord ++ parameterList dialect "[" "]" declaration.parameters
        else identifier declaration.name)
    | .visualBasic =>
      keywordIf dialect indexed .defaultWord ++ memberVisibility dialect declaration ++
        memberContract dialect declaration.modifiers ++
        keywordIf dialect (!indexed && hasSetter && !hasGetter) .writeOnlyWord ++
        keywordIf dialect (hasGetter && !hasSetter) .readOnlyWord ++
        keyword dialect .propertyWord ++ identifier declaration.name ++
        (if indexed then parameterList dialect "(" ")" declaration.parameters else []) ++
        asClause dialect declaration.memberType) ++
    accessors dialect (accessorWords hasGetter hasSetter)

/-- The type of an event. One that declares parameters has a handler type of its own. -/
def eventType (declaration : Declaration) : String :=
  if declaration.parameters.isEmpty then declaration.memberType
  else
    let handler := declaration.name ++ "EventHandler"
    match declaration.enclosingType with
    | none | some "" => handler
    | some parent => parent ++ "." ++ handler

def event (dialect : Dialect) (declaration : Declaration) : List Piece :=
  memberVisibility dialect declaration ++ memberContract dialect declaration.modifiers ++
    keyword dialect .eventWord ++
    namedValue dialect declaration.name (eventType declaration)

def field (dialect : Dialect) (declaration : Declaration) : List Piece :=
  let modifiers := declaration.modifiers
  memberVisibility dialect declaration ++ keywordIf dialect modifiers.isNew .newWord ++
    (if modifiers.isConst then keyword dialect .constWord
      else keywordIf dialect modifiers.isStatic .staticWord) ++
    keywordIf dialect modifiers.isUnsafe .unsafeWord ++
    namedValue dialect declaration.name declaration.memberType

/-! ## The whole signature -/

/-- What the kind says, without attributes and trailing conditions; none for a kind that has
no syntax. -/
def body? (dialect : Dialect) (declaration : Declaration) : Option (List Piece) :=
  match declaration.kind with
  | .classType =>
    some (typeDeclaration dialect declaration (classWords dialect declaration.modifiers))
  | .interfaceType =>
    some (typeDeclaration dialect declaration (keyword dialect .interfaceWord))
  | .structType => some (typeDeclaration dialect declaration (keyword dialect .structWord))
  | .enumType underlyingType => some (enumeration dialect declaration underlyingType)
  | .delegate => some (delegate dialect declaration)
  | .constructor => some (constructor dialect declaration)
  | .destructor => some (destructor dialect declaration)
  | .operator symbol conversion => some (operator dialect declaration symbol conversion)
  | .method implemented => some (method dialect declaration implemented)
  | .property hasGetter hasSetter => some (property dialect declaration hasGetter hasSetter)
  | .event => some (event dialect declaration)
  | .field => some (field dialect declaration)
  | .other _ => none

/-- The conditions that stand behind the whole signature, which only `csharp` writes there. -/
def whereClauses (dialect : Dialect) (declaration : Declaration) : List Piece :=
  match dialect with
  | .csharp =>
    if declaration.kind.listsTypeParameters then
      declaration.typeParameters.flatMap (whereClause dialect)
    else []
  | .visualBasic => []

/-- Whether the declaration is marked by a modifier that the dialect cannot spell. -/
def isInexpressible (dialect : Dialect) (declaration : Declaration) : Bool :=
  declaration.modifiers.isUnsafe && (Keyword.unsafeWord.spelling? dialect).isNone

/-- The signature of a declaration. It depends on nothing but the declaration and the dialect. -/
def render (declaration : Declaration) (dialect : Dialect) : Signature :=
  if isInexpressible dialect declaration then placeholder
  else
    match body? dialect declaration with
    | none => placeholder
    | some body =>
      ofPieces (declaration.attributes.flatMap (attributeBlock dialect) ++ body ++
        whereClauses dialect declaration)

end Signature

end DocPreview
