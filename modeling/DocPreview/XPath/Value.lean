import DocPreview.XPath.Place

/-!
# Values of expressions

An expression has a truth value, a number, a text or a list of places. Each kind converts to the
others but places, which no other kind becomes; of several places the first one counts.
-/

set_option autoImplicit false

namespace DocPreview.XPath

inductive Value where
  | boolean (holds : Bool)
  | number (number : Float)
  | string (text : String)
  /-- Places in document order, each once. -/
  | nodes (places : List Place)

inductive EvaluationFault where
  /-- A path, a filter or a union over something else than places. -/
  | notNodes
  | unknownFunction (name : Name)
  | unknownVariable (name : Name)
  | unknownSpace (space : String)
  | notEnoughArguments (expected actual : Nat)
  | tooManyArguments (expected actual : Nat)
  /-- An argument that has to be places and is of another kind. -/
  | notNodesArgument (kind : String)

def EvaluationFault.message (fault : EvaluationFault) : String :=
  "Unable to execute XPath: " ++
  match fault with
  | .notNodes => "NotANodeset"
  | .unknownFunction name => "unknown function " ++ Token.nameText "OwnedPrefixedName" name
  | .unknownVariable name => "unknown variable " ++ Token.nameText "OwnedPrefixedName" name
  | .unknownSpace space => "unknown namespace prefix " ++ space
  | .notEnoughArguments expected actual =>
    inFunction ++ "not enough arguments, expected " ++ Nat.repr expected ++ " but had " ++
      Nat.repr actual
  | .tooManyArguments expected actual =>
    inFunction ++ "too many arguments, expected " ++ Nat.repr expected ++ " but had " ++
      Nat.repr actual
  | .notNodesArgument kind =>
    inFunction ++ "argument was expected to be a nodeset but was a " ++ kind
where
  inFunction : String := "error while evaluating function: "

abbrev Evaluated (α : Type) : Type :=
  Except EvaluationFault α

def readNumber (text : String) : Float :=
  (Number.ofText? (trimmed text)).getD (0.0 / 0.0)

def numberText (number : Float) : String :=
  if number.isNaN then "NaN"
  else if number.isInf then Number.signed number "Infinity"
  else Number.plainText number

namespace Value

/-- The places that a path starts from. -/
def places? : Value → Evaluated (List Place)
  | .nodes places => .ok places
  | _ => .error .notNodes

/-- The places that a function is called with. -/
def argumentPlaces? : Value → Evaluated (List Place)
  | .nodes places => .ok places
  | .boolean _ => .error (.notNodesArgument "Boolean")
  | .number _ => .error (.notNodesArgument "Number")
  | .string _ => .error (.notNodesArgument "String")

def firstText (places : List Place) : String :=
  (places.head?.map Place.text).getD ""

def toText : Value → String
  | .boolean holds => if holds then "true" else "false"
  | .number amount => numberText amount
  | .string text => text
  | .nodes places => firstText places

def toNumber : Value → Float
  | .boolean holds => if holds then 1.0 else 0.0
  | .number amount => amount
  | .string text => readNumber text
  | .nodes places => readNumber (firstText places)

def toBool : Value → Bool
  | .boolean holds => holds
  | .number amount => !(amount == 0.0) && !amount.isNaN
  | .string text => !text.isEmpty
  | .nodes places => !places.isEmpty

/-- The rank of a kind of value; two values are compared as values of the higher kind. -/
def rank : Value → Nat
  | .boolean _ => 2
  | .number _ => 1
  | .string _ | .nodes _ => 0

def equalAs (left right : Value) : Bool :=
  match max left.rank right.rank with
  | 2 => left.toBool == right.toBool
  | 1 => left.toNumber == right.toNumber
  | _ => left.toText == right.toText

/-- Whether two values are equal. Places are equal to what one of them is equal to; only a truth
value is compared with all of them. -/
def equal (left right : Value) : Bool :=
  match left, right with
  | .nodes lefts, .nodes rights =>
    lefts.any fun left => rights.any fun right => left.text == right.text
  | .nodes places, .boolean holds => !places.isEmpty == holds
  | .boolean holds, .nodes places => !places.isEmpty == holds
  | .nodes places, other => places.any fun place => (Value.string place.text).equalAs other
  | other, .nodes places => places.any fun place => (Value.string place.text).equalAs other
  | left, right => left.equalAs right

/-- Whether a predicate of this value keeps the place at a position: a number has to be the
position, as far as it is whole. -/
def keeps (position : Nat) : Value → Bool
  | .number amount => amount.toUInt64.toNat == position
  | value => value.toBool

def operate (operator : Operator) (left right : Value) : Value :=
  match operator with
  | .or => .boolean (left.toBool || right.toBool)
  | .and => .boolean (left.toBool && right.toBool)
  | .equal => .boolean (left.equal right)
  | .notEqual => .boolean !(left.equal right)
  | .less => .boolean (left.toNumber < right.toNumber)
  | .lessOrEqual => .boolean (left.toNumber ≤ right.toNumber)
  | .greater => .boolean (right.toNumber < left.toNumber)
  | .greaterOrEqual => .boolean (right.toNumber ≤ left.toNumber)
  | .plus => .number (left.toNumber + right.toNumber)
  | .minus => .number (left.toNumber - right.toNumber)
  | .times => .number (left.toNumber * right.toNumber)
  | .divide => .number (left.toNumber / right.toNumber)
  | .remainder => .number (Number.remainder left.toNumber right.toNumber)
  | .union => .nodes []

end Value

end DocPreview.XPath
