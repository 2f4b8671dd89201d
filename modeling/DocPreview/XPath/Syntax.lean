import DocPreview.XPath.Token

/-!
# XPath expressions

The grammar binds, from the loosest to the tightest: `or`, `and`, equality, order, sums,
products, the unary minus, unions and paths. A rule that does not apply takes nothing as a rule;
only an axis without a node test and empty parentheses are taken and still make nothing.
-/

set_option autoImplicit false

namespace DocPreview.XPath

inductive NodeTest where
  | named (name : Name)
  | typed (type : NodeType)
deriving DecidableEq, Repr

inductive Expr where
  | binary (operator : Operator) (left right : Expr)
  | negate (operand : Expr)
  | literal (text : String)
  | number (value : Float)
  | variable (name : Name)
  | call (name : Name) (arguments : List Expr)
  /-- The root of the document. -/
  | root
  /-- The node that the expression is evaluated at. -/
  | here
  /-- The nodes that a step reaches from the nodes of a path, as far as they pass the
  predicates. -/
  | step (start : Expr) (axis : Axis) (test : NodeTest) (predicates : List Expr)
  /-- The nodes of an expression that pass a predicate. -/
  | filter (nodes : Expr) (predicate : Expr)

inductive SyntaxFault where
  | missingOperand
  | trailingSlash
  | emptyPredicate
  | missingArgument
  | outOfTokens
  | unexpected (token : Token)
  | tokenFault (fault : TokenFault)
  | extraTokens
  /-- The query has no expression. -/
  | noExpression

def SyntaxFault.message : SyntaxFault → String
  | .missingOperand => "Unable to parse XPath: RightHandSideExpressionMissing"
  | .trailingSlash => "Unable to parse XPath: TrailingSlash"
  | .emptyPredicate => "Unable to parse XPath: EmptyPredicate"
  | .missingArgument => "Unable to parse XPath: ArgumentMissing"
  | .outOfTokens => "Unable to parse XPath: RanOutOfInput"
  | .unexpected token => "Unable to parse XPath: unexpected token: " ++ token.text
  | .tokenFault fault => "Unable to parse XPath: tokenizer error: " ++ fault.text
  | .extraTokens => "Unable to parse XPath: ExtraUnparsedTokens"
  | .noExpression => "NoXPath"

/-- What a rule makes of the tokens, with the tokens after it. -/
abbrev Parse (α : Type) : Type :=
  StateT (List Token) (Except SyntaxFault) α

namespace Parse

/-- The next token, which is not taken. -/
def peek : Parse (Option Token) := do
  return (← get).head?

def skip : Parse Unit :=
  modify List.tail

/-- Takes the next token, which has to be the one that `isWanted` accepts. -/
def require (isWanted : Token → Bool) : Parse Unit := do
  match ← peek with
  | none => throw .outOfTokens
  | some (.fault fault) => throw (.tokenFault fault)
  | some token => if isWanted token then skip else throw (.unexpected token)

def isOpenParen : Token → Bool
  | .openParen => true
  | _ => false

def isCloseParen : Token → Bool
  | .closeParen => true
  | _ => false

def isCloseBracket : Token → Bool
  | .closeBracket => true
  | _ => false

/-- The axis that stands here, or the axis of children. -/
def axis : Parse Axis := do
  match ← peek with
  | some (.axis axis) => skip; return axis
  | _ => return .child

def nodeTest? : Parse (Option NodeTest) := do
  match ← peek with
  | some (.nodeType type) => skip; return some (.typed type)
  | some (.nameTest name) => skip; return some (.named name)
  | _ => return none

/-- The operators of the binary levels, the loosest first. -/
def levels : List (List Operator) :=
  [[.or], [.and], [.equal, .notEqual], [.less, .lessOrEqual, .greater, .greaterOrEqual],
   [.plus, .minus], [.times, .divide, .remainder]]

mutual

/-- An expression of the binary levels given and all tighter ones. -/
def binary? : (fuel : Nat) → (levels : List (List Operator)) → Parse (Option Expr)
  | 0, _ => return none
  | fuel + 1, [] => unary? fuel
  | fuel + 1, operators :: tighter => do
    match ← binary? fuel tighter with
    | none => return none
    | some left => operands fuel operators tighter left

/-- The operators of one level with their right operands, grouped to the left. -/
def operands : (fuel : Nat) → List Operator → List (List Operator) → Expr →
    Parse (Option Expr)
  | 0, _, _, left => return some left
  | fuel + 1, operators, tighter, left => do
    match ← peek with
    | some (.operator operator) =>
      if operators.contains operator then
        skip
        match ← binary? fuel tighter with
        | none => throw .missingOperand
        | some right => operands fuel operators tighter (.binary operator left right)
      else return some left
    | _ => return some left

/-- A union, or a minus and its operand. -/
def unary? : (fuel : Nat) → Parse (Option Expr)
  | 0 => return none
  | fuel + 1 => do
    match ← union? fuel with
    | some expr => return some expr
    | none =>
      match ← peek with
      | some (.operator .minus) =>
        skip
        match ← unary? fuel with
        | some operand => return some (.negate operand)
        | none => throw .missingOperand
      | _ => return none

/-- Paths with `|` between them. -/
def union? : (fuel : Nat) → Parse (Option Expr)
  | 0 => return none
  | fuel + 1 => do
    match ← path? fuel with
    | none => return none
    | some left => unions fuel left

/-- The further members of a union, grouped to the left. -/
def unions : (fuel : Nat) → Expr → Parse (Option Expr)
  | 0, left => return some left
  | fuel + 1, left => do
    match ← peek with
    | some (.operator .union) =>
      skip
      match ← path? fuel with
      | none => throw .missingOperand
      | some right => unions fuel (.binary .union left right)
    | _ => return some left

/-- A location path, or a primary expression with predicates and steps. -/
def path? : (fuel : Nat) → Parse (Option Expr)
  | 0 => return none
  | fuel + 1 => do
    match ← steps? fuel .here with
    | some path => return some path
    | none =>
      match ← peek with
      | some .slash =>
        skip
        match ← steps? fuel .root with
        | some path => return some path
        | none => return some .root
      | _ =>
        match ← primary? fuel with
        | none => return none
        | some expr =>
          let filtered := (← predicates fuel).foldl .filter expr
          match ← peek with
          | some .slash =>
            skip
            match ← steps? fuel filtered with
            | some path => return some path
            | none => throw .trailingSlash
          | _ => return some filtered

/-- The steps that stand here, from the given start. -/
def steps? : (fuel : Nat) → Expr → Parse (Option Expr)
  | 0, _ => return none
  | fuel + 1, start => do
    match ← step? fuel start with
    | none => return none
    | some path => furtherSteps fuel path

/-- The further steps of a path, each behind a slash. -/
def furtherSteps : (fuel : Nat) → Expr → Parse (Option Expr)
  | 0, path => return some path
  | fuel + 1, path => do
    match ← peek with
    | some .slash =>
      skip
      match ← step? fuel path with
      | none => throw .trailingSlash
      | some path => furtherSteps fuel path
    | _ => return some path

def step? : (fuel : Nat) → Expr → Parse (Option Expr)
  | 0, _ => return none
  | fuel + 1, start => do
    let axis ← axis
    match ← nodeTest? with
    | none => return none
    | some test => return some (.step start axis test (← predicates fuel))

def predicates : (fuel : Nat) → Parse (List Expr)
  | 0 => return []
  | fuel + 1 => do
    match ← peek with
    | some .openBracket =>
      skip
      match ← binary? fuel levels with
      | none => throw .emptyPredicate
      | some predicate =>
        require isCloseBracket
        return predicate :: (← predicates fuel)
    | _ => return []

/-- An expression in parentheses; nothing when they are empty. -/
def nested? : (fuel : Nat) → Parse (Option Expr)
  | 0 => return none
  | fuel + 1 => do
    match ← peek with
    | some .openParen =>
      skip
      let expr ← binary? fuel levels
      require isCloseParen
      return expr
    | _ => return none

/-- A variable, an expression in parentheses, a literal, a number or a function call. -/
def primary? : (fuel : Nat) → Parse (Option Expr)
  | 0 => return none
  | fuel + 1 => do
    match ← peek with
    | some (.variable name) => skip; return some (.variable name)
    | _ =>
      match ← nested? fuel with
      | some expr => return some expr
      | none =>
        match ← peek with
        | some (.literal text) => skip; return some (.literal text)
        | some (.number value) => skip; return some (.number value)
        | some (.function name) =>
          skip
          require isOpenParen
          return some (.call name (← arguments fuel))
        | _ => return none

def arguments : (fuel : Nat) → Parse (List Expr)
  | 0 => return []
  | fuel + 1 => do
    match ← binary? fuel levels with
    | none => require isCloseParen; return []
    | some first => return first :: (← furtherArguments fuel)

def furtherArguments : (fuel : Nat) → Parse (List Expr)
  | 0 => return []
  | fuel + 1 => do
    match ← peek with
    | some .comma =>
      skip
      match ← binary? fuel levels with
      | none => throw .missingArgument
      | some argument => return argument :: (← furtherArguments fuel)
    | _ => require isCloseParen; return []

end

end Parse

/-- The expression of a query. Between two tokens that are taken, fewer than sixteen rules are
entered. -/
def Expr.ofQuery (query : String) : Except SyntaxFault Expr :=
  let tokens := tokens query
  match (Parse.binary? (16 * (tokens.length + 2)) Parse.levels).run tokens with
  | .error fault => .error fault
  | .ok (some expr, []) => .ok expr
  | .ok (none, []) => .error .noExpression
  | .ok (_, _ :: _) => .error .extraTokens

end DocPreview.XPath
