import DocPreview.XPath.Function
import DocPreview.XPath.Syntax

/-!
# Evaluating queries

An expression is evaluated at a place. The operands of `and` and `or` are evaluated from the
left, and only as far as the result needs them. A query is evaluated at the root of a document
and has to select places.
-/

set_option autoImplicit false

namespace DocPreview.XPath

open Xml (Document)

/-- Refuses a name with a prefix: a query declares none. -/
def refuseSpace (name : Name) : Evaluated Unit :=
  match name.space with
  | some space => .error (.unknownSpace space)
  | none => .ok ()

def NodeTest.passes (test : NodeTest) (axis : Axis) (place : Place) : Evaluated Bool :=
  match test with
  | .typed type => .ok (place.isOfType type)
  | .named name => do
    refuseSpace name
    return place.isPrincipal axis && place.isNamed name.localPart

namespace Expr

mutual

def value (expr : Expr) (context : Context) : Evaluated Value :=
  match expr with
  | .literal text => .ok (.string text)
  | .number amount => .ok (.number amount)
  | .variable name => do
    refuseSpace name
    .error (.unknownVariable name)
  | .call name arguments => do
    refuseSpace name
    match Function.named? name.localPart with
    | none => .error (.unknownFunction name)
    | some function =>
      let values ← values arguments context
      function.call context values
  | .root => .ok (.nodes [context.place.top])
  | .here => .ok (.nodes [context.place])
  | .negate operand => do
    let operand ← operand.value context
    return .number (-operand.toNumber)
  | .binary .or left right => do
    let left ← left.value context
    if left.toBool then return .boolean true
    else
      let right ← right.value context
      return .boolean right.toBool
  | .binary .and left right => do
    let left ← left.value context
    if left.toBool then
      let right ← right.value context
      return .boolean right.toBool
    else return .boolean false
  | .binary .union left right => do
    let lefts ← (← left.value context).places?
    let rights ← (← right.value context).places?
    return .nodes (Place.inOrder (lefts ++ rights))
  | .binary operator left right => do
    let left ← left.value context
    let right ← right.value context
    return Value.operate operator left right
  | .step start axis test predicates => do
    let starts ← (← start.value context).places?
    let reached ← starts.mapM fun place => do
      passing predicates (← (place.along axis).filterM (test.passes axis))
    return .nodes (Place.inOrder reached.flatten)
  | .filter nodes predicate => do
    let places ← (← nodes.value context).places?
    let kept ← places.zipIdx.filterM fun (place, index) => do
      let value ← predicate.value ⟨place, index + 1, places.length⟩
      return value.keeps (index + 1)
    return .nodes (kept.map Prod.fst)

def values (exprs : List Expr) (context : Context) : Evaluated (List Value) :=
  match exprs with
  | [] => .ok []
  | expr :: exprs => do
    let first ← expr.value context
    let rest ← values exprs context
    return first :: rest

/-- The places that pass the predicates. Each predicate counts those that passed the ones
before it. -/
def passing (predicates : List Expr) (places : List Place) : Evaluated (List Place) :=
  match predicates with
  | [] => .ok places
  | predicate :: predicates => do
    let kept ← places.zipIdx.filterM fun (place, index) => do
      let value ← predicate.value ⟨place, index + 1, places.length⟩
      return value.keeps (index + 1)
    passing predicates (kept.map Prod.fst)

end

end Expr

inductive QueryFault where
  | syntaxFault (fault : SyntaxFault)
  | evaluationFault (fault : EvaluationFault)
  /-- The value of the query is not places. -/
  | selectsNoNodes

def QueryFault.message : QueryFault → String
  | .syntaxFault fault => fault.message
  | .evaluationFault fault => fault.message
  | .selectsNoNodes => "expression does not select nodes"

/-- The places of a document that a query selects, in document order. -/
def select (document : Document) (query : String) : Except QueryFault (List Place) :=
  match Expr.ofQuery query with
  | .error fault => .error (.syntaxFault fault)
  | .ok expr =>
    match expr.value ⟨.root document, 1, 1⟩ with
    | .error fault => .error (.evaluationFault fault)
    | .ok (.nodes places) => .ok places
    | .ok _ => .error .selectsNoNodes

end DocPreview.XPath
