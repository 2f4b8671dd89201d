import DocPreview.Declaration.Basic
import DocPreview.Json.Basic

/-!
# Declarations as JSON

Every field may be missing, apart from the name of a constraint. Fields that a declaration does
not know are passed over, whatever their value. The payload fields of all kinds are checked,
also those of the kinds that the declaration is not of, and then only its own are kept. Only
the fields that stand for an optional value accept `null`. Every record may also come as an array
of the values alone.
-/

set_option autoImplicit false

namespace DocPreview

open Json

def Visibility.names : List (String × Visibility) :=
  [("public", .publicLevel), ("private", .privateLevel), ("protected", .protectedLevel),
   ("internal", .internalLevel), ("protected_internal", .protectedInternalLevel)]

def Visibility.wireName : Visibility → String
  | .publicLevel => "public"
  | .privateLevel => "private"
  | .protectedLevel => "protected"
  | .internalLevel => "internal"
  | .protectedInternalLevel => "protected_internal"

def Visibility.ofJson? (value : Json) : Option Visibility :=
  value.choice? Visibility.names

def Conversion.wireName : Conversion → String
  | .implicit => "implicit"
  | .explicit => "explicit"

def Conversion.ofJson? (value : Json) : Option Conversion :=
  value.choice? [("implicit", .implicit), ("explicit", .explicit)]

def ConstraintKind.wireName : ConstraintKind → String
  | .namedType => "named_type"
  | .specialWord => "special_keyword"

def ConstraintKind.ofJson? (value : Json) : Option ConstraintKind :=
  value.choice? [("named_type", .namedType), ("special_keyword", .specialWord)]

def MemberKind.wireName : MemberKind → String
  | .constructor => "constructor"
  | .method => "method"
  | .property => "property"
  | .event => "event"
  | .field => "field"
  | .operator => "operator"

def MemberKind.ofJson? (value : Json) : Option MemberKind :=
  value.choice?
    [("constructor", .constructor), ("method", .method), ("property", .property),
     ("event", .event), ("field", .field), ("operator", .operator)]

def Modifiers.ofJson? (value : Json) : Option Modifiers := do
  let fields ←
    value.record?
      ["is_new", "is_static", "is_abstract", "is_sealed", "is_override", "is_const", "is_unsafe"]
  return {
    isNew := ← field? "is_new" false bool? fields
    isStatic := ← field? "is_static" false bool? fields
    isAbstract := ← field? "is_abstract" false bool? fields
    isSealed := ← field? "is_sealed" false bool? fields
    isOverride := ← field? "is_override" false bool? fields
    isConst := ← field? "is_const" false bool? fields
    isUnsafe := ← field? "is_unsafe" false bool? fields }

def Modifiers.toJson (modifiers : Modifiers) : Json :=
  .object [
    ("is_new", .bool modifiers.isNew),
    ("is_static", .bool modifiers.isStatic),
    ("is_abstract", .bool modifiers.isAbstract),
    ("is_sealed", .bool modifiers.isSealed),
    ("is_override", .bool modifiers.isOverride),
    ("is_const", .bool modifiers.isConst),
    ("is_unsafe", .bool modifiers.isUnsafe)]

def Constraint.ofJson? (value : Json) : Option Constraint := do
  let fields ← value.record? ["kind", "name"]
  return {
    kind := ← field? "kind" .namedType ConstraintKind.ofJson? fields
    name := ← required? "name" text? fields }

def Constraint.toJson (condition : Constraint) : Json :=
  .object [("kind", .string condition.kind.wireName), ("name", .string condition.name)]

def TypeParameter.ofJson? (value : Json) : Option TypeParameter := do
  let fields ← value.record? ["name", "constraints"]
  return {
    name := ← field? "name" "" text? fields
    constraints := ← field? "constraints" [] (list? Constraint.ofJson?) fields }

def TypeParameter.toJson (parameter : TypeParameter) : Json :=
  .object [
    ("name", .string parameter.name),
    ("constraints", .array (parameter.constraints.map Constraint.toJson))]

def Parameter.ofJson? (value : Json) : Option Parameter := do
  let fields ←
    value.record?
      ["name", "type", "is_out", "is_ref", "is_param_array", "is_optional", "default_value"]
  return {
    name := ← field? "name" "" text? fields
    type := ← field? "type" "" text? fields
    isOut := ← field? "is_out" false bool? fields
    isRef := ← field? "is_ref" false bool? fields
    isParamArray := ← field? "is_param_array" false bool? fields
    isOptional := ← field? "is_optional" false bool? fields
    defaultValue := ← field? "default_value" none (optional? text?) fields }

def Parameter.toJson (parameter : Parameter) : Json :=
  .object [
    ("name", .string parameter.name),
    ("type", .string parameter.type),
    ("is_out", .bool parameter.isOut),
    ("is_ref", .bool parameter.isRef),
    ("is_param_array", .bool parameter.isParamArray),
    ("is_optional", .bool parameter.isOptional),
    ("default_value", ofOption? parameter.defaultValue)]

def AttributeArgument.ofJson? (value : Json) : Option AttributeArgument := do
  let fields ← value.record? ["key", "value"]
  return {
    key := ← field? "key" none (optional? text?) fields
    value := ← field? "value" "" text? fields }

def AttributeArgument.toJson (argument : AttributeArgument) : Json :=
  .object [("key", ofOption? argument.key), ("value", .string argument.value)]

def Attribute.ofJson? (value : Json) : Option Attribute := do
  let fields ← value.record? ["name", "arguments"]
  return {
    name := ← field? "name" "" text? fields
    arguments := ← field? "arguments" [] (list? AttributeArgument.ofJson?) fields }

def Attribute.toJson (attr : Attribute) : Json :=
  .object [
    ("name", .string attr.name),
    ("arguments", .array (attr.arguments.map AttributeArgument.toJson))]

def MemberSummary.ofJson? (value : Json) : Option MemberSummary := do
  let fields ← value.record? ["name", "kind", "visibility", "is_static", "summary"]
  return {
    name := ← field? "name" "" text? fields
    kind := ← field? "kind" .method MemberKind.ofJson? fields
    visibility := ← field? "visibility" .privateLevel Visibility.ofJson? fields
    isStatic := ← field? "is_static" false bool? fields
    summary := ← field? "summary" "" text? fields }

def MemberSummary.toJson (member : MemberSummary) : Json :=
  .object [
    ("name", .string member.name),
    ("kind", .string member.kind.wireName),
    ("visibility", .string member.visibility.wireName),
    ("is_static", .bool member.isStatic),
    ("summary", .string member.summary)]

/-- The payload fields of every kind, as they stand beside the common fields. -/
structure KindPayload where
  underlyingType : String
  symbol : String
  conversion : Option Conversion
  implemented : List String
  hasGetter : Bool
  hasSetter : Bool
  description : String

def KindPayload.ofFields? (fields : List (String × Json)) : Option KindPayload := do
  return {
    underlyingType := ← field? "underlying_type" "" text? fields
    symbol := ← field? "symbol" "" text? fields
    conversion := ← field? "conversion" none (optional? Conversion.ofJson?) fields
    implemented := ← field? "implements" [] (list? text?) fields
    hasGetter := ← field? "has_getter" false bool? fields
    hasSetter := ← field? "has_setter" false bool? fields
    description := ← field? "description" "" text? fields }

/-- The names of the kinds, each with the kind that it makes of a payload. -/
def DeclarationKind.names : List (String × (KindPayload → DeclarationKind)) :=
  [("class", fun _ => .classType),
   ("interface", fun _ => .interfaceType),
   ("struct", fun _ => .structType),
   ("enum", fun payload => .enumType payload.underlyingType),
   ("delegate", fun _ => .delegate),
   ("constructor", fun _ => .constructor),
   ("destructor", fun _ => .destructor),
   ("operator", fun payload => .operator payload.symbol payload.conversion),
   ("method", fun payload => .method payload.implemented),
   ("property", fun payload => .property payload.hasGetter payload.hasSetter),
   ("event", fun _ => .event),
   ("field", fun _ => .field),
   ("other", fun payload => .other payload.description)]

/-- The name of a kind and its own payload fields. -/
def DeclarationKind.toFields : DeclarationKind → List (String × Json)
  | .classType => [("kind", .string "class")]
  | .interfaceType => [("kind", .string "interface")]
  | .structType => [("kind", .string "struct")]
  | .enumType underlyingType =>
    [("kind", .string "enum"), ("underlying_type", .string underlyingType)]
  | .delegate => [("kind", .string "delegate")]
  | .constructor => [("kind", .string "constructor")]
  | .destructor => [("kind", .string "destructor")]
  | .operator symbol conversion =>
    [("kind", .string "operator"), ("symbol", .string symbol),
     ("conversion", ofOption? (conversion.map Conversion.wireName))]
  | .method implemented => [("kind", .string "method"), ("implements", texts implemented)]
  | .property hasGetter hasSetter =>
    [("kind", .string "property"), ("has_getter", .bool hasGetter),
     ("has_setter", .bool hasSetter)]
  | .event => [("kind", .string "event")]
  | .field => [("kind", .string "field")]
  | .other description => [("kind", .string "other"), ("description", .string description)]

namespace Declaration

/-- The fields of a declaration in the order of an array: the common ones, then the payload. -/
def fieldNames : List String :=
  ["name", "kind", "visibility", "modifiers", "member_type", "type_parameters", "parameters",
   "attributes", "parent_is_interface", "enclosing_type", "namespace", "members",
   "underlying_type", "symbol", "conversion", "implements", "has_getter", "has_setter",
   "description"]

def ofJson? (value : Json) : Option Declaration := do
  let fields ← value.record? fieldNames
  let makeKind ←
    field? "kind" (fun _ => .classType) (fun kind => kind.choice? DeclarationKind.names) fields
  let payload ← KindPayload.ofFields? fields
  return {
    name := ← field? "name" "" text? fields
    kind := makeKind payload
    visibility := ← field? "visibility" .privateLevel Visibility.ofJson? fields
    modifiers := ← field? "modifiers" {} Modifiers.ofJson? fields
    memberType := ← field? "member_type" "" text? fields
    typeParameters := ← field? "type_parameters" [] (list? TypeParameter.ofJson?) fields
    parameters := ← field? "parameters" [] (list? Parameter.ofJson?) fields
    attributes := ← field? "attributes" [] (list? Attribute.ofJson?) fields
    parentIsInterface := ← field? "parent_is_interface" false bool? fields
    enclosingType := ← field? "enclosing_type" none (optional? text?) fields
    scope := ← field? "namespace" none (optional? text?) fields
    members := ← field? "members" [] (list? MemberSummary.ofJson?) fields }

/-- The value that describes a declaration: all common fields, and the payload of its kind. -/
def toJson (declaration : Declaration) : Json :=
  .object (
    [("name", .string declaration.name)] ++ declaration.kind.toFields ++
    [("visibility", .string declaration.visibility.wireName),
     ("modifiers", declaration.modifiers.toJson),
     ("member_type", .string declaration.memberType),
     ("type_parameters", .array (declaration.typeParameters.map TypeParameter.toJson)),
     ("parameters", .array (declaration.parameters.map Parameter.toJson)),
     ("attributes", .array (declaration.attributes.map Attribute.toJson)),
     ("parent_is_interface", .bool declaration.parentIsInterface),
     ("enclosing_type", ofOption? declaration.enclosingType),
     ("namespace", ofOption? declaration.scope),
     ("members", .array (declaration.members.map MemberSummary.toJson))])

end Declaration

end DocPreview
