import DocPreview.Declaration.Json
import DocPreview.Proofs.Json.Restating

/-!
# Declarations from their JSON

A declaration is read back from the value that describes it, in whatever order the fields stand,
among fields that a declaration does not know and beside payload fields of other kinds. Two facts
make this up. Every reader takes the same from values that say the same, and it takes from the
value that was written what was there to write. An array of the values alone is read back too.
-/

set_option autoImplicit false

namespace DocPreview

open Json (Shape valuesOf text? bool? optional? list? field?)

/-! ## Values that say the same -/

def Modifiers.shape : Shape :=
  .ofFields [("is_new", .plain), ("is_static", .plain), ("is_abstract", .plain),
    ("is_sealed", .plain), ("is_override", .plain), ("is_const", .plain), ("is_unsafe", .plain)]

def Constraint.shape : Shape :=
  .ofFields [("kind", .plain), ("name", .plain)]

def TypeParameter.shape : Shape :=
  .ofFields [("name", .plain), ("constraints", .list Constraint.shape)]

def Parameter.shape : Shape :=
  .ofFields [("name", .plain), ("type", .plain), ("is_out", .plain), ("is_ref", .plain),
    ("is_param_array", .plain), ("is_optional", .plain), ("default_value", .plain)]

def AttributeArgument.shape : Shape :=
  .ofFields [("key", .plain), ("value", .plain)]

def Attribute.shape : Shape :=
  .ofFields [("name", .plain), ("arguments", .list AttributeArgument.shape)]

def MemberSummary.shape : Shape :=
  .ofFields [("name", .plain), ("kind", .plain), ("visibility", .plain), ("is_static", .plain),
    ("summary", .plain)]

/-- A declaration knows the common fields and the payload fields of all kinds. -/
def Declaration.shape : Shape :=
  .ofFields [("name", .plain), ("kind", .plain), ("visibility", .plain),
    ("modifiers", Modifiers.shape), ("member_type", .plain),
    ("type_parameters", .list TypeParameter.shape), ("parameters", .list Parameter.shape),
    ("attributes", .list Attribute.shape), ("parent_is_interface", .plain),
    ("enclosing_type", .plain), ("namespace", .plain), ("members", .list MemberSummary.shape),
    ("underlying_type", .plain), ("symbol", .plain), ("conversion", .plain),
    ("implements", .plain), ("has_getter", .plain), ("has_setter", .plain),
    ("description", .plain)]

@[simp]
theorem Modifiers.respects_shape : Shape.Respects Modifiers.ofJson? shape := by
  intro value other restates
  obtain ⟨fields, others, rfl, rfl, restates⟩ := Shape.exists_of_restates restates
  simp [ofJson?, Json.record?, Shape.field?_of_restates restates, List.lookup_cons]

@[simp]
theorem Constraint.respects_shape : Shape.Respects Constraint.ofJson? shape := by
  intro value other restates
  obtain ⟨fields, others, rfl, rfl, restates⟩ := Shape.exists_of_restates restates
  simp [ofJson?, Json.record?, Shape.field?_of_restates restates,
    Shape.required?_of_restates restates, List.lookup_cons]

@[simp]
theorem TypeParameter.respects_shape : Shape.Respects TypeParameter.ofJson? shape := by
  intro value other restates
  obtain ⟨fields, others, rfl, rfl, restates⟩ := Shape.exists_of_restates restates
  simp [ofJson?, Json.record?, Shape.field?_of_restates restates, List.lookup_cons]

@[simp]
theorem Parameter.respects_shape : Shape.Respects Parameter.ofJson? shape := by
  intro value other restates
  obtain ⟨fields, others, rfl, rfl, restates⟩ := Shape.exists_of_restates restates
  simp [ofJson?, Json.record?, Shape.field?_of_restates restates, List.lookup_cons]

@[simp]
theorem AttributeArgument.respects_shape : Shape.Respects AttributeArgument.ofJson? shape := by
  intro value other restates
  obtain ⟨fields, others, rfl, rfl, restates⟩ := Shape.exists_of_restates restates
  simp [ofJson?, Json.record?, Shape.field?_of_restates restates, List.lookup_cons]

@[simp]
theorem Attribute.respects_shape : Shape.Respects Attribute.ofJson? shape := by
  intro value other restates
  obtain ⟨fields, others, rfl, rfl, restates⟩ := Shape.exists_of_restates restates
  simp [ofJson?, Json.record?, Shape.field?_of_restates restates, List.lookup_cons]

@[simp]
theorem MemberSummary.respects_shape : Shape.Respects MemberSummary.ofJson? shape := by
  intro value other restates
  obtain ⟨fields, others, rfl, rfl, restates⟩ := Shape.exists_of_restates restates
  simp [ofJson?, Json.record?, Shape.field?_of_restates restates, List.lookup_cons]

theorem Declaration.respects_shape : Shape.Respects Declaration.ofJson? shape := by
  intro value other restates
  obtain ⟨fields, others, rfl, rfl, restates⟩ := Shape.exists_of_restates restates
  rw [ofJson?, ofJson?, Json.record?, Option.bind_eq_bind, Option.bind_some, Json.record?,
    Option.bind_eq_bind, Option.bind_some]
  simp only [KindPayload.ofFields?, List.map_cons, List.map_nil, List.mem_cons, String.reduceEq,
    List.not_mem_nil, or_self, or_false, or_true, List.lookup_cons, String.reduceBEq, BEq.rfl,
    Option.getD_some, Shape.respects_plain, Shape.field?_of_restates restates,
    Modifiers.respects_shape, TypeParameter.respects_shape, Shape.respects_list,
    Parameter.respects_shape, Attribute.respects_shape, MemberSummary.respects_shape]

/-! ## What was written -/

@[simp]
theorem Visibility.ofJson?_wireName (visibility : Visibility) :
    Visibility.ofJson? (.string visibility.wireName) = some visibility := by
  cases visibility <;> decide

@[simp]
theorem ConstraintKind.ofJson?_wireName (kind : ConstraintKind) :
    ConstraintKind.ofJson? (.string kind.wireName) = some kind := by
  cases kind <;> decide

@[simp]
theorem MemberKind.ofJson?_wireName (kind : MemberKind) :
    MemberKind.ofJson? (.string kind.wireName) = some kind := by
  cases kind <;> decide

@[simp]
theorem Conversion.ofJson?_wireName (conversion : Conversion) :
    Conversion.ofJson? (.string conversion.wireName) = some conversion := by
  cases conversion <;> decide

@[simp]
theorem optional?_ofOption? (text : Option String) :
    optional? text? (Json.ofOption? text) = some text := by
  cases text <;> rfl

@[simp]
theorem optional?_conversion (conversion : Option Conversion) :
    optional? Conversion.ofJson? (Json.ofOption? (conversion.map Conversion.wireName)) =
      some conversion := by
  cases conversion with
  | none => rfl
  | some conversion => exact congrArg (Option.map some) conversion.ofJson?_wireName

theorem list?_map {α : Type} {read : Json → Option α} {write : α → Json}
    (reads : ∀ value, read (write value) = some value) (values : List α) :
    list? read (.array (values.map write)) = some values := by
  rw [list?]
  induction values with
  | nil => rfl
  | cons value values ih => simp [reads, ih]

@[simp]
theorem Modifiers.ofJson?_toJson (modifiers : Modifiers) :
    ofJson? modifiers.toJson = some modifiers := by
  rfl

@[simp]
theorem Constraint.ofJson?_toJson (condition : Constraint) :
    ofJson? condition.toJson = some condition := by
  simp [ofJson?, toJson, Json.record?, field?, Json.required?, valuesOf, text?]

@[simp]
theorem TypeParameter.ofJson?_toJson (parameter : TypeParameter) :
    ofJson? parameter.toJson = some parameter := by
  simp [ofJson?, toJson, Json.record?, field?, valuesOf, text?, list?_map]

@[simp]
theorem Parameter.ofJson?_toJson (parameter : Parameter) :
    ofJson? parameter.toJson = some parameter := by
  simp [ofJson?, toJson, Json.record?, field?, valuesOf, text?, bool?]

@[simp]
theorem AttributeArgument.ofJson?_toJson (argument : AttributeArgument) :
    ofJson? argument.toJson = some argument := by
  simp [ofJson?, toJson, Json.record?, field?, valuesOf, text?]

@[simp]
theorem Attribute.ofJson?_toJson (attr : Attribute) : ofJson? attr.toJson = some attr := by
  simp [ofJson?, toJson, Json.record?, field?, valuesOf, text?, list?_map]

@[simp]
theorem MemberSummary.ofJson?_toJson (member : MemberSummary) :
    ofJson? member.toJson = some member := by
  simp [ofJson?, toJson, Json.record?, field?, valuesOf, text?, bool?]

/-! ## The payload -/

def KindPayload.toFields (payload : KindPayload) : List (String × Json) :=
  [("underlying_type", .string payload.underlyingType), ("symbol", .string payload.symbol),
   ("conversion", Json.ofOption? (payload.conversion.map Conversion.wireName)),
   ("implements", Json.texts payload.implemented), ("has_getter", .bool payload.hasGetter),
   ("has_setter", .bool payload.hasSetter), ("description", .string payload.description)]

def KindPayload.names : List String :=
  ["underlying_type", "symbol", "conversion", "implements", "has_getter", "has_setter",
    "description"]

/-- A payload field with a value of the type that it has in its own kind. -/
def KindPayload.IsField (field : String × Json) : Prop :=
  ∃ payload : KindPayload, field ∈ payload.toFields

def DeclarationKind.payloadFields (kind : DeclarationKind) : List (String × Json) :=
  kind.toFields.tail

/-- The payload that a kind has, and nothing for the other kinds. -/
def DeclarationKind.payload (kind : DeclarationKind) : KindPayload :=
  let nothing : KindPayload := ⟨"", "", none, [], false, false, ""⟩
  match kind with
  | .enumType underlyingType => { nothing with underlyingType }
  | .operator symbol conversion => { nothing with symbol, conversion }
  | .method implemented => { nothing with implemented }
  | .property hasGetter hasSetter => { nothing with hasGetter, hasSetter }
  | .other description => { nothing with description }
  | _ => nothing

theorem DeclarationKind.payloadFields_subset (kind : DeclarationKind) :
    kind.payloadFields ⊆ kind.payload.toFields := by
  cases kind <;> simp [payloadFields, toFields, KindPayload.toFields, payload]

theorem DeclarationKind.isField_of_mem (kind : DeclarationKind) :
    ∀ field ∈ kind.payloadFields, KindPayload.IsField field :=
  fun _ member => ⟨kind.payload, kind.payloadFields_subset member⟩

@[simp]
theorem ofOption?_wireName_inj {first second : Option Conversion} :
    Json.ofOption? (first.map Conversion.wireName) =
      Json.ofOption? (second.map Conversion.wireName) ↔ first = second := by
  refine ⟨fun same => ?_, fun same => same ▸ rfl⟩
  simpa using congrArg (optional? Conversion.ofJson?) same

@[simp]
theorem texts_inj {first second : List String} :
    Json.texts first = Json.texts second ↔ first = second := by
  simp [Json.texts, List.map_inj_right]

/-- The name of a kind makes that kind of every payload with its fields. -/
theorem DeclarationKind.exists_make (kind : DeclarationKind) :
    ∃ make, (∀ default, field? "kind" default (fun kind => kind.choice? names) kind.toFields =
        some make) ∧
      ∀ payload : KindPayload, kind.payloadFields ⊆ payload.toFields → make payload = kind := by
  cases kind <;> refine ⟨_, fun _ => rfl, fun payload own => ?_⟩ <;>
    simp [payloadFields, toFields, KindPayload.toFields] at own ⊢ <;> simp [own]

namespace KindPayload

section

variable {fields given : List (String × Json)}
  (same : ∀ name ∈ names, valuesOf name fields = valuesOf name given)
  (distinct : (given.map Prod.fst).Nodup) (typed : ∀ field ∈ given, IsField field)

include same distinct typed

/-- A part of the payload is read from where it was written, and otherwise has some value. -/
theorem exists_field? {α : Type} (name : String) (part : KindPayload → α) (write : α → Json)
    (read : Json → Option α) (default : α) (known : name ∈ names)
    (reads : ∀ content, read (write content) = some content)
    (stands : ∀ payload value, (name, value) ∈ toFields payload → value = write (part payload)) :
    ∃ content, field? name default read fields = some content ∧
      ∀ value, (name, value) ∈ given → value = write content := by
  by_cases found : ∃ value, (name, value) ∈ given
  · obtain ⟨value, member⟩ := found
    have only := Json.valuesOf_eq_singleton distinct member
    obtain ⟨payload, own⟩ := typed _ member
    obtain rfl := stands payload value own
    refine ⟨part payload, by rw [field?, same name known, only]; exact reads _, ?_⟩
    intro value other
    have only' := Json.valuesOf_eq_singleton distinct other
    simpa [only] using only'.symm
  · have none : valuesOf name given = [] :=
      Json.valuesOf_eq_nil (by rintro ⟨_, value⟩ member rfl; exact found ⟨value, member⟩)
    refine ⟨default, by rw [field?, same name known, none], fun value member => ?_⟩
    exact absurd ⟨value, member⟩ found

/-- A payload is read from fields of any kinds, and it has each of them. -/
theorem exists_ofFields? : ∃ payload, ofFields? fields = some payload ∧
    given ⊆ payload.toFields := by
  obtain ⟨underlyingType, readsType, ownType⟩ := exists_field? same distinct typed
    "underlying_type" underlyingType .string text? "" (by decide) (fun _ => rfl)
    (by simp [toFields])
  obtain ⟨symbol, readsSymbol, ownSymbol⟩ := exists_field? same distinct typed
    "symbol" symbol .string text? "" (by decide) (fun _ => rfl) (by simp [toFields])
  obtain ⟨conversion, readsConversion, ownConversion⟩ := exists_field? same distinct typed
    "conversion" conversion (Json.ofOption? <| ·.map Conversion.wireName)
    (optional? Conversion.ofJson?) none (by decide) optional?_conversion (by simp [toFields])
  obtain ⟨implemented, readsImplemented, ownImplemented⟩ := exists_field? same distinct typed
    "implements" implemented Json.texts (list? text?) [] (by decide)
    (list?_map fun _ => rfl) (by simp [toFields])
  obtain ⟨hasGetter, readsGetter, ownGetter⟩ := exists_field? same distinct typed
    "has_getter" hasGetter .bool bool? false (by decide) (fun _ => rfl) (by simp [toFields])
  obtain ⟨hasSetter, readsSetter, ownSetter⟩ := exists_field? same distinct typed
    "has_setter" hasSetter .bool bool? false (by decide) (fun _ => rfl) (by simp [toFields])
  obtain ⟨description, readsDescription, ownDescription⟩ := exists_field? same distinct typed
    "description" description .string text? "" (by decide) (fun _ => rfl) (by simp [toFields])
  refine ⟨⟨underlyingType, symbol, conversion, implemented, hasGetter, hasSetter, description⟩,
    ?_, ?_⟩
  · simp [ofFields?, readsType, readsSymbol, readsConversion, readsImplemented, readsGetter,
      readsSetter, readsDescription]
  · rintro ⟨name, value⟩ member
    obtain ⟨payload, own⟩ := typed _ member
    simp only [toFields, List.mem_cons, Prod.mk.injEq, List.not_mem_nil, or_false] at own ⊢
    obtain ⟨rfl, -⟩ | ⟨rfl, -⟩ | ⟨rfl, -⟩ | ⟨rfl, -⟩ | ⟨rfl, -⟩ | ⟨rfl, -⟩ | ⟨rfl, -⟩ := own
    · simp [ownType value member]
    · simp [ownSymbol value member]
    · simp [ownConversion value member]
    · simp [ownImplemented value member]
    · simp [ownGetter value member]
    · simp [ownSetter value member]
    · simp [ownDescription value member]

end

end KindPayload

/-! ## The whole declaration -/

theorem DeclarationKind.exists_toFields (kind : DeclarationKind) :
    ∃ name, kind.toFields = ("kind", .string name) :: kind.payloadFields := by
  cases kind <;> exact ⟨_, rfl⟩

theorem DeclarationKind.payloadFields_nodup (kind : DeclarationKind) :
    (kind.payloadFields.map Prod.fst).Nodup := by
  cases kind <;> simp [payloadFields, toFields]

theorem KindPayload.IsField.mem_names {field : String × Json} (typed : IsField field) :
    field.1 ∈ names := by
  obtain ⟨payload, member⟩ := typed
  exact List.mem_map_of_mem (f := Prod.fst) member

namespace Declaration

/-- A payload field that the kind of the declaration is not written with. -/
def IsForeignField (declaration : Declaration) (field : String × Json) : Prop :=
  KindPayload.IsField field ∧ field.1 ∉ declaration.kind.payloadFields.map Prod.fst

section

variable (declaration : Declaration) {foreign : List (String × Json)}
  (strange : ∀ field ∈ foreign, declaration.IsForeignField field)

include strange

theorem isField_of_mem_append :
    ∀ field ∈ declaration.kind.payloadFields ++ foreign, KindPayload.IsField field := by
  intro field member
  obtain member | member := List.mem_append.mp member
  · exact declaration.kind.isField_of_mem field member
  · exact (strange field member).1

theorem nodup_append_foreign (distinct : (foreign.map Prod.fst).Nodup) :
    ((declaration.kind.payloadFields ++ foreign).map Prod.fst).Nodup := by
  rw [List.map_append]
  refine List.nodup_append.mpr ⟨declaration.kind.payloadFields_nodup, distinct, ?_⟩
  rintro name own _ other rfl
  obtain ⟨field, member, rfl⟩ := List.mem_map.mp other
  exact (strange field member).2 own

/-- Only the payload and the foreign fields have the names of payload fields. -/
theorem valuesOf_common {name : String} (common : name ∉ KindPayload.names) :
    valuesOf name declaration.kind.payloadFields = [] ∧ valuesOf name foreign = [] := by
  rw [← List.append_eq_nil_iff, ← Json.valuesOf_append]
  apply Json.valuesOf_eq_nil
  rintro field member rfl
  exact common (isField_of_mem_append declaration strange field member).mem_names

theorem ofJson?_append_foreign {own : List (String × Json)}
    (written : declaration.toJson = .object own) (distinct : (foreign.map Prod.fst).Nodup) :
    ofJson? (.object (own ++ foreign)) = some declaration := by
  obtain rfl := (Json.object.inj written).symm
  obtain ⟨make, readsName, makes⟩ := declaration.kind.exists_make
  obtain ⟨kindName, kindFields⟩ := declaration.kind.exists_toFields
  have absent (name : String) (common : name ∉ KindPayload.names) :=
    valuesOf_common declaration strange common
  generalize every : _ ++ foreign = fields
  have payloadOnly : ∀ name ∈ KindPayload.names,
      valuesOf name fields = valuesOf name (declaration.kind.payloadFields ++ foreign) := by
    intro name known
    simp only [KindPayload.names, List.mem_cons, List.not_mem_nil, or_false] at known
    rw [← every, kindFields]
    obtain rfl | rfl | rfl | rfl | rfl | rfl | rfl := known <;> simp [valuesOf]
  obtain ⟨payload, readsPayload, has⟩ := KindPayload.exists_ofFields? payloadOnly
    (nodup_append_foreign declaration strange distinct) (isField_of_mem_append declaration strange)
  have made : make payload = declaration.kind :=
    makes payload fun field member => has (List.mem_append_left foreign member)
  have readsKind (default) : field? "kind" default
      (fun kind => kind.choice? DeclarationKind.names) fields = some make := by
    rw [← readsName default, ← every, field?, field?]
    simp [Json.valuesOf_append, Json.valuesOf_cons, absent, KindPayload.names]
  rw [ofJson?, Json.record?, Option.bind_eq_bind, Option.bind_some, readsKind,
    Option.bind_eq_bind, Option.bind_some, readsPayload, Option.bind_eq_bind, Option.bind_some,
    made]
  -- What remains are the common fields, each of which stands once.
  simp only [field?, ← every, kindFields, List.cons_append, List.nil_append, List.append_assoc,
    Json.valuesOf_cons, ↓reduceIte, String.reduceEq, Json.valuesOf_append, KindPayload.names,
    List.mem_cons, List.not_mem_nil, or_self, not_false_eq_true, absent, List.append_nil]
  simp only [text?, Visibility.ofJson?_wireName, Modifiers.ofJson?_toJson, list?_map,
    TypeParameter.ofJson?_toJson, Parameter.ofJson?_toJson, Attribute.ofJson?_toJson, bool?,
    optional?_ofOption?, MemberSummary.ofJson?_toJson, implies_true]
  rfl

end

/-- A declaration is read back from the value that describes it. It still is when at every depth
fields are reordered and unknown ones stand among them, and when well-typed payload fields of
other kinds are added. -/
theorem ofJson?_rearranged_toJson (declaration : Declaration) :
    ofJson? declaration.toJson = some declaration ∧
    ∀ fields foreign others : List (String × Json),
      shape.Restates declaration.toJson (.object fields) →
      (foreign.map Prod.fst).Nodup →
      (∀ field ∈ foreign, declaration.IsForeignField field) →
      others.Perm (fields ++ foreign) →
      ofJson? (.object others) = some declaration := by
  constructor
  · have whole := ofJson?_append_foreign declaration (List.forall_mem_nil _) rfl List.nodup_nil
    rwa [List.append_nil] at whole
  · intro fields foreign others restates distinct strange same
    rw [← ofJson?_append_foreign declaration strange rfl distinct]
    apply respects_shape
    refine Shape.restates_append restates (fun field member => ?_) same
    have payload := (strange field member).1.mem_names
    simp only [KindPayload.names, List.mem_cons, List.not_mem_nil, or_false] at payload
    obtain named | named | named | named | named | named | named := payload <;>
      simp [named, List.lookup_cons]

/-- Every field stands in reverse order, one is unknown and two belong to operators. -/
theorem ofJson?_rearranged_toJson_reversed_method :
    ofJson? (.object (List.reverse (
      [("name", .string "Run"), ("kind", .string "method"),
       ("implements", .array [.string "IRunner.Run"]), ("visibility", .string "public"),
       ("modifiers", Modifiers.toJson { isStatic := true }), ("member_type", .string "void"),
       ("type_parameters", .array [.object
         [("constraints", .array [.object [("name", .string "new"), ("note", .null),
            ("kind", .string "special_keyword")]]),
          ("name", .string "T")]]),
       ("parameters", .array []), ("attributes", .array []),
       ("parent_is_interface", .bool false), ("enclosing_type", .string "Runner"),
       ("namespace", .null), ("members", .array [])] ++
      [("since", .object [("version", .natural 2)])] ++
      [("symbol", .string "+"), ("conversion", .null)]))) =
    some {
      name := "Run", kind := .method ["IRunner.Run"], visibility := .publicLevel,
      modifiers := { isStatic := true }, memberType := "void",
      typeParameters := [{ name := "T", constraints := [⟨.specialWord, "new"⟩] }],
      enclosingType := some "Runner" } := by
  refine (ofJson?_rearranged_toJson _).2 _ [("symbol", .string "+"), ("conversion", .null)] _
    (Shape.restates_record.mpr ⟨_, [("since", .object [("version", .natural 2)])], ?pairs,
      ?unknown, .refl _⟩)
    (by decide) ?foreign (List.reverse_perm _)
  case pairs =>
    have constraint : Constraint.shape.Restates (Constraint.toJson ⟨.specialWord, "new"⟩)
        (.object [("name", .string "new"), ("note", .null),
          ("kind", .string "special_keyword")]) := by
      refine Shape.restates_record.mpr
        ⟨[_, _], [("note", .null)], List.forall₂_same.mpr ?_, by simp, ?_⟩
      · simp [List.lookup_cons, Shape.Restates]
      · exact (List.reverse_perm [_, _, _]).trans (.cons _ (.swap ..))
    have parameter : TypeParameter.shape.Restates
        (TypeParameter.toJson { name := "T", constraints := [⟨.specialWord, "new"⟩] })
        (.object [("constraints", .array [.object [("name", .string "new"), ("note", .null),
          ("kind", .string "special_keyword")]]), ("name", .string "T")]) := by
      refine Shape.restates_record.mpr ⟨[_, _], [], ?_, by simp, .swap ..⟩
      exact .cons ⟨rfl, rfl⟩ (.cons ⟨rfl, _, _, rfl, rfl, .cons constraint .nil⟩ .nil)
    have modifiers : Modifiers.shape.Restates (Modifiers.toJson { isStatic := true })
        (Modifiers.toJson { isStatic := true }) := by
      refine Shape.restates_record.mpr ⟨_, [], List.forall₂_same.mpr ?_, by simp, .refl _⟩
      simp [List.lookup_cons, Shape.Restates]
    simp [DeclarationKind.toFields, Visibility.wireName, Json.texts, Json.ofOption?,
      List.lookup_cons, Shape.Restates, modifiers, parameter]
  case unknown => simp
  case foreign =>
    intro field member
    refine ⟨⟨⟨"", "+", none, [], false, false, ""⟩, ?_⟩, ?_⟩
    · exact List.Sublist.subset (by simp [KindPayload.toFields, Json.ofOption?]) member
    · simp [DeclarationKind.payloadFields, DeclarationKind.toFields] at member ⊢
      rcases member with rfl | rfl <;> decide

/-- The values that describe a declaration, in the order of an array. -/
def toValues (declaration : Declaration) : List Json :=
  [.string declaration.name, (declaration.kind.toFields.headD ("kind", .null)).2,
   .string declaration.visibility.wireName, declaration.modifiers.toJson,
   .string declaration.memberType,
   .array (declaration.typeParameters.map TypeParameter.toJson),
   .array (declaration.parameters.map Parameter.toJson),
   .array (declaration.attributes.map Attribute.toJson),
   .bool declaration.parentIsInterface, Json.ofOption? declaration.enclosingType,
   Json.ofOption? declaration.scope,
   .array (declaration.members.map MemberSummary.toJson)] ++
  declaration.kind.payload.toFields.map Prod.snd

/-- A declaration is also read back from its values alone. -/
theorem ofJson?_array_toValues (declaration : Declaration) :
    ofJson? (.array declaration.toValues) = some declaration := by
  obtain ⟨make, readsName, makes⟩ := declaration.kind.exists_make
  obtain ⟨kindName, kindFields⟩ := declaration.kind.exists_toFields
  have made : make declaration.kind.payload = declaration.kind :=
    makes _ declaration.kind.payloadFields_subset
  have onlyName : valuesOf "kind" declaration.kind.payloadFields = [] := by
    cases declaration.kind <;> rfl
  have readsKind : (declaration.kind.toFields.headD ("kind", .null)).2.choice?
      DeclarationKind.names = some make := by
    rw [← readsName fun _ => .classType, kindFields, field?, Json.valuesOf_cons, if_pos rfl,
      onlyName]
    rfl
  have readsImplemented : list? text? (Json.texts declaration.kind.payload.implemented) =
      some declaration.kind.payload.implemented :=
    list?_map (fun text => (rfl : text? (.string text) = some text)) _
  have record : (Json.array declaration.toValues).record? fieldNames =
      some (fieldNames.zip declaration.toValues) := rfl
  have distinct : fieldNames.Nodup := by decide
  have placed {α : Type} (place : Nat) {name : String} {value : Json}
      (stands : fieldNames[place]? = some name)
      (there : declaration.toValues[place]? = some value) (default : α)
      (read : Json → Option α) :
      field? name default read (fieldNames.zip declaration.toValues) = read value := by
    rw [Json.field?_zip distinct stands, there]
  -- `simp` would read the fields behind each field again for every field before them.
  rw [ofJson?, record, Option.bind_eq_bind, Option.bind_some, KindPayload.ofFields?,
    placed 0 rfl rfl, placed 1 rfl rfl, placed 2 rfl rfl, placed 3 rfl rfl, placed 4 rfl rfl,
    placed 5 rfl rfl, placed 6 rfl rfl, placed 7 rfl rfl, placed 8 rfl rfl, placed 9 rfl rfl,
    placed 10 rfl rfl, placed 11 rfl rfl, placed 12 rfl rfl, placed 13 rfl rfl,
    placed 14 rfl rfl, placed 15 rfl rfl, placed 16 rfl rfl, placed 17 rfl rfl,
    placed 18 rfl rfl]
  rw [readsKind, readsImplemented, Visibility.ofJson?_wireName,
    Modifiers.ofJson?_toJson, list?_map TypeParameter.ofJson?_toJson,
    list?_map Parameter.ofJson?_toJson, list?_map Attribute.ofJson?_toJson,
    list?_map MemberSummary.ofJson?_toJson, optional?_conversion, optional?_ofOption?,
    optional?_ofOption?]
  exact congrArg (fun kind => some { declaration with kind }) made

/-- Values that are missing at the end are as good as missing fields. -/
example : ofJson? (.array [.string "Run", .object [("method", .null)]]) =
    some { name := "Run", kind := .method [] } := by
  decide +kernel

end Declaration

end DocPreview
