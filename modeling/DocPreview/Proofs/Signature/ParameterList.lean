import DocPreview.Proofs.Signature.Decomposition
import DocPreview.Proofs.Signature.Quiet

/-!
# The parameters in a signature

Whatever the kind, a signature has one place for type parameters and one for parameters, and nothing
around them writes a parameter name or a parenthesis. So the names stand there in the order
declared, and without parameters the only parentheses in `visualBasic` are those of attributes and
of type parameters.
-/

set_option autoImplicit false

namespace DocPreview

namespace Signature

variable (dialect : Dialect)

/-! ## Parameters -/

theorem parameterPieces_framed (parameter : Parameter) :
    Framed [.word .parameter parameter.name] (parameterPieces dialect parameter) := by
  have mode : Quiet (passingMode dialect parameter) := by
    unfold passingMode
    split
    · exact quiet_keyword _ _
    · split
      · exact quiet_keyword _ _
      · exact quiet_keyword _ _
  cases dialect with
  | csharp =>
      refine ⟨passingMode .csharp parameter ++
        keywordIf .csharp parameter.isParamArray .paramArrayWord ++
        typeName .csharp parameter.type, [], ?_, ?_, quiet_nil⟩
      · rw [List.append_nil]
        rfl
      · simp only [quiet_append]
        exact ⟨⟨mode, quiet_keywordIf _ _ _⟩, quiet_typeName _ _⟩
  | visualBasic =>
      refine ⟨keywordIf .visualBasic parameter.isOptional .optionalWord ++
        passingMode .visualBasic parameter ++
        keywordIf .visualBasic parameter.isParamArray .paramArrayWord,
        asClause .visualBasic parameter.type ++
          (if parameter.isOptional then
            infixMark "=" ++ [.word .literal (parameter.defaultValue.getD "Nothing")] else []),
        ?_, ?_, ?_⟩
      · simp only [parameterPieces, List.append_assoc]
      · simp only [quiet_append]
        exact ⟨⟨quiet_keywordIf _ _ _, mode⟩, quiet_keywordIf _ _ _⟩
      · refine quiet_append.mpr ⟨quiet_asClause _ _, ?_⟩
        split
        · have equals : Quiet (infixMark "=") := ⟨rfl, rfl⟩
          exact quiet_append.mpr ⟨equals, quiet_word _ (by decide) (by decide)⟩
        · exact quiet_nil

def nameTokens (parameter : Parameter) : List Token :=
  if parameter.name.isEmpty then [] else [⟨.parameter, parameter.name⟩]

theorem parameterPieces_names (parameter : Parameter) :
    chosenTokens Token.isParameterName (parameterPieces dialect parameter) =
      nameTokens parameter := by
  rw [(parameterPieces_framed dialect parameter).names]
  unfold nameTokens
  by_cases empty : parameter.name.isEmpty
  · simp only [chosenTokens, List.filterMap_cons, Piece.token?, empty, ↓reduceIte,
      List.filterMap_nil, List.filter_nil]
  · simp only [chosenTokens, List.filterMap_cons, Piece.token?, empty, Bool.false_eq_true,
      ↓reduceIte, List.filterMap_nil]
    rfl

theorem punctuation_names (text : String) :
    chosenTokens Token.isParameterName (punctuation text) = [] := rfl

theorem continuation_names : chosenTokens Token.isParameterName (continuation dialect) = [] := by
  cases dialect <;> rfl

theorem parameterLines_names (parameters : List Parameter) :
    chosenTokens Token.isParameterName (parameterLines dialect parameters) =
      parameters.flatMap nameTokens := by
  have line : ∀ parameter, chosenTokens Token.isParameterName
      (lineBreak ++ indent ++ parameterPieces dialect parameter) = nameTokens parameter := by
    intro parameter
    rw [chosenTokens_append, parameterPieces_names]
    rfl
  induction parameters with
  | nil => rfl
  | cons parameter parameters ih =>
      cases parameters with
      | nil => rw [parameterLines, line, List.flatMap_singleton]
      | cons next parameters =>
          have split : parameterLines dialect (parameter :: next :: parameters) =
              lineBreak ++ indent ++ parameterPieces dialect parameter ++ punctuation "," ++
                continuation dialect ++ parameterLines dialect (next :: parameters) := rfl
          rw [split, chosenTokens_append, chosenTokens_append, chosenTokens_append, line,
            punctuation_names, continuation_names, ih, List.append_nil, List.append_nil]
          rfl

theorem parameterList_names (opening closing : String) (parameters : List Parameter) :
    chosenTokens Token.isParameterName (parameterList dialect opening closing parameters) =
      parameters.flatMap nameTokens := by
  cases parameters with
  | nil => cases dialect <;> rfl
  | cons parameter parameters =>
      have lines := parameterLines_names dialect (parameter :: parameters)
      simp only [parameterList, List.isEmpty_cons, Bool.false_eq_true, ↓reduceIte,
        chosenTokens_append, punctuation_names, continuation_names, lines, List.nil_append,
        List.append_nil]
      exact List.append_nil _

theorem text_nameTokens (parameters : List Parameter) :
    (parameters.flatMap nameTokens).map (·.text) =
      (parameters.map (·.name)).filter (!·.isEmpty) := by
  induction parameters with
  | nil => rfl
  | cons parameter parameters ih =>
      rw [List.flatMap_cons, List.map_append, ih, List.map_cons, List.filter_cons]
      unfold nameTokens
      cases parameter.name.isEmpty <;> rfl

/-! ## The place of parameters in a signature -/

/-- Whether a declaration of this kind is called with arguments, so that an empty parameter list is
a list all the same. -/
def isCallable : DeclarationKind → Bool
  | .delegate | .constructor | .destructor | .operator _ _ | .method _ => true
  | _ => false

def isProperty : DeclarationKind → Bool
  | .property _ _ => true
  | _ => false

def typeParameterPart (declaration : Declaration) : List Piece :=
  if declaration.kind.listsTypeParameters then
    typeParameterList dialect declaration.typeParameters
  else []

def propertyBrackets : Dialect → String × String
  | .csharp => ("[", "]")
  | .visualBasic => ("(", ")")

def parameterPart (declaration : Declaration) : List Piece :=
  if isCallable declaration.kind then parameterList dialect "(" ")" declaration.parameters
  else if isProperty declaration.kind && !declaration.parameters.isEmpty then
    parameterList dialect (propertyBrackets dialect).1 (propertyBrackets dialect).2
      declaration.parameters
  else []

/-- The two places of a signature for parameters, next to each other. -/
def parameterPlaces (declaration : Declaration) : List Piece :=
  typeParameterPart dialect declaration ++ parameterPart dialect declaration

theorem typeDeclaration_framed {declaration : Declaration} {kindWords : List Piece}
    (quiet : Quiet kindWords) :
    Framed (typeParameterList dialect declaration.typeParameters)
      (typeDeclaration dialect declaration kindWords) := by
  refine ⟨_, [], (List.append_nil _).symm, ?_, quiet_nil⟩
  cases dialect <;> simp [quiet]

theorem quiet_enumeration (declaration : Declaration) (underlyingType : String) :
    Quiet (enumeration dialect declaration underlyingType) := by
  have colon : Quiet (infixMark ":") := ⟨rfl, rfl⟩
  unfold enumeration
  split
  · simp
  · cases dialect <;> simp [colon]

theorem delegate_framed (declaration : Declaration) :
    Framed (typeParameterList dialect declaration.typeParameters ++
        parameterList dialect "(" ")" declaration.parameters)
      (delegate dialect declaration) := by
  refine ⟨visibility dialect declaration ++ memberContract dialect declaration.modifiers ++
    keyword dialect .delegateWord ++ resultOrVoid dialect declaration.memberType ++
    identifier declaration.name, resultClause dialect declaration.memberType, ?_, ?_, ?_⟩
  · simp only [delegate, List.append_assoc]
  · simp
  · exact quiet_resultClause _ _

theorem constructor_framed (declaration : Declaration) :
    Framed (parameterList dialect "(" ")" declaration.parameters)
      (constructor dialect declaration) := by
  refine ⟨_, [], (List.append_nil _).symm, ?_, quiet_nil⟩
  cases dialect <;> cases declaration.modifiers.isStatic <;> simp

theorem destructor_framed (declaration : Declaration) :
    Framed (parameterList dialect "(" ")" declaration.parameters)
      (destructor dialect declaration) := by
  refine ⟨_, [], (List.append_nil _).symm, ?_, quiet_nil⟩
  cases dialect <;> simp

theorem operator_framed (declaration : Declaration) (symbol : String)
    (conversion : Option Conversion) :
    Framed (parameterList dialect "(" ")" declaration.parameters)
      (operator dialect declaration symbol conversion) := by
  refine ⟨_, asClause dialect declaration.memberType, rfl, ?_, quiet_asClause _ _⟩
  simp

theorem method_framed (declaration : Declaration) (implemented : List String) :
    Framed (typeParameterList dialect declaration.typeParameters ++
        parameterList dialect "(" ")" declaration.parameters)
      (method dialect declaration implemented) := by
  refine ⟨(if dialect = .csharp ∧ implemented ≠ [] then []
      else memberVisibility dialect declaration) ++
    memberContract dialect declaration.modifiers ++
    resultOrVoid dialect declaration.memberType ++ identifier declaration.name,
    resultClause dialect declaration.memberType ++ implementsClause dialect implemented,
    ?_, ?_, ?_⟩
  · simp only [method, List.append_assoc]
  · split <;> simp
  · simp

/-- A property has a place for parameters only if it has parameters. -/
theorem property_framed (declaration : Declaration) (hasGetter hasSetter : Bool) :
    Framed (if declaration.parameters.isEmpty then []
        else parameterList dialect (propertyBrackets dialect).1 (propertyBrackets dialect).2
          declaration.parameters)
      (property dialect declaration hasGetter hasSetter) := by
  cases indexed : declaration.parameters.isEmpty with
  | true =>
      refine framed_of_quiet ?_
      cases dialect <;> simp [property, indexed]
  | false =>
      cases dialect with
      | csharp =>
          refine ⟨memberVisibility .csharp declaration ++
            memberContract .csharp declaration.modifiers ++
            typeName .csharp declaration.memberType ++ keyword .csharp .thisWord,
            accessors .csharp (accessorWords hasGetter hasSetter), ?_, ?_, quiet_accessors _ _⟩
          · simp [property, indexed, propertyBrackets]
          · simp
      | visualBasic =>
          refine ⟨keywordIf .visualBasic true .defaultWord ++
            memberVisibility .visualBasic declaration ++
            memberContract .visualBasic declaration.modifiers ++
            keywordIf .visualBasic (hasGetter && !hasSetter) .readOnlyWord ++
            keyword .visualBasic .propertyWord ++ identifier declaration.name,
            asClause .visualBasic declaration.memberType ++
              accessors .visualBasic (accessorWords hasGetter hasSetter), ?_, ?_, ?_⟩
          · simp [property, indexed, propertyBrackets, keywordIf]
          · simp
          · simp

theorem quiet_event (declaration : Declaration) : Quiet (event dialect declaration) := by
  simp [event]

theorem quiet_field (declaration : Declaration) : Quiet (field dialect declaration) := by
  cases isConst : declaration.modifiers.isConst <;> simp [field, isConst]

/-- Whatever the kind, parameters stand in their two places only. -/
theorem body?_framed {dialect : Dialect} {declaration : Declaration} {body : List Piece}
    (found : body? dialect declaration = some body) :
    Framed (parameterPlaces dialect declaration) body := by
  have ofType : ∀ {kindWords}, Quiet kindWords →
      Framed (typeParameterList dialect declaration.typeParameters ++ [])
        (typeDeclaration dialect declaration kindWords) := by
    intro kindWords quiet
    rw [List.append_nil]
    exact typeDeclaration_framed dialect quiet
  unfold body? at found
  unfold parameterPlaces typeParameterPart parameterPart
  cases kind : declaration.kind with
  | classType =>
      rw [kind] at found
      cases found
      exact ofType (quiet_classWords dialect declaration.modifiers)
  | interfaceType =>
      rw [kind] at found
      cases found
      exact ofType (quiet_keyword dialect .interfaceWord)
  | structType =>
      rw [kind] at found
      cases found
      exact ofType (quiet_keyword dialect .structWord)
  | enumType underlyingType =>
      rw [kind] at found
      cases found
      exact framed_of_quiet (quiet_enumeration dialect declaration underlyingType)
  | delegate =>
      rw [kind] at found
      cases found
      exact delegate_framed dialect declaration
  | constructor =>
      rw [kind] at found
      cases found
      exact constructor_framed dialect declaration
  | destructor =>
      rw [kind] at found
      cases found
      exact destructor_framed dialect declaration
  | operator symbol conversion =>
      rw [kind] at found
      cases found
      exact operator_framed dialect declaration symbol conversion
  | method implemented =>
      rw [kind] at found
      cases found
      exact method_framed dialect declaration implemented
  | property hasGetter hasSetter =>
      rw [kind] at found
      cases found
      have framed := property_framed dialect declaration hasGetter hasSetter
      cases indexed : declaration.parameters.isEmpty with
      | true =>
          rw [indexed] at framed
          exact framed
      | false =>
          rw [indexed] at framed
          exact framed
  | event =>
      rw [kind] at found
      cases found
      exact framed_of_quiet (quiet_event dialect declaration)
  | field =>
      rw [kind] at found
      cases found
      exact framed_of_quiet (quiet_field dialect declaration)
  | other description =>
      rw [kind] at found
      cases found

/-! ## The tokens of the whole signature -/

/-- The tokens of one sort stand in attributes, in the two places, or nowhere. -/
theorem filter_tokens_render {dialect : Dialect} {declaration : Declaration}
    (written : render declaration dialect ≠ placeholder) (chosen : Token → Bool)
    (noSpace : chosen ⟨.space, " "⟩ = false) :
    ∃ body, Framed (parameterPlaces dialect declaration) body ∧
      (render declaration dialect).tokens.filter chosen =
        chosenTokens chosen (declaration.attributes.flatMap (attributeBlock dialect)) ++
          chosenTokens chosen body ++ chosenTokens chosen (whereClauses dialect declaration) := by
  obtain ⟨expressible, body, found⟩ := exists_body?_of_ne_placeholder written
  refine ⟨body, body?_framed found, ?_⟩
  rw [render_eq_ofPieces expressible found, ofPieces, filter_layOut noSpace]
  change chosenTokens chosen _ = _
  rw [chosenTokens_append, chosenTokens_append]

theorem parameterPlaces_names (declaration : Declaration) :
    chosenTokens Token.isParameterName (parameterPlaces dialect declaration) =
      if isCallable declaration.kind || isProperty declaration.kind then
        declaration.parameters.flatMap nameTokens
      else [] := by
  have typeParameters : chosenTokens Token.isParameterName
      (typeParameterPart dialect declaration) = [] := by
    unfold typeParameterPart
    split
    · exact typeParameterList_names dialect _
    · rfl
  rw [parameterPlaces, chosenTokens_append, typeParameters, List.nil_append, parameterPart]
  cases callable : isCallable declaration.kind with
  | true =>
      rw [if_pos rfl, parameterList_names]
      rfl
  | false =>
      cases accessed : isProperty declaration.kind with
      | false => rfl
      | true =>
          cases declaration.parameters with
          | nil => rfl
          | cons parameter parameters =>
              exact parameterList_names dialect _ _ (parameter :: parameters)

theorem parameterNames_render {declaration : Declaration} {dialect : Dialect}
    (written : render declaration dialect ≠ placeholder) :
    (render declaration dialect).parameterNames =
      if isCallable declaration.kind || isProperty declaration.kind then
        (declaration.parameters.map (·.name)).filter (!·.isEmpty)
      else [] := by
  obtain ⟨body, framed, tokens⟩ :=
    filter_tokens_render written Token.isParameterName rfl
  have attributes : chosenTokens Token.isParameterName
      (declaration.attributes.flatMap (attributeBlock dialect)) = [] := by
    rw [chosenTokens_flatMap, List.flatMap_eq_nil_iff]
    intro attr _
    exact (attributeBlock_chosen dialect attr).1
  rw [attributes, framed.names, (quiet_whereClauses dialect declaration).names, List.nil_append,
    List.append_nil, parameterPlaces_names] at tokens
  change ((render declaration dialect).tokens.filter Token.isParameterName).map (·.text) = _
  rw [tokens]
  split
  · exact text_nameTokens declaration.parameters
  · rfl

/-! ## An empty parameter list -/

def parentheses : List Token :=
  [⟨.punctuation, "("⟩, ⟨.punctuation, ")"⟩]

theorem parameterPart_nil {declaration : Declaration} (callable : isCallable declaration.kind)
    (empty : declaration.parameters = []) :
    parameterPart dialect declaration =
      match dialect with
      | .csharp => punctuation "(" ++ punctuation ")"
      | .visualBasic => [] := by
  rw [parameterPart, if_pos callable, empty]
  rfl

theorem typeParameterPart_parentheses (declaration : Declaration) :
    chosenTokens Token.isParenthesis (typeParameterPart .visualBasic declaration) =
      if declaration.kind.listsTypeParameters && !declaration.typeParameters.isEmpty then
        parentheses
      else [] := by
  unfold typeParameterPart
  cases declaration.kind.listsTypeParameters with
  | false => rfl
  | true =>
      rw [if_pos rfl, typeParameterList_parentheses]
      cases declaration.typeParameters <;> rfl

theorem exists_empty_parentheses {declaration : Declaration}
    (written : render declaration .csharp ≠ placeholder)
    (callable : isCallable declaration.kind) (empty : declaration.parameters = []) :
    ∃ front back, (render declaration .csharp).tokens =
      declaration.attributes.flatMap (attributeTokens .csharp) ++ front ++ parentheses ++ back := by
  obtain ⟨expressible, body, found⟩ := exists_body?_of_ne_placeholder written
  obtain ⟨front, back, rfl, -, -⟩ := body?_framed found
  have between : ∀ spaced, layOut spaced (punctuation "(" ++ punctuation ")" ++ back) =
      parentheses ++ layOut true back := fun _ => rfl
  rw [tokens_render_of_body? expressible found, parameterPlaces,
    parameterPart_nil .csharp callable empty]
  refine ⟨layOut false (front ++ typeParameterPart .csharp declaration),
    layOut true back ++ clauseTokens .csharp declaration, ?_⟩
  rw [← List.append_assoc front, List.append_assoc (front ++ _), layOut_append, between]
  simp only [List.append_assoc]

/-- Without parameters there are no parentheses in `visualBasic` but those of attributes and of type
parameters. -/
theorem exists_quiet_around_typeParameters {declaration : Declaration}
    (written : render declaration .visualBasic ≠ placeholder)
    (callable : isCallable declaration.kind) (empty : declaration.parameters = []) :
    ∃ front back, (render declaration .visualBasic).tokens =
        declaration.attributes.flatMap (attributeTokens .visualBasic) ++ front ++
          layOut false (typeParameterPart .visualBasic declaration) ++ back ∧
      (front ++ back).filter Token.isParenthesis = [] := by
  obtain ⟨expressible, body, found⟩ := exists_body?_of_ne_placeholder written
  obtain ⟨front, back, rfl, quietFront, quietBack⟩ := body?_framed found
  rw [tokens_render_of_body? expressible found, parameterPlaces,
    parameterPart_nil .visualBasic callable empty, List.append_nil, List.append_assoc front,
    layOut_append, layOut_append]
  have alone : StandsAlone (typeParameterPart .visualBasic declaration) := by
    unfold typeParameterPart
    split
    · exact standsAlone_typeParameterList _ _
    · exact standsAlone_nil
  refine ⟨layOut false front, layOut (spacedAfter (spacedAfter false front)
    (typeParameterPart .visualBasic declaration)) back, ?_, ?_⟩
  · rw [alone]
    change _ ++ [] = _
    simp only [List.append_assoc, List.append_nil]
  · rw [List.filter_append, filter_layOut rfl, filter_layOut rfl]
    change chosenTokens _ front ++ chosenTokens _ back = []
    rw [quietFront.parentheses, quietBack.parentheses, List.append_nil]

/-- All parameters are named in a signature, in the order declared and as often as declared. When a
callable declaration has none, `csharp` writes an empty pair of parentheses, and `visualBasic` no
parentheses but those of attribute arguments and of the type-parameter list. -/
theorem render_parameters (declaration : Declaration) (dialect : Dialect)
    (written : render declaration dialect ≠ placeholder) :
    (render declaration dialect).parameterNames =
        (if isCallable declaration.kind || isProperty declaration.kind then
          (declaration.parameters.map (·.name)).filter (!·.isEmpty)
        else []) ∧
      (isCallable declaration.kind → declaration.parameters = [] → dialect = .csharp →
        ∃ front back, (render declaration dialect).tokens =
          declaration.attributes.flatMap (attributeTokens dialect) ++ front ++ parentheses ++
            back) ∧
      (isCallable declaration.kind → declaration.parameters = [] → dialect = .visualBasic →
        ∃ front back, (render declaration dialect).tokens =
            declaration.attributes.flatMap (attributeTokens dialect) ++ front ++
              layOut false (typeParameterPart dialect declaration) ++ back ∧
          (front ++ back).filter Token.isParenthesis = [] ∧
          (∀ attr ∈ declaration.attributes,
            (attributeTokens dialect attr).filter Token.isParenthesis =
              if attr.arguments.isEmpty then [] else parentheses) ∧
          (layOut false (typeParameterPart dialect declaration)).filter Token.isParenthesis =
            if declaration.kind.listsTypeParameters && !declaration.typeParameters.isEmpty then
              parentheses
            else []) := by
  refine ⟨parameterNames_render written, ?_, ?_⟩
  · rintro callable empty rfl
    exact exists_empty_parentheses written callable empty
  · rintro callable empty rfl
    obtain ⟨front, back, tokens, quiet⟩ :=
      exists_quiet_around_typeParameters written callable empty
    refine ⟨front, back, tokens, quiet, ?_, ?_⟩
    · intro attr _
      rw [attributeTokens, filter_layOut rfl]
      exact (attributeBlock_chosen .visualBasic attr).2
    · rw [filter_layOut rfl]
      exact typeParameterPart_parentheses declaration

theorem render_parameters_generic_method :
    let obsolete : Attribute := ⟨"Obsolete", [⟨none, "true"⟩]⟩
    let sort : Declaration :=
      { name := "Sort", kind := .method [], memberType := "void", attributes := [obsolete],
        typeParameters := [⟨"T", []⟩] }
    let swap : Declaration :=
      { sort with parameters := [{ name := "x", type := "T" }, { name := "x", type := "T" }] }
    render sort .visualBasic ≠ placeholder ∧ render swap .csharp ≠ placeholder ∧
      (render sort .visualBasic).tokens.filter Token.isParenthesis = parentheses ++ parentheses ∧
      (render swap .csharp).parameterNames = ["x", "x"] := by
  intro obsolete sort swap
  have written : render sort .visualBasic ≠ placeholder := by decide
  have swapped : render swap .csharp ≠ placeholder := by decide
  obtain ⟨-, -, empty⟩ := render_parameters sort .visualBasic written
  obtain ⟨front, back, tokens, quiet, attributes, list⟩ := empty rfl rfl rfl
  have block : sort.attributes.flatMap (attributeTokens .visualBasic) =
      attributeTokens .visualBasic obsolete := List.append_nil _
  have arguments := attributes obsolete List.mem_cons_self
  rw [List.filter_append, List.append_eq_nil_iff] at quiet
  refine ⟨written, swapped, ?_, (render_parameters swap .csharp swapped).1⟩
  rw [tokens, block, List.filter_append, List.filter_append, List.filter_append, arguments, list,
    quiet.1, quiet.2]
  rfl

end Signature

end DocPreview
