import DocPreview.Proofs.Signature.Layout

/-!
# The three parts of a signature

A signature is that of the declaration without attributes and without conditions that are written
behind it, between one block for each attribute and one clause for each type parameter that has such
conditions. None of the three parts depends on the others.
-/

set_option autoImplicit false

namespace DocPreview

def Declaration.unconstrained (declaration : Declaration) : Declaration :=
  { declaration with
    typeParameters := declaration.typeParameters.map ({ · with constraints := [] }) }

/-- The declaration without attributes and without the conditions that the dialect writes behind the
signature. -/
def Declaration.bare (dialect : Dialect) (declaration : Declaration) : Declaration :=
  match dialect with
  | .csharp => { declaration.unconstrained with attributes := [] }
  | .visualBasic => { declaration with attributes := [] }

namespace Signature

/-! ## Clauses behind the signature -/

/-- A word that something before it sets off. -/
def spacedWord (tokenClass : TokenClass) (text : String) : List Token :=
  if text.isEmpty then [] else [⟨.space, " "⟩, ⟨tokenClass, text⟩]

def constraintTokens (condition : Constraint) : List Token :=
  match condition.kind with
  | .namedType => spacedWord .typeName (Dialect.csharp.displayType condition.name)
  | .specialWord => spacedWord .keyword (specialWord .csharp condition.name)

def whereTokens (parameter : TypeParameter) : List Token :=
  [⟨.lineBreak, "\n"⟩, ⟨.keyword, "where"⟩] ++ spacedWord .typeName parameter.name ++
    [⟨.space, " "⟩, ⟨.punctuation, ":"⟩] ++
    List.intercalate [⟨.punctuation, ","⟩] (parameter.constraints.map constraintTokens)

/-- The clauses of a declaration, one for each type parameter with conditions. -/
def clauseTokens (dialect : Dialect) (declaration : Declaration) : List Token :=
  if dialect = .csharp ∧ declaration.kind.listsTypeParameters then
    (declaration.typeParameters.filter (!·.constraints.isEmpty)).flatMap whereTokens
  else []

theorem layOut_word_append (tokenClass : TokenClass) (text : String) (pieces : List Piece) :
    layOut true (.word tokenClass text :: pieces) =
      spacedWord tokenClass text ++
        layOut (spacedAfter true [.word tokenClass text]) pieces := by
  by_cases empty : text.isEmpty
  · simp only [layOut, spacedWord, spacedAfter, empty, ↓reduceIte, List.nil_append]
  · simp only [layOut, spacedWord, spacedAfter, empty, Bool.false_eq_true, ↓reduceIte,
      List.cons_append, List.nil_append]

theorem exists_constraintName (condition : Constraint) :
    ∃ tokenClass text, constraintName .csharp condition = [.word tokenClass text] ∧
      constraintTokens condition = spacedWord tokenClass text := by
  unfold constraintName constraintTokens
  cases condition.kind with
  | namedType => exact ⟨_, _, rfl, rfl⟩
  | specialWord => exact ⟨_, _, rfl, rfl⟩

/-- Each condition is set off: the first by the colon, the others by a comma. -/
theorem layOut_constraintList (conditions : List Constraint) :
    layOut true (constraintList .csharp conditions) =
      List.intercalate [⟨.punctuation, ","⟩] (conditions.map constraintTokens) := by
  induction conditions with
  | nil => rfl
  | cons condition conditions ih =>
      obtain ⟨tokenClass, text, written, tokens⟩ := exists_constraintName condition
      cases conditions with
      | nil =>
          simp only [constraintList, List.map_cons, List.map_nil, commaSeparated, written,
            layOut_word_append, layOut, List.append_nil, tokens, List.intercalate_singleton]
      | cons next conditions =>
          have comma : ∀ spaced, layOut spaced (punctuation "," ++
              constraintList .csharp (next :: conditions)) =
              ⟨.punctuation, ","⟩ :: layOut true (constraintList .csharp (next :: conditions)) :=
            fun _ => rfl
          have split : constraintList .csharp (condition :: next :: conditions) =
              .word tokenClass text ::
                (punctuation "," ++ constraintList .csharp (next :: conditions)) := by
            simp only [constraintList, List.map_cons, commaSeparated, written, List.cons_append,
              List.nil_append]
          rw [split, layOut_word_append, comma, ih]
          simp only [List.map_cons, tokens, List.intercalate_cons_cons, List.append_assoc,
            List.cons_append, List.nil_append]

theorem layOut_whereClause {parameter : TypeParameter}
    (constrained : parameter.constraints.isEmpty = false) :
    layOut false (whereClause .csharp parameter) = whereTokens parameter := by
  have colon : ∀ spaced, layOut spaced (infixMark ":" ++
      constraintList .csharp parameter.constraints) =
      [⟨.space, " "⟩, ⟨.punctuation, ":"⟩] ++
        layOut true (constraintList .csharp parameter.constraints) := fun _ => rfl
  have opening : layOut false (whereClause .csharp parameter) =
      [⟨.lineBreak, "\n"⟩, ⟨.keyword, "where"⟩] ++
        layOut true (.word .typeName parameter.name ::
          (infixMark ":" ++ constraintList .csharp parameter.constraints)) := by
    simp only [whereClause, constrained, Bool.false_eq_true, ↓reduceIte]
    rfl
  rw [opening, layOut_word_append, colon, layOut_constraintList, whereTokens]
  simp only [List.append_assoc]

theorem layOut_whereClauses (dialect : Dialect) (declaration : Declaration) (spaced : Bool) :
    layOut spaced (whereClauses dialect declaration) = clauseTokens dialect declaration := by
  unfold whereClauses clauseTokens
  cases dialect with
  | visualBasic => rfl
  | csharp =>
      by_cases lists : declaration.kind.listsTypeParameters
      · simp only [lists, ↓reduceIte, and_self]
        rw [layOut_flatMap (standsAlone_whereClause .csharp)]
        induction declaration.typeParameters with
        | nil => rfl
        | cons parameter parameters ih =>
            rw [List.flatMap_cons, ih]
            cases constrained : parameter.constraints.isEmpty with
            | false =>
                simp only [layOut_whereClause constrained, List.filter_cons, constrained,
                  Bool.not_false, ↓reduceIte, List.flatMap_cons]
            | true =>
                simp only [whereClause, constrained, ↓reduceIte, layOut, List.nil_append,
                  List.filter_cons, Bool.not_true, Bool.false_eq_true]
      · simp only [lists, Bool.false_eq_true, and_false, ↓reduceIte]
        rfl

/-! ## What stands between attributes and clauses -/

theorem typeParameterList_unconstrained (parameters : List TypeParameter) :
    typeParameterList .csharp (parameters.map ({ · with constraints := [] })) =
      typeParameterList .csharp parameters := by
  have written : ∀ parameter : TypeParameter,
      typeParameter .csharp { parameter with constraints := [] } =
        typeParameter .csharp parameter := fun _ => rfl
  simp only [typeParameterList, List.isEmpty_map, List.map_map, Function.comp_def, written]

/-- What the kind says depends neither on the attributes nor on the conditions, apart from those in
the type-parameter list. -/
theorem body?_congr (dialect : Dialect) (declaration : Declaration)
    (attributes : List Attribute) {parameters : List TypeParameter}
    (same : typeParameterList dialect parameters =
      typeParameterList dialect declaration.typeParameters) :
    body? dialect { declaration with attributes, typeParameters := parameters } =
      body? dialect declaration := by
  unfold body?
  cases declaration.kind with
  | classType => simp only [typeDeclaration, same]; rfl
  | interfaceType => simp only [typeDeclaration, same]; rfl
  | structType => simp only [typeDeclaration, same]; rfl
  | delegate => simp only [delegate, same]; rfl
  | method implemented => simp only [method, same]; rfl
  | enumType underlyingType => rfl
  | constructor => rfl
  | destructor => rfl
  | operator symbol conversion => rfl
  | property hasGetter hasSetter => rfl
  | event => rfl
  | field => rfl
  | other description => rfl

theorem body?_unconstrained (declaration : Declaration) :
    body? .csharp declaration.unconstrained = body? .csharp declaration :=
  body?_congr .csharp declaration declaration.attributes
    (typeParameterList_unconstrained declaration.typeParameters)

theorem body?_bare (dialect : Dialect) (declaration : Declaration) :
    body? dialect (declaration.bare dialect) = body? dialect declaration := by
  cases dialect with
  | csharp =>
      exact body?_congr .csharp declaration []
        (typeParameterList_unconstrained declaration.typeParameters)
  | visualBasic => exact body?_congr .visualBasic declaration [] rfl

/-! ## The decomposition -/

theorem tokens_render_of_body? {dialect : Dialect} {declaration : Declaration} {body : List Piece}
    (expressible : isInexpressible dialect declaration = false)
    (found : body? dialect declaration = some body) :
    (render declaration dialect).tokens =
      declaration.attributes.flatMap (attributeTokens dialect) ++ layOut false body ++
        clauseTokens dialect declaration := by
  rw [render_eq_ofPieces expressible found, ofPieces, List.append_assoc, layOut_attributes,
    layOut_append, layOut_whereClauses, List.append_assoc]

theorem clauseTokens_unconstrained (declaration : Declaration) :
    clauseTokens .csharp declaration.unconstrained = [] := by
  unfold clauseTokens
  split
  · have none : declaration.unconstrained.typeParameters.filter (!·.constraints.isEmpty) = [] := by
      simp [Declaration.unconstrained]
    rw [none]
    rfl
  · rfl

theorem clauseTokens_bare (dialect : Dialect) (declaration : Declaration) :
    clauseTokens dialect (declaration.bare dialect) = [] := by
  cases dialect with
  | csharp => exact clauseTokens_unconstrained declaration
  | visualBasic => rfl

theorem isInexpressible_bare (dialect : Dialect) (declaration : Declaration) :
    isInexpressible dialect (declaration.bare dialect) = isInexpressible dialect declaration := by
  cases dialect <;> rfl

theorem attributes_bare (dialect : Dialect) (declaration : Declaration) :
    (declaration.bare dialect).attributes = [] := by
  cases dialect <;> rfl

/-- A signature that is written at all is one block for each attribute, the signature of the bare
declaration, and one clause for each type parameter with conditions. So in `csharp` conditions
change nothing before the clauses. -/
theorem tokens_render (declaration : Declaration) (dialect : Dialect)
    (written : render declaration dialect ≠ placeholder) :
    (render declaration dialect).tokens =
        declaration.attributes.flatMap (attributeTokens dialect) ++
          (render (declaration.bare dialect) dialect).tokens ++
          clauseTokens dialect declaration ∧
      (dialect = .csharp →
        (render declaration dialect).tokens =
          (render declaration.unconstrained dialect).tokens ++
            clauseTokens dialect declaration) := by
  obtain ⟨expressible, body, found⟩ := exists_body?_of_ne_placeholder written
  have whole := tokens_render_of_body? expressible found
  constructor
  · have middle := tokens_render_of_body?
      ((isInexpressible_bare dialect declaration).trans expressible)
      ((body?_bare dialect declaration).trans found)
    rw [attributes_bare, clauseTokens_bare, List.flatMap_nil, List.nil_append,
      List.append_nil] at middle
    rw [whole, middle]
  · rintro rfl
    have front := @tokens_render_of_body? .csharp declaration.unconstrained body expressible
      ((body?_unconstrained declaration).trans found)
    rw [clauseTokens_unconstrained, List.append_nil] at front
    rw [whole, front]
    rfl

theorem tokens_render_two_conditions :
    let attr : Attribute := ⟨"Obsolete", [⟨none, "true"⟩]⟩
    let compared : TypeParameter := ⟨"T", [⟨.specialWord, "Class"⟩, ⟨.namedType, "System.Int32"⟩]⟩
    let sort : Declaration :=
      { name := "Sort", kind := .method [], memberType := "void", attributes := [attr],
        typeParameters := [compared, ⟨"U", []⟩], parameters := [{ name := "x", type := "T" }] }
    render sort .csharp ≠ placeholder ∧ render sort .visualBasic ≠ placeholder ∧
      (render sort .csharp).tokens =
        attributeTokens .csharp attr ++ (render (sort.bare .csharp) .csharp).tokens ++
          whereTokens compared ∧
      (render sort .visualBasic).tokens =
        attributeTokens .visualBasic attr ++
          (render (sort.bare .visualBasic) .visualBasic).tokens := by
  intro attr compared sort
  have curly : render sort .csharp ≠ placeholder := by decide
  have verbose : render sort .visualBasic ≠ placeholder := by decide
  have clauses : clauseTokens .csharp sort = whereTokens compared := List.append_nil _
  refine ⟨curly, verbose, ?_, ?_⟩
  · have whole := (tokens_render sort .csharp curly).1
    rw [clauses] at whole
    exact whole
  · exact ((tokens_render sort .visualBasic verbose).1).trans (List.append_nil _)

end Signature

end DocPreview
