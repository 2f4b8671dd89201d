import DocPreview.Proofs.Signature.Layout

/-!
# Pieces without names of parameters and without parentheses

Most parts of a signature write neither the name of a parameter nor a parenthesis, whatever the
declaration says. Attributes and type parameters have parentheses only around their own lists.
-/

set_option autoImplicit false

namespace DocPreview

def Token.isParenthesis (token : Token) : Bool :=
  token.tokenClass == .punctuation && (token.text == "(" || token.text == ")")

def Token.isParameterName (token : Token) : Bool :=
  token.tokenClass == .parameter

def chosenTokens (chosen : Token → Bool) (pieces : List Piece) : List Token :=
  (pieces.filterMap Piece.token?).filter chosen

@[simp] theorem chosenTokens_nil (chosen : Token → Bool) : chosenTokens chosen [] = [] := rfl

@[simp] theorem chosenTokens_append (chosen : Token → Bool) (left right : List Piece) :
    chosenTokens chosen (left ++ right) =
      chosenTokens chosen left ++ chosenTokens chosen right := by
  simp only [chosenTokens, List.filterMap_append, List.filter_append]

theorem chosenTokens_flatMap {α : Type} (chosen : Token → Bool) (block : α → List Piece)
    (items : List α) :
    chosenTokens chosen (items.flatMap block) =
      items.flatMap fun item => chosenTokens chosen (block item) := by
  induction items with
  | nil => rfl
  | cons item items ih => simp only [List.flatMap_cons, chosenTokens_append, ih]

/-- The pieces write neither a parameter name nor a parenthesis. -/
structure Quiet (pieces : List Piece) : Prop where
  names : chosenTokens Token.isParameterName pieces = []
  parentheses : chosenTokens Token.isParenthesis pieces = []

@[simp] theorem quiet_nil : Quiet [] := ⟨rfl, rfl⟩

@[simp] theorem quiet_append {left right : List Piece} :
    Quiet (left ++ right) ↔ Quiet left ∧ Quiet right := by
  constructor
  · intro quiet
    obtain ⟨names, parentheses⟩ := quiet
    rw [chosenTokens_append, List.append_eq_nil_iff] at names parentheses
    exact ⟨⟨names.1, parentheses.1⟩, ⟨names.2, parentheses.2⟩⟩
  · rintro ⟨first, second⟩
    refine ⟨?_, ?_⟩
    · rw [chosenTokens_append, first.names, second.names, List.append_nil]
    · rw [chosenTokens_append, first.parentheses, second.parentheses, List.append_nil]

theorem quiet_flatMap {α : Type} {block : α → List Piece} (quiet : ∀ item, Quiet (block item))
    (items : List α) : Quiet (items.flatMap block) := by
  induction items with
  | nil => exact quiet_nil
  | cons item items ih => exact quiet_append.mpr ⟨quiet item, ih⟩

theorem quiet_word {tokenClass : TokenClass} (text : String) (other : tokenClass ≠ .parameter)
    (word : tokenClass ≠ .punctuation) : Quiet [.word tokenClass text] := by
  constructor
  · by_cases empty : text = ""
    · simp [chosenTokens, Piece.token?, empty]
    · simp [chosenTokens, Piece.token?, empty, Token.isParameterName, other]
  · by_cases empty : text = ""
    · simp [chosenTokens, Piece.token?, empty]
    · simp [chosenTokens, Piece.token?, empty, Token.isParenthesis, word]

/-- The pieces are the given ones with quiet pieces around them. -/
def Framed (middle pieces : List Piece) : Prop :=
  ∃ front back, pieces = front ++ middle ++ back ∧ Quiet front ∧ Quiet back

theorem framed_of_quiet {pieces : List Piece} (quiet : Quiet pieces) : Framed [] pieces :=
  ⟨pieces, [], by rw [List.append_nil, List.append_nil], quiet, quiet_nil⟩

theorem Framed.names {middle pieces : List Piece} (framed : Framed middle pieces) :
    chosenTokens Token.isParameterName pieces = chosenTokens Token.isParameterName middle := by
  obtain ⟨front, back, rfl, quietFront, quietBack⟩ := framed
  rw [chosenTokens_append, chosenTokens_append, quietFront.names, quietBack.names,
    List.nil_append, List.append_nil]

namespace Signature

variable (dialect : Dialect)

/-! ## What is quiet -/

@[simp] theorem quiet_keyword (word : Keyword) : Quiet (keyword dialect word) := by
  unfold keyword
  split
  · exact quiet_word _ (by decide) (by decide)
  · exact quiet_nil

@[simp] theorem quiet_keywordIf (condition : Bool) (word : Keyword) :
    Quiet (keywordIf dialect condition word) := by
  unfold keywordIf
  split
  · exact quiet_keyword dialect word
  · exact quiet_nil

@[simp] theorem quiet_typeName (type : String) : Quiet (typeName dialect type) :=
  quiet_word _ (by decide) (by decide)

@[simp] theorem quiet_identifier (name : String) : Quiet (identifier name) :=
  quiet_word _ (by decide) (by decide)

@[simp] theorem quiet_reservedName (word : Keyword) : Quiet (reservedName dialect word) := by
  unfold reservedName
  split
  · exact quiet_identifier _
  · exact quiet_nil

@[simp] theorem quiet_asClause (type : String) : Quiet (asClause dialect type) := by
  cases dialect with
  | csharp => exact quiet_nil
  | visualBasic => simp [asClause]

theorem quiet_commaSeparated {lists : List (List Piece)} (quiet : ∀ list ∈ lists, Quiet list) :
    Quiet (commaSeparated lists) := by
  induction lists with
  | nil => exact quiet_nil
  | cons list lists ih =>
      have first : Quiet list := quiet list List.mem_cons_self
      have rest := ih fun later member => quiet later (List.mem_cons_of_mem _ member)
      cases lists with
      | nil => exact first
      | cons next lists =>
          have comma : Quiet (punctuation ",") := ⟨rfl, rfl⟩
          simp only [commaSeparated, quiet_append]
          exact ⟨⟨first, comma⟩, rest⟩

@[simp] theorem quiet_visibility (declaration : Declaration) :
    Quiet (visibility dialect declaration) :=
  quiet_keyword dialect _

@[simp] theorem quiet_memberVisibility (declaration : Declaration) :
    Quiet (memberVisibility dialect declaration) := by
  unfold memberVisibility
  split
  · exact quiet_nil
  · exact quiet_visibility dialect declaration

@[simp] theorem quiet_memberContract (modifiers : Modifiers) :
    Quiet (memberContract dialect modifiers) := by
  simp [memberContract]

@[simp] theorem quiet_resultOrVoid (type : String) : Quiet (resultOrVoid dialect type) := by
  unfold resultOrVoid
  split
  · exact quiet_keyword dialect _
  · cases dialect with
    | csharp => exact quiet_typeName _ _
    | visualBasic => exact quiet_keyword _ _

@[simp] theorem quiet_resultClause (type : String) : Quiet (resultClause dialect type) := by
  unfold resultClause
  split
  · exact quiet_nil
  · exact quiet_asClause dialect type

@[simp] theorem quiet_namedValue (name type : String) : Quiet (namedValue dialect name type) := by
  cases dialect <;> simp [namedValue]

@[simp] theorem quiet_classWords (modifiers : Modifiers) :
    Quiet (classWords dialect modifiers) := by
  unfold classWords
  split <;> simp

@[simp] theorem quiet_operatorName (target symbol : String) (conversion : Option Conversion) :
    Quiet (operatorName dialect target symbol conversion) := by
  cases conversion <;> cases dialect <;> simp [operatorName]

@[simp] theorem quiet_implementsClause (implemented : List String) :
    Quiet (implementsClause dialect implemented) := by
  unfold implementsClause
  split
  · exact quiet_nil
  · exact quiet_nil
  · refine quiet_append.mpr ⟨quiet_keyword _ _, quiet_commaSeparated fun list member => ?_⟩
    obtain ⟨name, _, rfl⟩ := List.mem_map.mp member
    exact quiet_word name (by decide) (by decide)

@[simp] theorem quiet_accessors (words : List Keyword) : Quiet (accessors dialect words) := by
  have blank : Quiet space := ⟨rfl, rfl⟩
  cases dialect with
  | csharp =>
      have opening : Quiet (punctuation "\x7b") := ⟨rfl, rfl⟩
      have closing : Quiet (punctuation "\x7d") := ⟨rfl, rfl⟩
      have semicolon : Quiet (punctuation ";") := ⟨rfl, rfl⟩
      have each : ∀ word, Quiet (space ++ keyword .csharp word ++ punctuation ";") := by
        intro word
        simp [blank, semicolon]
      simp only [accessors, quiet_append]
      exact ⟨⟨⟨⟨blank, opening⟩, quiet_flatMap each words⟩, blank⟩, closing⟩
  | visualBasic =>
      have each : ∀ word, Quiet (lineBreak ++ indent ++ keyword .visualBasic word) := by
        intro word
        exact quiet_append.mpr ⟨⟨rfl, rfl⟩, quiet_keyword _ _⟩
      exact quiet_flatMap each words

theorem quiet_constraintName (condition : Constraint) :
    Quiet (constraintName dialect condition) := by
  unfold constraintName
  cases condition.kind with
  | namedType => exact quiet_typeName _ _
  | specialWord => exact quiet_word _ (by decide) (by decide)

theorem quiet_constraintList (conditions : List Constraint) :
    Quiet (constraintList dialect conditions) := by
  refine quiet_commaSeparated fun list member => ?_
  obtain ⟨condition, _, rfl⟩ := List.mem_map.mp member
  exact quiet_constraintName dialect condition

theorem quiet_whereClauses (declaration : Declaration) :
    Quiet (whereClauses dialect declaration) := by
  have each : ∀ parameter : TypeParameter, Quiet (whereClause .csharp parameter) := by
    intro parameter
    unfold whereClause
    split
    · exact quiet_nil
    · have broken : Quiet lineBreak := ⟨rfl, rfl⟩
      have colon : Quiet (infixMark ":") := ⟨rfl, rfl⟩
      have named : Quiet [.word .typeName parameter.name] := quiet_word _ (by decide) (by decide)
      simp only [quiet_append]
      exact ⟨⟨⟨⟨broken, quiet_keyword _ _⟩, named⟩, colon⟩, quiet_constraintList _ _⟩
  cases dialect with
  | visualBasic => exact quiet_nil
  | csharp =>
      simp only [whereClauses]
      split
      · exact quiet_flatMap each _
      · exact quiet_nil

theorem quiet_typeParameter (parameter : TypeParameter) :
    Quiet (typeParameter dialect parameter) := by
  have inline : Quiet (inlineConstraints dialect parameter.constraints) := by
    unfold inlineConstraints
    split
    · exact quiet_nil
    · exact quiet_nil
    · exact quiet_append.mpr ⟨quiet_keyword _ _, quiet_constraintName _ _⟩
    · have opening : Quiet (space ++ punctuation "\x7b") := ⟨rfl, rfl⟩
      have closing : Quiet (punctuation "\x7d") := ⟨rfl, rfl⟩
      rw [quiet_append] at opening
      simp only [quiet_append]
      exact ⟨⟨⟨⟨quiet_keyword _ _, opening.1⟩, opening.2⟩, quiet_constraintList _ _⟩, closing⟩
  exact quiet_append.mpr ⟨quiet_word _ (by decide) (by decide), inline⟩

theorem quiet_typeParameters (parameters : List TypeParameter) :
    Quiet (commaSeparated (parameters.map (typeParameter dialect))) := by
  refine quiet_commaSeparated fun list member => ?_
  obtain ⟨parameter, _, rfl⟩ := List.mem_map.mp member
  exact quiet_typeParameter dialect parameter

/-! ## Parentheses of type parameters -/

theorem typeParameterList_names (parameters : List TypeParameter) :
    chosenTokens Token.isParameterName (typeParameterList dialect parameters) = [] := by
  have inner := (quiet_typeParameters dialect parameters).names
  unfold typeParameterList
  split
  · rfl
  · cases dialect with
    | csharp =>
        simp only [chosenTokens_append, inner]
        rfl
    | visualBasic =>
        simp only [chosenTokens_append, inner, (quiet_keyword .visualBasic .ofWord).names]
        rfl

theorem typeParameterList_parentheses (parameters : List TypeParameter) :
    chosenTokens Token.isParenthesis (typeParameterList .visualBasic parameters) =
      if parameters.isEmpty then [] else [⟨.punctuation, "("⟩, ⟨.punctuation, ")"⟩] := by
  unfold typeParameterList
  split
  · rfl
  · simp only [chosenTokens_append, (quiet_typeParameters .visualBasic parameters).parentheses,
      (quiet_keyword .visualBasic .ofWord).parentheses]
    rfl

/-! ## Attributes -/

theorem quiet_attributeArguments (arguments : List AttributeArgument) :
    Quiet (commaSeparated (arguments.map (attributeArgument dialect))) := by
  refine quiet_commaSeparated fun list member => ?_
  obtain ⟨argument, _, rfl⟩ := List.mem_map.mp member
  unfold attributeArgument
  refine quiet_append.mpr ⟨?_, quiet_word _ (by decide) (by decide)⟩
  cases argument.key with
  | none => exact quiet_nil
  | some key =>
      refine quiet_append.mpr ⟨quiet_word _ (by decide) (by decide), ?_⟩
      cases dialect with
      | csharp => exact ⟨rfl, rfl⟩
      | visualBasic => exact ⟨rfl, rfl⟩

/-- An attribute block has no parentheses but those of its arguments. -/
theorem attributeBlock_chosen (attr : Attribute) :
    chosenTokens Token.isParameterName (attributeBlock dialect attr) = [] ∧
      chosenTokens Token.isParenthesis (attributeBlock dialect attr) =
        if attr.arguments.isEmpty then []
        else [⟨.punctuation, "("⟩, ⟨.punctuation, ")"⟩] := by
  have named : Quiet [.word .reference attr.name] := quiet_word _ (by decide) (by decide)
  have inner := quiet_attributeArguments dialect attr.arguments
  unfold attributeBlock
  cases attr.arguments.isEmpty with
  | true =>
      cases dialect with
      | csharp => simp only [↓reduceIte, chosenTokens_append, named.1, named.2]; exact ⟨rfl, rfl⟩
      | visualBasic =>
          simp only [↓reduceIte, chosenTokens_append, named.1, named.2]; exact ⟨rfl, rfl⟩
  | false =>
      cases dialect with
      | csharp =>
          simp only [Bool.false_eq_true, ↓reduceIte, chosenTokens_append, named.1, named.2,
            inner.1, inner.2]
          exact ⟨rfl, rfl⟩
      | visualBasic =>
          simp only [Bool.false_eq_true, ↓reduceIte, chosenTokens_append, named.1, named.2,
            inner.1, inner.2]
          exact ⟨rfl, rfl⟩

end Signature

end DocPreview
