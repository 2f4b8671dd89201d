import DocPreview.Proofs.Signature.Phrases

/-!
# What a whole signature is made of

Every kind of declaration is written as one phrase. Only the accessors of a property in
`visualBasic` are apart: they begin lines that no mark announces, behind all the rest. So every
token of a signature is a word or one of a few marks.
-/

set_option autoImplicit false

namespace DocPreview

namespace Signature

variable {dialect : Dialect}

/-! ## Kinds -/

theorem phrase_typeDeclaration (declaration : Declaration) {kindWords : List Piece}
    (words : Words kindWords) :
    Phrase dialect (typeDeclaration dialect declaration kindWords) := by
  refine .append (Words.phrase ?_) (phrase_typeParameterList declaration.typeParameters)
  cases dialect <;> simp [words]

theorem phrase_enumeration (declaration : Declaration) (underlyingType : String) :
    Phrase dialect (enumeration dialect declaration underlyingType) := by
  refine .append (Words.phrase (by simp)) ?_
  split
  · exact .nil
  · cases dialect with
    | csharp => exact .append (phrase_infixMark (by decide)) (words_typeName _).phrase
    | visualBasic => exact (words_asClause _).phrase

theorem phrase_delegate (declaration : Declaration) :
    Phrase dialect (delegate dialect declaration) := by
  have named : Phrase dialect (visibility dialect declaration ++
      memberContract dialect declaration.modifiers ++ keyword dialect .delegateWord ++
        resultOrVoid dialect declaration.memberType ++ identifier declaration.name) :=
    Words.phrase (by simp)
  have generic := named.append (phrase_typeParameterList declaration.typeParameters)
  have called := generic.append
    (phrase_parameterList (by decide : ("(", ")") ∈ bracketPairs) declaration.parameters)
  exact called.append (words_resultClause _).phrase

theorem phrase_constructor (declaration : Declaration) :
    Phrase dialect (constructor dialect declaration) := by
  refine .append (Words.phrase ?_) (phrase_parameterList (by decide) _)
  cases dialect <;> cases declaration.modifiers.isStatic <;> simp

theorem phrase_destructor (declaration : Declaration) :
    Phrase dialect (destructor dialect declaration) := by
  refine .append (Words.phrase ?_) (phrase_parameterList (by decide) _)
  cases dialect <;> simp

theorem phrase_operator (declaration : Declaration) (symbol : String)
    (conversion : Option Conversion) :
    Phrase dialect (operator dialect declaration symbol conversion) := by
  refine .append (.append (Words.phrase ?_) (phrase_parameterList (by decide) _))
    (words_asClause _).phrase
  simp

theorem phrase_implementsClause (implemented : List String) :
    Phrase dialect (implementsClause dialect implemented) := by
  unfold implementsClause
  split
  · exact .nil
  · exact .nil
  · refine .append (words_keyword _).phrase (phrase_commaSeparated fun list member => ?_)
    obtain ⟨name, _, rfl⟩ := List.mem_map.mp member
    exact .word rfl

theorem phrase_method (declaration : Declaration) (implemented : List String) :
    Phrase dialect (method dialect declaration implemented) := by
  have named : Phrase dialect ((if dialect = .csharp ∧ implemented ≠ [] then []
      else memberVisibility dialect declaration) ++
        memberContract dialect declaration.modifiers ++
        resultOrVoid dialect declaration.memberType ++ identifier declaration.name) := by
    refine Words.phrase ?_
    split <;> simp
  have generic := named.append (phrase_typeParameterList declaration.typeParameters)
  have called := generic.append
    (phrase_parameterList (by decide : ("(", ")") ∈ bracketPairs) declaration.parameters)
  exact (called.append (words_resultClause _).phrase).append (phrase_implementsClause implemented)

theorem phrase_event (declaration : Declaration) :
    Phrase dialect (event dialect declaration) :=
  Words.phrase (by simp [event])

theorem phrase_field (declaration : Declaration) : Phrase dialect (field dialect declaration) := by
  refine Words.phrase ?_
  cases isConst : declaration.modifiers.isConst <;> simp [field, isConst]

/-! ## Properties and their accessors -/

theorem phrase_accessors (words : List Keyword)
    (spelled : ∀ word ∈ words, startsShown (keyword .csharp word)) :
    Phrase .csharp (accessors .csharp words) := by
  have inner : Phrase .csharp
      (words.flatMap fun word => space ++ keyword .csharp word ++ punctuation ";") := by
    induction words with
    | nil => exact .nil
    | cons word words ih =>
        have first : Phrase .csharp (space ++ keyword .csharp word ++ punctuation ";") :=
          .append (.spaced (spelled word List.mem_cons_self) (words_keyword _).phrase)
            (.separator (by decide))
        exact .append first (ih fun later member => spelled later (List.mem_cons_of_mem _ member))
  have braces : Phrase .csharp (punctuation "\x7b" ++ _ ++ (space ++ punctuation "\x7d")) :=
    .bracketed (by decide) (.inr rfl) inner
  simpa only [accessors, List.append_assoc] using Phrase.spaced rfl braces

def accessorsOf : DeclarationKind → List Keyword
  | .property hasGetter hasSetter => accessorWords hasGetter hasSetter
  | _ => []

def accessorLines (dialect : Dialect) (kind : DeclarationKind) : List Piece :=
  match dialect with
  | .csharp => []
  | .visualBasic => accessors .visualBasic (accessorsOf kind)

theorem accessorLines_of_accessorsOf {kind : DeclarationKind} (none : accessorsOf kind = []) :
    accessorLines dialect kind = [] := by
  cases dialect with
  | csharp => rfl
  | visualBasic => rw [accessorLines, none]; rfl

/-- The tokens of one accessor line. No mark announces it. -/
def accessorLine (word : Keyword) : List Token :=
  [⟨.lineBreak, "\n"⟩, ⟨.indent, "\t"⟩] ++
    ((word.spelling? .visualBasic).map (Token.mk .keyword)).toList

theorem layOut_accessorLines (kind : DeclarationKind) (spaced : Bool) :
    layOut spaced (accessorLines .visualBasic kind) = (accessorsOf kind).flatMap accessorLine := by
  cases kind with
  | property hasGetter hasSetter => cases hasGetter <;> cases hasSetter <;> rfl
  | _ => rfl

theorem accessorLines_classes (words : List Keyword) :
    ∀ token ∈ words.flatMap accessorLine, token.tokenClass ∈ [.lineBreak, .indent, .keyword] := by
  have line : ∀ word, ∀ token ∈ accessorLine word,
      token.tokenClass ∈ [.lineBreak, .indent, .keyword] := by
    intro word
    unfold accessorLine
    cases word.spelling? .visualBasic <;> simp
  intro token member
  obtain ⟨word, _, inLine⟩ := List.mem_flatMap.mp member
  exact line word token inLine

theorem layOut_accessorLines_classes (dialect : Dialect) (kind : DeclarationKind)
    (spaced : Bool) :
    ∀ token ∈ layOut spaced (accessorLines dialect kind),
      token.tokenClass ∈ [.lineBreak, .indent, .keyword] := by
  cases dialect with
  | csharp => exact fun _ member => absurd member List.not_mem_nil
  | visualBasic =>
      rw [layOut_accessorLines]
      exact accessorLines_classes (accessorsOf kind)

theorem phrase_property_csharp (declaration : Declaration) (hasGetter hasSetter : Bool) :
    Phrase .csharp (property .csharp declaration hasGetter hasSetter) := by
  have typed : Phrase .csharp (memberVisibility .csharp declaration ++
      memberContract .csharp declaration.modifiers ++
        typeName .csharp declaration.memberType) :=
    Words.phrase (by simp)
  have named : Phrase .csharp (if !declaration.parameters.isEmpty then
      keyword .csharp .thisWord ++ parameterList .csharp "[" "]" declaration.parameters
        else identifier declaration.name) := by
    split
    · exact .append (words_keyword _).phrase (phrase_parameterList (by decide) _)
    · exact (words_identifier _).phrase
  have spelled : ∀ word ∈ accessorWords hasGetter hasSetter,
      startsShown (keyword .csharp word) := by
    cases hasGetter <;> cases hasSetter <;> decide
  exact (typed.append named).append (phrase_accessors _ spelled)

theorem property_visualBasic (declaration : Declaration) (hasGetter hasSetter : Bool) :
    ∃ main, Phrase .visualBasic main ∧
      property .visualBasic declaration hasGetter hasSetter =
        main ++ accessorLines .visualBasic (.property hasGetter hasSetter) := by
  refine ⟨_, .append (.append (Words.phrase ?_) ?_) (words_asClause _).phrase, rfl⟩
  · simp
  · split
    · exact phrase_parameterList (by decide) _
    · exact .nil

/-! ## The whole signature -/

/-- Whatever the kind, accessor lines stand behind all the rest. -/
theorem body?_phrase {declaration : Declaration} {body : List Piece}
    (found : body? dialect declaration = some body) :
    ∃ main, Phrase dialect main ∧ body = main ++ accessorLines dialect declaration.kind := by
  have plain : ∀ {pieces}, Phrase dialect pieces → accessorsOf declaration.kind = [] →
      ∃ main, Phrase dialect main ∧
        pieces = main ++ accessorLines dialect declaration.kind := by
    intro pieces phrase none
    exact ⟨pieces, phrase, by rw [accessorLines_of_accessorsOf none, List.append_nil]⟩
  unfold body? at found
  cases kind : declaration.kind <;> rw [kind] at found plain <;> cases found
  case classType => exact plain (phrase_typeDeclaration _ (words_classWords _)) rfl
  case interfaceType => exact plain (phrase_typeDeclaration _ (words_keyword _)) rfl
  case structType => exact plain (phrase_typeDeclaration _ (words_keyword _)) rfl
  case enumType underlyingType => exact plain (phrase_enumeration _ _) rfl
  case delegate => exact plain (phrase_delegate _) rfl
  case constructor => exact plain (phrase_constructor _) rfl
  case destructor => exact plain (phrase_destructor _) rfl
  case operator symbol conversion => exact plain (phrase_operator _ _ _) rfl
  case method implemented => exact plain (phrase_method _ _) rfl
  case event => exact plain (phrase_event _) rfl
  case field => exact plain (phrase_field _) rfl
  case property hasGetter hasSetter =>
    cases dialect with
    | csharp =>
        exact ⟨_, phrase_property_csharp declaration hasGetter hasSetter,
          (List.append_nil _).symm⟩
    | visualBasic => exact property_visualBasic declaration hasGetter hasSetter

/-- A signature that is written at all is one phrase and the accessor lines behind it. -/
theorem exists_phrase {declaration : Declaration} {body : List Piece}
    (expressible : isInexpressible dialect declaration = false)
    (found : body? dialect declaration = some body) :
    ∃ main, Phrase dialect main ∧
      render declaration dialect =
        ofPieces (main ++ accessorLines dialect declaration.kind) := by
  obtain ⟨main, phrase, rfl⟩ := body?_phrase found
  have attributes : Phrase dialect (declaration.attributes.flatMap (attributeBlock dialect)) :=
    .flatMap phrase_attributeBlock _
  rw [render_eq_ofPieces expressible found]
  cases dialect with
  | csharp =>
      refine ⟨_, (attributes.append phrase).append (phrase_whereClauses declaration), ?_⟩
      simp only [accessorLines, List.append_nil]
  | visualBasic =>
      refine ⟨_, attributes.append phrase, ?_⟩
      simp only [whereClauses, List.append_nil, List.append_assoc]

/-! ## The tokens of a signature -/

/-- The tokens that are written the same in every signature of this dialect. -/
def markTokens (dialect : Dialect) : List Token :=
  layOut false (continuation dialect) ++
    [⟨.lineBreak, "\n"⟩, ⟨.indent, "\t"⟩, ⟨.space, " "⟩] ++
    separators.map (⟨.punctuation, ·⟩) ++
    bracketPairs.flatMap fun (opening, closing) =>
      [⟨.punctuation, opening⟩, ⟨.punctuation, closing⟩]

/-- Whether a piece is a word or a mark that every signature shares. -/
def isKnown (dialect : Dialect) : Piece → Bool
  | .word tokenClass _ => tokenClass.isWord
  | .mark tokenClass text => Token.mk tokenClass text ∈ markTokens dialect

theorem isKnown_of_isWord {piece : Piece} (isWord : piece.isWord) : isKnown dialect piece := by
  cases piece with
  | word tokenClass text => exact isWord
  | mark tokenClass text => cases isWord

theorem isKnown_separator {text : String} (separator : text ∈ separators) :
    isKnown dialect (.mark .punctuation text) := by
  simp [isKnown, markTokens, separator]

theorem isKnown_bracket (dialect : Dialect) {opening closing : String}
    (pair : (opening, closing) ∈ bracketPairs) :
    isKnown dialect (.mark .punctuation opening) ∧
      isKnown dialect (.mark .punctuation closing) := by
  simp only [isKnown, markTokens, List.mem_append, List.mem_flatMap, decide_eq_true_eq]
  exact ⟨.inr ⟨_, pair, by simp⟩, .inr ⟨_, pair, by simp⟩⟩

theorem Phrase.known {pieces : List Piece} (phrase : Phrase dialect pieces) :
    ∀ piece ∈ pieces, isKnown dialect piece := by
  have blank : isKnown dialect (.mark .space " ") := by cases dialect <;> decide
  induction phrase with
  | nil => exact fun _ member => absurd member List.not_mem_nil
  | append _ _ leftIH rightIH => exact List.forall_mem_append.mpr ⟨leftIH, rightIH⟩
  | word isWord => exact List.forall_mem_singleton.mpr isWord
  | separator separator => exact List.forall_mem_singleton.mpr (isKnown_separator separator)
  | spaced _ _ ih => exact List.forall_mem_cons.mpr ⟨blank, ih⟩
  | wrapped => cases dialect <;> decide
  | indent => cases dialect <;> decide
  | bracketed pair closed _ ih =>
      obtain ⟨opening, closing⟩ := isKnown_bracket dialect pair
      refine List.forall_mem_append.mpr ⟨List.forall_mem_cons.mpr ⟨opening, ih⟩, ?_⟩
      obtain rfl | rfl := closed
      · exact List.forall_mem_singleton.mpr closing
      · exact List.forall_mem_cons.mpr ⟨blank, List.forall_mem_singleton.mpr closing⟩

theorem known_accessorLines (kind : DeclarationKind) :
    ∀ piece ∈ accessorLines dialect kind, isKnown dialect piece := by
  cases dialect with
  | csharp => exact fun _ member => absurd member List.not_mem_nil
  | visualBasic =>
      have opening : ∀ piece ∈ lineBreak ++ indent, isKnown .visualBasic piece := by decide
      intro piece member
      obtain ⟨word, _, line⟩ := List.mem_flatMap.mp member
      exact (List.mem_append.mp line).elim (opening piece) fun accessor =>
        isKnown_of_isWord (words_keyword word piece accessor)

theorem token_of_isKnown {piece : Piece} (known : isKnown dialect piece) {token : Token}
    (written : piece.token? = some token) :
    token.isWord ∧ token.text ≠ "" ∨ token ∈ markTokens dialect := by
  cases piece with
  | word tokenClass text =>
      by_cases empty : text.isEmpty
      · simp [Piece.token?, empty] at written
      · simp only [Piece.token?, empty, Bool.false_eq_true, ↓reduceIte, Option.some.injEq]
          at written
        subst written
        exact .inl ⟨known, by simpa using empty⟩
  | mark tokenClass text =>
      cases written
      exact .inr (of_decide_eq_true known)

/-- Every token of a signature that is written at all is a word that is not empty, or one that
every signature shares. -/
theorem mem_tokens_render {declaration : Declaration} {body : List Piece}
    (expressible : isInexpressible dialect declaration = false)
    (found : body? dialect declaration = some body) {token : Token}
    (member : token ∈ (render declaration dialect).tokens) :
    token.isWord ∧ token.text ≠ "" ∨ token ∈ markTokens dialect := by
  obtain ⟨main, phrase, signature⟩ := exists_phrase expressible found
  rw [signature] at member
  obtain rfl | ⟨piece, present, shown⟩ := mem_layOut member
  · exact .inr (by cases dialect <;> decide)
  · have known : isKnown dialect piece :=
      (List.mem_append.mp present).elim (phrase.known piece)
        (known_accessorLines declaration.kind piece)
    exact token_of_isKnown known shown

/-- The placeholder stands only for a declaration without syntax in the dialect. -/
theorem render_eq_placeholder_iff {declaration : Declaration} :
    render declaration dialect = placeholder ↔
      isInexpressible dialect declaration ∨ body? dialect declaration = none := by
  have noMark : Token.mk .placeholder unsupported ∉ markTokens dialect := by
    cases dialect <;> decide
  constructor
  · intro same
    cases inexpressible : isInexpressible dialect declaration with
    | true => exact .inl rfl
    | false =>
        cases found : body? dialect declaration with
        | none => exact .inr rfl
        | some body =>
            have member : Token.mk .placeholder unsupported ∈
                (render declaration dialect).tokens := by
              rw [same]
              exact List.mem_singleton.mpr rfl
            obtain ⟨isWord, -⟩ | mark := mem_tokens_render inexpressible found member
            · cases isWord
            · exact absurd mark noMark
  · rintro (inexpressible | absent)
    · simp only [render, inexpressible, ↓reduceIte]
    · simp only [render, absent, ite_self]

end Signature

end DocPreview
