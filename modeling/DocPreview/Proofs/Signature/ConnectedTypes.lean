import DocPreview.Proofs.Signature.Connectives

/-!
# Which signatures leave no connective dangling

Of the types that a connective announces, only the result of a method or a delegate and the type
under an enumeration are looked at before the connective is written. All others must be given, or
the connective is written with nothing to connect.
-/

set_option autoImplicit false

namespace DocPreview

/-- A special constraint that is spelled like the connective. -/
def Constraint.SpellsAs (condition : Constraint) : Prop :=
  condition.kind = .specialWord ∧ trimmed condition.name = "As"

namespace TypeParameter

/-- The constraints that stand right behind a connective. Several are in braces in `visualBasic`. -/
def connected (dialect : Dialect) (parameter : TypeParameter) : List Constraint :=
  match dialect, parameter.constraints with
  | .csharp, constraints => constraints.take 1
  | .visualBasic, [condition] => [condition]
  | .visualBasic, _ => []

def IsConnected (dialect : Dialect) (parameter : TypeParameter) : Prop :=
  (∀ condition ∈ parameter.connected dialect, isBlankText condition.name = false) ∧
    ∀ condition ∈ parameter.constraints, ¬condition.SpellsAs

end TypeParameter

/-- The type is given if a connective is written for it. -/
def TypeGiven (dialect : Dialect) (type : String) : Prop :=
  dialect = .visualBasic → isBlankText type = false

namespace Declaration

/-- The types behind a connective of `visualBasic` that are not looked at before. -/
def connectedTypes (declaration : Declaration) : List String :=
  match declaration.kind with
  | .operator _ _ | .property _ _ => declaration.parameterTypes ++ [declaration.memberType]
  | .delegate | .constructor | .destructor | .method _ => declaration.parameterTypes
  | .event => if declaration.parameters.isEmpty then [declaration.memberType] else []
  | .field => [declaration.memberType]
  | .classType | .interfaceType | .structType | .enumType _ | .other _ => []

def constraintWords (dialect : Dialect) (declaration : Declaration) : List String :=
  ((declaration.typeParameters.flatMap (·.constraints)).filter (·.kind == .specialWord)).map
    (Signature.specialWord dialect ·.name)

structure IsConnected (dialect : Dialect) (declaration : Declaration) : Prop where
  types : ∀ type ∈ declaration.connectedTypes, TypeGiven dialect type
  constraints : declaration.kind.listsTypeParameters = true →
    ∀ parameter ∈ declaration.typeParameters, parameter.IsConnected dialect

end Declaration

section

variable {dialect : Dialect} {words : List String} {rest : List Piece}

theorem tiedBefore_of_unconnected {pieces : List Piece} (unconnected : Unconnected pieces) :
    TiedBefore dialect words rest pieces := by
  induction pieces with
  | nil => trivial
  | cons piece pieces ih =>
      obtain ⟨first, others⟩ := List.forall_mem_cons.mp unconnected
      refine ⟨fun token written connective => ?_, ih others⟩
      rw [first token written] at connective
      cases connective

theorem tiedBefore_append_iff_right {left : List Piece} (plain : Unconnected left)
    (right : List Piece) :
    TiedBefore dialect words rest (left ++ right) ↔ TiedBefore dialect words rest right := by
  rw [tiedBefore_append, and_iff_right (tiedBefore_of_unconnected plain)]

theorem tiedBefore_append_iff_left (left : List Piece) {right : List Piece}
    (plain : Unconnected right) :
    TiedBefore dialect words rest (left ++ right) ↔
      TiedBefore dialect words (right ++ rest) left := by
  rw [tiedBefore_append, and_iff_left (tiedBefore_of_unconnected plain)]

/-- What is written behind cannot be taken for a target. -/
def Stops (dialect : Dialect) (words : List String) (rest : List Piece) : Prop :=
  ¬BeginsTarget dialect words (layOut true rest)

theorem stops_nil : Stops dialect words [] := by
  rintro ⟨next, rest, absent, -⟩
  cases absent

theorem stops_mark_cons {tokenClass : TokenClass} (text : String) (pieces : List Piece)
    (shown : tokenClass ≠ .space) : Stops dialect words (.mark tokenClass text :: pieces) := by
  rintro ⟨next, rest, same, -⟩
  rw [layOut, List.cons.injEq, Token.mk.injEq] at same
  exact shown same.1.1

theorem stops_infixMark {text : String} (pieces : List Piece) (other : text ≠ "\x7b") :
    Stops dialect words (Signature.infixMark text ++ pieces) := by
  rintro ⟨next, rest, same, target⟩
  obtain rfl : Token.mk .punctuation text = next := by
    simp only [Signature.infixMark, Signature.space, Signature.punctuation, List.cons_append,
      List.nil_append, layOut, List.cons.injEq] at same
    exact same.2.1
  simp [Token.isTarget, other] at target

/-- A target is reached over nothing but the one word. -/
theorem beginsTarget_word {tokenClass : TokenClass} {text : String} (shown : text ≠ "") :
    BeginsTarget dialect words (layOut true (.word tokenClass text :: rest)) ↔
      Token.isTarget dialect words ⟨tokenClass, text⟩ = true := by
  simp [layOut, shown, BeginsTarget]

theorem Stops.beginsTarget_word_iff {tokenClass : TokenClass} {text : String}
    (stops : Stops dialect words rest) (target : Token.isTarget dialect words ⟨tokenClass, text⟩ = true) :
    BeginsTarget dialect words (layOut true (.word tokenClass text :: rest)) ↔ text ≠ "" := by
  by_cases empty : text = ""
  · simpa [layOut, empty, Stops] using stops
  · simp [beginsTarget_word empty, target, empty]

namespace Signature

variable {type : String}

theorem isTarget_typeName (text : String) :
    Token.isTarget dialect words ⟨.typeName, text⟩ = true := by
  simp [Token.isTarget]

theorem displayType_ne_empty (dialect : Dialect) :
    dialect.displayType type ≠ "" ↔ isBlankText type = false := by
  rw [ne_eq, displayType_eq_empty_iff, Bool.not_eq_true]

/-! ## Types behind names -/

theorem tiedBefore_asWord : TiedBefore .visualBasic words rest (keyword .visualBasic .asWord) ↔
    BeginsTarget .visualBasic words (layOut true rest) := by
  have connective : Token.isConnective ⟨.keyword, "As"⟩ = true := rfl
  simp [keyword, Keyword.spelling?, Keyword.spellings, TiedBefore, Piece.token?, connective]

theorem tiedBefore_colon : TiedBefore dialect words rest (punctuation ":") ↔
    BeginsTarget dialect words (layOut true rest) := by
  have connective : Token.isConnective ⟨.punctuation, ":"⟩ = true := rfl
  simp [punctuation, TiedBefore, Piece.token?, connective]

theorem tiedBefore_asClause_of_shown (shown : isBlankText type = false) :
    TiedBefore dialect words rest (asClause dialect type) := by
  cases dialect with
  | csharp => trivial
  | visualBasic =>
      rw [asClause, tiedBefore_append_iff_left _ (unconnected_typeName type), tiedBefore_asWord]
      exact (beginsTarget_word ((displayType_ne_empty _).mpr shown)).mpr (isTarget_typeName _)

theorem tiedBefore_asClause (stops : Stops dialect words rest) :
    TiedBefore dialect words rest (asClause dialect type) ↔ TypeGiven dialect type := by
  cases dialect with
  | csharp => exact iff_of_true trivial nofun
  | visualBasic =>
      rw [asClause, tiedBefore_append_iff_left _ (unconnected_typeName type), tiedBefore_asWord,
        typeName, List.singleton_append, stops.beginsTarget_word_iff (isTarget_typeName _),
        displayType_ne_empty]
      exact ⟨fun shown _ => shown, fun shown => shown rfl⟩

theorem tiedBefore_resultClause (type : String) :
    TiedBefore dialect words rest (resultClause dialect type) := by
  unfold resultClause
  cases absent : isVoid type with
  | true => trivial
  | false =>
      refine tiedBefore_asClause_of_shown (Bool.eq_false_iff.mpr fun blank => ?_)
      rw [isVoid, trimmed_eq_empty_iff.mpr blank] at absent
      revert absent
      decide

/-! ## Constraints -/

theorem tiedBefore_constraintName (stops : Stops dialect words rest) (condition : Constraint) :
    TiedBefore dialect words rest (constraintName dialect condition) ↔ ¬condition.SpellsAs := by
  unfold constraintName Constraint.SpellsAs
  cases condition.kind with
  | namedType =>
      exact iff_of_true (tiedBefore_of_unconnected (unconnected_typeName _)) (by simp)
  | specialWord =>
      by_cases spelled : specialWord dialect condition.name = "As"
      · have connective : Token.isConnective ⟨.keyword, "As"⟩ = true := rfl
        rw [spelled]
        refine iff_of_false (fun tied => stops (tied.1 _ rfl connective)) ?_
        simpa using (specialWord_eq_as_iff dialect).mp spelled
      · have plain : Token.isConnective ⟨.keyword, specialWord dialect condition.name⟩ = false := by
          simp [Token.isConnective, spelled]
        refine iff_of_true (tiedBefore_of_unconnected ?_) ?_
        · exact (unconnected_word_cons plain).mpr unconnected_nil
        · simpa using mt (specialWord_eq_as_iff dialect).mpr spelled

theorem beginsTarget_constraintName (stops : Stops dialect words rest) {condition : Constraint}
    (known : condition.kind = .specialWord → specialWord dialect condition.name ∈ words) :
    BeginsTarget dialect words (layOut true (constraintName dialect condition ++ rest)) ↔
      isBlankText condition.name = false := by
  unfold constraintName
  cases kind : condition.kind with
  | namedType =>
      rw [typeName, List.singleton_append, stops.beginsTarget_word_iff (isTarget_typeName _),
        displayType_ne_empty]
  | specialWord =>
      have target : Token.isTarget dialect words
          ⟨.keyword, specialWord dialect condition.name⟩ = true := by
        simp [Token.isTarget, known kind]
      rw [List.singleton_append, stops.beginsTarget_word_iff target, ne_eq,
        specialWord_eq_empty_iff, Bool.not_eq_true]

/-- Between commas each list is followed by something that stops it, like the last one. -/
theorem tiedBefore_commaSeparated {α : Type} {items : List α} {block : α → List Piece}
    {tied : α → Prop}
    (each : ∀ item ∈ items, ∀ rest, Stops dialect words rest →
      (TiedBefore dialect words rest (block item) ↔ tied item))
    (stops : Stops dialect words rest) :
    TiedBefore dialect words rest (commaSeparated (items.map block)) ↔
      ∀ item ∈ items, tied item := by
  induction items with
  | nil => simp [commaSeparated]
  | cons item items ih =>
      have first := each item List.mem_cons_self
      have later := ih fun other member => each other (List.mem_cons_of_mem _ member)
      cases items with
      | nil => simp [commaSeparated, first rest stops]
      | cons next items =>
          have comma : Unconnected (punctuation ",") := unconnected_punctuation.mpr (by decide)
          have between : Stops dialect words
              (punctuation "," ++ (commaSeparated ((next :: items).map block) ++ rest)) :=
            stops_mark_cons _ _ (by decide)
          have split : commaSeparated ((item :: next :: items).map block) =
              block item ++ punctuation "," ++ commaSeparated ((next :: items).map block) := rfl
          rw [split, tiedBefore_append, tiedBefore_append_iff_left _ comma, later,
            first _ between]
          exact List.forall_mem_cons.symm

theorem exists_commaSeparated_cons (stops : Stops dialect words rest) (pieces : List Piece)
    (lists : List (List Piece)) :
    ∃ behind, commaSeparated (pieces :: lists) ++ rest = pieces ++ behind ∧
      Stops dialect words behind := by
  cases lists with
  | nil => exact ⟨rest, rfl, stops⟩
  | cons next lists =>
      refine ⟨punctuation "," ++ (commaSeparated (next :: lists) ++ rest), ?_,
        stops_mark_cons _ _ (by decide)⟩
      simp only [commaSeparated, List.append_assoc]

theorem tiedBefore_constraintList (stops : Stops dialect words rest)
    (conditions : List Constraint) :
    TiedBefore dialect words rest (constraintList dialect conditions) ↔
      ∀ condition ∈ conditions, ¬condition.SpellsAs :=
  tiedBefore_commaSeparated (fun condition _ _ stops => tiedBefore_constraintName stops condition)
    stops

def KnowsWords (dialect : Dialect) (words : List String) (parameter : TypeParameter) : Prop :=
  ∀ condition ∈ parameter.constraints, condition.kind = .specialWord →
    specialWord dialect condition.name ∈ words

theorem tiedBefore_inlineConstraints {parameter : TypeParameter}
    (known : KnowsWords .visualBasic words parameter) (stops : Stops .visualBasic words rest) :
    TiedBefore .visualBasic words rest (inlineConstraints .visualBasic parameter.constraints) ↔
      parameter.IsConnected .visualBasic := by
  unfold TypeParameter.IsConnected TypeParameter.connected
  unfold KnowsWords at known
  match constraints : parameter.constraints with
  | [] => simp [inlineConstraints]
  | [condition] =>
      rw [constraints] at known
      have target := beginsTarget_constraintName stops (known condition List.mem_cons_self)
      simp only [inlineConstraints, tiedBefore_append, tiedBefore_asWord, target,
        tiedBefore_constraintName stops, List.forall_mem_singleton]
  | first :: second :: others =>
      have opening : Unconnected (space ++ punctuation "\x7b") := by simp
      have closing : Unconnected (punctuation "\x7d") := by simp
      have ends : Stops .visualBasic words (punctuation "\x7d" ++ rest) :=
        stops_mark_cons _ _ (by decide)
      have brace : ∀ pieces, BeginsTarget .visualBasic words
          (layOut true (space ++ punctuation "\x7b" ++ pieces)) :=
        fun pieces => ⟨_, _, rfl, by simp [Token.isTarget]⟩
      have split : inlineConstraints .visualBasic (first :: second :: others) =
          keyword .visualBasic .asWord ++ (space ++ punctuation "\x7b") ++
            constraintList .visualBasic (first :: second :: others) ++ punctuation "\x7d" := by
        simp only [inlineConstraints, List.append_assoc]
      rw [split, tiedBefore_append_iff_left _ closing, tiedBefore_append,
        tiedBefore_constraintList ends, tiedBefore_append_iff_left _ opening, tiedBefore_asWord,
        and_iff_right (brace _)]
      simp

theorem tiedBefore_typeParameterList {parameters : List TypeParameter}
    (known : ∀ parameter ∈ parameters, KnowsWords dialect words parameter) :
    TiedBefore dialect words rest (typeParameterList dialect parameters) ↔
      (dialect = .visualBasic → ∀ parameter ∈ parameters, parameter.IsConnected dialect) := by
  cases dialect with
  | csharp =>
      exact iff_of_true (tiedBefore_of_unconnected (unconnected_typeParameterList _)) nofun
  | visualBasic =>
      have each : ∀ one ∈ parameters, ∀ rest, Stops .visualBasic words rest →
          (TiedBefore .visualBasic words rest (typeParameter .visualBasic one) ↔
            one.IsConnected .visualBasic) := by
        intro one member rest stops
        have named : Unconnected [.word .typeName one.name] := by simp
        rw [typeParameter, tiedBefore_append_iff_right named,
          tiedBefore_inlineConstraints (known one member) stops]
      have opening : Unconnected (punctuation "(" ++ keyword .visualBasic .ofWord) := by simp
      have closing : Unconnected (punctuation ")") := by simp
      have ends : Stops .visualBasic words (punctuation ")" ++ rest) :=
        stops_mark_cons _ _ (by decide)
      rw [imp_iff_right rfl]
      cases parameters with
      | nil => simp [typeParameterList]
      | cons parameter parameters =>
          simp only [typeParameterList, List.isEmpty_cons, Bool.false_eq_true, ↓reduceIte]
          rw [tiedBefore_append_iff_left _ closing, tiedBefore_append_iff_right opening,
            tiedBefore_commaSeparated each ends]

theorem stops_whereClauses (stops : Stops .csharp words rest) (parameters : List TypeParameter) :
    Stops .csharp words (parameters.flatMap (whereClause .csharp) ++ rest) := by
  induction parameters with
  | nil => exact stops
  | cons parameter parameters ih =>
      rw [List.flatMap_cons, List.append_assoc, whereClause]
      split
      · exact ih
      · exact stops_mark_cons _ _ (by decide)

theorem tiedBefore_whereClause {parameter : TypeParameter}
    (known : KnowsWords .csharp words parameter) (stops : Stops .csharp words rest) :
    TiedBefore .csharp words rest (whereClause .csharp parameter) ↔
      parameter.IsConnected .csharp := by
  unfold TypeParameter.IsConnected TypeParameter.connected
  unfold KnowsWords at known
  cases constraints : parameter.constraints with
  | nil => simp [whereClause, constraints]
  | cons condition conditions =>
      rw [constraints] at known
      obtain ⟨behind, split, after⟩ := exists_commaSeparated_cons stops
        (constraintName .csharp condition) (conditions.map (constraintName .csharp))
      have target := beginsTarget_constraintName after (known condition List.mem_cons_self)
      rw [← split, ← List.map_cons, ← constraintList] at target
      have before : Unconnected (lineBreak ++ keyword .csharp .whereWord ++
          [.word .typeName parameter.name] ++ space) := by simp
      have clause : whereClause .csharp parameter =
          lineBreak ++ keyword .csharp .whereWord ++ [.word .typeName parameter.name] ++ space ++
            punctuation ":" ++ constraintList .csharp (condition :: conditions) := by
        simp only [whereClause, constraints, infixMark, List.isEmpty_cons, Bool.false_eq_true,
          ↓reduceIte, List.append_assoc]
      rw [clause, tiedBefore_append, tiedBefore_append_iff_right before, tiedBefore_colon, target,
        tiedBefore_constraintList stops]
      simp

theorem tiedBefore_whereClauses {parameters : List TypeParameter}
    (known : ∀ parameter ∈ parameters, KnowsWords .csharp words parameter)
    (stops : Stops .csharp words rest) :
    TiedBefore .csharp words rest (parameters.flatMap (whereClause .csharp)) ↔
      ∀ parameter ∈ parameters, parameter.IsConnected .csharp := by
  induction parameters with
  | nil => simp
  | cons parameter parameters ih =>
      have first := tiedBefore_whereClause (known parameter List.mem_cons_self)
        (stops_whereClauses stops parameters)
      rw [List.flatMap_cons, tiedBefore_append, first,
        ih fun other member => known other (List.mem_cons_of_mem _ member)]
      exact List.forall_mem_cons.symm

/-! ## Parameters -/

theorem tiedBefore_parameterPieces (stops : Stops dialect words rest) (parameter : Parameter) :
    TiedBefore dialect words rest (parameterPieces dialect parameter) ↔
      TypeGiven dialect parameter.type := by
  cases dialect with
  | csharp =>
      refine iff_of_true (tiedBefore_of_unconnected ?_) nofun
      simp [parameterPieces]
  | visualBasic =>
      have before : Unconnected (keywordIf .visualBasic parameter.isOptional .optionalWord ++
          passingMode .visualBasic parameter ++
          keywordIf .visualBasic parameter.isParamArray .paramArrayWord ++
          [.word .parameter parameter.name]) := by simp
      have equals : ∀ pieces, Stops .visualBasic words (infixMark "=" ++ pieces) := fun pieces =>
        stops_infixMark pieces (by decide)
      dsimp only [parameterPieces]
      rw [List.append_assoc, tiedBefore_append_iff_right before]
      split
      · have value : Unconnected
            (infixMark "=" ++ [.word .literal (parameter.defaultValue.getD "Nothing")]) := by
          simp [infixMark]
        rw [tiedBefore_append_iff_left _ value, List.append_assoc, tiedBefore_asClause (equals _)]
      · rw [List.append_nil, tiedBefore_asClause stops]

theorem tiedBefore_parameterLines (stops : Stops dialect words rest) (parameters : List Parameter) :
    TiedBefore dialect words rest (parameterLines dialect parameters) ↔
      ∀ parameter ∈ parameters, TypeGiven dialect parameter.type := by
  have before : Unconnected (lineBreak ++ indent) := by simp
  have comma : Unconnected (punctuation "," ++ continuation dialect) := by simp
  induction parameters with
  | nil => simp [parameterLines]
  | cons parameter parameters ih =>
      cases parameters with
      | nil =>
          rw [parameterLines, tiedBefore_append_iff_right before,
            tiedBefore_parameterPieces stops, List.forall_mem_singleton]
      | cons next parameters =>
          have split : parameterLines dialect (parameter :: next :: parameters) =
              lineBreak ++ indent ++ parameterPieces dialect parameter ++
                (punctuation "," ++ continuation dialect) ++
                  parameterLines dialect (next :: parameters) := by
            simp only [parameterLines, List.append_assoc]
          have between : ∀ pieces, Stops dialect words
              (punctuation "," ++ continuation dialect ++ pieces) :=
            fun pieces => stops_mark_cons _ _ (by decide)
          rw [split, tiedBefore_append, tiedBefore_append_iff_left _ comma,
            tiedBefore_append_iff_right before, tiedBefore_parameterPieces (between _),
            List.forall_mem_cons]
          exact and_congr_right fun _ => ih

theorem tiedBefore_parameterList {opening closing : String} (parameters : List Parameter)
    (opens : opening ≠ ":") (closes : closing ≠ ":") :
    TiedBefore dialect words rest (parameterList dialect opening closing parameters) ↔
      ∀ parameter ∈ parameters, TypeGiven dialect parameter.type := by
  cases parameters with
  | nil =>
      refine iff_of_true (tiedBefore_of_unconnected ?_) (by simp)
      cases dialect <;> simp [parameterList, opens, closes]
  | cons parameter parameters =>
      have before : Unconnected (punctuation opening ++ continuation dialect) := by simp [opens]
      have behind : Unconnected (continuation dialect ++ lineBreak ++ punctuation closing) := by
        simp [closes]
      have ending : Stops dialect words
          (continuation dialect ++ lineBreak ++ punctuation closing ++ rest) := by
        cases dialect with
        | csharp => exact stops_mark_cons _ _ (by decide)
        | visualBasic => exact stops_mark_cons _ _ (by decide)
      have split : parameterList dialect opening closing (parameter :: parameters) =
          punctuation opening ++ continuation dialect ++
            parameterLines dialect (parameter :: parameters) ++
              (continuation dialect ++ lineBreak ++ punctuation closing) := by
        simp only [parameterList, List.isEmpty_cons, Bool.false_eq_true, ↓reduceIte,
          List.append_assoc]
      rw [split, tiedBefore_append_iff_left _ behind, tiedBefore_append_iff_right before,
        tiedBefore_parameterLines ending]

/-! ## Kinds -/

variable {declaration : Declaration}

theorem tiedBefore_typeDeclaration {kindWords : List Piece} (plain : Unconnected kindWords)
    (known : ∀ parameter ∈ declaration.typeParameters, KnowsWords dialect words parameter) :
    TiedBefore dialect words rest (typeDeclaration dialect declaration kindWords) ↔
      (dialect = .visualBasic →
        ∀ parameter ∈ declaration.typeParameters, parameter.IsConnected dialect) := by
  have list : TiedBefore dialect words rest
      (typeParameterList dialect declaration.typeParameters) ↔ _ :=
    tiedBefore_typeParameterList known
  rw [← list]
  unfold typeDeclaration
  cases dialect <;> simp [tiedBefore_of_unconnected, plain]

theorem tiedBefore_enumeration (underlyingType : String) :
    TiedBefore dialect words rest (enumeration dialect declaration underlyingType) := by
  have before : Unconnected (visibility dialect declaration ++ keyword dialect .enumWord ++
      identifier declaration.name) := by simp
  unfold enumeration
  rw [tiedBefore_append_iff_right before]
  split
  · exact tiedBefore_nil
  · rename_i blank
    rw [Bool.not_eq_true] at blank
    cases dialect with
    | csharp =>
        have target : BeginsTarget .csharp words
            (layOut true (typeName .csharp underlyingType ++ rest)) :=
          (beginsTarget_word ((displayType_ne_empty _).mpr blank)).mpr (isTarget_typeName _)
        rw [infixMark, tiedBefore_append_iff_left _ (unconnected_typeName _),
          tiedBefore_append_iff_right unconnected_space, tiedBefore_colon]
        exact target
    | visualBasic => exact tiedBefore_asClause_of_shown blank

theorem tiedBefore_delegate
    (known : ∀ parameter ∈ declaration.typeParameters, KnowsWords dialect words parameter) :
    TiedBefore dialect words rest (delegate dialect declaration) ↔
      (dialect = .visualBasic →
        ∀ parameter ∈ declaration.typeParameters, parameter.IsConnected dialect) ∧
      ∀ parameter ∈ declaration.parameters, TypeGiven dialect parameter.type := by
  simp [delegate, tiedBefore_of_unconnected, tiedBefore_typeParameterList known,
    tiedBefore_parameterList, tiedBefore_resultClause]

theorem tiedBefore_constructor :
    TiedBefore dialect words rest (constructor dialect declaration) ↔
      ∀ parameter ∈ declaration.parameters, TypeGiven dialect parameter.type := by
  unfold constructor
  split <;> cases dialect <;> simp [tiedBefore_of_unconnected, tiedBefore_parameterList]

theorem tiedBefore_destructor :
    TiedBefore dialect words rest (destructor dialect declaration) ↔
      ∀ parameter ∈ declaration.parameters, TypeGiven dialect parameter.type := by
  unfold destructor
  cases dialect <;> simp [tiedBefore_of_unconnected, tiedBefore_parameterList]

theorem tiedBefore_operator (stops : Stops dialect words rest) (symbol : String)
    (conversion : Option Conversion) :
    TiedBefore dialect words rest (operator dialect declaration symbol conversion) ↔
      (∀ parameter ∈ declaration.parameters, TypeGiven dialect parameter.type) ∧
      TypeGiven dialect declaration.memberType := by
  simp [operator, tiedBefore_of_unconnected, tiedBefore_parameterList, tiedBefore_asClause stops]

theorem tiedBefore_method
    (known : ∀ parameter ∈ declaration.typeParameters, KnowsWords dialect words parameter)
    (implemented : List String) :
    TiedBefore dialect words rest (method dialect declaration implemented) ↔
      (dialect = .visualBasic →
        ∀ parameter ∈ declaration.typeParameters, parameter.IsConnected dialect) ∧
      ∀ parameter ∈ declaration.parameters, TypeGiven dialect parameter.type := by
  unfold method
  split <;> simp [tiedBefore_of_unconnected, tiedBefore_typeParameterList known,
    tiedBefore_parameterList, tiedBefore_resultClause]

theorem tiedBefore_event (stops : Stops dialect words rest) :
    TiedBefore dialect words rest (event dialect declaration) ↔
      TypeGiven dialect (eventType declaration) := by
  cases dialect with
  | csharp =>
      refine iff_of_true (tiedBefore_of_unconnected ?_) nofun
      simp [event, namedValue]
  | visualBasic => simp [event, namedValue, tiedBefore_of_unconnected, tiedBefore_asClause stops]

theorem tiedBefore_field (stops : Stops dialect words rest) :
    TiedBefore dialect words rest (field dialect declaration) ↔
      TypeGiven dialect declaration.memberType := by
  have constant : Unconnected (if declaration.modifiers.isConst then keyword dialect .constWord
      else keywordIf dialect declaration.modifiers.isStatic .staticWord) := by
    split <;> simp
  cases dialect with
  | csharp =>
      refine iff_of_true (tiedBefore_of_unconnected ?_) nofun
      simp [field, namedValue, constant]
  | visualBasic =>
      simp [field, namedValue, tiedBefore_of_unconnected, constant, tiedBefore_asClause stops]

theorem stops_accessors (stops : Stops .visualBasic words rest) (accessorsKept : List Keyword) :
    Stops .visualBasic words (accessors .visualBasic accessorsKept ++ rest) := by
  cases accessorsKept with
  | nil => exact stops
  | cons word others => exact stops_mark_cons _ _ (by decide)

theorem tiedBefore_property (stops : Stops dialect words rest) (hasGetter hasSetter : Bool) :
    TiedBefore dialect words rest (property dialect declaration hasGetter hasSetter) ↔
      (∀ parameter ∈ declaration.parameters, TypeGiven dialect parameter.type) ∧
      TypeGiven dialect declaration.memberType := by
  have accessing : TiedBefore dialect words rest
      (accessors dialect (accessorWords hasGetter hasSetter)) :=
    tiedBefore_of_unconnected (unconnected_accessors _ _)
  cases dialect with
  | csharp =>
      refine iff_of_true ?_ ⟨fun _ _ => nofun, nofun⟩
      cases indexed : declaration.parameters.isEmpty <;>
        simp [property, indexed, tiedBefore_of_unconnected, tiedBefore_parameterList, accessing,
          TypeGiven]
  | visualBasic =>
      have behind := stops_accessors stops (accessorWords hasGetter hasSetter)
      cases indexed : declaration.parameters.isEmpty with
      | true =>
          have absent : declaration.parameters = [] := List.isEmpty_iff.mp indexed
          simp [property, absent, tiedBefore_of_unconnected, accessing, tiedBefore_asClause behind]
      | false =>
          simp [property, indexed, tiedBefore_of_unconnected, tiedBefore_parameterList, accessing,
            tiedBefore_asClause behind]

/-- The handler type that an event is given for its parameters is always there. -/
theorem isBlankText_eventType (parameterized : declaration.parameters.isEmpty = false) :
    isBlankText (eventType declaration) = false := by
  have handler : ∀ name : String, isBlankText (name ++ "EventHandler") = false := by
    intro name
    refine List.all_eq_false.mpr ⟨'E', ?_, by decide⟩
    rw [String.toList_append]
    exact List.mem_append_right _ (by decide)
  have named : ∀ scope name : String,
      isBlankText (scope ++ "." ++ (name ++ "EventHandler")) = false := by
    intro scope name
    rw [← String.append_assoc]
    exact handler _
  simp only [eventType, parameterized, Bool.false_eq_true, ↓reduceIte]
  split
  · exact handler _
  · exact handler _
  · exact named _ _

theorem tiedBefore_body {body : List Piece} (found : body? dialect declaration = some body)
    (known : ∀ parameter ∈ declaration.typeParameters, KnowsWords dialect words parameter)
    (stops : Stops dialect words rest) :
    TiedBefore dialect words rest body ↔
      (∀ type ∈ declaration.connectedTypes, TypeGiven dialect type) ∧
      (dialect = .visualBasic → declaration.kind.listsTypeParameters = true →
        ∀ parameter ∈ declaration.typeParameters, parameter.IsConnected dialect) := by
  have types : ∀ {holds : String → Prop}, (∀ type ∈ declaration.parameterTypes, holds type) ↔
      ∀ parameter ∈ declaration.parameters, holds parameter.type := List.forall_mem_map
  have typesAndOwn : ∀ {holds : String → Prop},
      (∀ type ∈ declaration.parameterTypes ++ [declaration.memberType], holds type) ↔
        (∀ parameter ∈ declaration.parameters, holds parameter.type) ∧
          holds declaration.memberType := by
    intro holds
    rw [List.forall_mem_append, types, List.forall_mem_singleton]
  unfold Declaration.connectedTypes
  unfold body? at found
  cases kind : declaration.kind <;> rw [kind] at found <;> cases found
  case classType => simp [tiedBefore_typeDeclaration _ known, DeclarationKind.listsTypeParameters]
  case interfaceType => simp [tiedBefore_typeDeclaration _ known, DeclarationKind.listsTypeParameters]
  case structType => simp [tiedBefore_typeDeclaration _ known, DeclarationKind.listsTypeParameters]
  case enumType underlyingType => simp [tiedBefore_enumeration, DeclarationKind.listsTypeParameters]
  case delegate =>
    simp [tiedBefore_delegate known, types, DeclarationKind.listsTypeParameters, and_comm]
  case constructor => simp [tiedBefore_constructor, types, DeclarationKind.listsTypeParameters]
  case destructor => simp [tiedBefore_destructor, types, DeclarationKind.listsTypeParameters]
  case operator symbol conversion =>
    dsimp only
    rw [tiedBefore_operator stops, typesAndOwn]
    simp [DeclarationKind.listsTypeParameters]
  case method implemented =>
    simp [tiedBefore_method known, types, DeclarationKind.listsTypeParameters, and_comm]
  case event =>
    -- An event with parameters has a handler type made up for it, so nothing is asked of it.
    cases parameterized : declaration.parameters.isEmpty with
    | true =>
        simp [tiedBefore_event stops, eventType, parameterized, DeclarationKind.listsTypeParameters]
    | false =>
        have given : TypeGiven dialect (eventType declaration) := fun _ =>
          isBlankText_eventType parameterized
        simp [tiedBefore_event stops, given, DeclarationKind.listsTypeParameters]
  case field => simp [tiedBefore_field stops, DeclarationKind.listsTypeParameters]
  case property hasGetter hasSetter =>
    dsimp only
    rw [tiedBefore_property stops, typesAndOwn]
    simp [DeclarationKind.listsTypeParameters]

/-! ## Whole signatures -/

theorem knowsWords_constraintWords (dialect : Dialect) (declaration : Declaration) :
    ∀ parameter ∈ declaration.typeParameters,
      KnowsWords dialect (declaration.constraintWords dialect) parameter := by
  intro parameter member condition among special
  refine List.mem_map.mpr ⟨condition, List.mem_filter.mpr ⟨?_, by rw [special]; rfl⟩, rfl⟩
  exact List.mem_flatMap.mpr ⟨parameter, member, among⟩

theorem stops_whereClauses_declaration :
    Stops dialect words (whereClauses dialect declaration) := by
  cases dialect with
  | visualBasic => exact stops_nil
  | csharp =>
      unfold whereClauses
      cases declaration.kind.listsTypeParameters with
      | false => exact stops_nil
      | true => simpa using stops_whereClauses stops_nil declaration.typeParameters

theorem tiedBefore_whereClauses_declaration
    (known : ∀ parameter ∈ declaration.typeParameters, KnowsWords dialect words parameter) :
    TiedBefore dialect words [] (whereClauses dialect declaration) ↔
      (dialect = .csharp → declaration.kind.listsTypeParameters = true →
        ∀ parameter ∈ declaration.typeParameters, parameter.IsConnected dialect) := by
  cases dialect with
  | visualBasic => exact iff_of_true trivial nofun
  | csharp =>
      cases lists : declaration.kind.listsTypeParameters with
      | false => simp [whereClauses, lists]
      | true => simp [whereClauses, lists, tiedBefore_whereClauses known stops_nil]

theorem eachTied_render {body : List Piece}
    (expressible : isInexpressible dialect declaration = false)
    (found : body? dialect declaration = some body) :
    EachTied dialect (declaration.constraintWords dialect) (render declaration dialect).tokens ↔
      declaration.IsConnected dialect := by
  have known := knowsWords_constraintWords dialect declaration
  have attributes : Unconnected (declaration.attributes.flatMap (attributeBlock dialect)) :=
    unconnected_flatMap fun attr _ => unconnected_attributeBlock attr
  rw [render_eq_ofPieces expressible found, ofPieces, eachTied_layOut, tiedBefore_append,
    tiedBefore_append_iff_right attributes, List.append_nil,
    tiedBefore_body found known stops_whereClauses_declaration,
    tiedBefore_whereClauses_declaration known]
  constructor
  · rintro ⟨⟨types, inline⟩, behind⟩
    refine ⟨types, fun lists => ?_⟩
    cases dialect with
    | csharp => exact behind rfl lists
    | visualBasic => exact inline rfl lists
  · rintro ⟨types, constraints⟩
    exact ⟨⟨types, fun _ => constraints⟩, fun _ => constraints⟩

end Signature

end

/-- Behind every connective stands a space and what it connects with. So none is the last token, and
none has a bracket, a comma, another mark or a line break right behind it. -/
structure NothingDangles (dialect : Dialect) (words : List String) (tokens : List Token) :
    Prop where
  tied : ∀ before token behind, tokens = before ++ token :: behind → token.isConnective = true →
    BeginsTarget dialect words behind
  notLast : ∀ last ∈ tokens.getLast?, last.isConnective = false
  spaced : tokens.IsChain fun token next => token.isConnective = true → next = ⟨.space, " "⟩

section

variable {dialect : Dialect} {words : List String} {tokens : List Token}

theorem eachTied_iff_forall_split :
    EachTied dialect words tokens ↔ ∀ before token behind, tokens = before ++ token :: behind →
      token.isConnective = true → BeginsTarget dialect words behind := by
  induction tokens with
  | nil => simp [EachTied]
  | cons first tokens ih =>
      rw [EachTied, ih]
      constructor
      · rintro ⟨here, later⟩ before token behind split connective
        cases before with
        | nil =>
            obtain ⟨rfl, rfl⟩ := List.cons.inj split
            exact here connective
        | cons other before => exact later before token behind (List.cons.inj split).2 connective
      · intro all
        exact ⟨all [] first tokens rfl, fun before token behind split =>
          all (first :: before) token behind (by rw [split]; rfl)⟩

theorem EachTied.nothingDangles (tied : EachTied dialect words tokens) :
    NothingDangles dialect words tokens where
  tied := eachTied_iff_forall_split.mp tied
  notLast := by
    intro last member
    obtain ⟨before, rfl⟩ := List.getLast?_eq_some_iff.mp member
    rw [Bool.eq_false_iff]
    intro connective
    obtain ⟨next, rest, absent, -⟩ :=
      eachTied_iff_forall_split.mp tied before last [] rfl connective
    cases absent
  spaced := by
    induction tokens with
    | nil => exact .nil
    | cons token tokens ih =>
        refine List.isChain_cons.mpr ⟨fun next member connective => ?_, ih tied.2⟩
        obtain ⟨target, rest, rfl, -⟩ := tied.1 connective
        exact (Option.some.inj member).symm

end

namespace Signature

/-- Every connective of a signature is tied to something exactly if the types are given that stand
behind one and are not looked at before, a constraint that stands behind one has a name, and no
special constraint is spelled like one. -/
theorem nothingDangles_iff_isConnected (declaration : Declaration) (dialect : Dialect) :
    NothingDangles dialect (declaration.constraintWords dialect)
        (render declaration dialect).tokens ↔
      render declaration dialect = placeholder ∨ declaration.IsConnected dialect := by
  by_cases written : render declaration dialect = placeholder
  · -- The placeholder has one token, which connects nothing.
    have tied : EachTied dialect (declaration.constraintWords dialect) placeholder.tokens :=
      ⟨nofun, trivial⟩
    rw [written]
    exact iff_of_true tied.nothingDangles (.inl rfl)
  · obtain ⟨expressible, body, found⟩ := exists_body?_of_ne_placeholder written
    have iff := eachTied_render expressible found
    constructor
    · intro dangling
      exact .inr (iff.mp (eachTied_iff_forall_split.mpr dangling.tied))
    · intro connected
      exact (iff.mpr (connected.resolve_left written)).nothingDangles

/-- A field without a type ends in the connective, and so does a class with a nameless
constraint. -/
theorem untyped_field_dangles :
    let untyped : Declaration := { name := "F", kind := .field }
    let unnamed : Declaration :=
      { name := "C", typeParameters := [{ name := "T", constraints := [{ name := " " }] }] }
    (render untyped .visualBasic).text = "Private F As" ∧
      ¬NothingDangles .visualBasic (untyped.constraintWords .visualBasic)
        (render untyped .visualBasic).tokens ∧
      (render unnamed .csharp).text = "private class C<T>\nwhere T :" ∧
      ¬NothingDangles .csharp (unnamed.constraintWords .csharp)
        (render unnamed .csharp).tokens := by
  intro untyped unnamed
  have noType : Dialect.visualBasic.displayType "" = "" := (displayType_eq_empty_iff _).mpr rfl
  have noName : Dialect.csharp.displayType " " = "" := (displayType_eq_empty_iff _).mpr (by decide)
  have field : render untyped .visualBasic = ofPieces [.word .keyword "Private",
      .word .identifier "F", .word .keyword "As",
      .word .typeName (Dialect.visualBasic.displayType "")] := rfl
  have clause : render unnamed .csharp = ofPieces [.word .keyword "private",
      .word .keyword "class", .word .identifier "C", .mark .punctuation "<", .word .typeName "T",
      .mark .punctuation ">", .mark .lineBreak "\n", .word .keyword "where", .word .typeName "T",
      .mark .space " ", .mark .punctuation ":",
      .word .typeName (Dialect.csharp.displayType " ")] := rfl
  rw [field, clause, noType, noName]
  refine ⟨rfl, fun whole => ?_, rfl, fun whole => ?_⟩
  · have last := whole.notLast ⟨.keyword, "As"⟩ (by decide)
    cases last
  · have last := whole.notLast ⟨.punctuation, ":"⟩ (by decide)
    cases last

end Signature

end DocPreview
