import DocPreview.Proofs.Signature.Neighbours

/-!
# What signatures are put together from

Whatever the declaration says, the parts of a signature are words, marks between words, line
breaks and lists in brackets, next to each other or inside brackets.
-/

set_option autoImplicit false

namespace DocPreview

def bracketPairs : List (String × String) :=
  [("(", ")"), ("[", "]"), ("<", ">"), ("\x7b", "\x7d")]

/-- The punctuation that is no bracket. -/
def separators : List String :=
  [",", ";", ":", "=", ":="]

def Piece.isWord : Piece → Bool
  | .word tokenClass _ => tokenClass.isWord
  | .mark _ _ => false

/-- Whether the first piece is punctuation, or a word that is not empty. -/
def startsShown : List Piece → Bool
  | .word tokenClass text :: _ => tokenClass.isWord && !text.isEmpty
  | .mark tokenClass _ :: _ => tokenClass == .punctuation
  | [] => false

namespace Signature

/-- Pieces that a signature in this dialect is put together from. -/
inductive Phrase (dialect : Dialect) : List Piece → Prop where
  | nil : Phrase dialect []
  | append {left right : List Piece} :
      Phrase dialect left → Phrase dialect right → Phrase dialect (left ++ right)
  | word {tokenClass : TokenClass} {text : String} :
      tokenClass.isWord → Phrase dialect [.word tokenClass text]
  | separator {text : String} : text ∈ separators → Phrase dialect (punctuation text)
  /-- A space is written by itself only where something else follows. -/
  | spaced {pieces : List Piece} :
      startsShown pieces → Phrase dialect pieces → Phrase dialect (space ++ pieces)
  | wrapped : Phrase dialect (continuation dialect ++ lineBreak)
  | indent : Phrase dialect indent
  | bracketed {opening closing : String} {inner closed : List Piece} :
      (opening, closing) ∈ bracketPairs →
      closed = punctuation closing ∨ closed = space ++ punctuation closing →
      Phrase dialect inner → Phrase dialect (punctuation opening ++ inner ++ closed)

variable {dialect : Dialect}

theorem Phrase.flatMap {α : Type} {block : α → List Piece}
    (each : ∀ item, Phrase dialect (block item)) (items : List α) :
    Phrase dialect (items.flatMap block) := by
  induction items with
  | nil => exact .nil
  | cons item items ih => exact .append (each item) ih

theorem phrase_commaSeparated {lists : List (List Piece)}
    (each : ∀ list ∈ lists, Phrase dialect list) : Phrase dialect (commaSeparated lists) := by
  induction lists with
  | nil => exact .nil
  | cons list lists ih =>
      have first : Phrase dialect list := each list List.mem_cons_self
      have rest := ih fun later member => each later (List.mem_cons_of_mem _ member)
      cases lists with
      | nil => exact first
      | cons next lists => exact .append (.append first (.separator (by decide))) rest

/-- Brackets right around the pieces. -/
theorem Phrase.inBrackets {inner : List Piece} (phrase : Phrase dialect inner)
    (opening closing : String) (pair : (opening, closing) ∈ bracketPairs) :
    Phrase dialect (punctuation opening ++ inner ++ punctuation closing) :=
  .bracketed pair (.inl rfl) phrase

theorem phrase_infixMark {text : String} (separator : text ∈ separators) :
    Phrase dialect (infixMark text) :=
  .spaced rfl (.separator separator)

/-! ## Parts that are words -/

def Words (pieces : List Piece) : Prop :=
  ∀ piece ∈ pieces, piece.isWord

@[simp] theorem words_nil : Words [] :=
  fun _ member => absurd member List.not_mem_nil

@[simp] theorem words_append {left right : List Piece} :
    Words (left ++ right) ↔ Words left ∧ Words right :=
  List.forall_mem_append

@[simp] theorem words_cons {piece : Piece} {pieces : List Piece} :
    Words (piece :: pieces) ↔ piece.isWord ∧ Words pieces :=
  List.forall_mem_cons

theorem words_word {tokenClass : TokenClass} (text : String) (isWord : tokenClass.isWord) :
    Words [.word tokenClass text] :=
  words_cons.mpr ⟨isWord, words_nil⟩

theorem Words.phrase {pieces : List Piece} (words : Words pieces) : Phrase dialect pieces := by
  induction pieces with
  | nil => exact .nil
  | cons piece pieces ih =>
      have first : piece.isWord := words piece List.mem_cons_self
      have rest := ih fun later member => words later (List.mem_cons_of_mem _ member)
      cases piece with
      | word tokenClass text => exact .append (.word first) rest
      | mark tokenClass text => cases first

@[simp] theorem words_keyword (word : Keyword) : Words (keyword dialect word) := by
  unfold keyword
  split
  · exact words_word _ rfl
  · exact words_nil

@[simp] theorem words_keywordIf (condition : Bool) (word : Keyword) :
    Words (keywordIf dialect condition word) := by
  unfold keywordIf
  split
  · exact words_keyword word
  · exact words_nil

@[simp] theorem words_typeName (type : String) : Words (typeName dialect type) :=
  words_word _ rfl

@[simp] theorem words_identifier (name : String) : Words (identifier name) :=
  words_word _ rfl

@[simp] theorem words_reservedName (word : Keyword) : Words (reservedName dialect word) := by
  unfold reservedName
  split
  · exact words_identifier _
  · exact words_nil

@[simp] theorem words_asClause (type : String) : Words (asClause dialect type) := by
  cases dialect <;> simp [asClause]

@[simp] theorem words_visibility (declaration : Declaration) :
    Words (visibility dialect declaration) :=
  words_keyword _

@[simp] theorem words_memberVisibility (declaration : Declaration) :
    Words (memberVisibility dialect declaration) := by
  unfold memberVisibility
  split
  · exact words_nil
  · exact words_visibility declaration

@[simp] theorem words_memberContract (modifiers : Modifiers) :
    Words (memberContract dialect modifiers) := by
  simp [memberContract]

@[simp] theorem words_resultOrVoid (type : String) : Words (resultOrVoid dialect type) := by
  unfold resultOrVoid
  split
  · exact words_keyword _
  · cases dialect <;> simp

@[simp] theorem words_resultClause (type : String) : Words (resultClause dialect type) := by
  unfold resultClause
  split
  · exact words_nil
  · exact words_asClause type

@[simp] theorem words_namedValue (name type : String) :
    Words (namedValue dialect name type) := by
  cases dialect <;> simp [namedValue]

@[simp] theorem words_classWords (modifiers : Modifiers) :
    Words (classWords dialect modifiers) := by
  unfold classWords
  split <;> simp

@[simp] theorem words_operatorName (target symbol : String) (conversion : Option Conversion) :
    Words (operatorName dialect target symbol conversion) := by
  cases conversion <;> cases dialect <;> simp [operatorName]

@[simp] theorem words_passingMode (parameter : Parameter) :
    Words (passingMode dialect parameter) := by
  unfold passingMode
  split
  · exact words_keyword _
  · split <;> exact words_keyword _

theorem words_constraintName (condition : Constraint) :
    Words (constraintName dialect condition) := by
  unfold constraintName
  split
  · exact words_typeName _
  · exact words_word _ rfl

/-! ## Attributes and type parameters -/

theorem phrase_attributeArgument (argument : AttributeArgument) :
    Phrase dialect (attributeArgument dialect argument) := by
  have value : Phrase dialect [.word .literal argument.value] := .word rfl
  unfold attributeArgument
  cases argument.key with
  | none => exact value
  | some key =>
      refine .append (.append (.word rfl) ?_) value
      cases dialect with
      | csharp => exact phrase_infixMark (by decide)
      | visualBasic => exact phrase_infixMark (by decide)

theorem phrase_attributeBlock (attr : Attribute) :
    Phrase dialect (attributeBlock dialect attr) := by
  have arguments : Phrase dialect (if attr.arguments.isEmpty then []
      else punctuation "(" ++
        commaSeparated (attr.arguments.map (attributeArgument dialect)) ++
          punctuation ")") := by
    split
    · exact .nil
    · refine Phrase.inBrackets (phrase_commaSeparated fun list member => ?_) _ _ (by decide)
      obtain ⟨argument, _, rfl⟩ := List.mem_map.mp member
      exact phrase_attributeArgument argument
  have inner : Phrase dialect ([.word .reference attr.name] ++ _) := .append (.word rfl) arguments
  cases dialect with
  | csharp =>
      have block := Phrase.append (inner.inBrackets "[" "]" (by decide)) .wrapped
      simpa only [attributeBlock, List.append_assoc] using block
  | visualBasic =>
      have block := Phrase.append (inner.inBrackets "<" ">" (by decide)) .wrapped
      simpa only [attributeBlock, List.append_assoc] using block

theorem phrase_constraintList (conditions : List Constraint) :
    Phrase dialect (constraintList dialect conditions) := by
  refine phrase_commaSeparated fun list member => ?_
  obtain ⟨condition, _, rfl⟩ := List.mem_map.mp member
  exact (words_constraintName condition).phrase

theorem phrase_inlineConstraints (conditions : List Constraint) :
    Phrase dialect (inlineConstraints dialect conditions) := by
  cases dialect with
  | csharp => exact .nil
  | visualBasic =>
      have asWord : Phrase .visualBasic (keyword .visualBasic .asWord) := (words_keyword _).phrase
      cases conditions with
      | nil => exact .nil
      | cons condition conditions =>
          cases conditions with
          | nil => exact .append asWord (words_constraintName condition).phrase
          | cons next conditions =>
              have inner : Phrase .visualBasic
                  (constraintList .visualBasic (condition :: next :: conditions)) :=
                phrase_constraintList _
              have braces := inner.inBrackets "\x7b" "\x7d" (by decide)
              simpa only [inlineConstraints, List.append_assoc] using
                asWord.append (.spaced rfl braces)

theorem phrase_typeParameter (parameter : TypeParameter) :
    Phrase dialect (typeParameter dialect parameter) :=
  .append (.word rfl) (phrase_inlineConstraints parameter.constraints)

theorem phrase_typeParameterList (parameters : List TypeParameter) :
    Phrase dialect (typeParameterList dialect parameters) := by
  have inner : Phrase dialect (commaSeparated (parameters.map (typeParameter dialect))) := by
    refine phrase_commaSeparated fun list member => ?_
    obtain ⟨parameter, _, rfl⟩ := List.mem_map.mp member
    exact phrase_typeParameter parameter
  unfold typeParameterList
  split
  · exact .nil
  · cases dialect with
    | csharp => exact inner.inBrackets "<" ">" (by decide)
    | visualBasic =>
        have ofWord : Phrase .visualBasic (keyword .visualBasic .ofWord) :=
          (words_keyword _).phrase
        have list := (ofWord.append inner).inBrackets "(" ")" (by decide)
        simpa only [List.append_assoc] using list

theorem phrase_whereClause (parameter : TypeParameter) :
    Phrase .csharp (whereClause .csharp parameter) := by
  unfold whereClause
  split
  · exact .nil
  · have keywords : Phrase .csharp (lineBreak ++ keyword .csharp .whereWord) :=
      .append .wrapped (words_keyword _).phrase
    have colon : Phrase .csharp (infixMark ":") := phrase_infixMark (by decide)
    exact ((keywords.append (.word rfl)).append colon).append (phrase_constraintList _)

theorem phrase_whereClauses (declaration : Declaration) :
    Phrase dialect (whereClauses dialect declaration) := by
  cases dialect with
  | visualBasic => exact .nil
  | csharp =>
      simp only [whereClauses]
      split
      · exact .flatMap phrase_whereClause _
      · exact .nil

/-! ## Parameters -/

theorem phrase_parameterPieces (parameter : Parameter) :
    Phrase dialect (parameterPieces dialect parameter) := by
  cases dialect with
  | csharp => exact Words.phrase (by simp [parameterPieces, Piece.isWord, TokenClass.isWord])
  | visualBasic =>
      simp only [parameterPieces]
      refine .append (Words.phrase (by simp [Piece.isWord, TokenClass.isWord])) ?_
      split
      · exact .append (phrase_infixMark (by decide)) (.word rfl)
      · exact .nil

/-- The mark in front of a parameter belongs to the line break that its line begins with. -/
theorem phrase_parameterLines {parameters : List Parameter} (present : parameters ≠ []) :
    Phrase dialect (continuation dialect ++ parameterLines dialect parameters) := by
  have line : ∀ parameter, Phrase dialect (continuation dialect ++
      (lineBreak ++ indent ++ parameterPieces dialect parameter)) := by
    intro parameter
    have opened : Phrase dialect (continuation dialect ++ lineBreak ++ indent) :=
      .append .wrapped .indent
    simpa only [List.append_assoc] using opened.append (phrase_parameterPieces parameter)
  have comma : Phrase dialect (punctuation ",") := .separator (by decide)
  induction parameters with
  | nil => exact absurd rfl present
  | cons parameter parameters ih =>
      cases parameters with
      | nil => exact line parameter
      | cons next parameters =>
          have rest := ih (List.cons_ne_nil _ _)
          simpa only [parameterLines, List.append_assoc] using
            ((line parameter).append comma).append rest

theorem phrase_parameterList {opening closing : String}
    (pair : (opening, closing) ∈ bracketPairs) (parameters : List Parameter) :
    Phrase dialect (parameterList dialect opening closing parameters) := by
  cases parameters with
  | nil =>
      cases dialect with
      | csharp => exact Phrase.nil.inBrackets opening closing pair
      | visualBasic => exact .nil
  | cons parameter parameters =>
      have lines : Phrase dialect (continuation dialect ++
          parameterLines dialect (parameter :: parameters)) :=
        phrase_parameterLines (List.cons_ne_nil _ _)
      have list := (lines.append .wrapped).inBrackets opening closing pair
      simpa only [parameterList, List.isEmpty_cons, Bool.false_eq_true, ↓reduceIte,
        List.append_assoc] using list

end Signature

end DocPreview
