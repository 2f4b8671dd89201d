import DocPreview.Proofs.Signature.Neighbours
import DocPreview.Proofs.TypeExpr.Respelling

/-!
# Connectives in laid-out pieces

`As` and the colon connect a name with what it is or must be. Each part of a signature either
writes no connective, or ties all of its connectives on a condition on what it was given, as long as
what stands behind the part cannot be taken for a type.
-/

set_option autoImplicit false

namespace DocPreview

/-! ## Texts that show nothing -/

theorem trimmed_eq_empty_iff {text : String} : trimmed text = "" ↔ isBlankText text = true := by
  rw [trimmed, String.ofList_eq_empty_iff, isBlankText, List.all_eq_true]
  obtain ⟨front, back, split, frontBlank, backBlank⟩ :=
    Text.exists_blanks_around_trim text.toList
  constructor
  · intro nothing char member
    rw [split, nothing, List.append_nil] at member
    exact (List.mem_append.mp member).elim (frontBlank char) (backBlank char)
  · intro blank
    rw [Text.trim, Text.trimStart, List.dropWhile_eq_nil_iff.mpr blank]
    rfl

theorem TypeExpr.WellFormed.spelling_ne_empty {expr : TypeExpr} (valid : WellFormed expr)
    (dialect : Dialect) : expr.spelling dialect ≠ "" := by
  intro empty
  have nothing := congrArg String.toList empty
  cases valid with
  | @named name arguments suffixes isName _ _ =>
      have named : ∀ text : String, TypeToken.isName text.toList = true → text.toList ≠ [] := by
        intro text valid absent
        rw [absent] at valid
        cases valid
      cases arguments with
      | nil =>
          rw [spelling, String.toList_append] at nothing
          exact named _ (Dialect.isName_typeName dialect isName)
            (List.append_eq_nil_iff.mp nothing).1
      | cons argument arguments =>
          simp only [spelling, String.toList_append, List.append_assoc] at nothing
          exact named _ isName (List.append_eq_nil_iff.mp nothing).1

theorem displayType_eq_empty_iff (dialect : Dialect) {type : String} :
    dialect.displayType type = "" ↔ isBlankText type = true := by
  unfold Dialect.displayType
  cases read : TypeExpr.ofText? type with
  | none => exact trimmed_eq_empty_iff
  | some expr =>
      obtain ⟨scanned, valid⟩ := TypeExpr.ofText?_sound read
      constructor
      · exact fun empty => absurd empty (valid.spelling_ne_empty dialect)
      · intro blank
        have nothing : TypeToken.scan type.toList = some [] := by
          rw [← List.append_nil type.toList,
            TypeToken.scan_blanks_append (List.all_eq_true.mp blank), TypeToken.scan_nil]
        rw [scanned] at nothing
        cases valid with
        | @named name arguments suffixes _ _ _ =>
            cases arguments <;> simp [TypeExpr.tokens] at nothing

namespace Signature

theorem specialWord_cases (dialect : Dialect) (name : String) :
    specialWord dialect name = trimmed name ∨
      specialWord dialect name ∈ ["class", "Class", "struct", "Structure", "new()", "New"] := by
  unfold specialWord
  dsimp only
  split
  all_goals first | exact .inr (by decide) | exact .inl rfl

theorem specialWord_eq_empty_iff (dialect : Dialect) {name : String} :
    specialWord dialect name = "" ↔ isBlankText name = true := by
  rw [← trimmed_eq_empty_iff]
  constructor
  · intro empty
    cases specialWord_cases dialect name with
    | inl same => rw [← same, empty]
    | inr fixed =>
        rw [empty] at fixed
        exact absurd fixed (by decide)
  · intro empty
    have nothing : Text.trim name.toList = [] := String.ofList_eq_empty_iff.mp empty
    unfold specialWord
    rw [nothing, empty]
    cases dialect <;> rfl

theorem specialWord_eq_as_iff (dialect : Dialect) {name : String} :
    specialWord dialect name = "As" ↔ trimmed name = "As" := by
  constructor
  · intro spelled
    cases specialWord_cases dialect name with
    | inl same => rw [← same, spelled]
    | inr fixed =>
        rw [spelled] at fixed
        exact absurd fixed (by decide)
  · intro spelled
    have word : Text.trim name.toList = ['A', 's'] := by
      have chars := congrArg String.toList spelled
      rwa [trimmed, String.toList_ofList] at chars
    unfold specialWord
    rw [word, spelled]
    cases dialect <;> rfl

end Signature

/-! ## What stands behind a connective -/

/-- The tokens that connect a name with what it is or must be. -/
def Token.isConnective (token : Token) : Bool :=
  token == ⟨.keyword, "As"⟩ || token == ⟨.punctuation, ":"⟩

/-- A type, one of the words for a constraint, or the brace before several constraints. -/
def Token.isTarget (dialect : Dialect) (words : List String) (token : Token) : Bool :=
  token.tokenClass == .typeName || (token.tokenClass == .keyword && words.contains token.text) ||
    (dialect == .visualBasic && token == ⟨.punctuation, "\x7b"⟩)

/-- A space and then a target. -/
def BeginsTarget (dialect : Dialect) (words : List String) (tokens : List Token) : Prop :=
  ∃ next rest, tokens = ⟨.space, " "⟩ :: next :: rest ∧ next.isTarget dialect words = true

def EachTied (dialect : Dialect) (words : List String) : List Token → Prop
  | [] => True
  | token :: rest =>
    (token.isConnective = true → BeginsTarget dialect words rest) ∧ EachTied dialect words rest

/-- Every connective of the pieces is tied when the rest is written behind them. -/
def TiedBefore (dialect : Dialect) (words : List String) (rest : List Piece) :
    List Piece → Prop
  | [] => True
  | piece :: pieces =>
    (∀ token ∈ piece.token?, token.isConnective = true →
      BeginsTarget dialect words (layOut true (pieces ++ rest))) ∧
        TiedBefore dialect words rest pieces

section

variable {dialect : Dialect} {words : List String} {rest : List Piece}

theorem Token.callsForSpace_of_isConnective {token : Token} (connective : token.isConnective = true) :
    token.callsForSpace = true := by
  simp only [isConnective, Bool.or_eq_true, beq_iff_eq] at connective
  obtain rfl | rfl := connective
  · rfl
  · rfl

/-- A connective calls for a space, so what is before it does not matter. -/
theorem eachTied_layOut (spaced : Bool) (pieces : List Piece) :
    EachTied dialect words (layOut spaced pieces) ↔ TiedBefore dialect words [] pieces := by
  have step : ∀ {token : Token} {pieces : List Piece},
      (token.isConnective = true →
        BeginsTarget dialect words (layOut token.callsForSpace pieces)) ↔
      (token.isConnective = true → BeginsTarget dialect words (layOut true pieces)) := by
    intro token pieces
    refine forall_congr' fun connective => ?_
    rw [Token.callsForSpace_of_isConnective connective]
  induction pieces generalizing spaced with
  | nil => exact Iff.rfl
  | cons piece pieces ih =>
      cases piece with
      | mark tokenClass text =>
          simp only [layOut, EachTied, TiedBefore, Piece.token?, Option.mem_some_iff, forall_eq',
            List.append_nil, ih, step]
      | word tokenClass text =>
          by_cases empty : text.isEmpty
          · simp [layOut, TiedBefore, Piece.token?, empty, ih]
          · have blank : Token.isConnective ⟨.space, " "⟩ = false := rfl
            cases spaced with
            | false =>
                simp only [layOut, empty, Bool.false_eq_true, ↓reduceIte, List.nil_append, EachTied,
                  TiedBefore, Piece.token?, Option.mem_some_iff, forall_eq', List.append_nil, ih,
                  step]
            | true =>
                simp only [layOut, empty, Bool.false_eq_true, ↓reduceIte, List.cons_append,
                  List.nil_append, EachTied, blank, false_implies, true_and, TiedBefore,
                  Piece.token?, Option.mem_some_iff, forall_eq', List.append_nil, ih, step]

@[simp] theorem tiedBefore_nil : TiedBefore dialect words rest [] := trivial

@[simp] theorem tiedBefore_append (left right : List Piece) :
    TiedBefore dialect words rest (left ++ right) ↔
      TiedBefore dialect words (right ++ rest) left ∧ TiedBefore dialect words rest right := by
  induction left with
  | nil => simp
  | cons piece left ih =>
      simp only [List.cons_append, TiedBefore, ih, List.append_assoc, and_assoc]

end

/-! ## Parts without a connective -/

def Unconnected (pieces : List Piece) : Prop :=
  ∀ piece ∈ pieces, ∀ token ∈ piece.token?, token.isConnective = false

@[simp] theorem unconnected_nil : Unconnected [] :=
  fun _ member => absurd member List.not_mem_nil

@[simp] theorem unconnected_append {left right : List Piece} :
    Unconnected (left ++ right) ↔ Unconnected left ∧ Unconnected right :=
  List.forall_mem_append

theorem unconnected_flatMap {α : Type} {block : α → List Piece} {items : List α}
    (each : ∀ item ∈ items, Unconnected (block item)) : Unconnected (items.flatMap block) := by
  intro piece member
  obtain ⟨item, among, inBlock⟩ := List.mem_flatMap.mp member
  exact each item among piece inBlock

theorem unconnected_word_cons {tokenClass : TokenClass} {text : String} {pieces : List Piece}
    (plain : Token.isConnective ⟨tokenClass, text⟩ = false) :
    Unconnected (.word tokenClass text :: pieces) ↔ Unconnected pieces := by
  refine List.forall_mem_cons.trans (and_iff_right fun token written => ?_)
  by_cases empty : text.isEmpty
  · simp [Piece.token?, empty] at written
  · obtain rfl : Token.mk tokenClass text = token := by
      simpa [Piece.token?, empty] using written
    exact plain

@[simp] theorem unconnected_name_cons {tokenClass : TokenClass} {text : String}
    {pieces : List Piece} (name : tokenClass ≠ .keyword) (word : tokenClass ≠ .punctuation) :
    Unconnected (.word tokenClass text :: pieces) ↔ Unconnected pieces :=
  unconnected_word_cons (by simp [Token.isConnective, name, word])

@[simp] theorem unconnected_punctuation {text : String} :
    Unconnected (Signature.punctuation text) ↔ text ≠ ":" := by
  simp [Unconnected, Signature.punctuation, Piece.token?, Token.isConnective]

namespace Signature

variable {dialect : Dialect}

@[simp] theorem unconnected_space : Unconnected space :=
  List.forall_mem_singleton.mpr (by decide)

@[simp] theorem unconnected_lineBreak : Unconnected lineBreak :=
  List.forall_mem_singleton.mpr (by decide)

@[simp] theorem unconnected_indent : Unconnected indent :=
  List.forall_mem_singleton.mpr (by decide)

@[simp] theorem unconnected_continuation : Unconnected (continuation dialect) := by
  cases dialect with
  | csharp => exact unconnected_nil
  | visualBasic => exact List.forall_mem_singleton.mpr (by decide)

@[simp] theorem unconnected_keyword {word : Keyword} (other : word ≠ .asWord) :
    Unconnected (keyword dialect word) := by
  unfold keyword
  split
  · rename_i text spelled
    refine (unconnected_word_cons ?_).mpr unconnected_nil
    cases word <;> cases dialect <;> cases spelled <;> first | rfl | exact absurd rfl other
  · exact unconnected_nil

@[simp] theorem unconnected_keywordIf (condition : Bool) {word : Keyword} (other : word ≠ .asWord) :
    Unconnected (keywordIf dialect condition word) := by
  unfold keywordIf
  split
  · exact unconnected_keyword other
  · exact unconnected_nil

@[simp] theorem unconnected_typeName (type : String) : Unconnected (typeName dialect type) := by
  simp [typeName]

@[simp] theorem unconnected_identifier (name : String) : Unconnected (identifier name) := by
  simp [identifier]

@[simp] theorem unconnected_reservedName (word : Keyword) :
    Unconnected (reservedName dialect word) := by
  unfold reservedName
  split
  · exact unconnected_identifier _
  · exact unconnected_nil

theorem unconnected_commaSeparated {lists : List (List Piece)}
    (each : ∀ list ∈ lists, Unconnected list) : Unconnected (commaSeparated lists) := by
  induction lists with
  | nil => exact unconnected_nil
  | cons list lists ih =>
      have first : Unconnected list := each list List.mem_cons_self
      have rest := ih fun later member => each later (List.mem_cons_of_mem _ member)
      cases lists with
      | nil => exact first
      | cons next lists => simp [commaSeparated, first, rest]

theorem unconnected_typeParameterList (parameters : List TypeParameter) :
    Unconnected (typeParameterList .csharp parameters) := by
  have list : Unconnected (commaSeparated (parameters.map (typeParameter .csharp))) := by
    refine unconnected_commaSeparated fun pieces member => ?_
    obtain ⟨parameter, _, rfl⟩ := List.mem_map.mp member
    simp [typeParameter, inlineConstraints]
  unfold typeParameterList
  split
  · exact unconnected_nil
  · exact unconnected_append.mpr ⟨unconnected_append.mpr ⟨by simp, list⟩, by simp⟩

@[simp] theorem unconnected_visibility (declaration : Declaration) :
    Unconnected (visibility dialect declaration) := by
  unfold visibility Visibility.keyword
  split <;> simp

@[simp] theorem unconnected_memberVisibility (declaration : Declaration) :
    Unconnected (memberVisibility dialect declaration) := by
  unfold memberVisibility
  split <;> simp

@[simp] theorem unconnected_memberContract (modifiers : Modifiers) :
    Unconnected (memberContract dialect modifiers) := by
  simp [memberContract]

@[simp] theorem unconnected_resultOrVoid (type : String) :
    Unconnected (resultOrVoid dialect type) := by
  unfold resultOrVoid
  split
  · simp
  · cases dialect <;> simp

@[simp] theorem unconnected_classWords (modifiers : Modifiers) :
    Unconnected (classWords dialect modifiers) := by
  unfold classWords
  split <;> simp

@[simp] theorem unconnected_operatorName (target symbol : String) (conversion : Option Conversion) :
    Unconnected (operatorName dialect target symbol conversion) := by
  cases conversion with
  | none => cases dialect <;> simp [operatorName]
  | some conversion => cases conversion <;> cases dialect <;> simp [operatorName, Conversion.keyword]

@[simp] theorem unconnected_passingMode (parameter : Parameter) :
    Unconnected (passingMode dialect parameter) := by
  unfold passingMode
  split
  · simp
  · split <;> simp

@[simp] theorem unconnected_implementsClause (implemented : List String) :
    Unconnected (implementsClause dialect implemented) := by
  unfold implementsClause
  split
  · simp
  · simp
  · refine unconnected_append.mpr ⟨by simp, unconnected_commaSeparated fun list member => ?_⟩
    obtain ⟨name, _, rfl⟩ := List.mem_map.mp member
    simp

theorem unconnected_accessors (hasGetter hasSetter : Bool) :
    Unconnected (accessors dialect (accessorWords hasGetter hasSetter)) := by
  have plain : ∀ word ∈ accessorWords hasGetter hasSetter, word ≠ .asWord := by
    cases hasGetter <;> cases hasSetter <;> decide
  cases dialect with
  | csharp =>
      have inner : Unconnected ((accessorWords hasGetter hasSetter).flatMap fun word =>
          space ++ keyword .csharp word ++ punctuation ";") :=
        unconnected_flatMap fun word member => by simp [unconnected_keyword (plain word member)]
      simp only [accessors, unconnected_append, inner]
      simp
  | visualBasic =>
      exact unconnected_flatMap fun word member => by simp [unconnected_keyword (plain word member)]

theorem unconnected_attributeBlock (attr : Attribute) :
    Unconnected (attributeBlock dialect attr) := by
  have argument : ∀ given : AttributeArgument, Unconnected (attributeArgument dialect given) := by
    intro given
    unfold attributeArgument
    cases given.key <;> cases dialect <;> simp [infixMark]
  have arguments : Unconnected (commaSeparated (attr.arguments.map (attributeArgument dialect))) := by
    refine unconnected_commaSeparated fun list member => ?_
    obtain ⟨given, _, rfl⟩ := List.mem_map.mp member
    exact argument given
  unfold attributeBlock
  cases attr.arguments.isEmpty <;> cases dialect <;> simp [arguments]

end Signature

end DocPreview
