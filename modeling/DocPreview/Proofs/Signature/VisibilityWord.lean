import DocPreview.Proofs.Signature.Makeup

/-!
# The visibility in a signature

The visibility of a declaration is at most one word of its signature, and nothing else depends on
it. So two visibilities give two signatures exactly where the kind shows the word.
-/

set_option autoImplicit false

namespace DocPreview

def Visibility.word (level : Visibility) (dialect : Dialect) : String :=
  (level.keyword.spelling? dialect).getD ""

theorem Visibility.word_ne_empty (level : Visibility) (dialect : Dialect) :
    level.word dialect ≠ "" := by
  cases level <;> cases dialect <;> decide

theorem Visibility.word_injective {one other : Visibility} {dialect : Dialect}
    (same : one.word dialect = other.word dialect) : one = other := by
  cases one <;> cases other <;> cases dialect <;> first | rfl | exact absurd same (by decide)

def Declaration.withVisibility (declaration : Declaration) (level : Visibility) : Declaration :=
  { declaration with visibility := level }

namespace Signature

variable {dialect : Dialect} {declaration : Declaration}

/-- Whether a signature of this kind leaves the visibility out: a destructor, a static constructor,
a member of an interface, and in `csharp` an explicit implementation. -/
def hidesVisibility (dialect : Dialect) (declaration : Declaration) : Bool :=
  match declaration.kind with
  | .destructor => true
  | .constructor => declaration.modifiers.isStatic
  | .method implemented =>
    declaration.parentIsInterface || (dialect == .csharp && !implemented.isEmpty)
  | .property _ _ | .event | .field => declaration.parentIsInterface
  | _ => false

/-- The word for the visibility, if the kind shows it. -/
def visibilityPart (dialect : Dialect) (declaration : Declaration) : List Piece :=
  if hidesVisibility dialect declaration then [] else visibility dialect declaration

theorem keyword_visibility (level : Visibility) (dialect : Dialect) :
    keyword dialect level.keyword = [.word .keyword (level.word dialect)] := by
  cases level <;> cases dialect <;> rfl

/-! ## In the pieces -/

/-- The visibility has one place in the pieces, and nothing else depends on it. -/
def HasVisibilityPlace (dialect : Dialect) (declaration : Declaration)
    (written : Declaration → List Piece) : Prop :=
  ∃ front back, ∀ level, written (declaration.withVisibility level) =
    front ++ visibilityPart dialect (declaration.withVisibility level) ++ back

namespace HasVisibilityPlace

variable {written rest : Declaration → List Piece}

theorem of_part (same : ∀ level, written (declaration.withVisibility level) =
    visibilityPart dialect (declaration.withVisibility level)) :
    HasVisibilityPlace dialect declaration written :=
  ⟨[], [], fun level => by rw [same, List.nil_append, List.append_nil]⟩

theorem of_hidden (hidden : hidesVisibility dialect declaration)
    (same : ∀ level, written (declaration.withVisibility level) = written declaration) :
    HasVisibilityPlace dialect declaration written := by
  refine ⟨[], written declaration, fun level => ?_⟩
  have part : visibilityPart dialect (declaration.withVisibility level) = [] := if_pos hidden
  rw [same, part, List.nil_append, List.nil_append]

theorem append (place : HasVisibilityPlace dialect declaration written)
    (same : ∀ level, rest (declaration.withVisibility level) = rest declaration) :
    HasVisibilityPlace dialect declaration fun other => written other ++ rest other := by
  obtain ⟨front, back, around⟩ := place
  refine ⟨front, back ++ rest declaration, fun level => ?_⟩
  simp only [around, same, List.append_assoc]

theorem prepend (place : HasVisibilityPlace dialect declaration written)
    (same : ∀ level, rest (declaration.withVisibility level) = rest declaration) :
    HasVisibilityPlace dialect declaration fun other => rest other ++ written other := by
  obtain ⟨front, back, around⟩ := place
  refine ⟨rest declaration ++ front, back, fun level => ?_⟩
  simp only [around, same, List.append_assoc]

end HasVisibilityPlace

theorem visibilityPart_withVisibility (dialect : Dialect) (declaration : Declaration)
    (level : Visibility) :
    visibilityPart dialect (declaration.withVisibility level) =
      if hidesVisibility dialect declaration then []
      else [.word .keyword (level.word dialect)] := by
  rw [← keyword_visibility]
  rfl

theorem visibility_place (shown : hidesVisibility dialect declaration = false) :
    HasVisibilityPlace dialect declaration (visibility dialect) := by
  refine .of_part fun level => ?_
  rw [visibilityPart_withVisibility, shown, ← keyword_visibility]
  rfl

theorem memberVisibility_place
    (same : hidesVisibility dialect declaration = declaration.parentIsInterface) :
    HasVisibilityPlace dialect declaration (memberVisibility dialect) := by
  refine .of_part fun level => ?_
  rw [visibilityPart_withVisibility, same, ← keyword_visibility]
  rfl

theorem typeDeclaration_place (kindWords : List Piece)
    (shown : hidesVisibility dialect declaration = false) :
    HasVisibilityPlace dialect declaration (typeDeclaration dialect · kindWords) := by
  -- Here as in the other kinds, no part but the visibility changes with it.
  cases dialect with
  | csharp =>
      repeat refine .append ?_ fun _ => rfl
      exact (visibility_place shown).prepend fun _ => rfl
  | visualBasic =>
      repeat refine .append ?_ fun _ => rfl
      exact visibility_place shown

theorem enumeration_place (underlyingType : String)
    (shown : hidesVisibility dialect declaration = false) :
    HasVisibilityPlace dialect declaration (enumeration dialect · underlyingType) := by
  repeat refine .append ?_ fun _ => rfl
  exact visibility_place shown

theorem delegate_place (shown : hidesVisibility dialect declaration = false) :
    HasVisibilityPlace dialect declaration (delegate dialect) := by
  repeat refine .append ?_ fun _ => rfl
  exact visibility_place shown

theorem constructor_place (kind : declaration.kind = .constructor) :
    HasVisibilityPlace dialect declaration (constructor dialect) := by
  repeat refine .append ?_ fun _ => rfl
  refine .of_part fun level => ?_
  simp only [visibilityPart, hidesVisibility, Declaration.withVisibility, kind]

theorem destructor_place (kind : declaration.kind = .destructor) :
    HasVisibilityPlace dialect declaration (destructor dialect) :=
  .of_hidden (by rw [hidesVisibility, kind]) fun _ => rfl

theorem operator_place (symbol : String) (conversion : Option Conversion)
    (shown : hidesVisibility dialect declaration = false) :
    HasVisibilityPlace dialect declaration (operator dialect · symbol conversion) := by
  repeat refine .append ?_ fun _ => rfl
  exact visibility_place shown

theorem method_place {implemented : List String}
    (kind : declaration.kind = .method implemented) :
    HasVisibilityPlace dialect declaration (method dialect · implemented) := by
  repeat refine .append ?_ fun _ => rfl
  refine .of_part fun level => ?_
  simp only [visibilityPart, hidesVisibility, Declaration.withVisibility, kind, memberVisibility]
  cases declaration.parentIsInterface <;> cases dialect <;> cases implemented <;> simp

theorem property_place {hasGetter hasSetter : Bool}
    (kind : declaration.kind = .property hasGetter hasSetter) :
    HasVisibilityPlace dialect declaration (property dialect · hasGetter hasSetter) := by
  have member : HasVisibilityPlace dialect declaration (memberVisibility dialect) :=
    memberVisibility_place (by rw [hidesVisibility, kind])
  cases dialect with
  | csharp =>
      repeat refine .append ?_ fun _ => rfl
      exact member
  | visualBasic =>
      repeat refine .append ?_ fun _ => rfl
      exact member.prepend fun _ => rfl

theorem event_place (kind : declaration.kind = .event) :
    HasVisibilityPlace dialect declaration (event dialect) := by
  repeat refine .append ?_ fun _ => rfl
  exact memberVisibility_place (by rw [hidesVisibility, kind])

theorem field_place (kind : declaration.kind = .field) :
    HasVisibilityPlace dialect declaration (field dialect) := by
  repeat refine .append ?_ fun _ => rfl
  exact memberVisibility_place (by rw [hidesVisibility, kind])

/-- Whatever the kind, the visibility has one place in what it says. -/
theorem exists_body?_place (typed : body? dialect declaration ≠ none) :
    ∃ written, HasVisibilityPlace dialect declaration written ∧
      ∀ level, body? dialect (declaration.withVisibility level) =
        some (written (declaration.withVisibility level)) := by
  have body : ∀ level, body? dialect (declaration.withVisibility level) =
      body? dialect { declaration.withVisibility level with kind := declaration.kind } :=
    fun _ => rfl
  cases kind : declaration.kind <;> rw [kind] at body
  case classType =>
    exact ⟨_, typeDeclaration_place (classWords dialect declaration.modifiers)
      (by rw [hidesVisibility, kind]), body⟩
  case interfaceType =>
    exact ⟨_, typeDeclaration_place (keyword dialect .interfaceWord)
      (by rw [hidesVisibility, kind]), body⟩
  case structType =>
    exact ⟨_, typeDeclaration_place (keyword dialect .structWord)
      (by rw [hidesVisibility, kind]), body⟩
  case enumType underlyingType =>
    exact ⟨_, enumeration_place underlyingType (by rw [hidesVisibility, kind]), body⟩
  case delegate => exact ⟨_, delegate_place (by rw [hidesVisibility, kind]), body⟩
  case constructor => exact ⟨_, constructor_place kind, body⟩
  case destructor => exact ⟨destructor dialect, destructor_place kind, body⟩
  case operator symbol conversion =>
    exact ⟨_, operator_place symbol conversion (by rw [hidesVisibility, kind]), body⟩
  case method implemented => exact ⟨_, method_place kind, body⟩
  case property hasGetter hasSetter => exact ⟨_, property_place kind, body⟩
  case event => exact ⟨_, event_place kind, body⟩
  case field => exact ⟨_, field_place kind, body⟩
  case other description => exact absurd (by simp only [body?, kind]) typed

/-! ## In the tokens -/

/-- A word between other pieces is one token, and the others do not depend on it. -/
theorem exists_layOut_around (front back : List Piece) :
    ∃ before behind, ∀ text, text ≠ "" →
      layOut false (front ++ [.word .keyword text] ++ back) =
        before ++ Token.mk .keyword text :: behind := by
  refine ⟨layOut false front ++ (if spacedAfter false front then [⟨.space, " "⟩] else []),
    layOut true back, fun text present => ?_⟩
  have shown : ¬text.isEmpty := by simpa using present
  rw [List.append_assoc, layOut_append, List.cons_append, List.nil_append]
  simp only [layOut, shown, Bool.false_eq_true, ↓reduceIte, List.append_assoc]
  rfl

theorem body?_withVisibility_eq_none (absent : body? dialect declaration = none)
    (level : Visibility) : body? dialect (declaration.withVisibility level) = none := by
  cases found : body? dialect (declaration.withVisibility level) with
  | none => rfl
  | some body =>
      obtain ⟨pieces, -, bodies⟩ := exists_body?_place (by rw [found]; exact Option.some_ne_none _)
      have again : body? dialect declaration = _ := bodies declaration.visibility
      rw [absent] at again
      cases again

theorem render_withVisibility_of_eq_placeholder
    (absent : render declaration dialect = placeholder) (level : Visibility) :
    render (declaration.withVisibility level) dialect = placeholder :=
  render_eq_placeholder_iff.mpr <|
    (render_eq_placeholder_iff.mp absent).imp id (body?_withVisibility_eq_none · level)

/-- Where the visibility is shown, it is one token, and no other depends on it. -/
theorem exists_tokens_around_visibility
    (expressible : isInexpressible dialect declaration = false)
    (typed : body? dialect declaration ≠ none)
    (shown : hidesVisibility dialect declaration = false) :
    ∃ before behind, ∀ level,
      (render (declaration.withVisibility level) dialect).tokens =
        before ++ Token.mk .keyword (level.word dialect) :: behind := by
  obtain ⟨pieces, ⟨front, back, around⟩, bodies⟩ := exists_body?_place typed
  obtain ⟨before, behind, tokens⟩ := exists_layOut_around
    (declaration.attributes.flatMap (attributeBlock dialect) ++ front)
    (back ++ whereClauses dialect declaration)
  refine ⟨before, behind, fun level => ?_⟩
  have still : isInexpressible dialect (declaration.withVisibility level) = false := expressible
  rw [← tokens _ (level.word_ne_empty dialect), render_eq_ofPieces still (bodies level),
    around, visibilityPart_withVisibility, shown, ofPieces]
  simp only [Bool.false_eq_true, ↓reduceIte, List.append_assoc]
  rfl

theorem render_withVisibility_of_hidden (typed : body? dialect declaration ≠ none)
    (hidden : hidesVisibility dialect declaration) (one other : Visibility) :
    render (declaration.withVisibility one) dialect =
      render (declaration.withVisibility other) dialect := by
  obtain ⟨pieces, ⟨front, back, around⟩, bodies⟩ := exists_body?_place typed
  have same : body? dialect (declaration.withVisibility one) =
      body? dialect (declaration.withVisibility other) := by
    rw [bodies, bodies, around, around]
    simp only [visibilityPart_withVisibility, hidden, ↓reduceIte]
  unfold render
  rw [same]
  rfl

/-- Two visibilities give the same signature exactly where it leaves the visibility out, or where
the declaration has no syntax. -/
theorem tokens_render_visibility_iff (declaration : Declaration) (dialect : Dialect)
    {one other : Visibility} (different : one ≠ other) :
    (render (declaration.withVisibility one) dialect).tokens =
        (render (declaration.withVisibility other) dialect).tokens ↔
      render declaration dialect = placeholder ∨ hidesVisibility dialect declaration := by
  by_cases absent : render declaration dialect = placeholder
  · refine iff_of_true ?_ (.inl absent)
    rw [render_withVisibility_of_eq_placeholder absent,
      render_withVisibility_of_eq_placeholder absent]
  · obtain ⟨expressible, body, found⟩ := exists_body?_of_ne_placeholder absent
    have typed : body? dialect declaration ≠ none := by
      rw [found]
      exact Option.some_ne_none body
    cases hidden : hidesVisibility dialect declaration with
    | true =>
        refine iff_of_true ?_ (.inr rfl)
        rw [render_withVisibility_of_hidden typed hidden one other]
    | false =>
        obtain ⟨before, behind, tokens⟩ :=
          exists_tokens_around_visibility expressible typed hidden
        refine iff_of_false (fun same => different ?_) (not_or.mpr ⟨absent, nofun⟩)
        rw [tokens, tokens, List.append_cancel_left_eq, List.cons.injEq, Token.mk.injEq] at same
        exact Visibility.word_injective same.1.2

theorem tokens_render_visibility_iff_explicit_implementation :
    let compare : Declaration :=
      { name := "CompareTo", kind := .method ["IComparable.CompareTo"], memberType := "int",
        parameters := [{ name := "other", type := "object" }] }
    Visibility.publicLevel ≠ .privateLevel ∧
      (render (compare.withVisibility .publicLevel) .csharp).tokens =
        (render (compare.withVisibility .privateLevel) .csharp).tokens ∧
      (render (compare.withVisibility .publicLevel) .visualBasic).tokens ≠
        (render (compare.withVisibility .privateLevel) .visualBasic).tokens := by
  intro compare
  have different : Visibility.publicLevel ≠ .privateLevel := by decide
  have shown : ¬(render compare .visualBasic = placeholder ∨
      hidesVisibility .visualBasic compare) := by decide
  exact ⟨different, (tokens_render_visibility_iff compare .csharp different).mpr (.inr rfl),
    fun same => shown ((tokens_render_visibility_iff compare .visualBasic different).mp same)⟩

end Signature

end DocPreview
