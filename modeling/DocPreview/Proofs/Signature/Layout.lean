import DocPreview.Signature.Render

/-!
# Pieces next to each other

Pieces laid out one after another give the tokens of the first and then those of the rest, where the
last token before the rest decides whether its first word is set off. Pieces behind a line break,
and pieces that begin with a mark, are laid out as if they stood alone.
-/

set_option autoImplicit false

namespace DocPreview

/-- Whether a word behind the pieces is set off, when `spaced` says so of a word in their place. -/
def spacedAfter : (spaced : Bool) → List Piece → Bool
  | spaced, [] => spaced
  | spaced, .word tokenClass text :: pieces =>
    if text.isEmpty then spacedAfter spaced pieces
    else spacedAfter (Token.mk tokenClass text).callsForSpace pieces
  | _, .mark tokenClass text :: pieces =>
    spacedAfter (Token.mk tokenClass text).callsForSpace pieces

theorem layOut_append (spaced : Bool) (left right : List Piece) :
    layOut spaced (left ++ right) =
      layOut spaced left ++ layOut (spacedAfter spaced left) right := by
  induction left generalizing spaced with
  | nil => rfl
  | cons piece left ih =>
      cases piece with
      | word tokenClass text =>
          simp only [List.cons_append, layOut, spacedAfter]
          split
          · exact ih spaced
          · simp only [ih, List.append_assoc, List.cons_append]
      | mark tokenClass text =>
          simp only [List.cons_append, layOut, spacedAfter, ih]

theorem spacedAfter_append (spaced : Bool) (left right : List Piece) :
    spacedAfter spaced (left ++ right) = spacedAfter (spacedAfter spaced left) right := by
  induction left generalizing spaced with
  | nil => rfl
  | cons piece left ih =>
      cases piece with
      | word tokenClass text =>
          simp only [List.cons_append, spacedAfter]
          split
          · exact ih spaced
          · exact ih _
      | mark tokenClass text =>
          simp only [List.cons_append, spacedAfter, ih]

/-- The pieces are laid out in the same way wherever they stand. -/
def StandsAlone (pieces : List Piece) : Prop :=
  ∀ spaced, layOut spaced pieces = layOut false pieces

theorem standsAlone_nil : StandsAlone [] := fun _ => rfl

theorem standsAlone_mark_cons (tokenClass : TokenClass) (text : String) (pieces : List Piece) :
    StandsAlone (.mark tokenClass text :: pieces) := fun _ => rfl

/-- Blocks that end where no space is called for are laid out one by one. -/
theorem layOut_flatMap_append {α : Type} {block : α → List Piece}
    (closed : ∀ item spaced, spacedAfter spaced (block item) = false) (items : List α)
    (pieces : List Piece) :
    layOut false (items.flatMap block ++ pieces) =
      items.flatMap (fun item => layOut false (block item)) ++ layOut false pieces := by
  induction items with
  | nil => rfl
  | cons item items ih =>
      simp only [List.flatMap_cons, List.append_assoc]
      rw [layOut_append, closed, ih]

/-- So are blocks that stand alone, whatever is before them. -/
theorem layOut_flatMap {α : Type} {block : α → List Piece}
    (alone : ∀ item, StandsAlone (block item)) (spaced : Bool) (items : List α) :
    layOut spaced (items.flatMap block) =
      items.flatMap fun item => layOut false (block item) := by
  induction items generalizing spaced with
  | nil => rfl
  | cons item items ih =>
      simp only [List.flatMap_cons]
      rw [layOut_append, alone item spaced, ih]

/-! ## Tokens of one sort -/

def Piece.token? : Piece → Option Token
  | .word tokenClass text => if text.isEmpty then none else some ⟨tokenClass, text⟩
  | .mark tokenClass text => some ⟨tokenClass, text⟩

/-- Apart from the spaces, the tokens are those of the pieces. -/
theorem filter_layOut {chosen : Token → Bool} (noSpace : chosen ⟨.space, " "⟩ = false)
    (spaced : Bool) (pieces : List Piece) :
    (layOut spaced pieces).filter chosen = (pieces.filterMap Piece.token?).filter chosen := by
  induction pieces generalizing spaced with
  | nil => rfl
  | cons piece pieces ih =>
      cases piece with
      | word tokenClass text =>
          simp only [layOut, List.filterMap_cons, Piece.token?]
          by_cases empty : text.isEmpty
          · simp only [empty, ↓reduceIte, ih]
          · cases spaced with
            | false => simp [empty, List.filter_cons, ih]
            | true => simp [empty, List.filter_cons, ih, noSpace]
      | mark tokenClass text =>
          simp only [layOut, List.filterMap_cons, Piece.token?, List.filter_cons, ih]

namespace Signature

variable {dialect : Dialect} {declaration : Declaration}

theorem exists_body?_of_ne_placeholder (written : render declaration dialect ≠ placeholder) :
    isInexpressible dialect declaration = false ∧
      ∃ body, body? dialect declaration = some body := by
  unfold render at written
  cases inexpressible : isInexpressible dialect declaration with
  | true => simp [inexpressible] at written
  | false =>
      cases found : body? dialect declaration with
      | none => simp [inexpressible, found] at written
      | some body => exact ⟨rfl, body, rfl⟩

theorem render_eq_ofPieces {body : List Piece}
    (expressible : isInexpressible dialect declaration = false)
    (found : body? dialect declaration = some body) :
    render declaration dialect =
      ofPieces (declaration.attributes.flatMap (attributeBlock dialect) ++ body ++
        whereClauses dialect declaration) := by
  simp only [render, expressible, Bool.false_eq_true, ↓reduceIte, found]

/-- The tokens of one attribute, which ends its line. -/
def attributeTokens (dialect : Dialect) (attr : Attribute) : List Token :=
  layOut false (attributeBlock dialect attr)

theorem spacedAfter_attributeBlock (dialect : Dialect) (attr : Attribute) (spaced : Bool) :
    spacedAfter spaced (attributeBlock dialect attr) = false := by
  simp only [attributeBlock]
  rw [spacedAfter_append]
  rfl

theorem layOut_attributes (dialect : Dialect) (attributes : List Attribute)
    (pieces : List Piece) :
    layOut false (attributes.flatMap (attributeBlock dialect) ++ pieces) =
      attributes.flatMap (attributeTokens dialect) ++ layOut false pieces :=
  layOut_flatMap_append (spacedAfter_attributeBlock dialect) attributes pieces

theorem standsAlone_whereClause (dialect : Dialect) (parameter : TypeParameter) :
    StandsAlone (whereClause dialect parameter) := by
  unfold whereClause
  split
  · exact standsAlone_nil
  · exact standsAlone_mark_cons _ _ _

theorem standsAlone_typeParameterList (dialect : Dialect) (parameters : List TypeParameter) :
    StandsAlone (typeParameterList dialect parameters) := by
  unfold typeParameterList
  split
  · exact standsAlone_nil
  · cases dialect with
    | csharp => exact standsAlone_mark_cons _ _ _
    | visualBasic => exact standsAlone_mark_cons _ _ _

end Signature

end DocPreview
