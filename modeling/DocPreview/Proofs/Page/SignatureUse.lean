import DocPreview.Page.Style

/-!
# Which pages show the signature

The layout of a page has a section for the signature, whatever the comment holds, so both named
styles show it on every page. A style that handles no tag never does.
-/

set_option autoImplicit false

namespace DocPreview

theorem Layout.page_showsSignature (chrome : Chrome) (listing : Declaration → List Html)
    (setting : Setting) (root : Tag) :
    (Layout.page chrome listing setting root).showsSignature = true := by
  simp [Layout.page, Rendered.showsSignature_concat, Layout.syntaxSection]

namespace Style

theorem applyRoot_showsSignature_of_layout {style : Style} {chrome : Chrome}
    {listing : Declaration → List Html}
    (handled : style.registry.lookup rootTag = some (Layout.page chrome listing))
    (setting : Setting) (root : Element) :
    (style.applyRoot setting root).showsSignature = true := by
  simp only [applyRoot, handled, dispatch]
  exact Layout.page_showsSignature chrome listing setting _

theorem applyRoot_showsSignature_of_ofName? {name : String} {style : Style}
    (named : ofName? name = some style) (setting : Setting) (root : Element) :
    (style.applyRoot setting root).showsSignature = true := by
  obtain rfl | rfl := eq_of_ofName? named
  · have handled : Classic.style.registry.lookup rootTag =
        some (Layout.page Classic.chrome fun _ => []) := rfl
    exact applyRoot_showsSignature_of_layout handled setting root
  · have handled : Reference.style.registry.lookup rootTag =
        some (Layout.page Reference.chrome Reference.listing) := rfl
    exact applyRoot_showsSignature_of_layout handled setting root

/-! ## A style that handles no tag -/

theorem unrecognized_showsSignature {policy : TagPolicy} {tag : Tag}
    (quiet : tag.contents.showsSignature = false) :
    (unrecognized policy tag).showsSignature = false := by
  cases policy with
  | hide => simp [unrecognized]
  | strip => exact quiet
  | highlight => simp [unrecognized]
  | render =>
      simp only [unrecognized]
      split <;> simp [quiet]

theorem markup_showsSignature_of_no_handlers {style : Style} (unhandling : style.registry = {})
    (setting : Setting) {tag : Tag} (quiet : tag.contents.showsSignature = false) :
    (style.markup setting tag).showsSignature = false := by
  unfold markup
  split
  · rfl
  · split
    · simp [unhandling, Registry.lookup]
    · exact unrecognized_showsSignature quiet

mutual

theorem read_showsSignature_of_no_handlers {style : Style} (unhandling : style.registry = {})
    (setting : Setting) :
    ∀ node, (style.read setting node).markup.showsSignature = false
  | .text content => by
      simp [read, Reading.markup]
  | .element name attributes children => by
      simp only [read, Reading.markup]
      exact markup_showsSignature_of_no_handlers unhandling setting
        (readAll_showsSignature_of_no_handlers unhandling setting children)

theorem readAll_showsSignature_of_no_handlers {style : Style}
    (unhandling : style.registry = {}) (setting : Setting) :
    ∀ nodes, (Reading.contents (style.readAll setting nodes)).showsSignature = false
  | [] => by
      simp [readAll, Reading.contents, Rendered.concat]
  | node :: nodes => by
      have rest := readAll_showsSignature_of_no_handlers unhandling setting nodes
      simp only [Reading.contents] at rest
      simp [readAll, Reading.contents, Rendered.concat, rest,
        read_showsSignature_of_no_handlers unhandling setting node]

end

theorem applyRoot_showsSignature_of_no_handlers {style : Style}
    (unhandling : style.registry = {}) (setting : Setting) (root : Element) :
    (style.applyRoot setting root).showsSignature = false := by
  have noRoot : style.registry.lookup rootTag = none := by
    simp [unhandling, Registry.lookup]
  simp only [applyRoot, noRoot]
  exact readAll_showsSignature_of_no_handlers unhandling setting root.children

end Style

end DocPreview
