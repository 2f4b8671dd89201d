import DocPreview.Proofs.Comment.Location
import DocPreview.Proofs.Page.Surfacing
import DocPreview.Proofs.Page.MemberListing
import DocPreview.Proofs.Include.Expansion

/-!
# Pages of malformed comments

The tree of a comment that is no XML is one complaint. It shows whatever the options are, in a
paragraph of its own between the banner and the signature, and it says where in the text the reading
stopped.
-/

set_option autoImplicit false

namespace DocPreview

namespace Html

/-- The paragraphs of a fragment that complain. -/
def errorParagraphs (fragment : List Html) : List Html :=
  (findAllIn "p" fragment).filter fun html => html.styleClasses.contains "error"

theorem errorParagraphs_append (front back : List Html) :
    errorParagraphs (front ++ back) = errorParagraphs front ++ errorParagraphs back := by
  simp only [errorParagraphs, findAllIn_append, List.filter_append]

theorem errorParagraphs_cons (node : Html) (rest : List Html) :
    errorParagraphs (node :: rest) = errorParagraphs [node] ++ errorParagraphs rest :=
  errorParagraphs_append [node] rest

theorem errorParagraphs_of_findAllIn {fragment : List Html} (none : findAllIn "p" fragment = []) :
    errorParagraphs fragment = [] := by
  rw [errorParagraphs, none, List.filter_nil]

theorem errorParagraphs_element {tag : String} (other : tag ≠ "p")
    (attributes : List (String × String)) (children : List Html) (selfClosing : Bool) :
    errorParagraphs [.element tag attributes children selfClosing] = errorParagraphs children := by
  simp [errorParagraphs, findAllIn, findAll, other]

theorem errorParagraphs_paragraph (styleClass content : String) :
    errorParagraphs [.classed "p" styleClass [.text content]] =
      if ((styleClass.toList.splitOn ' ').map String.ofList).contains "error" then
        [.classed "p" styleClass [.text content]]
      else [] := by
  have found : findAllIn "p" [.classed "p" styleClass [.text content]] =
      [.classed "p" styleClass [.text content]] := rfl
  rw [errorParagraphs, found, List.filter_singleton, styleClasses_classed, Bool.cond_eq_ite]

end Html

open Html (findAll findAllIn errorParagraphs)

/-! ## What is around the complaint -/

theorem findAllIn_signature (signature : Signature) : findAllIn "p" [signature.markup] = [] := by
  simp only [Signature.markup, Html.classed, Html.tagged, findAllIn, findAll, String.reduceBEq,
    Bool.false_eq_true, ↓reduceIte, List.nil_append, List.append_nil]
  refine Html.findAllIn_map_eq_nil (fun token => ?_) signature.tokens
  cases token.tokenClass.styleClass? with
  | none => rfl
  | some styleClass => rfl

theorem findAllIn_referenceListing (declaration : Declaration) :
    findAllIn "p" (Reference.listing declaration) = [] := by
  by_cases listed : declaration.kind.isType = true ∧ declaration.members ≠ []
  · rw [MemberListing.findAllIn_listing listed.1 listed.2 (by decide),
      MemberListing.findAllIn_filterBoxes (by decide), MemberListing.findAllIn_rows (by decide)]
    rfl
  · rw [MemberListing.listing_eq_nil, findAllIn]
    by_cases isType : declaration.kind.isType = true
    · exact .inr (not_not.mp fun nonempty => listed ⟨isType, nonempty⟩)
    · exact .inl (Bool.eq_false_iff.mpr isType)

namespace Style

variable {name : String} {style : Style}

theorem errorParagraphs_classicBanner (declaration : Declaration) (dialect : Dialect) :
    errorParagraphs [Classic.banner declaration dialect] = [] := by
  -- The breadcrumb and the name of the dialect are paragraphs too, of other classes.
  have heading (text : String) : errorParagraphs [.tagged "h1" [] [.text text]] = [] :=
    Html.errorParagraphs_of_findAllIn rfl
  have paragraph (styleClass text : String)
      (harmless : ((styleClass.toList.splitOn ' ').map String.ofList).contains "error" = false) :
      errorParagraphs [.classed "p" styleClass [.text text]] = [] := by
    rw [Html.errorParagraphs_paragraph, harmless]
    rfl
  rw [Classic.banner, Html.classed, Html.errorParagraphs_element (by decide),
    Html.errorParagraphs_append, Html.errorParagraphs_cons, heading,
    paragraph "dialect" _ (by decide)]
  split
  · rfl
  · rw [paragraph "breadcrumb" _ (by decide)]
    rfl

theorem findAllIn_referenceBanner (declaration : Declaration) (dialect : Dialect) :
    findAllIn "p" [Reference.banner declaration dialect] = [] := by
  have crumbs : findAllIn "p" (declaration.path.dropLast.map fun segment =>
      .classed "span" "crumb" [.text segment]) = [] :=
    Html.findAllIn_map_eq_nil (fun _ => rfl) _
  simp only [Html.classed] at crumbs
  simp only [Reference.banner, Html.classed, Html.tagged, findAllIn, findAll, String.reduceBEq,
    Bool.false_eq_true, ↓reduceIte, List.append_nil, crumbs]

theorem errorParagraphs_banner (named : ofName? name = some style) (declaration : Declaration)
    (dialect : Dialect) : errorParagraphs [style.banner declaration dialect] = [] := by
  obtain rfl | rfl := eq_of_ofName? named
  · exact errorParagraphs_classicBanner declaration dialect
  · exact Html.errorParagraphs_of_findAllIn (findAllIn_referenceBanner declaration dialect)

theorem findAllIn_titled (named : ofName? name = some style) (id title : String)
    (contents : List Html) :
    findAllIn "p" [style.titled id title contents] = findAllIn "p" contents := by
  obtain rfl | rfl := eq_of_ofName? named
  · simp [Classic.style, Classic.chrome, Classic.titled, Html.tagged, findAllIn, findAll]
  · simp [Reference.style, Reference.chrome, Reference.titled, Html.tagged, Html.classed,
      findAllIn, findAll]

theorem findAllIn_styleListing (declaration : Declaration) :
    findAllIn "p" (style.listing declaration) = [] := by
  rw [listing]
  split
  · exact findAllIn_referenceListing declaration
  · rfl

/-! ## The page -/

theorem interpretation_error (style : Style) (setting : Setting)
    (attributes : List (String × String)) (message : String) :
    style.interpretation setting (.element errorTag attributes [.text message]) =
      [.classed "p" "error" [.text message]] := by
  rw [interpretation_element]
  simp [markup, element_tagOf, Element.textContent, Node.textContents, Node.textContent]

/-- The page of a complaint: the signature shows, and nothing else that comes from the comment. -/
theorem value_applyRoot_error (named : ofName? name = some style) (setting : Setting)
    (attributes : List (String × String)) (message : String) :
    (style.applyRoot setting
        ⟨rootTag, [], [.element errorTag attributes [.text message]]⟩).value =
      style.banner setting.declaration setting.dialect ::
        .classed "p" "error" [.text message] ::
        style.titled "syntax" "Syntax" [setting.signature.markup] ::
        style.listing setting.declaration := by
  have noLink : Node.linkTarget? (.element errorTag attributes [.text message]) = none := rfl
  have kept : (⟨rootTag, [], [.element errorTag attributes [.text message]]⟩ :
      Element).keptChildren setting.options =
        [.element errorTag attributes [.text message]] := by
    simp [Element.keptChildren, Element.suppressDuplicateLinks, keepFirst, noLink]
  have complaint := interpretation_error style setting attributes message
  rw [value_applyRoot (lookup_rootTag_of_ofName? named), kept]
  rw [errorTag] at complaint ⊢
  simp [Layout.parts, Layout.contentParts, Layout.linkPart, Layout.Part.definitions,
    Layout.Part.table, Layout.Part.links, Layout.Part.render, Layout.Part.nodes,
    Layout.Part.takes, Layout.Part.markup, Layout.hasTag, Layout.isFlow, Layout.placedTags,
    errorTag, complaint]

theorem errorParagraphs_page (named : ofName? name = some style) (setting : Setting)
    (attributes : List (String × String)) (message : String) :
    errorParagraphs (style.applyRoot setting
        ⟨rootTag, [], [.element errorTag attributes [.text message]]⟩).value =
      [.classed "p" "error" [.text message]] := by
  have syntaxSection : errorParagraphs
      [style.titled "syntax" "Syntax" [setting.signature.markup]] = [] := by
    refine Html.errorParagraphs_of_findAllIn ?_
    rw [findAllIn_titled named, findAllIn_signature]
  have complaint : errorParagraphs [.classed "p" "error" [.text message]] =
      [.classed "p" "error" [.text message]] := by
    rw [Html.errorParagraphs_paragraph]
    exact if_pos (by decide)
  rw [value_applyRoot_error named, Html.errorParagraphs_cons, errorParagraphs_banner named,
    Html.errorParagraphs_cons, complaint, Html.errorParagraphs_cons, syntaxSection,
    Html.errorParagraphs_of_findAllIn (findAllIn_styleListing _)]
  rfl

end Style

/-- Neither of the two caches matters to a tree without includes. -/
theorem Previewer.renderBody_of_noIncludes {previewer : Previewer}
    {calls : List SignatureCache.Call} (cached : previewer.signatures = .run .empty calls)
    (files : FileTree) {root : Element} (clean : Include.NoIncludes root.children)
    (declaration : Declaration) (dialect : Dialect) (source? : Option Path) :
    (previewer.renderBody files root declaration dialect source?).1 =
      (previewer.style.applyRoot
        ⟨previewer.options, declaration, dialect, .render declaration dialect⟩ root).value := by
  have resolved := congrFun (Include.resolveWith_of_noIncludes
    ⟨files, previewer.options.includeMode⟩ (Include.Cache.load files) source? clean)
    previewer.documents
  rw [renderBody, Include.Cache.resolve, resolved, cached]
  exact Style.body_run_empty previewer.style calls previewer.options declaration dialect root

namespace Comment

/-- The markup complains once, with the message, and has the section of the signature. -/
structure ComplainsOnce (style : Style) (signature : Signature) (message : String)
    (shown : List Html) : Prop where
  complaint : errorParagraphs shown = [.classed "p" "error" [.text message]]
  hasSyntax : style.titled "syntax" "Syntax" [signature.markup] ∈ shown

theorem noIncludes_error (attributes : List (String × String)) (message : String) :
    Include.NoIncludes [.element errorTag attributes [.text message]] := by
  rw [Include.noIncludes_element_cons, Include.noIncludes_text_cons]
  exact ⟨by decide, Include.noIncludes_nil, Include.noIncludes_nil⟩

theorem renderBody_complainsOnce {name : String} {previewer : Previewer}
    {calls : List SignatureCache.Call} (named : Style.ofName? name = some previewer.style)
    (cached : previewer.signatures = .run .empty calls) (files : FileTree)
    (attributes : List (String × String)) (message : String) (declaration : Declaration)
    (dialect : Dialect) (source? : Option Path) :
    ComplainsOnce previewer.style (.render declaration dialect) message
      (previewer.renderBody files
        ⟨rootTag, [], [.element errorTag attributes [.text message]]⟩ declaration dialect
        source?).1 := by
  rw [previewer.renderBody_of_noIncludes cached files (noIncludes_error attributes message)]
  refine ⟨Style.errorParagraphs_page named _ attributes message, ?_⟩
  rw [Style.value_applyRoot_error named]
  exact List.mem_cons_of_mem _ (List.mem_cons_of_mem _ List.mem_cons_self)

theorem parse_of_malformed {dialect : Dialect} {raw : String} {error : Xml.Error}
    (malformed : Element.ofXml (wrapped (stripPrefixes dialect raw)) = .error error) :
    parse dialect raw = failureRoot (stripPrefixes dialect raw) error := by
  unfold parse
  simp only [malformed]

end Comment

end DocPreview
