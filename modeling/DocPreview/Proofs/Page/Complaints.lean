import DocPreview.Proofs.Page.Surfacing

/-!
# Complaints on a page

The layout of a page shows every child of the root, so a complaint below the root is on the page
unless it is lost on the way down to it.
-/

set_option autoImplicit false

namespace DocPreview

open Html (Occurs)

namespace Layout

variable {style : Style} {setting : Setting} {message : String} {children : List Node}

/-- The frame of a part shows what stands in it. -/
def Part.ShowsFragments (message : String) : Part → Prop
  | .framed _ _ _ frame =>
    ∀ (shown : List (List Html)) (fragment : List Html), fragment ∈ shown → fragment ≠ [] →
      Occurs message fragment → Occurs message [frame shown]
  | .group _ | .flow | .signature | .listing => True

theorem definitions_showsFragments (message tag id title : String) :
    (Part.definitions tag id title).ShowsFragments message := by
  intro shown fragment member _ occurs
  exact (occurs.flatten member).inside

theorem table_showsFragments (message tag id title first second : String) :
    (Part.table tag id title first second).ShowsFragments message := by
  intro shown fragment member _ occurs
  exact ((occurs.flatten member).cons _).inside

theorem links_showsFragments (message tag id title : String) :
    (Part.links tag id title).ShowsFragments message := by
  intro shown fragment member nonempty occurs
  refine Occurs.inside (Occurs.of_mem occurs.inside (List.mem_map.mpr ⟨fragment, ?_, rfl⟩))
  refine List.mem_filter.mpr ⟨member, ?_⟩
  cases fragment with
  | nil => exact absurd rfl nonempty
  | cons node fragment => rfl

theorem parts_showFragments (message : String) : ∀ part ∈ parts, part.ShowsFragments message := by
  have plain : ∀ tag, (Part.group tag).ShowsFragments message := fun _ => trivial
  simp only [parts, contentParts, linkPart, List.cons_append, List.nil_append,
    List.forall_mem_cons]
  exact ⟨plain _, plain _, plain _, plain _, trivial, trivial,
    definitions_showsFragments _ _ _ _, definitions_showsFragments _ _ _ _, plain _, plain _,
    table_showsFragments _ _ _ _ _ _, table_showsFragments _ _ _ _ _ _,
    table_showsFragments _ _ _ _ _ _, plain _, plain _, plain _, trivial,
    links_showsFragments _ _ _ _, fun _ none => absurd none List.not_mem_nil⟩

theorem Part.render_occurs (setting : Setting) (sections : style.ShowsSections) {part : Part}
    {node : Node} (fragments : part.ShowsFragments message) (member : node ∈ part.nodes children)
    (nonempty : message.toList ≠ []) (occurs : Occurs message (style.interpretation setting node)) :
    Occurs message (part.render style setting children) := by
  have shown : style.interpretation setting node ∈
      (part.nodes children).map (style.interpretation setting) := List.mem_map_of_mem member
  have something : style.interpretation setting node ≠ [] := by
    intro empty
    rw [empty] at occurs
    exact nonempty (List.infix_nil.mp occurs)
  unfold Part.render
  cases part with
  | group tag => exact occurs.flatten shown
  | flow => exact occurs.flatten shown
  | signature => cases (List.mem_filter.mp member).2
  | listing => cases (List.mem_filter.mp member).2
  | framed tag id title frame =>
      rw [Part.markup, if_pos ⟨_, shown, something⟩]
      exact sections (fragments _ _ shown something occurs)

/-- What a kept child of the root says stands on the page. -/
theorem occurs_applyRoot {styleName : String} (named : Style.ofName? styleName = some style)
    {root : Element} {node : Node} (kept : node ∈ root.keptChildren setting.options)
    (shown : node.isBlank = false) (nonempty : message.toList ≠ [])
    (occurs : Occurs message (style.interpretation setting node)) :
    Occurs message (style.applyRoot setting root).value := by
  have visible : node ∈ (root.keptChildren setting.options).filter (!·.isBlank) :=
    List.mem_filter.mpr ⟨kept, by rw [shown]; rfl⟩
  have placed := (nodes_perm (root.keptChildren setting.options)).symm.subset visible
  obtain ⟨part, member, inPart⟩ := List.mem_flatMap.mp placed
  have rendered := Part.render_occurs setting (Style.showsSections_of_ofName? named)
    (parts_showFragments message part member) inPart nonempty occurs
  rw [Style.value_applyRoot (Style.lookup_rootTag_of_ofName? named)]
  refine Occurs.cons ?_ _
  rw [List.flatMap_def]
  exact rendered.flatten (List.mem_map_of_mem member)

end Layout

namespace Include

theorem begins_append {front : String} (begins : front.toList.head?.any (!isBlank ·) = true)
    (back : String) : (front ++ back).toList.head?.any (!isBlank ·) = true := by
  rw [String.toList_append, List.head?_append]
  cases first : front.toList.head? with
  | none => simp [first] at begins
  | some char => simpa [first] using begins

theorem Fault.message_begins (fault : Fault) :
    fault.message.toList.head?.any (!isBlank ·) = true := by
  unfold message
  cases fault with
  | missingAttribute name => exact begins_append (begins_append (by decide) _) _
  | notFound file => exact begins_append (by decide) _
  | unreadable location fault =>
      exact begins_append (begins_append (begins_append (by decide) _) _) _
  | malformed location error =>
      exact begins_append (begins_append (begins_append (by decide) _) _) _
  | badQuery query fault =>
      exact begins_append (begins_append (begins_append (by decide) _) _) _
  | noMatches query location =>
      exact begins_append (begins_append (begins_append (by decide) _) _) _
  | cycle location => exact begins_append (by decide) _
  | tooDeep limit => exact begins_append (begins_append (by decide) _) _

end Include

theorem Layout.occurs_applyRoot_of_surfaces {styleName : String} {style : Style}
    (named : Style.ofName? styleName = some style) {setting : Setting}
    (usual : setting.options = {}) (root : Element) {hole : Hole} {fault : Include.Fault}
    (surfaces : Surfaces fault.message (.contents true) hole) :
    Occurs fault.message
      (style.applyRoot setting { root with children := hole.fill [fault.node] }).value := by
  have begins := fault.message_begins
  have nonempty : fault.message.toList ≠ [] := by
    intro empty
    rw [empty] at begins
    cases begins
  obtain ⟨node, member, shown, occurs⟩ := surfaces.tells named usual begins
  refine Layout.occurs_applyRoot named ?_ shown nonempty occurs
  rw [usual]
  exact member

namespace Previewer

open Include (Cache Fails FailsAt readDocument)

theorem renderBody_new (style : Style) (files : FileTree) (root : Element)
    (declaration : Declaration) (dialect : Dialect) (source? : Option Path) :
    ∃ signature, (renderBody { options := {}, style } files root declaration dialect source?).1 =
      (style.applyRoot ⟨{}, declaration, dialect, signature⟩
        (Cache.resolve ⟨files, .relative⟩ source? root {}).1).value :=
  ⟨_, rfl⟩

/-- With the usual options, every include that fails leaves its complaint in one place of the tree,
and the page says it, in either style, when it surfaces from there. -/
theorem renderBody_complaints {styleName : String} {style : Style}
    (named : Style.ofName? styleName = some style) (files : FileTree) (root : Element)
    (declaration : Declaration) (dialect : Dialect) (source? : Option Path) :
    let setting : Include.Setting := ⟨files, .relative⟩
    let directory? := source?.bind Path.parent?
    let resolved := (Cache.resolve setting source? root {}).1
    let body := (renderBody { options := {}, style } files root declaration dialect source?).1
    (∀ fault, Fails setting (readDocument files) [] directory? root.children fault →
      ∃ hole, FailsAt setting (readDocument files) [] directory? root.children hole fault) ∧
    ∀ hole fault, FailsAt setting (readDocument files) [] directory? root.children hole fault →
      resolved = { root with children := hole.fill [fault.node] } ∧
      (Surfaces fault.message (.contents true) hole → Occurs fault.message body) := by
  intro setting directory? resolved body
  obtain ⟨placed, filled⟩ := Include.resolve_fill setting source? root (by simp [setting])
  refine ⟨placed, fun hole fault fails => ?_⟩
  have tree := filled hole fault fails
  refine ⟨tree, fun surfaces => ?_⟩
  obtain ⟨signature, shown⟩ := renderBody_new style files root declaration dialect source?
  change Occurs fault.message (renderBody _ files root declaration dialect source?).1
  rw [shown, tree]
  exact Layout.occurs_applyRoot_of_surfaces named rfl root surfaces

/-- An include without a file in the description of an item behind its term. -/
theorem renderBody_complaints_described_item :
    let item : Node := .element "item" []
      [.element "term" [] [.text "One"],
        .element "description" [] [.text "See ", .element Include.tag [("path", "d")] []]]
    let root : Element := ⟨rootTag, [], [.element "remarks" [] [.element "list" [] [item]]]⟩
    let body := (renderBody { options := {}, style := Reference.style } ⟨[], []⟩ root {} .csharp
      none).1
    Style.ofName? "reference" = some Reference.style ∧
      Occurs "include is missing the 'file' attribute" body := by
  intro item root body
  have named : Style.ofName? "reference" = some Reference.style := rfl
  let hole : Hole := .inside [] "remarks" [] (.inside [] "list" [] (.inside [] "item" []
    (.inside [.element "term" [] [.text "One"]] "description" []
      (.here [.text "See "] []) []) []) []) []
  have fails : FailsAt ⟨⟨[], []⟩, .relative⟩ (readDocument ⟨[], []⟩) [] none root.children hole
      (.missingAttribute "file") :=
    .nested (by decide) (.nested (by decide) (.nested (by decide)
      (.later (.element (by decide) (.text .nil) .nil)
        (.nested (by decide) (.later (.text .nil) (.here rfl .nil)) .nil)) .nil) .nil) .nil
  have surfaces : Surfaces "include is missing the 'file' attribute" (.contents true) hole := by
    refine .child ?_ (.child ?_ (.item (.part (.inr rfl) ?_ .here)))
    · intro _ target keyed
      cases keyed
    · intro _ target keyed
      cases keyed
    · intro node member
      rw [List.mem_singleton.mp member]
      rfl
  obtain ⟨_, placed⟩ := renderBody_complaints named ⟨[], []⟩ root {} .csharp none
  exact ⟨named, (placed hole _ fails).2 surfaces⟩

/-! ## Complaints that do not surface -/

/-- All elements below the root have names that the usual options recognize. -/
def inVocabulary (root : Element) : Bool :=
  root.descendants.all fun node =>
    node.element?.all fun element => ({} : OptionSet).isRecognized element.name

/-- An include fails with this message, and a page in the classic style does not say so. -/
structure Silent (files : FileTree) (children : List Node) (message : String) : Prop where
  vocabulary : inVocabulary ⟨rootTag, [], children⟩ = true
  fails : ∃ fault, fault.message = message ∧
    Fails ⟨files, .relative⟩ (readDocument files) [] none children fault
  unsaid : ¬ Occurs message
    (renderBody { options := {}, style := Classic.style } files ⟨rootTag, [], children⟩ {} .csharp
      none).1

def complaint? {α : Type} : Except Include.Fault α → Option String
  | .error fault => some fault.message
  | .ok _ => none

/-- An include in one element, with a complaint that can be computed. -/
theorem exists_fails_of_complaint? {files : FileTree} {name message : String}
    {outer attributes : List (String × String)} (ordinary : name ≠ Include.tag)
    (complains : complaint? (Include.selection ⟨files, .relative⟩ (readDocument files) [] none
      attributes) = some message) :
    ∃ fault, fault.message = message ∧
      Fails ⟨files, .relative⟩ (readDocument files) [] none
        [.element name outer [.element Include.tag attributes []]] fault := by
  cases selected : Include.selection ⟨files, .relative⟩ (readDocument files) [] none attributes with
  | ok found => simp [selected, complaint?] at complains
  | error fault =>
      rw [selected] at complains
      exact ⟨fault, Option.some.inj complains, .nested ordinary (.here selected)⟩

/-- What is around an include can keep its complaint from the page: a reference by name, a language
word, a list, an entry with a term, a repeated reference, code that is laid out anew, and the source
of an unknown element. -/
theorem renderBody_silent :
    let missing := "include is missing the 'file' attribute"
    let broken : Node := .element Include.tag [] []
    let link (children : List Node) : Node := .element "see" [("cref", "T:Task")] children
    let code (attributes : List (String × String)) : Node :=
      .element "code" [] [.element Include.tag attributes []]
    Silent ⟨[], []⟩ [.element "paramref" [] [broken]] missing ∧
    Silent ⟨[], []⟩ [.element "typeparamref" [] [broken]] missing ∧
    Silent ⟨[], []⟩ [.element "see" [("langword", "null")] [broken]] missing ∧
    Silent ⟨[], []⟩ [.element "list" [] [broken]] missing ∧
    Silent ⟨[], []⟩
      [.element "list" [] [.element "listheader" [] [], .element "listheader" [] [broken]]]
      missing ∧
    Silent ⟨[], [(["d.xml"], .file ⟨some "<d><term>One</term></d>", 1⟩)]⟩
      [.element "list" [] [.element "item" []
        [.element Include.tag [("file", "d.xml"), ("path", "d/term")] [], broken]]] missing ∧
    Silent ⟨[], []⟩ [link [], link [broken]] missing ∧
    Silent ⟨[], []⟩ [code [("file", "a\tb"), ("path", "d")]] "include file not found: a\tb" ∧
    Silent ⟨[], []⟩ [code [("file", "a \nb"), ("path", "d")]] "include file not found: a \nb" ∧
    Silent ⟨[], [(["d "], .file ⟨some "<d/>", 1⟩)]⟩ [code [("file", "d /."), ("path", "e")]]
      "include query 'e' matched no nodes in /d " ∧
    ¬ Occurs "include file not found: a&b"
      (Classic.style.interpretation ⟨{}, {}, .csharp, {}⟩
        (.element "table" [] [.error "include file not found: a&b"])) := by
  intro missing broken link code
  have loose : ∀ files, Fails ⟨files, .relative⟩ (readDocument files) [] none [broken]
      (.missingAttribute "file") := fun _ => .here rfl
  have alone : ∀ {name attributes}, name ≠ Include.tag →
      ∃ fault : Include.Fault, fault.message = missing ∧
        Fails ⟨⟨[], []⟩, .relative⟩ (readDocument ⟨[], []⟩) [] none
          [.element name attributes [broken]] fault := by
    intro name attributes ordinary
    exact ⟨_, rfl, .nested ordinary (loose _)⟩
  refine ⟨?_, ?_, ?_, ?_, ?_, ?_, ?_, ?_, ?_, ?_, by decide +kernel⟩
  · exact ⟨by decide, alone (by decide), by decide +kernel⟩
  · exact ⟨by decide, alone (by decide), by decide +kernel⟩
  · exact ⟨by decide, alone (by decide), by decide +kernel⟩
  · exact ⟨by decide, alone (by decide), by decide +kernel⟩
  · refine ⟨by decide, ⟨.missingAttribute "file", rfl, ?_⟩, by decide +kernel⟩
    exact .nested (by decide) (.later (.nested (by decide) (loose _)))
  · refine ⟨by decide, ⟨.missingAttribute "file", rfl, ?_⟩, by decide +kernel⟩
    exact .nested (by decide) (.nested (by decide) (.later (loose _)))
  · refine ⟨by decide, ⟨.missingAttribute "file", rfl, ?_⟩, by decide +kernel⟩
    exact .later (.nested (by decide) (loose _))
  · exact ⟨by decide, exists_fails_of_complaint? (by decide) (by decide +kernel),
      by decide +kernel⟩
  · exact ⟨by decide, exists_fails_of_complaint? (by decide) (by decide +kernel),
      by decide +kernel⟩
  · exact ⟨by decide, exists_fails_of_complaint? (by decide) (by decide +kernel),
      by decide +kernel⟩

end Previewer

end DocPreview
