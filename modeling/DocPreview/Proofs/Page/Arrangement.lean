import DocPreview.Previewer
import DocPreview.Proofs.Comment.KeptLinks
import DocPreview.Proofs.Signature.CallHistory
import Mathlib.Data.List.Flatten
import Mathlib.Data.List.Perm.Basic

/-!
# The arrangement of a page

A page is a fixed sequence of parts behind the banner. Each part takes some of the children of the
root, in source order, and no two parts take the same child. So a page shows every child once, and
the order of the children matters only within a part.
-/

set_option autoImplicit false

namespace DocPreview

/-- What a node shows, wherever it stands. -/
def Style.interpretation (style : Style) (setting : Setting) : Node → List Html
  | .text content => [.text content]
  | .element name attributes children =>
    (style.apply setting ⟨name, attributes, children⟩).value

/-- The section with the members of a type, which only one of the styles has. -/
def Style.listing (style : Style) (declaration : Declaration) : List Html :=
  if style.name = "reference" then Reference.listing declaration else []

/-- The children that the layout sees. -/
def Element.keptChildren (root : Element) (options : OptionSet) : List Node :=
  if options.suppressDuplicateLinks then root.suppressDuplicateLinks.children else root.children

/-- What a section of a page tells, apart from the look that a style gives it. -/
structure TitledSection where
  id : String
  title : String
  contents : List Html

namespace Html

/-- The section that a node is, under a heading or in a part of the page that folds. -/
def section? : Html → Option TitledSection
  | .element "div" [("class", "section"), ("id", id)]
      (.element "h2" [] [.text title] false :: contents) false => some ⟨id, title, contents⟩
  | .element "section" [("id", id)]
      [.element "details" [("open", "open")]
        [.element "summary" [] [.text title] false,
         .element "div" [("class", "content")] contents false] false] false =>
    some ⟨id, title, contents⟩
  | _ => none

end Html

theorem Classic.section?_titled (id title : String) (contents : List Html) :
    (Classic.titled id title contents).section? = some ⟨id, title, contents⟩ := rfl

theorem Reference.section?_titled (id title : String) (contents : List Html) :
    (Reference.titled id title contents).section? = some ⟨id, title, contents⟩ := rfl

namespace Layout

inductive Part where
  /-- The children of one tag, one after the other. -/
  | group (tag : String)
  /-- What has no place of its own. -/
  | flow
  | signature
  /-- The children of one tag in a section of their own. -/
  | framed (tag id title : String) (frame : List (List Html) → Html)
  | listing

def hasTag (tag : String) : Node → Bool
  | .text _ => false
  | .element name _ _ => name == tag

def isFlow : Node → Bool
  | .text content => !isBlankText content
  | .element name _ _ => !placedTags.contains name

namespace Part

def takes : Part → Node → Bool
  | .group tag, child => hasTag tag child
  | .flow, child => isFlow child
  | .framed tag _ _ _, child => hasTag tag child
  | .signature, _ => false
  | .listing, _ => false

def tag? : Part → Option String
  | .group tag => some tag
  | .framed tag _ _ _ => some tag
  | .flow | .signature | .listing => none

def nodes (part : Part) (children : List Node) : List Node :=
  children.filter part.takes

def markup (part : Part) (style : Style) (setting : Setting) (shown : List (List Html)) :
    List Html :=
  match part with
  | .group _ => shown.flatten
  | .flow => shown.flatten
  | .signature => [style.titled "syntax" "Syntax" [setting.signature.markup]]
  | .framed _ id title frame =>
    if ∃ fragment ∈ shown, fragment ≠ [] then [style.titled id title [frame shown]] else []
  | .listing => style.listing setting.declaration

def render (part : Part) (style : Style) (setting : Setting) (children : List Node) :
    List Html :=
  part.markup style setting ((part.nodes children).map (style.interpretation setting))

def definitions (tag id title : String) : Part :=
  .framed tag id title fun shown => .tagged "dl" [] shown.flatten

def table (tag id title first second : String) : Part :=
  .framed tag id title fun shown =>
    .classed "table" "two-column"
      (.tagged "tr" [] [.tagged "th" [] [.text first], .tagged "th" [] [.text second]] ::
        shown.flatten)

/-- A link that shows nothing gets no item. -/
def links (tag id title : String) : Part :=
  .framed tag id title fun shown =>
    .classed "ul" "see-also" ((shown.filter (!·.isEmpty)).map (.tagged "li" []))

end Part

/-- The parts that both styles have before the listing. -/
def contentParts : List Part :=
  [.group errorTag, .group "obsolete", .group "preliminary", .group "summary",
   .flow,
   .signature,
   .definitions "typeparam" "type-parameters" "Type Parameters",
   .definitions "param" "parameters" "Parameters",
   .group "returns", .group "value",
   .table "exception" "exceptions" "Exceptions" "Exception" "Condition",
   .table "permission" "permissions" "Permissions" "Permission" "Description",
   .table "event" "events" "Events" "Event" "Description",
   .group "remarks", .group "example", .group "threadsafety"]

def linkPart : Part :=
  .links "seealso" "see-also" "See Also"

def parts : List Part :=
  contentParts ++ [.listing, linkPart]

end Layout

/-! ## Reading the children of the root -/

namespace Style

/-- The element as its handler sees it. -/
def tagOf (style : Style) (setting : Setting) (element : Element) : Tag :=
  ⟨element.name, element.attributes, style.readAll setting element.children⟩

@[simp] theorem name_tagOf (style : Style) (setting : Setting) (element : Element) :
    (style.tagOf setting element).name = element.name := rfl

theorem readAll_eq_map (style : Style) (setting : Setting) (nodes : List Node) :
    style.readAll setting nodes = nodes.map (style.read setting) := by
  induction nodes with
  | nil => simp [readAll]
  | cons node nodes ih => simp [readAll, ih]

@[simp] theorem value_markup_read (style : Style) (setting : Setting) (node : Node) :
    (style.read setting node).markup.value = style.interpretation setting node := by
  cases node <;> simp [read, Reading.markup, interpretation, apply, Element.node]

@[simp] theorem linkTarget?_read (style : Style) (setting : Setting) (node : Node) :
    (style.read setting node).linkTarget? = node.linkTarget? := by
  cases node <;> simp [read, Reading.linkTarget?, Node.linkTarget?]

/-- Repeated references can be dropped before or after the children are read. -/
theorem suppressDuplicateLinks_tagOf (style : Style) (setting : Setting) (element : Element) :
    (style.tagOf setting element).suppressDuplicateLinks =
      style.tagOf setting element.suppressDuplicateLinks := by
  simp only [tagOf, Tag.suppressDuplicateLinks, Element.suppressDuplicateLinks, readAll_eq_map,
    keepFirst_map, linkTarget?_read]

theorem apply_eq_markup (style : Style) (setting : Setting) (element : Element) :
    style.apply setting element = style.markup setting (style.tagOf setting element) := by
  rw [apply, Element.node, read, Reading.markup, tagOf]

end Style

namespace Layout

variable (style : Style) (setting : Setting) (children : List Node)

theorem group_map_read (tag : String) :
    group (children.map (style.read setting)) tag =
      (children.filter (hasTag tag)).map (style.read setting) := by
  rw [group, List.filter_map]
  congr 2
  funext child
  cases child <;> simp [Style.read, hasTag]

theorem flow_map_read :
    flow (children.map (style.read setting)) =
      (children.filter isFlow).map (style.read setting) := by
  rw [flow, List.filter_map]
  congr 2
  funext child
  cases child <;> simp [Style.read, isFlow]

theorem value_contents_map_read :
    (Reading.contents (children.map (style.read setting))).value =
      (children.map (style.interpretation setting)).flatten := by
  simp [Reading.contents, Rendered.value_concat, List.flatMap_def, Function.comp_def]

theorem value_groupContents (tag : String) :
    (groupContents (children.map (style.read setting)) tag).value =
      (Part.group tag).render style setting children := by
  rw [groupContents, group_map_read, value_contents_map_read]
  rfl

theorem value_groupsContents (tags : List String) :
    (groupsContents (children.map (style.read setting)) tags).value =
      (tags.map Part.group).flatMap fun part => part.render style setting children := by
  simp [groupsContents, Rendered.value_concat, List.flatMap_map, value_groupContents]

theorem value_flow :
    (Reading.contents (flow (children.map (style.read setting)))).value =
      Part.flow.render style setting children := by
  rw [flow_map_read, value_contents_map_read]
  rfl

/-! ## Sections that show only with something in them -/

theorem value_framedSection {setting : Setting} {frame : List Html → Html}
    {frameAll : List (List Html) → Html} {contents : Rendered (List Html)}
    {shown : List (List Html)} (tag id title : String)
    (framed : frame contents.value = frameAll shown)
    (empty : contents.value = [] ↔ ∀ fragment ∈ shown, fragment = []) :
    (framedSection style.toChrome id title frame contents).value =
      (Part.framed tag id title frameAll).markup style setting shown := by
  by_cases nothing : contents.value = []
  · have absent : ¬∃ fragment ∈ shown, fragment ≠ [] := by
      simpa using empty.mp nothing
    simp only [framedSection, Part.markup, absent, ↓reduceIte, Rendered.value_bind, nothing,
      List.isEmpty_nil, Rendered.value_pure]
  · have present : ∃ fragment ∈ shown, fragment ≠ [] := by
      simpa using mt empty.mpr nothing
    simp [framedSection, Part.markup, present, nothing, framed]

theorem value_definitionSection (tag id title : String) :
    (definitionSection style.toChrome id title
        (groupContents (children.map (style.read setting)) tag)).value =
      (Part.definitions tag id title).render style setting children := by
  have contents := value_groupContents style setting children tag
  refine value_framedSection style tag id title ?_ ?_
  · rw [contents]
    rfl
  · rw [contents]
    exact List.flatten_eq_nil_iff

theorem value_tableSection (tag id title first second : String) :
    (tableSection style.toChrome id title first second
        (groupContents (children.map (style.read setting)) tag)).value =
      (Part.table tag id title first second).render style setting children := by
  have contents := value_groupContents style setting children tag
  refine value_framedSection style tag id title ?_ ?_
  · rw [contents]
    rfl
  · rw [contents]
    exact List.flatten_eq_nil_iff

theorem value_linkItems :
    (Rendered.concat ((children.map (style.read setting)).map linkItem)).value =
      ((children.map (style.interpretation setting)).filter (!·.isEmpty)).map
        (.tagged "li" []) := by
  induction children with
  | nil => rfl
  | cons child children ih =>
      by_cases nothing : style.interpretation setting child = []
      · simpa [Rendered.concat, linkItem, nothing] using ih
      · simpa [Rendered.concat, linkItem, nothing] using ih

theorem value_linkSection :
    (linkSection style.toChrome
        (group (children.map (style.read setting)) "seealso")).value =
      linkPart.render style setting children := by
  have contents := value_linkItems style setting (children.filter (hasTag "seealso"))
  rw [← group_map_read] at contents
  have taken : linkPart.nodes children = children.filter (hasTag "seealso") := rfl
  refine value_framedSection style "seealso" "see-also" "See Also" ?_ ?_
  · rw [contents]
    rfl
  · simp [contents, taken]

/-! ## The whole page -/

theorem value_page (root : Tag) (read : root.children = children.map (style.read setting)) :
    (page style.toChrome style.listing setting root).value =
      style.banner setting.declaration setting.dialect ::
        parts.flatMap fun part => part.render style setting children := by
  simp only [page, read, Rendered.value_concat, List.flatMap_cons, List.flatMap_nil,
    value_groupsContents, value_flow, value_definitionSection, value_tableSection,
    value_linkSection, Rendered.value_pure]
  simp [parts, contentParts, syntaxSection, Part.render, Part.markup]

end Layout

namespace Style

/-- A handler sees the element without repeated references exactly when the options drop them. -/
theorem dispatch_tagOf (style : Style) (setting : Setting) (handler : Handler)
    (element : Element) :
    dispatch setting handler (style.tagOf setting element) =
      handler setting (style.tagOf setting
        { element with children := element.keptChildren setting.options }) := by
  rw [dispatch, Element.keptChildren]
  split
  · rw [suppressDuplicateLinks_tagOf]
    rfl
  · rfl

theorem value_applyRoot {style : Style}
    (handled : style.registry.lookup rootTag = some (Layout.page style.toChrome style.listing))
    (setting : Setting) (root : Element) :
    (style.applyRoot setting root).value =
      style.banner setting.declaration setting.dialect ::
        Layout.parts.flatMap fun part =>
          part.render style setting (root.keptChildren setting.options) := by
  have applied : style.applyRoot setting root =
      dispatch setting (Layout.page style.toChrome style.listing) (style.tagOf setting root) := by
    rw [applyRoot, handled]
    rfl
  rw [applied, dispatch_tagOf]
  exact Layout.value_page style setting _ _ (readAll_eq_map style setting _)

theorem lookup_rootTag_of_ofName? {name : String} {style : Style}
    (named : ofName? name = some style) :
    style.registry.lookup rootTag = some (Layout.page style.toChrome style.listing) := by
  obtain rfl | rfl := eq_of_ofName? named
  · rfl
  · rfl

end Style

/-! ## Each child has one place -/

section

variable {ι α : Type} {takes : ι → α → Bool}

theorem flatMap_filter_singleton (places : List ι) (item : α) :
    (places.flatMap fun place => [item].filter (takes place)) =
      List.replicate (places.countP (takes · item)) item := by
  induction places with
  | nil => rfl
  | cons place places ih =>
      by_cases taken : takes place item
      · simp [taken, ih, List.replicate_succ]
      · simp [taken, ih]

/-- Items that one place takes each are sorted into the places without a loss. -/
theorem flatMap_filter_perm {shows : α → Bool} {places : List ι} {items : List α}
    (once : ∀ item ∈ items, places.countP (takes · item) = if shows item then 1 else 0) :
    (places.flatMap fun place => items.filter (takes place)).Perm (items.filter shows) := by
  induction items with
  | nil => simp
  | cons item items ih =>
      have rest := ih fun later member => once later (List.mem_cons_of_mem item member)
      have first : (places.flatMap fun place => [item].filter (takes place)) =
          [item].filter shows := by
        rw [flatMap_filter_singleton, once item List.mem_cons_self]
        by_cases shown : shows item
        · simp [shown]
        · simp [shown]
      have split : ∀ chosen : α → Bool,
          (item :: items).filter chosen = [item].filter chosen ++ items.filter chosen :=
        fun chosen => List.filter_append [item] items
      have sorted := List.flatMap_append_perm places
        (fun place => [item].filter (takes place)) fun place => items.filter (takes place)
      rw [first] at sorted
      simp only [split]
      exact sorted.symm.trans (rest.append_left _)

end

namespace Layout

/-- The table of the placed tags and the parts name the same tags, and no part names one that
another part names too. -/
theorem tags_perm_placedTags : (parts.filterMap Part.tag?).Perm placedTags := by
  decide

theorem placedTags_nodup : placedTags.Nodup := by
  decide

theorem mem_placedTags_of_tag? {part : Part} {tag : String} (member : part ∈ parts)
    (named : part.tag? = some tag) : tag ∈ placedTags :=
  tags_perm_placedTags.subset (List.mem_filterMap.mpr ⟨part, member, named⟩)

theorem Part.takes_text (part : Part) (content : String) :
    part.takes (.text content) = (part matches .flow && !isBlankText content) := by
  cases part <;> simp [Part.takes, hasTag, isFlow]

theorem Part.takes_element (part : Part) (name : String) (attributes : List (String × String))
    (children : List Node) :
    part.takes (.element name attributes children) =
      (part.tag? == some name || part matches .flow && !placedTags.contains name) := by
  cases part <;> simp [Part.takes, Part.tag?, hasTag, isFlow, eq_comm]

theorem countP_flow : parts.countP (· matches .flow) = 1 := rfl

/-- Every child that shows has one place. -/
theorem countP_takes (child : Node) :
    parts.countP (·.takes child) = if child.isBlank then 0 else 1 := by
  cases child with
  | text content =>
      simp only [Part.takes_text, Node.isBlank]
      by_cases blank : isBlankText content
      · simp [blank]
      · simpa [blank] using countP_flow
  | element name attributes children =>
      simp only [Part.takes_element, Node.isBlank]
      by_cases placed : name ∈ placedTags
      · have once : (parts.filterMap Part.tag?).count name = 1 := by
          rw [tags_perm_placedTags.count_eq]
          exact List.count_eq_one_of_mem placedTags_nodup placed
        simpa [placed, List.count_filterMap] using once
      · have unnamed : ∀ part ∈ parts, part.tag? ≠ some name := by
          intro part member named
          exact placed (mem_placedTags_of_tag? member named)
        rw [← countP_flow]
        refine List.countP_congr fun part member => ?_
        simp [placed, unnamed part member]

theorem nodes_perm (children : List Node) :
    (parts.flatMap (·.nodes children)).Perm (children.filter (!·.isBlank)) := by
  refine flatMap_filter_perm fun child _ => ?_
  rw [countP_takes]
  cases child.isBlank <;> rfl

/-! ## Only the order within a part matters -/

theorem Part.takes_eq_of_linkTarget? (part : Part) {first second : Node} {key : String × String}
    (firstKey : first.linkTarget? = some key) (secondKey : second.linkTarget? = some key) :
    part.takes first = part.takes second := by
  obtain ⟨_, _, rfl⟩ := Node.linkTarget?_eq_some firstKey
  obtain ⟨_, _, rfl⟩ := Node.linkTarget?_eq_some secondKey
  cases part <;> rfl

/-- A part takes all references to one target or none, so repeated ones can be dropped before or
after the children are sorted into parts. -/
theorem Part.nodes_keptChildren (part : Part) (root : Element) (options : OptionSet) :
    part.nodes (root.keptChildren options) =
      if options.suppressDuplicateLinks then
        keepFirst Node.linkTarget? [] (part.nodes root.children)
      else part.nodes root.children := by
  simp only [Element.keptChildren, Element.suppressDuplicateLinks]
  split
  · exact filter_keepFirst (fun _ _ _ => part.takes_eq_of_linkTarget?) [] root.children
  · rfl

theorem nodes_eq_of_groups_eq {first second : List Node}
    (groups : ∀ tag ∈ placedTags, first.filter (hasTag tag) = second.filter (hasTag tag))
    (flows : first.filter isFlow = second.filter isFlow) {part : Part} (member : part ∈ parts) :
    part.nodes first = part.nodes second := by
  have ofTag : ∀ tag, part.tag? = some tag →
      first.filter (hasTag tag) = second.filter (hasTag tag) := by
    intro tag named
    exact groups tag (mem_placedTags_of_tag? member named)
  cases part with
  | group tag => exact ofTag tag rfl
  | framed tag id title frame => exact ofTag tag rfl
  | flow => exact flows
  | signature => exact (List.filter_false first).trans (List.filter_false second).symm
  | listing => exact (List.filter_false first).trans (List.filter_false second).symm

end Layout

/-! ## The signature -/

theorem Html.textContents_map_of_textContent {α : Type} {markup : α → Html} {text : α → String}
    (shown : ∀ item, (markup item).textContent = text item) (items : List α) :
    Html.textContents (items.map markup) = String.join (items.map text) := by
  induction items with
  | nil => simp [Html.textContents, String.join]
  | cons item items ih => simp [Html.textContents, ih, shown]

theorem Signature.textContent_markup (signature : Signature) :
    signature.markup.textContent = signature.text := by
  simp only [Signature.markup, Html.classed, Html.tagged, Html.textContent, Html.textContents,
    String.append_empty]
  refine Html.textContents_map_of_textContent (fun token => ?_) signature.tokens
  cases token.tokenClass.styleClass? with
  | none => simp [Html.textContent]
  | some styleClass => simp [Html.textContent, Html.textContents]

namespace Style

def body (style : Style) (signatures : SignatureCache) (options : OptionSet)
    (declaration : Declaration) (dialect : Dialect) (root : Element) : List Html :=
  (signatures.supply declaration dialect fun signature =>
    style.applyRoot ⟨options, declaration, dialect, signature⟩ root).1

theorem section?_titled_of_ofName? {name : String} {style : Style}
    (named : ofName? name = some style) (id title : String) (contents : List Html) :
    (style.titled id title contents).section? = some ⟨id, title, contents⟩ := by
  obtain rfl | rfl := eq_of_ofName? named
  · exact Classic.section?_titled id title contents
  · exact Reference.section?_titled id title contents

theorem body_run_empty (style : Style) (calls : List SignatureCache.Call) (options : OptionSet)
    (declaration : Declaration) (dialect : Dialect) (root : Element) :
    style.body (.run .empty calls) options declaration dialect root =
      (style.applyRoot ⟨options, declaration, dialect, .render declaration dialect⟩
        root).value := by
  simp only [body, SignatureCache.supply,
    (SignatureCache.run_reflects calls).getOrRender_eq declaration dialect]

/-- A page of either style is the banner and then part after part, whatever the signature cache
was asked before. A section keeps its identifier, its heading and what it holds, every child that
shows belongs to one part, the section of the signature shows the text of the signature, and roots
with the same groups of children have the same page. -/
theorem body_arranged {name : String} {style : Style} (named : ofName? name = some style)
    (calls : List SignatureCache.Call) (options : OptionSet) (declaration : Declaration)
    (dialect : Dialect) (root : Element) :
    let setting : Setting := ⟨options, declaration, dialect, .render declaration dialect⟩
    let children := root.keptChildren options
    let body := style.body (.run .empty calls) options declaration dialect
    body root =
      style.banner declaration dialect ::
        Layout.parts.flatMap (fun part =>
          part.markup style setting
            ((part.nodes children).map (style.interpretation setting))) ∧
    (∀ id title contents,
      (style.titled id title contents).section? = some ⟨id, title, contents⟩) ∧
    (Layout.parts.flatMap (·.nodes children)).Perm (children.filter (!·.isBlank)) ∧
    setting.signature.markup.textContent = (Signature.render declaration dialect).text ∧
    ∀ other : Element,
      (∀ tag ∈ Layout.placedTags,
        other.children.filter (Layout.hasTag tag) = root.children.filter (Layout.hasTag tag)) →
      other.children.filter Layout.isFlow = root.children.filter Layout.isFlow →
      body other = body root := by
  have handled := lookup_rootTag_of_ofName? named
  intro setting children body
  have arranged : ∀ root : Element, body root =
      style.banner declaration dialect ::
        Layout.parts.flatMap fun part =>
          part.render style setting (root.keptChildren options) := by
    intro root
    exact (body_run_empty style calls options declaration dialect root).trans
      (value_applyRoot handled setting root)
  refine ⟨arranged root, section?_titled_of_ofName? named, Layout.nodes_perm children,
    Signature.textContent_markup _, ?_⟩
  intro other groups flows
  rw [arranged other, arranged root]
  congr 1
  refine List.flatMap_congr fun part member => ?_
  have same := Layout.nodes_eq_of_groups_eq groups flows member
  simp only [Layout.Part.render, Layout.Part.nodes_keptChildren, same]

theorem body_arranged_reordered_children :
    let run : Declaration := { name := "Run", kind := .method [] }
    let remarks : Node := .element "remarks" [] [.text "Slow."]
    let summary : Node := .element "summary" [] [.text "Runs."]
    let link : Node := .element "seealso" [("cref", "T:Task")] []
    let body := Reference.style.body (.run .empty [.get run .visualBasic]) {} run .csharp
    ofName? "reference" = some Reference.style ∧
    body ⟨rootTag, [], [link, remarks, .text " ", summary, link]⟩ =
      body ⟨rootTag, [], [summary, remarks, link, link]⟩ := by
  intro run remarks summary link body
  have named : ofName? "reference" = some Reference.style := rfl
  obtain ⟨_, _, _, _, sameGroups⟩ := body_arranged named [.get run .visualBasic] {} run .csharp
    ⟨rootTag, [], [summary, remarks, link, link]⟩
  refine ⟨named, sameGroups _ ?_ rfl⟩
  simp [Layout.placedTags, Layout.hasTag, errorTag, remarks, summary, link]

end Style

end DocPreview
