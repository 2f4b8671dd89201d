import DocPreview.Proofs.Comment.Subtree
import DocPreview.Proofs.Page.Arrangement
import Mathlib.Data.List.Forall2

/-!
# Both styles say the same

Only the root, the obsolete notice and the tags that open a section are shown in a way of the
style. A tree without them has one markup under both styles. Where they stand as children of the
root, what they hold is the same, and the two pages consist of the same blocks.
-/

set_option autoImplicit false

namespace DocPreview

def styledTags : List String :=
  [rootTag, "obsolete", "remarks", "returns", "value", "example", "threadsafety"]

def Node.isStyled (options : OptionSet) : Node → Bool
  | .text _ => false
  | .element name _ _ => options.isRecognized name && styledTags.contains name

/-- No recognized element in the trees has its markup from the style. -/
def StyleNeutral (options : OptionSet) (nodes : List Node) : Prop :=
  ∀ node ∈ Node.subtrees nodes, node.isStyled options = false

/-- A child of the root may be styled itself where the layout has a place for it. -/
def Node.NeutralChild (options : OptionSet) : Node → Prop
  | .text _ => True
  | .element name attributes children =>
    if name ∈ Layout.placedTags then StyleNeutral options children
    else StyleNeutral options [.element name attributes children]

namespace StyleNeutral

variable {options : OptionSet}

theorem cons_iff {node : Node} {nodes : List Node} :
    StyleNeutral options (node :: nodes) ↔
      StyleNeutral options [node] ∧ StyleNeutral options nodes := by
  simp only [StyleNeutral, Node.subtrees_cons, Node.subtrees_nil, List.append_nil,
    List.forall_mem_append]

theorem text (content : String) : StyleNeutral options [.text content] := by
  simp [StyleNeutral, Node.subtrees_cons, Node.subtree, Node.isStyled]

theorem element_iff {name : String} {attributes : List (String × String)}
    {children : List Node} :
    StyleNeutral options [.element name attributes children] ↔
      (options.isRecognized name = true → name ∉ styledTags) ∧
        StyleNeutral options children := by
  simp [StyleNeutral, Node.subtrees_cons, Node.subtree, Node.isStyled]

end StyleNeutral

/-! ## Handlers that do not depend on the style -/

theorem lookup_eq_of_forall₂ {α : Type} {first second : List (String × α)} {name : String}
    (alike : List.Forall₂
      (fun left right => left.1 = right.1 ∧ (left.1 = name → left.2 = right.2)) first second) :
    first.lookup name = second.lookup name := by
  induction alike with
  | nil => rfl
  | @cons left right first second same _ ih =>
      obtain ⟨leftName, leftValue⟩ := left
      obtain ⟨rightName, rightValue⟩ := right
      obtain ⟨sameName, sameValue⟩ := same
      obtain rfl : leftName = rightName := sameName
      by_cases here : name = leftName
      · have value : leftValue = rightValue := sameValue here.symm
        simp [here, value]
      · have missed : (name == leftName) = false := by
          simp [here]
        simp only [List.lookup_cons, missed, ih]

theorem lookup_eq_of_not_styled {name : String} (unstyled : name ∉ styledTags) :
    Classic.style.registry.lookup name = Reference.style.registry.lookup name := by
  have alike : Classic.style.registry.handlers.lookup name =
      Reference.style.registry.handlers.lookup name := by
    simp only [styledTags, List.mem_cons, List.not_mem_nil, or_false, not_or] at unstyled
    obtain ⟨root, obsolete, remarks, returns, value, examples, threadsafety⟩ := unstyled
    apply lookup_eq_of_forall₂
    simp [Classic.style, Reference.style, Content.handlers, Ne.symm root, Ne.symm obsolete,
      Ne.symm remarks, Ne.symm returns, Ne.symm value, Ne.symm examples, Ne.symm threadsafety]
  simp only [Registry.lookup, alike]
  rfl

theorem markup_eq_of_not_styled {setting : Setting} {tag : Tag}
    (unstyled : setting.options.isRecognized tag.name = true → tag.name ∉ styledTags) :
    Classic.style.markup setting tag = Reference.style.markup setting tag := by
  unfold Style.markup
  split
  · rfl
  · split
    · next recognized => rw [lookup_eq_of_not_styled (unstyled recognized)]
    · rfl

mutual

theorem read_eq_of_neutral {setting : Setting} :
    ∀ node, StyleNeutral setting.options [node] →
      Classic.style.read setting node = Reference.style.read setting node
  | .text content, _ => by
      simp [Style.read]
  | .element name attributes children, neutral => by
      obtain ⟨unstyled, below⟩ := StyleNeutral.element_iff.mp neutral
      simp only [Style.read, readAll_eq_of_neutral children below]
      rw [markup_eq_of_not_styled unstyled]

theorem readAll_eq_of_neutral {setting : Setting} :
    ∀ nodes, StyleNeutral setting.options nodes →
      Classic.style.readAll setting nodes = Reference.style.readAll setting nodes
  | [], _ => by
      simp [Style.readAll]
  | node :: nodes, neutral => by
      obtain ⟨first, rest⟩ := StyleNeutral.cons_iff.mp neutral
      simp [Style.readAll, read_eq_of_neutral node first, readAll_eq_of_neutral nodes rest]

end

theorem interpretation_eq_of_neutral {setting : Setting} {node : Node}
    (neutral : StyleNeutral setting.options [node]) :
    Classic.style.interpretation setting node = Reference.style.interpretation setting node := by
  rw [← Style.value_markup_read, ← Style.value_markup_read, read_eq_of_neutral node neutral]

/-! ## Blocks -/

/-- A piece of a page, apart from how a style shows it. -/
inductive Block where
  | plain (html : Html)
  | titled (id title : String) (contents : List Html)
  /-- The notice that a member is obsolete, with what follows its label. -/
  | obsolete (contents : List Html)

namespace Block

def inClassic : Block → Html
  | .plain html => html
  | .titled id title contents =>
    .tagged "div" [("class", "section"), ("id", id)] (.tagged "h2" [] [.text title] :: contents)
  | .obsolete contents =>
    .classed "div" "obsolete-banner" (.tagged "strong" [] [.text "Obsolete."] :: contents)

def inReference : Block → Html
  | .plain html => html
  | .titled id title contents =>
    .tagged "section" [("id", id)]
      [.tagged "details" [("open", "open")]
        [.tagged "summary" [] [.text title], .classed "div" "content" contents]]
  | .obsolete contents =>
    .classed "p" "obsolete" (.classed "span" "label" [.text "Obsolete."] :: contents)

end Block

/-- Two fragments that show the same blocks in the two styles. -/
def Corresponds (classic reference : List Html) : Prop :=
  ∃ blocks : List Block,
    classic = blocks.map Block.inClassic ∧ reference = blocks.map Block.inReference

namespace Corresponds

theorem block (block : Block) : Corresponds [block.inClassic] [block.inReference] :=
  ⟨[block], rfl, rfl⟩

theorem refl (fragment : List Html) : Corresponds fragment fragment := by
  refine ⟨fragment.map .plain, ?_, ?_⟩
  · simp [Function.comp_def, Block.inClassic]
  · simp [Function.comp_def, Block.inReference]

theorem of_eq {classic reference : List Html} (same : classic = reference) :
    Corresponds classic reference :=
  same ▸ refl classic

theorem append {classic reference classicRest referenceRest : List Html}
    (first : Corresponds classic reference) (rest : Corresponds classicRest referenceRest) :
    Corresponds (classic ++ classicRest) (reference ++ referenceRest) := by
  obtain ⟨blocks, rfl, rfl⟩ := first
  obtain ⟨later, rfl, rfl⟩ := rest
  exact ⟨blocks ++ later, by simp, by simp⟩

theorem flatMap {α : Type} {classic reference : α → List Html} {items : List α}
    (each : ∀ item ∈ items, Corresponds (classic item) (reference item)) :
    Corresponds (items.flatMap classic) (items.flatMap reference) := by
  induction items with
  | nil => exact refl []
  | cons item items ih =>
      have rest := ih fun later member => each later (List.mem_cons_of_mem item member)
      exact (each item List.mem_cons_self).append rest

end Corresponds

/-! ## Children of the root -/

theorem titledBlock_corresponds (id title : String) (setting : Setting) (tag : Tag) :
    Corresponds (Content.titledBlock Classic.chrome id title setting tag).value
      (Content.titledBlock Reference.chrome id title setting tag).value :=
  .block (.titled id title tag.contents.value)

theorem threadSafety_corresponds (setting : Setting) (tag : Tag) :
    Corresponds (Content.threadSafety Classic.chrome setting tag).value
      (Content.threadSafety Reference.chrome setting tag).value :=
  .block (.titled "threadsafety" "Thread Safety" _)

theorem obsolete_corresponds (setting : Setting) (tag : Tag) :
    Corresponds (Classic.obsolete setting tag).value
      (Reference.obsolete setting tag).value := by
  unfold Classic.obsolete Reference.obsolete
  split
  · exact .block (.obsolete [])
  · exact .block (.obsolete (.text " " :: tag.contents.value))

theorem styled_handlers {name : String} (styled : name ∈ styledTags)
    (notRoot : name ≠ rootTag) :
    ∃ classic reference : Handler,
      Classic.style.registry.lookup name = some classic ∧
      Reference.style.registry.lookup name = some reference ∧
      ∀ setting tag, Corresponds (classic setting tag).value (reference setting tag).value := by
  simp only [styledTags, List.mem_cons, List.not_mem_nil, or_false] at styled
  rcases styled with rfl | rfl | rfl | rfl | rfl | rfl | rfl
  · exact absurd rfl notRoot
  · exact ⟨_, _, rfl, rfl, obsolete_corresponds⟩
  · exact ⟨_, _, rfl, rfl, titledBlock_corresponds "remarks" "Remarks"⟩
  · exact ⟨_, _, rfl, rfl, titledBlock_corresponds "returns" "Return Value"⟩
  · exact ⟨_, _, rfl, rfl, titledBlock_corresponds "value" "Property Value"⟩
  · exact ⟨_, _, rfl, rfl, titledBlock_corresponds "example" "Examples"⟩
  · exact ⟨_, _, rfl, rfl, threadSafety_corresponds⟩

theorem markup_corresponds {setting : Setting} {tag : Tag} (notRoot : tag.name ≠ rootTag) :
    Corresponds (Classic.style.markup setting tag).value
      (Reference.style.markup setting tag).value := by
  by_cases styled : tag.name ∈ styledTags
  · obtain ⟨classic, reference, inClassic, inReference, handled⟩ :=
      styled_handlers styled notRoot
    simp only [Style.markup, inClassic, inReference]
    split
    · exact .refl _
    · split
      · exact handled setting _
      · exact .refl _
  · exact .of_eq (congrArg Rendered.value (markup_eq_of_not_styled fun _ => styled))

theorem rootTag_not_placed : rootTag ∉ Layout.placedTags := by
  decide

theorem interpretation_corresponds {setting : Setting} {child : Node}
    (neutral : child.NeutralChild setting.options) :
    Corresponds (Classic.style.interpretation setting child)
      (Reference.style.interpretation setting child) := by
  cases child with
  | text content => exact .refl _
  | element name attributes children =>
      simp only [Node.NeutralChild] at neutral
      split at neutral
      · next placed =>
          have notRoot : name ≠ rootTag := by
            rintro rfl
            exact rootTag_not_placed placed
          -- Both handlers see the same tag, since what it holds is read alike.
          rw [← Style.value_markup_read, ← Style.value_markup_read]
          simp only [Style.read, Reading.markup, readAll_eq_of_neutral children neutral]
          exact markup_corresponds notRoot
      · exact .of_eq (interpretation_eq_of_neutral neutral)

theorem Node.NeutralChild.of_isFlow {options : OptionSet} {child : Node}
    (neutral : child.NeutralChild options) (flows : Layout.isFlow child = true) :
    StyleNeutral options [child] := by
  cases child with
  | text content => exact .text content
  | element name attributes children =>
      have unplaced : name ∉ Layout.placedTags := by
        simpa [Layout.isFlow] using flows
      simpa only [Node.NeutralChild, unplaced, ↓reduceIte] using neutral

theorem Node.NeutralChild.of_hasTag {options : OptionSet} {child : Node} {tag : String}
    (neutral : child.NeutralChild options) (unstyled : tag ∉ styledTags)
    (tagged : Layout.hasTag tag child = true) : StyleNeutral options [child] := by
  cases child with
  | text content => cases tagged
  | element name attributes children =>
      obtain rfl : name = tag := by
        simpa [Layout.hasTag] using tagged
      simp only [Node.NeutralChild] at neutral
      split at neutral
      · exact StyleNeutral.element_iff.mpr ⟨fun _ => unstyled, neutral⟩
      · exact neutral

namespace Layout

variable {setting : Setting} {children : List Node}

theorem map_interpretation_eq_of_neutral {nodes : List Node}
    (neutral : ∀ node ∈ nodes, StyleNeutral setting.options [node]) :
    nodes.map (Classic.style.interpretation setting) =
      nodes.map (Reference.style.interpretation setting) :=
  List.map_congr_left fun node member => interpretation_eq_of_neutral (neutral node member)

theorem not_styled_of_framed {tag id title : String} {frame : List (List Html) → Html}
    (member : Part.framed tag id title frame ∈ parts) : tag ∉ styledTags := by
  simp only [parts, contentParts, linkPart, Part.definitions, Part.table, Part.links,
    List.cons_append, List.nil_append, List.mem_cons, reduceCtorEq, Part.framed.injEq,
    List.not_mem_nil, or_false, false_or] at member
  rcases member with ⟨rfl, _⟩ | ⟨rfl, _⟩ | ⟨rfl, _⟩ | ⟨rfl, _⟩ | ⟨rfl, _⟩ | ⟨rfl, _⟩ <;> decide

/-- Only a group may hold styled children: no frame is about a styled tag, so what stands in a frame
is the same under both styles. -/
theorem render_corresponds (neutral : ∀ child ∈ children, child.NeutralChild setting.options)
    {part : Part} (member : part ∈ parts) (notListing : part ≠ .listing) :
    Corresponds (part.render Classic.style setting children)
      (part.render Reference.style setting children) := by
  cases part with
  | group tag =>
      simp only [Part.render, Part.markup, ← List.flatMap_def]
      refine .flatMap fun child taken => ?_
      exact interpretation_corresponds (neutral child (List.mem_of_mem_filter taken))
  | flow =>
      have flowing : ∀ child ∈ Part.flow.nodes children, StyleNeutral setting.options [child] :=
        fun child taken =>
          (neutral child (List.mem_of_mem_filter taken)).of_isFlow (List.of_mem_filter taken)
      simp only [Part.render, map_interpretation_eq_of_neutral flowing]
      exact .refl _
  | signature => exact .block (.titled "syntax" "Syntax" [setting.signature.markup])
  | framed tag id title frame =>
      have inFrame : ∀ child ∈ (Part.framed tag id title frame).nodes children,
          StyleNeutral setting.options [child] := fun child taken =>
        (neutral child (List.mem_of_mem_filter taken)).of_hasTag (not_styled_of_framed member)
          (List.of_mem_filter taken)
      simp only [Part.render, map_interpretation_eq_of_neutral inFrame, Part.markup]
      split
      · exact .block (.titled id title [frame _])
      · exact .refl []
  | listing => exact absurd rfl notListing

theorem contentParts_correspond
    (neutral : ∀ child ∈ children, child.NeutralChild setting.options) :
    Corresponds
      (contentParts.flatMap fun part => part.render Classic.style setting children)
      (contentParts.flatMap fun part => part.render Reference.style setting children) := by
  refine .flatMap fun part content => ?_
  have notListing : part ≠ .listing := by
    rintro rfl
    simp [contentParts, Part.definitions, Part.table] at content
  exact render_corresponds neutral (List.mem_append_left _ content) notListing

theorem linkPart_corresponds
    (neutral : ∀ child ∈ children, child.NeutralChild setting.options) :
    Corresponds (linkPart.render Classic.style setting children)
      (linkPart.render Reference.style setting children) := by
  have member : linkPart ∈ parts := by
    simp [parts]
  exact render_corresponds neutral member (by simp [linkPart, Part.links])

end Layout

namespace Element

theorem neutralChild_of_mem_keptChildren {options : OptionSet} {root : Element}
    (neutral : ∀ child ∈ root.children, child.NeutralChild options) :
    ∀ child ∈ root.keptChildren options, child.NeutralChild options := by
  intro child kept
  apply neutral
  unfold keptChildren at kept
  split at kept
  · exact (keepFirst_sublist _ _ _).subset kept
  · exact kept

end Element

theorem Style.value_applyRoot_of_ofName? {name : String} {style : Style}
    (named : Style.ofName? name = some style) (setting : Setting) (root : Element) :
    (style.applyRoot setting root).value =
      style.banner setting.declaration setting.dialect ::
        (Layout.contentParts.flatMap fun part =>
            part.render style setting (root.keptChildren setting.options)) ++
          style.listing setting.declaration ++
          Layout.linkPart.render style setting (root.keptChildren setting.options) := by
  rw [value_applyRoot (lookup_rootTag_of_ofName? named), Layout.parts, List.flatMap_append]
  simp [Layout.Part.render, Layout.Part.markup]

/-- A tree without styled elements has one markup under both styles. If the children of the root
are such trees, apart from the tags of those that the layout places, then the pages show the same
blocks in the same order, with the listing of the reference style between them. Identifier, heading
and contents of a section can be read back off either page. -/
theorem styles_show_same_blocks (setting : Setting) :
    (∀ element : Element, StyleNeutral setting.options [element.node] →
      Classic.style.apply setting element = Reference.style.apply setting element) ∧
    (∀ id title contents,
      (Block.titled id title contents).inClassic.section? = some ⟨id, title, contents⟩ ∧
      (Block.titled id title contents).inReference.section? = some ⟨id, title, contents⟩) ∧
    ∀ root : Element, (∀ child ∈ root.children, child.NeutralChild setting.options) →
      ∃ above below : List Block,
        (Classic.style.applyRoot setting root).value =
          Classic.banner setting.declaration setting.dialect ::
            (above ++ below).map Block.inClassic ∧
        (Reference.style.applyRoot setting root).value =
          Reference.banner setting.declaration setting.dialect ::
            (above.map Block.inReference ++ Reference.listing setting.declaration ++
              below.map Block.inReference) := by
  refine ⟨?_, ?_, ?_⟩
  · intro element neutral
    rw [Style.apply, Style.apply, read_eq_of_neutral element.node neutral]
  · intro id title contents
    exact ⟨Classic.section?_titled id title contents, Reference.section?_titled id title contents⟩
  · intro root neutral
    have kept := Element.neutralChild_of_mem_keptChildren neutral
    obtain ⟨above, classicAbove, referenceAbove⟩ := Layout.contentParts_correspond kept
    obtain ⟨below, classicBelow, referenceBelow⟩ := Layout.linkPart_corresponds kept
    have classicNamed : Style.ofName? "classic" = some Classic.style := rfl
    have referenceNamed : Style.ofName? "reference" = some Reference.style := rfl
    have noListing : Classic.style.listing setting.declaration = [] := rfl
    refine ⟨above, below, ?_, ?_⟩
    · rw [Style.value_applyRoot_of_ofName? classicNamed, classicAbove, classicBelow, noListing,
        List.append_nil, List.map_append]
      rfl
    · rw [Style.value_applyRoot_of_ofName? referenceNamed, referenceAbove, referenceBelow]
      rfl

theorem styles_show_same_blocks_obsolete_method :
    let run : Declaration := { name := "Run", kind := .method [] }
    let setting : Setting := ⟨{}, run, .csharp, .render run .csharp⟩
    let para : Element := ⟨"para", [], [.text "Use Start."]⟩
    let root : Element :=
      ⟨rootTag, [], [.element "obsolete" [] [para.node], para.node, .element "remarks" [] []]⟩
    StyleNeutral {} [para.node] ∧
    (∀ child ∈ root.children, child.NeutralChild {}) ∧
    Classic.style.apply setting para = Reference.style.apply setting para ∧
    ∃ above below : List Block,
      (Classic.style.applyRoot setting root).value =
        Classic.banner run .csharp :: (above ++ below).map Block.inClassic ∧
      (Reference.style.applyRoot setting root).value =
        Reference.banner run .csharp ::
          (above.map Block.inReference ++ Reference.listing run ++
            below.map Block.inReference) := by
  intro run setting para root
  have neutral : StyleNeutral {} [para.node] :=
    StyleNeutral.element_iff.mpr ⟨fun _ => by decide, .text "Use Start."⟩
  have children : ∀ child ∈ root.children, child.NeutralChild {} := by
    intro child member
    simp only [root, List.mem_cons, List.not_mem_nil, or_false] at member
    rcases member with rfl | rfl | rfl
    · exact neutral
    · exact neutral
    · simp [Node.NeutralChild, StyleNeutral, Layout.placedTags]
  obtain ⟨trees, _, pages⟩ := styles_show_same_blocks setting
  exact ⟨neutral, children, trees para neutral, pages root children⟩

end DocPreview
