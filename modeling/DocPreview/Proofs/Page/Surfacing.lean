import DocPreview.Proofs.Comment.CodeBlock
import DocPreview.Proofs.Include.Failures
import DocPreview.Proofs.Page.Arrangement
import DocPreview.Proofs.Page.ListEntries

/-!
# Which complaints surface

An include that fails leaves a complaint in the tree. With the usual options the page says it,
unless something around it shows less than its contents: a reference by name, a language word, a
list beside its entries, an entry beside its parts, or a reference that repeats an earlier one. Code
and the source of unknown elements show the complaint in their own way.
-/

set_option autoImplicit false

namespace DocPreview

open Html (Occurs)

namespace Hole

/-- The topmost node that holds the complaint in the hole. -/
def bearer (message : String) : Hole → Node
  | .here _ _ => .error message
  | .inside _ name attributes hole _ => .element name attributes (hole.fill [.error message])

def before : Hole → List Node
  | .here before _ => before
  | .inside before _ _ _ _ => before

/-- What the bearer refers to, if it is a reference. -/
def target? : Hole → Option (String × String)
  | .here _ _ => none
  | .inside _ name attributes _ _ => linkTarget? name attributes

/-- The bearer does not repeat a reference before it. -/
def Kept (hole : Hole) : Prop :=
  ∀ target, hole.target? = some target → ∀ node ∈ hole.before, node.linkTarget? ≠ some target

theorem exists_fill (message : String) (hole : Hole) :
    ∃ after, hole.fill [.error message] = hole.before ++ hole.bearer message :: after := by
  cases hole with
  | here before after => exact ⟨after, by simp [fill, bearer, Hole.before]⟩
  | inside before name attributes hole after => exact ⟨after, rfl⟩

theorem bearer_mem_fill (message : String) (hole : Hole) :
    hole.bearer message ∈ hole.fill [.error message] := by
  obtain ⟨after, split⟩ := exists_fill message hole
  rw [split]
  exact List.mem_append_right _ List.mem_cons_self

theorem linkTarget?_bearer (message : String) (hole : Hole) :
    (hole.bearer message).linkTarget? = hole.target? := by
  cases hole <;> rfl

theorem bearer_mem_keepFirst (message : String) {hole : Hole} (kept : hole.Kept) :
    hole.bearer message ∈ keepFirst Node.linkTarget? [] (hole.fill [.error message]) := by
  obtain ⟨after, filled⟩ := exists_fill message hole
  unfold Kept at kept
  rw [← linkTarget?_bearer message hole] at kept
  obtain ⟨front, back, split, _⟩ := Node.exists_kept_split kept after
  rw [filled, split]
  exact List.mem_append_right _ List.mem_cons_self

end Hole

/-- How an element uses what it holds. -/
inductive Reader where
  /-- It shows all children, or all but repeated references. -/
  | contents (dropping : Bool)
  /-- It shows the first header and the items. -/
  | list
  /-- As an entry of a list, it shows the first term and the first description, or all children. -/
  | entry
  /-- It shows the text of the children as code. -/
  | code
  | text
  /-- It shows the XML of the children. -/
  | source
  | nothing

/-- What becomes of the children of an element, with the usual options. -/
def Reader.of (name : String) (attributes : List (String × String)) : Reader :=
  if name = errorTag then .text
  else if name ∉ ({} : OptionSet).recognizedTags then .source
  else if name = "code" then .code
  else if name = "list" then .list
  else if name = "see" ∨ name = "seealso" then
    if Content.isLanguageWord attributes then .nothing else .contents true
  else if name ∈ Content.selectiveTags then .nothing
  else .contents true

def isPart (node : Node) : Bool :=
  Layout.hasTag "term" node || Layout.hasTag "description" node

/-- No line break, tab or blank at the end, all of which the layout of code may change. -/
structure StandsInLine (message : String) : Prop where
  unbroken : '\n' ∉ message.toList
  plain : '\t' ∉ message.toList
  closed : message.toList.getLast?.all (!isBlank ·) = true

/-- No character that XML text has to escape. -/
def IsUnescaped (message : String) : Prop :=
  ∀ char ∈ message.toList, Node.escapeChar char = [char]

/-- A complaint with this message in the hole is said by an element that uses its children so. -/
inductive Surfaces (message : String) : Reader → Hole → Prop where
  | here {dropping before after} : Surfaces message (.contents dropping) (.here before after)
  | child {dropping before name attributes hole after} :
      (dropping = true → (Hole.inside before name attributes hole after).Kept) →
      Surfaces message (.of name attributes) hole →
      Surfaces message (.contents dropping) (.inside before name attributes hole after)
  | item {before attributes hole after} :
      Surfaces message .entry hole →
      Surfaces message .list (.inside before "item" attributes hole after)
  | header {before attributes hole after} :
      (∀ node ∈ before, Layout.hasTag "listheader" node = false) →
      Surfaces message .entry hole →
      Surfaces message .list (.inside before "listheader" attributes hole after)
  | part {before name attributes hole after} :
      name = "term" ∨ name = "description" →
      (∀ node ∈ before, Layout.hasTag name node = false) →
      Surfaces message (.contents false) hole →
      Surfaces message .entry (.inside before name attributes hole after)
  | partless {hole} :
      (∀ node ∈ hole.fill [], isPart node = false) →
      Surfaces message (.contents false) hole →
      Surfaces message .entry hole
  | code {hole} : StandsInLine message → hole.Kept → Surfaces message .code hole
  | text {hole} : Surfaces message .text hole
  | source {hole} : IsUnescaped message → Surfaces message .source hole

/-! ## Texts with a complaint in them -/

section

variable {message : String} {node : Node} {nodes : List Node} {part : List Char}

theorem toList_textContents (nodes : List Node) :
    (Node.textContents nodes).toList = (nodes.map fun node => node.textContent.toList).flatten := by
  induction nodes with
  | nil => rfl
  | cons node nodes ih =>
      rw [Node.textContents, String.toList_append, ih, List.map_cons, List.flatten_cons]

theorem toList_toXmlAll (nodes : List Node) :
    (Node.toXmlAll nodes).toList = (nodes.map fun node => node.toXml.toList).flatten := by
  induction nodes with
  | nil => rfl
  | cons node nodes ih =>
      rw [Node.toXmlAll, String.toList_append, ih, List.map_cons, List.flatten_cons]

theorem infix_textContents (member : node ∈ nodes) (within : part <:+: node.textContent.toList) :
    part <:+: (Node.textContents nodes).toList := by
  rw [toList_textContents]
  exact within.trans (List.infix_of_mem_flatten (List.mem_map_of_mem member))

theorem infix_toXmlAll (member : node ∈ nodes) (within : part <:+: node.toXml.toList) :
    part <:+: (Node.toXmlAll nodes).toList := by
  rw [toList_toXmlAll]
  exact within.trans (List.infix_of_mem_flatten (List.mem_map_of_mem member))

theorem infix_toXml_element (name : String) (attributes : List (String × String))
    (within : part <:+: (Node.toXmlAll nodes).toList) :
    part <:+: (Node.element name attributes nodes).toXml.toList := by
  cases nodes with
  | nil =>
      have empty : part = [] := List.infix_nil.mp (by simpa [Node.toXmlAll] using within)
      rw [empty]
      exact List.nil_infix
  | cons child children =>
      have split : (Node.element name attributes (child :: children)).toXml =
          "<" ++ name ++ Node.attributesXml attributes ++ ">" ++
            Node.toXmlAll (child :: children) ++ ("</" ++ name ++ ">") := by
        simp only [Node.toXml, Node.toXmlAll, String.append_assoc]
      rw [split, String.toList_append, String.toList_append]
      exact List.infix_append_of_infix_left (List.infix_append_of_infix_right within)

theorem infix_textContent_bearer (hole : Hole) :
    message.toList <:+: (hole.bearer message).textContent.toList := by
  induction hole with
  | here before after =>
      simp [Hole.bearer, Node.error, Node.textContent, Node.textContents]
  | inside before name attributes hole after ih =>
      rw [Hole.bearer, Node.textContent]
      exact infix_textContents (hole.bearer_mem_fill message) ih

theorem flatMap_escapeChar_of_isUnescaped (unescaped : IsUnescaped message) :
    message.toList.flatMap Node.escapeChar = message.toList := by
  rw [List.flatMap_congr unescaped]
  exact List.flatMap_singleton' _

theorem infix_toXml_bearer (unescaped : IsUnescaped message) (hole : Hole) :
    message.toList <:+: (hole.bearer message).toXml.toList := by
  induction hole with
  | here before after =>
      refine infix_toXml_element errorTag [] (infix_toXmlAll List.mem_cons_self ?_)
      rw [Node.toXml, String.toList_ofList, flatMap_escapeChar_of_isUnescaped unescaped]
  | inside before name attributes hole after ih =>
      exact infix_toXml_element name attributes (infix_toXmlAll (hole.bearer_mem_fill message) ih)

end

/-! ## Reading the children of an element -/

mutual

theorem node_read (style : Style) (setting : Setting) :
    ∀ node : Node, (style.read setting node).node = node
  | .text content => by
      simp only [Style.read, Reading.node]
  | .element name attributes children => by
      simp only [Style.read, Reading.node, nodes_readAll style setting children]

theorem nodes_readAll (style : Style) (setting : Setting) :
    ∀ nodes : List Node, Reading.nodes (style.readAll setting nodes) = nodes
  | [] => by
      simp only [Style.readAll, Reading.nodes]
  | node :: nodes => by
      simp only [Style.readAll, Reading.nodes, node_read style setting node,
        nodes_readAll style setting nodes]

end

section

variable {style : Style} {setting : Setting} {message : String} {nodes : List Node}

theorem element_tagOf (style : Style) (setting : Setting) (element : Element) :
    (style.tagOf setting element).element = element := by
  rw [Tag.element, Style.tagOf, nodes_readAll]

theorem isBlank_readAll {name : String} {attributes : List (String × String)} {node : Node}
    (member : node ∈ nodes) (shown : node.isBlank = false) :
    Tag.isBlank ⟨name, attributes, style.readAll setting nodes⟩ = false := by
  rw [Tag.isBlank, Tag.element, nodes_readAll, Element.isBlank, List.all_eq_false]
  exact ⟨node, member, by rw [shown]; exact Bool.false_ne_true⟩

theorem occurs_contents_readAll {name : String} {attributes : List (String × String)} {node : Node}
    (member : node ∈ nodes) (occurs : Occurs message (style.interpretation setting node)) :
    Occurs message (Tag.contents ⟨name, attributes, style.readAll setting nodes⟩).value := by
  rw [Tag.contents, Style.readAll_eq_map, Layout.value_contents_map_read]
  exact occurs.flatten (List.mem_map_of_mem member)

/-- What the reader makes of the children says the message. -/
def Reader.Tells (style : Style) (setting : Setting) (message : String) :
    Reader → List Node → Prop
  | .contents dropping, nodes =>
    ∃ node ∈ (if dropping then keepFirst Node.linkTarget? [] nodes else nodes),
      node.isBlank = false ∧ Occurs message (style.interpretation setting node)
  | .list, nodes =>
    ∃ entry ∈ (Content.listEntries
        ⟨"", [], style.readAll setting (keepFirst Node.linkTarget? [] nodes)⟩).value,
      Content.OccursInParts message entry.2
  | .entry, nodes =>
    Content.OccursInParts message
      (Content.termAndDescription ⟨"", [], style.readAll setting nodes⟩).value
  | .code, nodes =>
    message.toList <:+:
      (CodeBlock.format (some 4)
        (Node.textContents (keepFirst Node.linkTarget? [] nodes))).toList
  | .text, nodes => message.toList <:+: (Node.textContents nodes).toList
  | .source, nodes => message.toList <:+: (Node.toXmlAll nodes).toList
  | .nothing, _ => False

/-- An element is interpreted by its markup, from what its children have been read as. -/
theorem interpretation_element (name : String) (attributes : List (String × String)) :
    style.interpretation setting (.element name attributes nodes) =
      (style.markup setting (style.tagOf setting ⟨name, attributes, nodes⟩)).value := by
  rw [Style.interpretation, style.apply_eq_markup]

theorem interpretation_handled (usual : setting.options = {}) {name : String} {handler : Handler}
    (recognized : name ∈ ({} : OptionSet).recognizedTags)
    (found : style.registry.lookup name = some handler) (attributes : List (String × String))
    (nodes : List Node) :
    style.interpretation setting (.element name attributes nodes) =
      (handler setting
        (style.tagOf setting ⟨name, attributes, keepFirst Node.linkTarget? [] nodes⟩)).value := by
  have ordinary : name ≠ errorTag := by
    rintro rfl
    revert recognized
    decide
  have known : setting.options.isRecognized name = true := by
    rw [usual]
    exact List.contains_iff_mem.mpr recognized
  have dropping : setting.options.suppressDuplicateLinks = true := by
    rw [usual]
  rw [interpretation_element]
  simp only [Style.markup, Style.name_tagOf, beq_iff_eq, ordinary, ↓reduceIte, known, found,
    Style.dispatch_tagOf, Element.keptChildren, dropping, Element.suppressDuplicateLinks]

/-- A handler that shows all contents says what one of the kept children says. -/
theorem occurs_of_showsContents (usual : setting.options = {}) {name : String} {handler : Handler}
    (recognized : name ∈ ({} : OptionSet).recognizedTags)
    (found : style.registry.lookup name = some handler) {attributes : List (String × String)}
    (shows : ∀ children, handler.ShowsContents ⟨name, attributes, children⟩)
    (told : Reader.Tells style setting message (.contents true) nodes) :
    Occurs message (style.interpretation setting (.element name attributes nodes)) := by
  obtain ⟨node, member, shown, occurs⟩ := told
  rw [interpretation_handled usual recognized found]
  exact shows _ setting message (isBlank_readAll member shown)
    (occurs_contents_readAll member occurs)

/-- An element says what its reader says. -/
theorem Reader.Tells.occurs {styleName : String} (named : Style.ofName? styleName = some style)
    (usual : setting.options = {}) {name : String} {attributes : List (String × String)}
    (told : (Reader.of name attributes).Tells style setting message nodes) :
    Occurs message (style.interpretation setting (.element name attributes nodes)) := by
  unfold Reader.of at told
  split at told
  · rename_i failure
    subst failure
    rw [interpretation_element]
    refine Occurs.inside (Occurs.text ?_)
    rw [element_tagOf]
    exact told
  split at told
  · rename_i ordinary unknown
    have source : style.markup setting (style.tagOf setting ⟨name, attributes, nodes⟩) =
        ⟨[.classed "span" "unrecognized"
          [.text (Node.element name attributes nodes).toXml]], false⟩ := by
      have unrecognized : setting.options.isRecognized name = false := by
        rw [usual]
        exact Bool.eq_false_iff.mpr fun known => unknown (List.contains_iff_mem.mp known)
      have highlighting : setting.options.tagPolicy = .highlight := by
        rw [usual]
      simp only [Style.markup, Style.name_tagOf, beq_iff_eq, ordinary, ↓reduceIte, unrecognized,
        Bool.false_eq_true, highlighting, Style.unrecognized, element_tagOf]
      rfl
    rw [interpretation_element, source]
    exact Occurs.inside (Occurs.text (infix_toXml_element name attributes told))
  rename_i ordinary known
  have recognized : name ∈ ({} : OptionSet).recognizedTags := not_not.mp known
  split at told
  · rename_i isCode
    subst isCode
    rw [interpretation_handled usual recognized (Style.lookup_shared named rfl)]
    refine Occurs.inside (Occurs.inside (Occurs.text ?_))
    rw [element_tagOf, usual]
    exact told
  split at told
  · rename_i isList
    subst isList
    obtain ⟨entry, member, occurs⟩ := told
    rw [interpretation_handled usual recognized (Style.lookup_shared named rfl)]
    exact Content.listLayout_occurs _ member occurs
  split at told
  · rename_i refers
    split at told
    · cases told
    · rename_i wordless
      have found : style.registry.lookup name = some Content.reference := by
        cases refers with
        | inl same => rw [same]; exact Style.lookup_shared named rfl
        | inr same => rw [same]; exact Style.lookup_shared named rfl
      refine occurs_of_showsContents usual recognized found (fun children => ?_) told
      exact Content.reference_showsContents (Bool.eq_false_iff.mpr wordless)
  split at told
  · cases told
  · rename_i plain
    obtain ⟨handler, found, shows⟩ := Style.exists_handler_showsContents named recognized plain
    exact occurs_of_showsContents usual recognized found (fun children => shows _) told

theorem find?_readAll_cons {name : String} {node : Node}
    (other : Layout.hasTag name node = false) (nodes : List Node) :
    Tag.find? ⟨"", [], style.readAll setting (node :: nodes)⟩ name =
      Tag.find? ⟨"", [], style.readAll setting nodes⟩ name := by
  simp only [Tag.find?, Tag.childTags]
  cases node with
  | text content => simp [Style.readAll, Style.read, Tag.ofReading?]
  | element otherName attributes children =>
      simp only [Layout.hasTag] at other
      simp [Style.readAll, Style.read, Tag.ofReading?, other]

theorem find?_readAll {name : String} {attributes : List (String × String)}
    {before children : List Node} (first : ∀ node ∈ before, Layout.hasTag name node = false)
    (after : List Node) :
    Tag.find? ⟨"", [], style.readAll setting
        (before ++ .element name attributes children :: after)⟩ name =
      some ⟨name, attributes, style.readAll setting children⟩ := by
  induction before with
  | nil => simp [Tag.find?, Tag.childTags, Style.readAll, Style.read, Tag.ofReading?]
  | cons node before ih =>
      rw [List.cons_append, find?_readAll_cons (first node List.mem_cons_self)]
      exact ih fun later member => first later (List.mem_cons_of_mem _ member)

theorem find?_readAll_eq_none {name : String}
    (absent : ∀ node ∈ nodes, Layout.hasTag name node = false) :
    Tag.find? ⟨"", [], style.readAll setting nodes⟩ name = none := by
  induction nodes with
  | nil => rfl
  | cons node nodes ih =>
      rw [find?_readAll_cons (absent node List.mem_cons_self)]
      exact ih fun later member => absent later (List.mem_cons_of_mem _ member)

theorem mem_childTags_readAll {name : String} {attributes : List (String × String)}
    {children : List Node} (member : Node.element name attributes children ∈ nodes) :
    (⟨name, attributes, style.readAll setting children⟩ : Tag) ∈
      Tag.childTags ⟨"", [], style.readAll setting nodes⟩ := by
  rw [Tag.childTags, Style.readAll_eq_map]
  refine List.mem_filterMap.mpr ⟨_, List.mem_map_of_mem member, ?_⟩
  simp only [Style.read, Tag.ofReading?]

/-! ## What surfaces -/

variable {reader : Reader} {hole : Hole}

theorem isPart_fill (partless : ∀ node ∈ hole.fill [], isPart node = false) :
    ∀ node ∈ hole.fill [.error message], isPart node = false := by
  cases hole with
  | here before after =>
      intro node member
      simp only [Hole.fill, List.append_nil, List.mem_append, List.mem_singleton] at partless member
      rcases member with (inFront | rfl) | behind
      · exact partless node (.inl inFront)
      · rfl
      · exact partless node (.inr behind)
  | inside before name attributes hole after =>
      intro node member
      simp only [Hole.fill, List.mem_append, List.mem_cons] at partless member
      rcases member with inFront | rfl | behind
      · exact partless node (.inl inFront)
      · exact partless (.element name attributes (hole.fill [])) (.inr (.inl rfl))
      · exact partless node (.inr (.inr behind))

theorem occurs_error (style : Style) (setting : Setting) (message : String) :
    Occurs message (style.interpretation setting (.error message)) := by
  rw [Node.error, interpretation_element]
  refine Occurs.inside (Occurs.text ?_)
  rw [element_tagOf]
  simp [Element.textContent, Node.textContents, Node.textContent]

/-- All contents of an entry without parts are its description. -/
theorem tells_entry_of_contents (partless : ∀ node ∈ nodes, isPart node = false)
    (told : Reader.Tells style setting message (.contents false) nodes) :
    Reader.Tells style setting message .entry nodes := by
  obtain ⟨node, member, _, occurs⟩ := told
  have termless : ∀ node ∈ nodes, Layout.hasTag "term" node = false := by
    intro node member
    exact (Bool.or_eq_false_iff.mp (partless node member)).1
  have undescribed : ∀ node ∈ nodes, Layout.hasTag "description" node = false := by
    intro node member
    exact (Bool.or_eq_false_iff.mp (partless node member)).2
  simp only [Reader.Tells, Content.value_termAndDescription, find?_readAll_eq_none termless,
    find?_readAll_eq_none undescribed]
  exact .inr (occurs_contents_readAll member occurs)

theorem tells_entry_of_part {name : String} {attributes : List (String × String)}
    {before children : List Node} (isPart : name = "term" ∨ name = "description")
    (first : ∀ node ∈ before, Layout.hasTag name node = false) (after : List Node)
    (told : Reader.Tells style setting message (.contents false) children) :
    Reader.Tells style setting message .entry
      (before ++ .element name attributes children :: after) := by
  obtain ⟨node, member, _, occurs⟩ := told
  have found := @find?_readAll style setting name attributes before children first after
  simp only [Reader.Tells, Content.value_termAndDescription]
  cases isPart with
  | inl same =>
      subst same
      rw [found]
      exact .inl (occurs_contents_readAll member occurs)
  | inr same =>
      subst same
      rw [found]
      exact .inr (occurs_contents_readAll member occurs)

theorem tells_list_of_item {attributes : List (String × String)} {children : List Node}
    (kept : .element "item" attributes children ∈ keepFirst Node.linkTarget? [] nodes)
    (told : Reader.Tells style setting message .entry children) :
    Reader.Tells style setting message .list nodes := by
  refine ⟨(false, (Content.termAndDescription
    ⟨"item", attributes, style.readAll setting children⟩).value), ?_, told⟩
  rw [Content.value_listEntries]
  refine List.mem_append_right _ (List.mem_map.mpr ⟨_, ?_, rfl⟩)
  exact List.mem_filter.mpr ⟨mem_childTags_readAll kept, rfl⟩

theorem tells_list_of_header {attributes : List (String × String)} {before children : List Node}
    (first : ∀ node ∈ before, Layout.hasTag "listheader" node = false) (after : List Node)
    (told : Reader.Tells style setting message .entry children) :
    Reader.Tells style setting message .list
      (before ++ .element "listheader" attributes children :: after) := by
  have fresh : ∀ target, (Node.element "listheader" attributes children).linkTarget? = some target →
      ∀ earlier ∈ before, earlier.linkTarget? ≠ some target := by
    intro target keyed
    cases keyed
  obtain ⟨front, back, split, earlier⟩ := Node.exists_kept_split fresh after
  have found := @find?_readAll style setting "listheader" attributes front children
    (fun node member => first node (earlier node member)) back
  refine ⟨(true, (Content.termAndDescription
    ⟨"listheader", attributes, style.readAll setting children⟩).value), ?_, told⟩
  rw [Content.value_listEntries, split, found]
  exact List.mem_append_left _ List.mem_cons_self

theorem tells_code (begins : message.toList.head?.any (!isBlank ·) = true)
    (line : StandsInLine message) (kept : hole.Kept) :
    Reader.Tells style setting message .code (hole.fill [.error message]) := by
  have nonempty : message.toList ≠ [] := by
    intro empty
    simp [empty] at begins
  have whole : Text.IsTrimmed message.toList := by
    refine ⟨?_, line.closed⟩
    cases first : message.toList.head? with
    | none => rfl
    | some char => simpa [first] using begins
  refine CodeBlock.infix_format _ nonempty whole line.unbroken line.plain ?_
  exact infix_textContents (Hole.bearer_mem_keepFirst message kept) (infix_textContent_bearer hole)

/-- By induction on the way down to the hole. -/
theorem Surfaces.tells {styleName : String} (named : Style.ofName? styleName = some style)
    (usual : setting.options = {}) (begins : message.toList.head?.any (!isBlank ·) = true)
    (surfaces : Surfaces message reader hole) :
    reader.Tells style setting message (hole.fill [.error message]) := by
  induction surfaces with
  | @here dropping before after =>
      refine ⟨.error message, ?_, rfl, occurs_error style setting message⟩
      cases dropping with
      | false => exact (Hole.here before after).bearer_mem_fill message
      | true =>
          have kept : (Hole.here before after).Kept := by
            intro target keyed
            cases keyed
          exact Hole.bearer_mem_keepFirst message kept
  | @child dropping before name attributes hole after kept _ ih =>
      refine ⟨.element name attributes (hole.fill [.error message]), ?_, rfl,
        ih.occurs named usual⟩
      cases dropping with
      | false => exact (Hole.inside before name attributes hole after).bearer_mem_fill message
      | true => exact Hole.bearer_mem_keepFirst message (kept rfl)
  | @item before attributes hole after _ ih =>
      have kept : (Hole.inside before "item" attributes hole after).Kept := by
        intro target keyed
        cases keyed
      exact tells_list_of_item (Hole.bearer_mem_keepFirst message kept) ih
  | @header before attributes hole after first _ ih => exact tells_list_of_header first after ih
  | @part before name attributes hole after isPart first _ ih =>
      exact tells_entry_of_part isPart first after ih
  | @partless hole absent _ ih => exact tells_entry_of_contents (isPart_fill absent) ih
  | code line kept => exact tells_code begins line kept
  | text => exact infix_textContents (Hole.bearer_mem_fill message _) (infix_textContent_bearer _)
  | source unescaped =>
      exact infix_toXmlAll (Hole.bearer_mem_fill message _) (infix_toXml_bearer unescaped _)

end

end DocPreview
