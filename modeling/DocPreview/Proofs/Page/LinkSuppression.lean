import DocPreview.Proofs.Comment.RepeatedLinks
import DocPreview.Proofs.Comment.Subtree
import DocPreview.Proofs.Page.Arrangement

/-!
# Dropping repeated references

Dropping takes from an element the references that repeat an earlier sibling and leaves all the rest
as it is. No handler asks whether references are dropped, so a tree in which no two siblings refer to
the same shows the same either way.
-/

set_option autoImplicit false

namespace DocPreview

/-- The second element is the first without the references that repeat an earlier sibling. -/
structure Element.KeepsFirst (element kept : Element) : Prop where
  name : kept.name = element.name
  attributes : kept.attributes = element.attributes
  children : kept.children =
    (element.children.zipIdx.filter fun entry =>
      !repeatsKey Node.linkTarget? (element.children.take entry.2) entry.1).map (·.1)
  others : kept.children.filter (·.linkTarget?.isNone) =
    element.children.filter (·.linkTarget?.isNone)
  apart : (kept.children.filterMap Node.linkTarget?).Nodup
  firstSeen : kept.children.filterMap Node.linkTarget? =
    (element.children.filterMap Node.linkTarget?).eraseDups

theorem Element.keepsFirst_suppressDuplicateLinks (element : Element) :
    element.KeepsFirst element.suppressDuplicateLinks where
  name := rfl
  attributes := rfl
  children := keepFirst_eq_filter [] element.children (by simp [Records])
  others := filter_keyless_keepFirst [] element.children
  apart := nodup_filterMap_keepFirst [] element.children
  firstSeen := by
    rw [suppressDuplicateLinks, filterMap_keepFirst]
    simp

/-- Nothing is dropped where all references are different. -/
theorem Element.suppressDuplicateLinks_of_apart {element : Element}
    (apart : (element.children.filterMap Node.linkTarget?).Nodup) :
    element.suppressDuplicateLinks = element := by
  rw [suppressDuplicateLinks, keepFirst_eq_self apart fun _ _ => List.not_mem_nil]

/-! ## Trees without repeated references -/

namespace Node

def LinksApart : Node → Prop
  | .text _ => True
  | .element _ _ children => (children.filterMap linkTarget?).Nodup

instance : DecidablePred LinksApart
  | .text _ => inferInstanceAs (Decidable True)
  | .element _ _ children => inferInstanceAs (Decidable (children.filterMap linkTarget?).Nodup)

/-- Nowhere in the trees do two siblings below one element refer to the same. -/
def AllLinksApart (nodes : List Node) : Prop :=
  ∀ node ∈ subtrees nodes, node.LinksApart

instance : DecidablePred AllLinksApart := fun nodes =>
  inferInstanceAs (Decidable (∀ node ∈ subtrees nodes, node.LinksApart))

theorem allLinksApart_cons {node : Node} {nodes : List Node} :
    AllLinksApart (node :: nodes) ↔ AllLinksApart [node] ∧ AllLinksApart nodes := by
  simp only [AllLinksApart, subtrees_cons, subtrees_nil, List.append_nil, List.forall_mem_append]

theorem allLinksApart_element {name : String} {attributes : List (String × String)}
    {children : List Node} :
    AllLinksApart [.element name attributes children] ↔
      (children.filterMap linkTarget?).Nodup ∧ AllLinksApart children := by
  simp [AllLinksApart, subtrees_cons, subtree, LinksApart]

end Node

def Setting.withDropping (setting : Setting) (dropping : Bool) : Setting :=
  { setting with options := { setting.options with suppressDuplicateLinks := dropping } }

def Handler.IgnoresDropping (handler : Handler) : Prop :=
  ∀ (setting : Setting) (dropping : Bool) (tag : Tag),
    handler (setting.withDropping dropping) tag = handler setting tag

theorem Content.handlers_ignoreDropping (chrome : Chrome) :
    ∀ entry ∈ handlers chrome, Handler.IgnoresDropping entry.2 := by
  simp only [handlers, List.forall_mem_cons, List.not_mem_nil, false_implies, implies_true,
    and_true]
  and_intros
  all_goals exact fun _ _ _ => rfl

namespace Style

variable {style : Style} {setting : Setting}

def IgnoresDropping (style : Style) : Prop :=
  ∀ (name : String) (handler : Handler), style.registry.lookup name = some handler →
    handler.IgnoresDropping

/-- A style with the shared handlers and further ones. -/
theorem ignoresDropping_of_handlers {chrome : Chrome} {own : List (String × Handler)}
    (registered : style.registry = ⟨Content.handlers chrome ++ own, none⟩)
    (ownIgnore : ∀ entry ∈ own, Handler.IgnoresDropping entry.2) :
    style.IgnoresDropping := by
  intro name handler found
  rw [registered, Registry.lookup, Option.or_none] at found
  have listed : (Content.handlers chrome ++ own).lookup name = some handler := found
  obtain ⟨front, back, split, _⟩ := List.lookup_eq_some_iff.mp listed
  have member : (name, handler) ∈ Content.handlers chrome ++ own := by
    rw [split]
    exact List.mem_append_right _ List.mem_cons_self
  cases List.mem_append.mp member with
  | inl shared => exact Content.handlers_ignoreDropping chrome _ shared
  | inr further => exact ownIgnore _ further

theorem ignoresDropping_of_ofName? {name : String} (named : ofName? name = some style) :
    style.IgnoresDropping := by
  have further : ∀ {first second : String × Handler}, first.2.IgnoresDropping →
      second.2.IgnoresDropping → ∀ entry ∈ [first, second], Handler.IgnoresDropping entry.2 := by
    intro first second ignoresFirst ignoresSecond
    rw [List.forall_mem_cons, List.forall_mem_singleton]
    exact ⟨ignoresFirst, ignoresSecond⟩
  obtain rfl | rfl := eq_of_ofName? named
  · exact ignoresDropping_of_handlers rfl (further (fun _ _ _ => rfl) fun _ _ _ => rfl)
  · exact ignoresDropping_of_handlers rfl (further (fun _ _ _ => rfl) fun _ _ _ => rfl)

theorem markup_withDropping (ignores : style.IgnoresDropping) (tag : Tag)
    (apart : (tag.children.filterMap Reading.linkTarget?).Nodup) (dropping : Bool) :
    style.markup (setting.withDropping dropping) tag = style.markup setting tag := by
  have whole : tag.suppressDuplicateLinks = tag := by
    rw [Tag.suppressDuplicateLinks, keepFirst_eq_self apart fun _ _ => List.not_mem_nil]
  -- The tag is the same either way, so only the handler could still tell the settings apart.
  have recognized : (setting.withDropping dropping).options.isRecognized tag.name =
      setting.options.isRecognized tag.name := rfl
  have policy : (setting.withDropping dropping).options.tagPolicy = setting.options.tagPolicy := rfl
  simp only [markup, recognized, policy, dispatch, whole, ite_self]
  split
  · rfl
  · split
    · split
      · rename_i handler found
        exact ignores tag.name handler found setting dropping tag
      · rfl
    · rfl

theorem filterMap_linkTarget?_readAll (style : Style) (setting : Setting) (nodes : List Node) :
    (style.readAll setting nodes).filterMap Reading.linkTarget? =
      nodes.filterMap Node.linkTarget? := by
  rw [readAll_eq_map, List.filterMap_map]
  exact List.filterMap_congr fun node _ => linkTarget?_read style setting node

mutual

theorem read_withDropping (ignores : style.IgnoresDropping) (dropping : Bool) :
    ∀ node, Node.AllLinksApart [node] →
      style.read (setting.withDropping dropping) node = style.read setting node
  | .text content, _ => by
      simp only [read]
  | .element name attributes children, apart => by
      obtain ⟨here, below⟩ := Node.allLinksApart_element.mp apart
      rw [← filterMap_linkTarget?_readAll style setting] at here
      simp only [read, readAll_withDropping ignores dropping children below,
        markup_withDropping ignores ⟨name, attributes, style.readAll setting children⟩ here
          dropping]

theorem readAll_withDropping (ignores : style.IgnoresDropping) (dropping : Bool) :
    ∀ nodes, Node.AllLinksApart nodes →
      style.readAll (setting.withDropping dropping) nodes = style.readAll setting nodes
  | [], _ => by
      simp only [readAll]
  | node :: nodes, apart => by
      obtain ⟨first, rest⟩ := Node.allLinksApart_cons.mp apart
      simp only [readAll, read_withDropping ignores dropping node first,
        readAll_withDropping ignores dropping nodes rest]

end

end Style

/-- Dropping leaves out exactly the references that repeat an earlier sibling and is done after one
pass, and a handler sees what is left whether the children were read before or after it. If no
siblings of a tree refer to the same, its markup does not depend on it. -/
theorem suppression_drops_only_repetitions :
    (∀ node tag target, Node.linkTarget? node = some (tag, target) ↔
      ∃ form, node.RefersBy form tag target) ∧
    (∀ element : Element, element.KeepsFirst element.suppressDuplicateLinks ∧
      element.suppressDuplicateLinks.suppressDuplicateLinks = element.suppressDuplicateLinks) ∧
    (∀ (style : Style) (setting : Setting) (element : Element),
      (style.tagOf setting element).suppressDuplicateLinks =
        style.tagOf setting element.suppressDuplicateLinks) ∧
    ∀ (styleName : String) (style : Style), Style.ofName? styleName = some style →
      ∀ (setting : Setting) (element : Element), Node.AllLinksApart [element.node] →
        style.apply (setting.withDropping true) element =
          style.apply (setting.withDropping false) element := by
  refine ⟨fun _ _ _ => Node.linkTarget?_eq_some_iff, fun element => ⟨?_, ?_⟩,
    Style.suppressDuplicateLinks_tagOf, ?_⟩
  · exact element.keepsFirst_suppressDuplicateLinks
  · exact Element.suppressDuplicateLinks_of_apart
      element.keepsFirst_suppressDuplicateLinks.apart
  · intro styleName style named setting element apart
    have ignores := Style.ignoresDropping_of_ofName? named
    rw [Style.apply, Style.apply, Style.read_withDropping ignores true _ apart,
      Style.read_withDropping ignores false _ apart]

/-- The first paragraph repeats a reference. The second one refers to other targets and with
another tag. -/
theorem suppression_drops_only_repetitions_paragraphs :
    let run : Declaration := { name := "Run", kind := .method [] }
    let setting : Setting := ⟨{}, run, .csharp, .render run .csharp⟩
    let code : Node := .element "see" [("cref", "T:A")] []
    let labelled : Node := .element "see" [("href", "T:B"), ("cref", "T:A")] [.text "again"]
    let also : Node := .element "seealso" [("href", "T:A")] []
    let word : Node := .element "see" [("langword", "null")] []
    let repeating : Element := ⟨"para", [], [code, .text ", ", labelled, also, labelled]⟩
    let apart : Element :=
      ⟨"para", [], [code, .text " or ", also, .element "c" [] [word, .text "x", code]]⟩
    Node.AllLinksApart [apart.node] ∧
    Classic.style.apply (setting.withDropping true) apart =
      Classic.style.apply (setting.withDropping false) apart ∧
    repeating.KeepsFirst repeating.suppressDuplicateLinks ∧
    repeating.suppressDuplicateLinks.children = [code, .text ", ", also] := by
  intro run setting code labelled also word repeating apart
  have distinct : Node.AllLinksApart [apart.node] := by decide
  exact ⟨distinct,
    suppression_drops_only_repetitions.2.2.2 "classic" Classic.style rfl setting apart distinct,
    (suppression_drops_only_repetitions.2.1 repeating).1, rfl⟩

end DocPreview
