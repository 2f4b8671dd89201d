import DocPreview.Proofs.Comment.Subtree
import DocPreview.Proofs.Page.Surfacing

/-!
# Trees without a recognized element

Where nothing in a tree has a meaning, the policy alone decides what it shows, whatever the style
and the declaration are. The policy that keeps tags makes a mirror of the tree, and the writer for
markup then gives the text that the writer for XML gives for the tree.
-/

set_option autoImplicit false

namespace DocPreview

namespace Node

/-- Whether a node is an element with a meaning of its own: a failure or a recognized tag. -/
def isInterpreted (options : OptionSet) : Node → Bool
  | .text _ => false
  | .element name _ _ => name == errorTag || options.isRecognized name

/-- No element in the trees has a meaning of its own. -/
def Uninterpreted (options : OptionSet) (nodes : List Node) : Prop :=
  ∀ node ∈ subtrees nodes, node.isInterpreted options = false

def text? : Node → Option String
  | .text content => some content
  | .element _ _ _ => none

def texts (nodes : List Node) : List String :=
  (subtrees nodes).filterMap text?

mutual

/-- The tree as markup, with every name, attribute and text where it was. -/
def mirror : Node → Html
  | .text content => .text content
  | .element name attributes children =>
    .element name attributes (mirrors children) children.isEmpty

def mirrors : List Node → List Html
  | [] => []
  | node :: nodes => mirror node :: mirrors nodes

end

namespace Uninterpreted

variable {options : OptionSet}

theorem cons_iff {node : Node} {nodes : List Node} :
    Uninterpreted options (node :: nodes) ↔
      Uninterpreted options [node] ∧ Uninterpreted options nodes := by
  simp only [Uninterpreted, subtrees_cons, subtrees_nil, List.append_nil, List.forall_mem_append]

theorem element_iff {name : String} {attributes : List (String × String)}
    {children : List Node} :
    Uninterpreted options [.element name attributes children] ↔
      (name ≠ errorTag ∧ options.isRecognized name = false) ∧ Uninterpreted options children := by
  simp [Uninterpreted, subtrees_cons, subtree, isInterpreted]

end Uninterpreted

@[simp] theorem texts_nil : texts [] = [] := by
  simp [texts]

theorem texts_cons (node : Node) (nodes : List Node) :
    texts (node :: nodes) = texts [node] ++ texts nodes := by
  simp [texts, subtrees_cons]

@[simp] theorem texts_text (content : String) : texts [.text content] = [content] := by
  simp [texts, subtrees_cons, subtree, text?]

@[simp] theorem texts_element (name : String) (attributes : List (String × String))
    (children : List Node) : texts [.element name attributes children] = texts children := by
  simp [texts, subtrees_cons, subtree, List.filterMap_cons, text?]

end Node

open Node (Uninterpreted texts mirror mirrors)

/-! ## What a policy shows -/

namespace Style

variable {style : Style} {setting : Setting}

theorem markup_eq_unrecognized {tag : Tag}
    (plain : tag.name ≠ errorTag ∧ setting.options.isRecognized tag.name = false) :
    style.markup setting tag = unrecognized setting.options.tagPolicy tag := by
  simp [markup, plain]

theorem apply_eq_unrecognized {element : Element}
    (plain : element.name ≠ errorTag ∧ setting.options.isRecognized element.name = false) :
    style.apply setting element = unrecognized setting.options.tagPolicy
      ⟨element.name, element.attributes, style.readAll setting element.children⟩ := by
  simp only [apply, Element.node, read, Reading.markup]
  exact markup_eq_unrecognized plain

theorem unrecognized_render {tag : Tag} {shown : List Html}
    (contents : tag.contents = pure shown) :
    unrecognized .render tag =
      pure [.element tag.name tag.attributes shown tag.children.isEmpty] := by
  obtain ⟨name, attributes, children⟩ := tag
  cases children with
  | nil =>
      obtain rfl : [] = shown := congrArg Rendered.value contents
      rfl
  | cons child children =>
      simp only [unrecognized, contents]
      rfl

/-- The markup of the first node, then that of the others. -/
theorem contents_readAll_cons {node : Node} {nodes : List Node} {first rest : List Html}
    (shown : (style.read setting node).markup = pure first)
    (others : Reading.contents (style.readAll setting nodes) = pure rest) :
    Reading.contents (style.readAll setting (node :: nodes)) = pure (first ++ rest) := by
  simp only [Reading.contents] at others ⊢
  simp only [readAll, List.map_cons, Rendered.concat, shown, others]
  rfl

mutual

theorem markup_read_of_strip (policy : setting.options.tagPolicy = .strip) :
    ∀ node, Uninterpreted setting.options [node] →
      (style.read setting node).markup = pure ((texts [node]).map .text)
  | .text content, _ => by
      rw [Node.texts_text, read]
      rfl
  | .element name attributes children, plain => by
      obtain ⟨here, below⟩ := Uninterpreted.element_iff.mp plain
      rw [read, Reading.markup, markup_eq_unrecognized here, policy, Node.texts_element]
      exact contents_readAll_of_strip policy children below

theorem contents_readAll_of_strip (policy : setting.options.tagPolicy = .strip) :
    ∀ nodes, Uninterpreted setting.options nodes →
      Reading.contents (style.readAll setting nodes) = pure ((texts nodes).map .text)
  | [], _ => by
      rw [readAll, Node.texts_nil]
      rfl
  | node :: nodes, plain => by
      obtain ⟨first, rest⟩ := Uninterpreted.cons_iff.mp plain
      rw [Node.texts_cons, List.map_append]
      exact contents_readAll_cons (markup_read_of_strip policy node first)
        (contents_readAll_of_strip policy nodes rest)

end

mutual

theorem markup_read_of_render (policy : setting.options.tagPolicy = .render) :
    ∀ node, Uninterpreted setting.options [node] →
      (style.read setting node).markup = pure [mirror node]
  | .text content, _ => by
      rw [mirror, read]
      rfl
  | .element name attributes children, plain => by
      obtain ⟨here, below⟩ := Uninterpreted.element_iff.mp plain
      have contents : Tag.contents ⟨name, attributes, style.readAll setting children⟩ =
          pure (mirrors children) := contents_readAll_of_render policy children below
      rw [read, Reading.markup, markup_eq_unrecognized here, policy, unrecognized_render contents,
        mirror, readAll_eq_map, List.isEmpty_map]

theorem contents_readAll_of_render (policy : setting.options.tagPolicy = .render) :
    ∀ nodes, Uninterpreted setting.options nodes →
      Reading.contents (style.readAll setting nodes) = pure (mirrors nodes)
  | [], _ => by
      rw [readAll, mirrors]
      rfl
  | node :: nodes, plain => by
      obtain ⟨first, rest⟩ := Uninterpreted.cons_iff.mp plain
      rw [mirrors]
      exact contents_readAll_cons (markup_read_of_render policy node first)
        (contents_readAll_of_render policy nodes rest)

end

end Style

/-! ## Both writers -/

theorem Html.escapeChar_eq_escapeQuoted (char : Char) :
    Html.escapeChar char = Node.escapeQuoted char := by
  unfold Html.escapeChar
  split
  case h_5 => simp only [Node.escapeQuoted, Node.escapeChar]
  all_goals rfl

/-- Outside of attribute values the writers differ in the quote alone. -/
theorem Html.escape_eq_of_unquoted {content : String} (unquoted : '"' ∉ content.toList) :
    Html.escape content = String.ofList (content.toList.flatMap Node.escapeChar) := by
  refine congrArg String.ofList (List.flatMap_congr fun char member => ?_)
  have noQuote : char ≠ '"' := fun quote => unquoted (quote ▸ member)
  simp only [Html.escapeChar_eq_escapeQuoted, Node.escapeQuoted]

theorem Html.attributesText_eq_attributesXml (attributes : List (String × String)) :
    Html.attributesText attributes = Node.attributesXml attributes := by
  have same : Html.escapeChar = Node.escapeQuoted := funext Html.escapeChar_eq_escapeQuoted
  simp only [Html.attributesText, Html.escape, same]
  rfl

namespace Node

mutual

theorem write_mirror :
    ∀ node, (∀ text ∈ texts [node], '"' ∉ text.toList) → Html.write (mirror node) = node.toXml
  | .text content, unquoted => by
      rw [mirror, Html.write, toXml]
      exact Html.escape_eq_of_unquoted (unquoted content (by simp))
  | .element name attributes [], _ => by
      simp [mirror, mirrors, Html.write, toXml, Html.attributesText_eq_attributesXml]
  | .element name attributes (child :: children), unquoted => by
      rw [texts_element] at unquoted
      have inside := writeAll_mirrors (child :: children) unquoted
      simp only [mirror, Html.write, toXml, inside, toXmlAll,
        Html.attributesText_eq_attributesXml, List.isEmpty_cons, Bool.false_and,
        Bool.false_eq_true, ↓reduceIte, String.append_assoc]

theorem writeAll_mirrors :
    ∀ nodes, (∀ text ∈ texts nodes, '"' ∉ text.toList) →
      Html.writeAll (mirrors nodes) = toXmlAll nodes
  | [], _ => by
      rw [mirrors, Html.writeAll, toXmlAll]
  | node :: nodes, unquoted => by
      rw [texts_cons, List.forall_mem_append] at unquoted
      rw [mirrors, Html.writeAll, toXmlAll, write_mirror node unquoted.1,
        writeAll_mirrors nodes unquoted.2]

end

/-- Only the writer for markup escapes a quote in a text. -/
example : Html.write (mirror (.text "\"")) ≠ toXml (.text "\"") := by
  decide

end Node

/-! ## The four policies -/

/-- What an element shows under a policy if nothing in it has a meaning of its own. -/
def TagPolicy.shown (policy : TagPolicy) (element : Element) : List Html :=
  match policy with
  | .hide => []
  | .strip => (texts [element.node]).map .text
  | .highlight => [.classed "span" "unrecognized" [.text element.toXml]]
  | .render => [mirror element.node]

/-- The policy decides what a tree without a recognized element shows, and no style, declaration or
signature has a part in it. A mirror of the tree is written as the tree is. -/
theorem Style.apply_uninterpreted (style : Style) (setting : Setting) {element : Element}
    (plain : Uninterpreted setting.options [element.node]) :
    style.apply setting element = pure (setting.options.tagPolicy.shown element) ∧
      (setting.options.tagPolicy = .render →
        (∀ text ∈ texts [element.node], '"' ∉ text.toList) →
        Html.writeAll (style.apply setting element).value = element.toXml) := by
  have here := (Uninterpreted.element_iff.mp plain).1
  have applied : style.apply setting element =
      pure (setting.options.tagPolicy.shown element) := by
    cases policy : setting.options.tagPolicy with
    | hide =>
        rw [apply_eq_unrecognized here, policy]
        rfl
    | strip => exact markup_read_of_strip policy element.node plain
    | highlight =>
        rw [apply_eq_unrecognized here, policy, unrecognized, Tag.element, nodes_readAll]
        rfl
    | render => exact markup_read_of_render policy element.node plain
  refine ⟨applied, fun policy unquoted => ?_⟩
  rw [applied, policy, Rendered.value_pure, TagPolicy.shown, Html.writeAll, Html.writeAll,
    Node.write_mirror element.node unquoted, String.append_empty]
  rfl

theorem Style.apply_uninterpreted_hostile_table :
    let table : Element :=
      ⟨"table", [("title", "\"<&>")],
        [.text "a < b & c", .element "row" [] [], .element "cell" [("key", "")] [.text ""]]⟩
    let setting (policy : TagPolicy) : Setting := ⟨{ tagPolicy := policy }, {}, .csharp, {}⟩
    Uninterpreted {} [table.node] ∧
      Classic.style.apply (setting .strip) table = pure [.text "a < b & c", .text ""] ∧
      (∀ text ∈ texts [table.node], '"' ∉ text.toList) ∧
      Html.writeAll (Reference.style.apply (setting .render) table).value =
        "<table title=\"&quot;&lt;&amp;&gt;\">a &lt; b &amp; c" ++
          "<row/><cell key=\"\"></cell></table>" := by
  intro table setting
  have plain : Uninterpreted {} [table.node] := by
    unfold Uninterpreted
    decide
  have unquoted : ∀ text ∈ texts [table.node], '"' ∉ text.toList := by decide
  refine ⟨plain, (apply_uninterpreted Classic.style (setting .strip) plain).1, unquoted, ?_⟩
  rw [(apply_uninterpreted Reference.style (setting .render) plain).2 rfl unquoted]
  decide

end DocPreview
