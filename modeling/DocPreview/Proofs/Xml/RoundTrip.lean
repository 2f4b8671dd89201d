import DocPreview.Proofs.Xml.Made
import DocPreview.Proofs.Xml.Resolution

/-!
# Writing and reading trees

A tree without prefixes is read back with the attributes of each element in order. A tree that was
read is read back as it is, with two exceptions: the prefix `xml` is never declared, so a document
element may not carry it, and the attributes that carry it must not meet others of the namespace
that it has in every document.
-/

set_option autoImplicit false

namespace DocPreview

open Xml (isLocalName)

namespace Node

mutual

/-- Names have no prefix, and the attributes of an element differ and declare nothing. -/
def IsPlain : Node → Prop
  | .text _ => True
  | .element name attributes children =>
    isLocalName name ∧ (attributes.map Prod.fst).Nodup ∧
      (∀ attr ∈ attributes, isLocalName attr.1 ∧ attr.1 ≠ "xmlns") ∧ AllPlain children

def AllPlain : List Node → Prop
  | [] => True
  | node :: nodes => IsPlain node ∧ AllPlain nodes

end

def inOrder (attributes : List (String × String)) : List (String × String) :=
  attributes.mergeSort fun left right => left.1 ≤ right.1

theorem mem_inOrder {attr : String × String} {attributes : List (String × String)} :
    attr ∈ inOrder attributes ↔ attr ∈ attributes :=
  (List.mergeSort_perm _ _).mem_iff

theorem nodup_inOrder {attributes : List (String × String)}
    (distinct : (attributes.map Prod.fst).Nodup) :
    ((inOrder attributes).map Prod.fst).Nodup :=
  ((List.mergeSort_perm _ _).map Prod.fst).nodup_iff.mpr distinct

mutual

def ordered : Node → Node
  | .text content => .text content
  | .element name attributes children => .element name (inOrder attributes) (allOrdered children)

def allOrdered : List Node → List Node
  | [] => []
  | node :: nodes => ordered node :: allOrdered nodes

end

end Node

namespace Xml

/-! ## Trees without prefixes -/

def QName.unprefixed (attr : String × String) : QName × String :=
  (⟨none, attr.1⟩, attr.2)

section

variable (around : Surroundings) (name : String) {attributes : List (String × String)}

theorem byName_unprefixed (attributes : List (String × String)) :
    byName Prod.fst (attributes.map QName.unprefixed) =
      (Node.inOrder attributes).map QName.unprefixed :=
  Eq.symm <| List.map_mergeSort
    (s := fun left right : QName × String => left.1.precedes right.1) fun _ _ _ _ => rfl

theorem ofKind_isPlain_unprefixed (differ : ∀ attr ∈ attributes, attr.1 ≠ "xmlns") :
    ofKind QName.isPlain (attributes.map QName.unprefixed) =
      (Node.inOrder attributes).map QName.unprefixed := by
  rw [ofKind, byName_unprefixed, List.filter_eq_self]
  refine List.forall_mem_map.mpr fun attr member => ?_
  have other := differ attr (Node.mem_inOrder.mp member)
  simp [QName.unprefixed, QName.isPlain, QName.isBinding, QName.isDefault, other]

theorem ofKind_isBinding_unprefixed (attributes : List (String × String)) :
    ofKind QName.isBinding (attributes.map QName.unprefixed) = [] := by
  rw [ofKind, byName_unprefixed, List.filter_eq_nil_iff]
  exact List.forall_mem_map.mpr fun attr _ => by simp [QName.unprefixed, QName.isBinding]

theorem ofKind_isDefault_unprefixed (differ : ∀ attr ∈ attributes, attr.1 ≠ "xmlns") :
    ofKind QName.isDefault (attributes.map QName.unprefixed) = [] := by
  rw [ofKind, byName_unprefixed, List.filter_eq_nil_iff]
  refine List.forall_mem_map.mpr fun attr member => ?_
  have other := differ attr (Node.mem_inOrder.mp member)
  simp [QName.unprefixed, QName.isDefault, other]

theorem declares_unprefixed (distinct : (attributes.map Prod.fst).Nodup)
    (differ : ∀ attr ∈ attributes, attr.1 ≠ "xmlns") :
    Declares around ⟨none, name⟩ (attributes.map QName.unprefixed) none where
  plain := by
    rw [ofKind_isPlain_unprefixed differ, List.map_map]
    have names := (Node.nodup_inOrder distinct).map (QName.mk_injective none)
    rwa [List.map_map] at names
  bindings := by simp [ofKind_isBinding_unprefixed]
  default := by simp [ofKind_isDefault_unprefixed differ]
  nonempty := by simp [ofKind_isBinding_unprefixed]
  named := by simp [QName.Bound]
  bound := by
    rw [ofKind_isPlain_unprefixed differ]
    exact List.forall_mem_map.mpr fun attr _ => by simp [QName.unprefixed, QName.Bound]

/-- A tag without prefixes is written with its attributes in order. -/
theorem writtenAttributes_unprefixed (distinct : (attributes.map Prod.fst).Nodup)
    (differ : ∀ attr ∈ attributes, attr.1 ≠ "xmlns") :
    (StartTag.of around ⟨none, name⟩ (attributes.map QName.unprefixed) none).writtenAttributes =
      Node.inOrder attributes := by
  let tag := StartTag.of around ⟨none, name⟩ (attributes.map QName.unprefixed) none
  have default : tag.ownDefault = none := StartTag.made_ownDefault ..
  have bindings : tag.shownBindings = [] := by
    refine List.eq_nil_iff_forall_not_mem.mpr ?_
    rintro ⟨space, uri⟩ shown
    obtain ⟨binds, other, -⟩ := StartTag.mem_shownBindings.mp shown
    have declared := (Surroundings.mem_bindingsOf other).mp binds
    rw [bindingsIn, ofKind_isBinding_unprefixed] at declared
    cases declared
  have apart : ((Node.inOrder attributes).map fun attr =>
      XmlAttribute.of (around.levelsOf (attributes.map QName.unprefixed))
        (QName.unprefixed attr)).Pairwise XmlAttribute.Apart := by
    refine List.pairwise_map.mpr ((List.pairwise_map.mp (Node.nodup_inOrder distinct)).imp ?_)
    exact fun differ => .inl differ
  have kept : tag.attributes = (Node.inOrder attributes).map fun attr =>
      .of (around.levelsOf (attributes.map QName.unprefixed)) (QName.unprefixed attr) := by
    change ((ofKind QName.isPlain _).map _).foldl addAttribute [] = _
    rw [ofKind_isPlain_unprefixed differ, List.map_map]
    exact foldl_addAttribute_nil apart
  change tag.writtenAttributes = _
  rw [StartTag.writtenAttributes, StartTag.bindingAttributes_eq, default, bindings, kept,
    List.map_map]
  exact List.map_id _

end

theorem resolves_unprefixed (around : Surroundings) {name : String}
    {attributes : List (String × String)} (named : isLocalName name)
    (distinct : (attributes.map Prod.fst).Nodup)
    (fit : ∀ attr ∈ attributes, isLocalName attr.1 ∧ attr.1 ≠ "xmlns") :
    Resolves around name attributes
      (.of around ⟨none, name⟩ (attributes.map QName.unprefixed) none) := by
  have allNamed : ∀ attr ∈ attributes.map QName.unprefixed, attr.1.WellFormed :=
    List.forall_mem_map.mpr fun attr member => ⟨by simp [QName.unprefixed], (fit attr member).1⟩
  have wellNamed : QName.WellFormed ⟨none, name⟩ := ⟨by simp, named⟩
  have resolves := resolves_of_declares wellNamed allNamed
    (declares_unprefixed around name distinct fun attr member => (fit attr member).2)
  have spelled : (attributes.map QName.unprefixed).map (fun attr => (attr.1.text, attr.2)) =
      attributes := by
    rw [List.map_map]
    exact List.map_id attributes
  rwa [spelled] at resolves

mutual

/-- A tree without prefixes is read with the attributes of each element in order. -/
theorem readsAs_ordered (around : Surroundings) :
    ∀ {node : Node}, node.IsPlain → ReadsAs around node node.ordered
  | .text _, _ => rfl
  | .element name attributes _, ⟨named, distinct, fit, inside⟩ => by
    have differ : ∀ attr ∈ attributes, attr.1 ≠ "xmlns" := fun attr member => (fit attr member).2
    refine ⟨_, _, resolves_unprefixed around named distinct fit, readAllAs_ordered _ inside, ?_⟩
    rw [writtenAttributes_unprefixed around name distinct differ]
    rfl

theorem readAllAs_ordered (around : Surroundings) :
    ∀ {nodes : List Node}, Node.AllPlain nodes → ReadAllAs around nodes (Node.allOrdered nodes)
  | [], _ => rfl
  | _ :: _, ⟨plain, allPlain⟩ =>
    ⟨_, _, readsAs_ordered around plain, readAllAs_ordered around allPlain, rfl⟩

end

/-! ## Trees that were read -/

mutual

/-- The tags of the node, outermost first. -/
def XmlNode.tags : XmlNode → List StartTag
  | .element tag children => tag :: XmlNode.allTags children
  | .text _ => []
  | .comment _ => []
  | .instruction _ _ => []

def XmlNode.allTags : List XmlNode → List StartTag
  | [] => []
  | node :: nodes => XmlNode.tags node ++ XmlNode.allTags nodes

end

/-- The tags of the document. That of its root element comes first. -/
def Document.tags (document : Document) : List StartTag :=
  XmlNode.allTags document.nodes

instance : DecidablePred StartTag.Clashes := fun tag =>
  inferInstanceAs (Decidable (∃ reserved ∈ tag.attributes, ∃ other ∈ tag.attributes,
    reserved.name.space = some "xml" ∧ other.name.space ≠ some "xml" ∧
      reserved.name.localPart = other.name.localPart ∧ other.uri = some xmlUri))

mutual

/-- An element that was read is read again as it is. -/
theorem readsAs_toNode {around again : Surroundings} (agree : around.Agree again) :
    ∀ {tag : StartTag} {children : List XmlNode}, (XmlNode.element tag children).Made around →
      (around.isRoot → tag.name.space ≠ some "xml") →
      (∀ within ∈ (XmlNode.element tag children).tags, ¬ within.Clashes) →
      ReadsAs again (.element tag.name.text tag.writtenAttributes (XmlNode.toNodes children))
        (.element tag.name.text tag.writtenAttributes (XmlNode.toNodes children))
  | tag, children, ⟨made, inside⟩, named, clean => by
    obtain ⟨tagClean, clean⟩ := List.forall_mem_cons.mp clean
    refine ⟨tag.again again, _, made.resolves_again agree named,
      readAllAs_toNodes (made.agree_inside agree) rfl inside clean, ?_⟩
    rw [made.writtenAttributes_again agree tagClean]
    rfl

theorem readAllAs_toNodes {around again : Surroundings} (agree : around.Agree again)
    (inner : around.isRoot = false) :
    ∀ {nodes : List XmlNode}, XmlNode.AllMade around nodes →
      (∀ tag ∈ XmlNode.allTags nodes, ¬ tag.Clashes) →
      ReadAllAs again (XmlNode.toNodes nodes) (XmlNode.toNodes nodes)
  | [], _, _ => rfl
  | .element tag children :: nodes, ⟨made, allMade⟩, clean => by
    obtain ⟨elementClean, clean⟩ := List.forall_mem_append.mp clean
    exact ⟨_, _, readsAs_toNode agree made (by simp [inner]) elementClean,
      readAllAs_toNodes agree inner allMade clean, rfl⟩
  | .text _ :: _, ⟨_, allMade⟩, clean =>
    ⟨_, _, rfl, readAllAs_toNodes agree inner allMade clean, rfl⟩
  | .comment _ :: nodes, ⟨_, allMade⟩, clean =>
    show ReadAllAs again (XmlNode.toNodes nodes) (XmlNode.toNodes nodes) from
      readAllAs_toNodes agree inner allMade clean
  | .instruction _ _ :: nodes, ⟨_, allMade⟩, clean =>
    show ReadAllAs again (XmlNode.toNodes nodes) (XmlNode.toNodes nodes) from
      readAllAs_toNodes agree inner allMade clean

end

theorem mem_allTags {node : XmlNode} {nodes : List XmlNode} (member : node ∈ nodes) {tag : StartTag}
    (within : tag ∈ node.tags) : tag ∈ XmlNode.allTags nodes := by
  induction nodes with
  | nil => cases member
  | cons first nodes ih =>
      rw [XmlNode.allTags, List.mem_append]
      obtain rfl | member := List.mem_cons.mp member
      · exact .inl within
      · exact .inr (ih member)

/-- The first tag is that of the first element. -/
theorem exists_first_element {nodes : List XmlNode} {root : StartTag}
    (first : (XmlNode.allTags nodes).head? = some root) :
    ∃ children, .element root children ∈ nodes ∧
      (XmlNode.toNodes nodes).findSome? Node.element? =
        some ⟨root.name.text, root.writtenAttributes, XmlNode.toNodes children⟩ := by
  induction nodes with
  | nil => cases first
  | cons node nodes ih =>
      cases node with
      | element tag children =>
          cases first
          exact ⟨children, List.mem_cons_self, rfl⟩
      | _ =>
          obtain ⟨children, member, found⟩ := ih first
          exact ⟨children, List.mem_cons_of_mem _ member, found⟩

theorem Surroundings.agree_outermost : outermost.Agree outermost where
  isRoot := rfl
  uri _ _ := rfl
  reserved inner := by cases inner

theorem readsAs_rootElement {text : String} {document : Document} {root : StartTag}
    (parsed : Document.ofText text = .ok document) (first : document.tags.head? = some root)
    (named : root.name.space ≠ some "xml") (clean : ∀ tag ∈ document.tags, ¬ tag.Clashes) :
    ReadsAs .outermost document.rootElement.node document.rootElement.node := by
  obtain ⟨children, member, found⟩ := exists_first_element first
  have read : Document.read text.toList = .ok document := by
    unfold Document.ofText at parsed
    split at parsed
    · next same => rw [same, Except.ok.inj parsed]
    · cases parsed
  have made := XmlNode.allMade_iff.mp (Document.made_of_read read) _ member
  rw [Document.rootElement, found]
  exact readsAs_toNode Surroundings.agree_outermost made (fun _ => named)
    fun tag within => clean tag (mem_allTags member within)

/-- A tree without prefixes is read back with its attributes in order, and a tree that was read is
read back as it is, unless the prefix `xml` stands in its root or meets another of its namespace.
Either way neighbouring texts are merged and empty ones dropped. -/
theorem ofXml_toXml_settled :
    (∀ element : Element, element.node.IsPlain →
      ∃ again, Element.ofXml element.toXml = .ok again ∧
        Node.settled [again.node] = Node.settled [element.node.ordered]) ∧
    ∀ (text : String) (document : Document) (root : StartTag),
      Document.ofText text = .ok document → document.tags.head? = some root →
      root.name.space ≠ some "xml" → (∀ tag ∈ document.tags, ¬ tag.Clashes) →
      Element.ofXml text = .ok document.rootElement ∧
        ∃ again, Element.ofXml document.rootElement.toXml = .ok again ∧
          Node.settled [again.node] = Node.settled [document.rootElement.node] := by
  refine ⟨fun element plain => ofXml_toXml (readsAs_ordered _ plain), ?_⟩
  intro text document root parsed first named clean
  refine ⟨?_, ofXml_toXml (readsAs_rootElement parsed first named clean)⟩
  rw [Element.ofXml, parsed]
  rfl

theorem ofXml_toXml_settled_redeclared_prefix :
    (∃ again, Element.ofXml (Element.toXml ⟨"a", [("c", "<\""), ("b", "1")],
        [.text "x", .text "", .element "d" [] [], .text "&y"]⟩) = .ok again ∧
      Node.settled [again.node] = Node.settled [Node.ordered (.element "a"
        [("c", "<\""), ("b", "1")] [.text "x", .text "", .element "d" [] [], .text "&y"])]) ∧
    ∃ document root,
      Document.ofText ("<p:a xmlns:p=\"v\"><p:b xmlns:p=\"w\">" ++
        "<c xmlns=\"u\" >x<![CDATA[<]]><p:d p:k='&lt;'/></c></p:b></p:a>") = .ok document ∧
      document.tags.head? = some root ∧ root.name.space ≠ some "xml" ∧
      (∀ tag ∈ document.tags, ¬ tag.Clashes) ∧
      ∃ again, Element.ofXml document.rootElement.toXml = .ok again ∧
        Node.settled [again.node] = Node.settled [document.rootElement.node] := by
  refine ⟨ofXml_toXml_settled.1 ⟨"a", _, _⟩ ?_, ?_⟩
  · simp [Element.node, Node.IsPlain, Node.AllPlain]
    decide
  · have fits : ((Document.ofText ("<p:a xmlns:p=\"v\"><p:b xmlns:p=\"w\">" ++
        "<c xmlns=\"u\" >x<![CDATA[<]]><p:d p:k='&lt;'/></c></p:b></p:a>")).toOption.any
        fun document => document.tags.head?.any (fun root => root.name.space != some "xml") &&
          document.tags.all fun tag => !decide tag.Clashes) = true := by
      decide +kernel
    obtain ⟨document, found, fits⟩ := (Option.any_eq_true _ _).mp fits
    obtain ⟨rooted, clean⟩ := Bool.and_eq_true_iff.mp fits
    obtain ⟨root, first, named⟩ := (Option.any_eq_true _ _).mp rooted
    have parsed {result : Except Error Document} (some : result.toOption = some document) :
        result = .ok document := by
      cases result <;> cases some
      rfl
    have unprefixed : root.name.space ≠ some "xml" := by simpa using named
    have apart : ∀ tag ∈ document.tags, ¬ tag.Clashes := by simpa using clean
    exact ⟨document, root, parsed found, first, unprefixed, apart,
      (ofXml_toXml_settled.2 _ document root (parsed found) first unprefixed apart).2⟩

/-! ## Trees that are not read back as they are -/

/-- A root that binds a prefix to the namespace of `xml`. -/
def clashRoot : StartTag :=
  ⟨⟨none, "a"⟩, none, none, [("xml", xmlUri), ("x", xmlUri)], [], []⟩

/-- An attribute that is written without references. -/
def WrittenAttribute.simple (attr : Located QName × String) : WrittenAttribute :=
  ⟨attr.1, [.text attr.2]⟩

def attributeEvents (attributes : List (Located QName × String)) : List Event :=
  attributes.flatMap fun attr => [.openAttribute attr.1, .attributeText attr.2, .closeAttribute]

/-- The events of such a root around an element without children. -/
def clashEvents (length : Nat) (name : Located QName)
    (attributes : List (Located QName × String)) : List Event :=
  .openTag ⟨⟨none, "a"⟩, length⟩ ::
    (attributeEvents [(⟨⟨some "xmlns", "x"⟩, length - 2⟩, xmlUri)] ++ .endTag ::
      .openTag name :: (attributeEvents attributes ++ [.endEmptyTag, .closeTag ⟨⟨none, "a"⟩, 2⟩]))

theorem run_attributeEvents (attributes : List (Located QName × String))
    (elements : List OpenElement) (nodes : List XmlNode) (name : Located QName)
    (before : List WrittenAttribute) (rest : List Event) :
    Building.run ⟨elements, nodes, some (name, before)⟩ (attributeEvents attributes ++ rest) =
      Building.run ⟨elements, nodes, some (name, (attributes.map .simple).reverse ++ before)⟩
        rest := by
  induction attributes generalizing before with
  | nil => rfl
  | cons attr attributes ih =>
      rw [List.map_cons, List.reverse_cons, List.append_assoc, List.singleton_append, ← ih]
      rfl

theorem ofXml_of_clashEvents {text : String} (length : Nat) {name : Located QName}
    {attributes : List (Located QName × String)} {tag : StartTag}
    (scans : events .beginning (.ofList text.toList) = (clashEvents length name attributes, none))
    (resolves : resolveTag ⟨false, clashRoot.levels, none⟩ name (attributes.map .simple) =
      .ok tag) :
    Element.ofXml text = .ok ⟨"a", [("xmlns:x", xmlUri)],
      [.element tag.name.text tag.writtenAttributes []]⟩ := by
  have rootResolves : resolveTag ⟨true, [], none⟩ ⟨⟨none, "a"⟩, length⟩
      [.simple (⟨⟨some "xmlns", "x"⟩, length - 2⟩, xmlUri)] = .ok clashRoot :=
    resolveTag_of_sorted _ _ (List.pairwise_singleton _ _)
  have runs : Building.run {} (clashEvents length name attributes) =
      .ok { nodes := [.element clashRoot [.element tag []]] } := by
    change Building.run ⟨[], [], some (⟨⟨none, "a"⟩, length⟩, [])⟩
      (attributeEvents _ ++ _) = _
    rw [run_attributeEvents]
    simp only [Building.run, Building.step, Building.openPending, Building.surroundings,
      List.map_singleton, List.append_nil, List.reverse_reverse, rootResolves,
      bind, Except.bind, pure, Except.pure]
    change Building.run ⟨[⟨clashRoot, none, []⟩], [], some (name, [])⟩
      (attributeEvents _ ++ _) = _
    rw [run_attributeEvents]
    simp only [Building.run, Building.step, Building.openPending, Building.surroundings,
      List.append_nil, List.reverse_reverse, resolves, bind, Except.bind, pure, Except.pure]
    rfl
  have read : Document.read text.toList = .ok ⟨[.element clashRoot [.element tag []]]⟩ := by
    rw [Document.read, scans]
    exact bind_eq_ok.mpr ⟨_, runs, rfl⟩
  have root : clashRoot.writtenAttributes = [("xmlns:x", xmlUri)] := by decide +kernel
  rw [Element.ofXml, Document.ofText, read]
  change Except.ok (Document.rootElement _) = _
  rw [Document.rootElement, XmlNode.toNodes_singleton_element, root]
  rfl

/-- A root with the prefix `xml` is not read back, attributes are put in order, an empty text is
lost, and so is one of two attributes that meet. -/
theorem ofXml_toXml_exceptions :
    ((Element.ofXml "<xml:a xmlns:xml=\"http://www.w3.org/XML/1998/namespace\"/>").toOption.map
        Element.toXml = some "<xml:a/>" ∧
      (Element.ofXml "<xml:a/>").isOk = false) ∧
    (∃ again, Element.ofXml (Element.toXml ⟨"a", [("b", "1"), ("a", "2")], []⟩) = .ok again ∧
      again.attributes = [("a", "2"), ("b", "1")]) ∧
    ((Element.ofXml "<a><![CDATA[]]></a>").toOption.map
        (fun element => (element.toXml, element.children.length)) = some ("<a></a>", 1) ∧
      (Element.ofXml "<a></a>").toOption.map (·.children.length) = some 0) ∧
    Element.ofXml ("<a xmlns:x=\"http://www.w3.org/XML/1998/namespace\">" ++
        "<b x:k=\"1\" xml:k=\"2\" xmlns:xml=\"u\"/></a>") =
      .ok ⟨"a", [("xmlns:x", xmlUri)], [.element "b" [("x:k", "1"), ("xml:k", "2")] []]⟩ ∧
    Element.ofXml (Element.toXml
        ⟨"a", [("xmlns:x", xmlUri)], [.element "b" [("x:k", "1"), ("xml:k", "2")] []]⟩) =
      .ok ⟨"a", [("xmlns:x", xmlUri)], [.element "b" [("xml:k", "2")] []]⟩ := by
  refine ⟨by decide +kernel, ?_, by decide +kernel, ?_, ?_⟩
  · have plain : Node.IsPlain (.element "a" [("b", "1"), ("a", "2")] []) := by
      simp [Node.IsPlain, Node.AllPlain]
      decide
    have reads : ReadsAs .outermost (Element.node ⟨"a", [("b", "1"), ("a", "2")], []⟩) _ :=
      readsAs_ordered .outermost plain
    obtain ⟨⟨name, attributes, children⟩, read, same⟩ := ofXml_toXml reads
    change Node.settled [.element name attributes children] =
      Node.settled [.element "a" (Node.inOrder [("b", "1"), ("a", "2")]) []] at same
    rw [Node.settled_element_cons, Node.settled_element_cons] at same
    obtain ⟨_, ordered, _⟩ := Node.element.inj (List.head_eq_of_cons_eq same)
    refine ⟨_, read, ordered.trans ?_⟩
    simp [Node.inOrder, List.mergeSort]
  · let attributes : List (Located QName × String) := [(⟨⟨some "x", "k"⟩, 37⟩, "1"),
      (⟨⟨some "xml", "k"⟩, 29⟩, "2"), (⟨⟨some "xmlns", "xml"⟩, 19⟩, "u")]
    let tag : StartTag := ⟨⟨none, "b"⟩, none, none, [("xml", "u")], clashRoot.levels,
      [⟨⟨some "x", "k"⟩, some xmlUri, "1"⟩, ⟨⟨some "xml", "k"⟩, some "u", "2"⟩]⟩
    have resolves : resolveTag ⟨false, clashRoot.levels, none⟩ ⟨⟨none, "b"⟩, 39⟩
        (attributes.map .simple) = .ok tag := resolveTag_of_sorted _ _ (by decide)
    have written : tag.writtenAttributes = [("x:k", "1"), ("xml:k", "2")] := by decide +kernel
    refine (ofXml_of_clashEvents 89 (by decide +kernel) resolves).trans ?_
    rw [written]
    rfl
  · let attributes : List (Located QName × String) :=
      [(⟨⟨some "x", "k"⟩, 23⟩, "1"), (⟨⟨some "xml", "k"⟩, 15⟩, "2")]
    let tag : StartTag := ⟨⟨none, "b"⟩, none, none, [], clashRoot.levels,
      [⟨⟨some "xml", "k"⟩, some xmlUri, "2"⟩]⟩
    have resolves : resolveTag ⟨false, clashRoot.levels, none⟩ ⟨⟨none, "b"⟩, 25⟩
        (attributes.map .simple) = .ok tag := resolveTag_of_sorted _ _ (by decide)
    have written : tag.writtenAttributes = [("xml:k", "2")] := by decide +kernel
    refine (ofXml_of_clashEvents 75 (by decide +kernel) resolves).trans ?_
    rw [written]
    rfl

end Xml

end DocPreview
